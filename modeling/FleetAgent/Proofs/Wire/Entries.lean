import FleetAgent.Proofs.Wire.Applications
import FleetAgent.Proofs.Wire.Notes
/-!
# What an element of a list is worth

An element of a list of a bundle is decoded on its own. An observation is worth no note, whether it
decodes or not. An entry of the applications that decodes is worth a note for each service of its
configuration that has an invalid name (`invalidMembers`), and holds the others as they are
configured (`validMembers`): `yields_applicationEntry`. Of its two fields only the latest release
takes notes, and of that only the configuration, so that `FieldNotes` leads from the entry to its
configuration.

An entry with an invalid identifier does not decode and is worth no note of its own
(`outcome_of_hasInvalidId`): its members are read in the order of their keys, so its configuration
is not reached. The entry was taken as a value, whose members are sorted, and `application` comes
before `latestRelease`.
-/

namespace FleetAgent

/-- The value of a field of a record: the member of that `name` of an object, or the item at that
`place` of an array. Other values have no fields. -/
def Json.field? (name : String) (place : Nat) : Json → Option Json
  | .object members => lookup name members
  | .array items => items[place]?
  | _ => none

/-- The configuration of each service of the latest release, and none if there is no release. -/
def ApplicationEntry.config (e : ApplicationEntry) : List (ServiceName × Json) :=
  match e.latestRelease with
  | none => []
  | some r => r.config

namespace Wire

open FleetAgent.Json (Node)
open Decoder

variable {p : Skipped → Prop} {depth : Nat} {x y : List Skipped}

/-! ### Sorts of notes -/

/-- The list that a note is about. Services stand in the list of applications. -/
def Skipped.list : Skipped → EntryKind
  | .entry kind _ _ => kind
  | .service _ _ => .application

theorem notesOnly_application {n : Node} : (application depth n).NotesOnly p := by
  rw [← Application.decoder_form]
  exact OpenForm.notesOnly (List.forall_mem_cons.mpr ⟨fun _ => notesOnly_identifier,
    List.forall_mem_singleton.mpr (notesOnly_optional fun _ => notesOnly_text)⟩)

/-! ### Services -/

/-- The members whose name is that of a service, with their values and in their order. -/
def validMembers (members : List (String × Json)) : List (ServiceName × Json) :=
  members.filterMap fun (name, v) => (Identifier.parse .service name).toOption.map (·, v)

/-- The notes on the members whose name is not that of a service, in their order. -/
def invalidMembers (members : List (String × Json)) : List Skipped :=
  members.filterMap fun (name, _) => match Identifier.parse .service name with
    | .ok _ => none
    | .error e => some (.service name e)

/-- Services are left out by their names alone: whatever the values are and whatever was noted
before, those with a valid name are held and the others noted. -/
theorem run_validServices (members : List (String × Json)) (x : List Skipped) :
    (validServices members).run.run x =
      (.ok (validMembers members), x ++ invalidMembers members) := by
  induction members generalizing x with
  | nil => simp [validServices, validMembers, invalidMembers]; rfl
  | cons m members ih =>
    obtain ⟨name, v⟩ := m
    rw [validServices]
    cases hname : Identifier.parse .service name with
    | ok s =>
      have hvalid : validMembers ((name, v) :: members) = (s, v) :: validMembers members := by
        simp [validMembers, hname, Except.toOption]
      have hinvalid : invalidMembers ((name, v) :: members) = invalidMembers members := by
        simp [invalidMembers, hname]
      simp only [run_bind, ih, hvalid, hinvalid]
      rfl
    | error e =>
      have hvalid : validMembers ((name, v) :: members) = validMembers members := by
        simp [validMembers, hname, Except.toOption]
      have hinvalid : invalidMembers ((name, v) :: members) =
          .service name e :: invalidMembers members := by
        simp [invalidMembers, hname]
      simp only [run_bind, hvalid, hinvalid]
      show (validServices members).run.run (x ++ [.service name e]) = _
      rw [ih, List.append_assoc]
      rfl

theorem exists_of_mem_invalidMembers {members : List (String × Json)} {s : Skipped}
    (hs : s ∈ invalidMembers members) : ∃ name e, s = .service name e := by
  obtain ⟨⟨name, v⟩, -, hnote⟩ := List.mem_filterMap.mp hs
  dsimp only at hnote
  split at hnote
  next => cases hnote
  next e _ => exact ⟨name, e, (Option.some.inj hnote).symm⟩

theorem list_of_mem_invalidMembers {members : List (String × Json)} {s : Skipped}
    (hs : s ∈ invalidMembers members) : s.list = .application := by
  obtain ⟨name, e, rfl⟩ := exists_of_mem_invalidMembers hs
  rfl

theorem notesOnly_config {n : Node} :
    (config depth n).NotesOnly fun s => s.list = .application := by
  refine notesOnly_anyMembers.bind fun members => ?_
  exact ⟨.ok (validMembers members), invalidMembers members,
    fun _ hs => list_of_mem_invalidMembers hs, run_validServices members⟩

/-- The members that a value holds as an object. What is no object, or is not there, holds none. -/
def membersOf : Option Json → List (String × Json)
  | some (.object members) => members
  | _ => []

/-- A configuration that is a value holds the services with a valid name, and is worth a note for
each of the others. It may be `null`, which configures nothing. -/
theorem yields_config {c : Json} {services : List (ServiceName × Json)}
    (htake : c.toNode.take depth = .ok c) (h : (config depth c.toNode).Yields x services y) :
    services = validMembers (membersOf (some c)) ∧
      y = x ++ invalidMembers (membersOf (some c)) := by
  obtain ⟨members, z, hmembers, h⟩ := yields_bind.mp h
  obtain rfl : z = x := notesOnly_anyMembers.quiet hmembers
  have hall : members = membersOf (some c) := by
    cases c with
    | object written => exact eq_of_yields_anyMembers htake hmembers
    | null => exact (yields_pure.mp hmembers).1.symm
    | boolean _ | number _ | text _ | array _ =>
      simp only [Json.toNode, anyMembers] at hmembers
      exact absurd hmembers not_yields_wrongType
  subst hall
  obtain ⟨hservices, hy⟩ := Prod.mk.inj ((run_validServices _ z).symm.trans h)
  exact ⟨(Except.ok.inj hservices).symm, hy.symm⟩

/-! ### Entries -/

theorem notesOnly_release {n : Node} :
    (release depth n).NotesOnly fun s => s.list = .application := by
  rw [← Release.decoder_form]
  exact OpenForm.notesOnly (List.forall_mem_cons.mpr
    ⟨notesOnly_optional fun _ => notesOnly_text,
      List.forall_mem_singleton.mpr fun _ => notesOnly_config⟩)

theorem notesOnly_applicationEntry {n : Node} :
    (applicationEntry depth n).NotesOnly fun s => s.list = .application := by
  refine (notesOnly_record ?_ _ _ n).bind fun draft =>
    notesOnly_required.bind fun _ => notesOnly_pure
  exact List.forall_mem_cons.mpr ⟨notesOnly_fill_of fun _ => notesOnly_application,
    List.forall_mem_singleton.mpr (notesOnly_fill_of (notesOnly_optional fun _ =>
      notesOnly_release))⟩

/-- Only the latest release of an entry takes notes. -/
theorem notesOnly_fill_beside_latestRelease :
    ∀ other ∈ (applicationEntrySlots depth).eraseIdx 1, ∀ s n,
      (other.fill s n).NotesOnly fun _ => true = false :=
  List.forall_mem_singleton.mpr (notesOnly_fill_of fun _ => notesOnly_application)

/-- The node of a field of a value that was taken is that of the value of the field. The names of
its members are distinct, so there is one of that `name` at most. -/
theorem hasField_toNode_iff {v : Json} {name : String} {place : Nat} {m : Node}
    (htake : v.toNode.take depth = .ok v) :
    v.toNode.HasField name place m ↔ ∃ u, v.field? name place = some u ∧ u.toNode = m := by
  cases v with
  | object members =>
    have hkeys := (Json.sorted_of_take htake).nodup_keys
    constructor
    · intro h
      cases h with
      | member h =>
        obtain ⟨u, hu, rfl⟩ := Json.mem_toNodeMembers.mp h
        exact ⟨u, (Json.lookup_eq_some_iff hkeys).mpr hu, rfl⟩
    · rintro ⟨u, hu, rfl⟩
      exact .member (Json.mem_toNodeMembers.mpr ⟨u, Json.mem_of_lookup hu, rfl⟩)
  | array items =>
    constructor
    · intro h
      cases h with
      | item h =>
        rw [Json.toNodes_eq_map, List.getElem?_map, Option.map_eq_some_iff] at h
        exact h
    · rintro ⟨u, hu, rfl⟩
      refine .item ?_
      rw [Json.toNodes_eq_map, List.getElem?_map, show items[place]? = some u from hu]
      rfl
  | null | boolean _ | number _ | text _ =>
    constructor
    · intro h
      cases h
    · rintro ⟨u, hu, -⟩
      cases hu

theorem take_of_mem_items {items : List Json}
    (h : Json.takeItems depth (Json.toNodes items) = .ok items) {w : Json} (hw : w ∈ items) :
    w.toNode.take depth = .ok w := by
  induction items with
  | nil => cases hw
  | cons u items ih =>
    obtain ⟨v, hv, vs, hvs, heq⟩ := Json.takeItems_cons_eq_ok_iff.mp h
    obtain ⟨rfl, rfl⟩ := List.cons.inj heq
    rcases List.mem_cons.mp hw with rfl | hw
    · exact hv
    · exact ih hvs hw

/-- The items of an array were taken one level further in. -/
theorem take_of_mem_array {items : List Json}
    (h : (Json.array items).toNode.take depth = .ok (.array items)) {w : Json} (hw : w ∈ items) :
    w.toNode.take (depth + 1) = .ok w := by
  obtain ⟨-, -, vs, hvs, heq⟩ := Json.take_array_eq_ok_iff.mp h
  obtain rfl := Json.array.inj heq
  exact take_of_mem_items hvs hw

/-- What stands in a field was taken one level further in. -/
theorem take_of_field? {v u : Json} {name : String} {place : Nat}
    (htake : v.toNode.take depth = .ok v) (h : v.field? name place = some u) :
    u.toNode.take (depth + 1) = .ok u := by
  cases v with
  | object members => exact take_of_get? htake (Nat.le_refl _) h
  | array items => exact take_of_mem_array htake (List.mem_of_getElem? h)
  | null | boolean _ | number _ | text _ => cases h

section FieldNotes

variable {α : Type} {sort : Skipped → Bool} {v : Json} {name : String} {place : Nat}
  {d : Node → Decoder α} {r : Option α}

/-- A field of a value is not there, or its value was decoded and its notes were taken. This is
`FieldNotes` in terms of values. -/
theorem FieldNotes.of_value (htake : v.toNode.take depth = .ok v)
    (h : FieldNotes sort name place d v.toNode x y r) :
    (v.field? name place = none ∧ r = none ∧ y.filter sort = x.filter sort) ∨
      ∃ u a x' y', v.field? name place = some u ∧ (d u.toNode).Yields x' a y' ∧ r = some a ∧
        x'.filter sort = x.filter sort ∧ y.filter sort = y'.filter sort := by
  obtain ⟨habsent, hrest⟩ | ⟨m, a, x', y', hm, hrest⟩ := h
  · refine .inl ⟨?_, hrest⟩
    cases hfield : v.field? name place with
    | none => rfl
    | some u => exact absurd ((hasField_toNode_iff htake).mpr ⟨u, hfield, rfl⟩) (habsent _)
  · obtain ⟨u, hu, rfl⟩ := (hasField_toNode_iff htake).mp hm
    exact .inr ⟨u, a, x', y', hu, hrest⟩

/-- If all notes are of the `sort`, those of the field are all of them. -/
theorem FieldNotes.all_of_value (htake : v.toNode.take depth = .ok v)
    (h : FieldNotes (fun _ => true) name place d v.toNode x y r) :
    (v.field? name place = none ∧ r = none ∧ y = x) ∨
      ∃ u a, v.field? name place = some u ∧ (d u.toNode).Yields x a y ∧ r = some a := by
  have htrue : ∀ l : List Skipped, l.filter (fun _ => true) = l := fun l =>
    List.filter_eq_self.mpr fun _ _ => rfl
  have hvalue := h.of_value htake
  simp only [htrue] at hvalue
  refine hvalue.imp_right ?_
  rintro ⟨u, a, x', y', hu, ha, hr, rfl, rfl⟩
  exact ⟨u, a, hu, ha, hr⟩

end FieldNotes

/-- **A release `r` is worth the notes of its configuration**, and holds its services with a valid
name. -/
theorem yields_release {u : Json} {r : Release} (htake : u.toNode.take depth = .ok u)
    (h : (release depth u.toNode).Yields x r y) :
    r.config = validMembers (membersOf (u.get? "config")) ∧
      y = x ++ invalidMembers (membersOf (u.get? "config")) := by
  rw [release, yields_bind] at h
  obtain ⟨draft, z, hdraft, hpure⟩ := h
  obtain ⟨rfl, rfl⟩ := yields_pure.mp hpure
  obtain ⟨members, rfl⟩ := exists_of_openRecord hdraft
  have hothers : ∀ other ∈ (releaseSlots depth).eraseIdx 1, ∀ s n,
      (other.fill s n).NotesOnly fun _ => true = false :=
    List.forall_mem_singleton.mpr (notesOnly_fill_of (notesOnly_optional fun _ => notesOnly_text))
  have hconfig : IsField (releaseSlots depth) (keep (depth + 1) (Release.form depth).add) "config" 1
      ReleaseDraft.config (config (depth + 1)) :=
    OpenForm.isField (show (Release.form depth).fields[1]? = some _ from rfl)
  have hnotes := hconfig.openRecord_noting hothers (fun _ _ _ => notesOnly_keep) rfl hdraft
  -- In an object the field is the member.
  have hfield : (Json.object members).field? "config" 1 = (Json.object members).get? "config" := rfl
  obtain ⟨hget, hnone, rfl⟩ | ⟨c, services, hget, hservices, hsome⟩ := hnotes.all_of_value htake
  · rw [← hfield, hget, hnone]
    simp [membersOf, validMembers, invalidMembers]
  · rw [← hfield, hget, hsome]
    exact yields_config (take_of_get? htake (Nat.le_refl _) hget) hservices

/-- The configuration of the latest release of the element `w`, as it is listed, with the invalid
names. -/
def configured (w : Json) : List (String × Json) :=
  membersOf ((w.field? "latestRelease" 1).bind (·.get? "config"))

/-- **An entry `e` that decodes** holds the services of its configuration that have a valid name
(`validMembers`), and is worth a note for each of the others (`invalidMembers`). -/
theorem yields_applicationEntry {w : Json} {e : ApplicationEntry}
    (htake : w.toNode.take depth = .ok w) (h : (applicationEntry depth w.toNode).Yields x e y) :
    e.config = validMembers (configured w) ∧ y = x ++ invalidMembers (configured w) := by
  rw [applicationEntry, yields_bind] at h
  obtain ⟨draft, z, hdraft, h⟩ := h
  obtain ⟨a, z', ha, hpure⟩ := yields_bind.mp h
  obtain ⟨rfl, rfl⟩ := yields_pure.mp hpure
  obtain ⟨-, rfl⟩ := yields_required.mp ha
  have hnotes := (isField_latestRelease depth).record_noting notesOnly_fill_beside_latestRelease
    rfl hdraft
  unfold configured
  obtain ⟨hfield, hnone, rfl⟩ | ⟨u, o, hu, ho, hsome⟩ := hnotes.all_of_value htake
  · simp [ApplicationEntry.config, hfield, hnone, membersOf, validMembers, invalidMembers]
  · rw [hu, Option.bind_some]
    -- A latest release that is `null` is none, and configures nothing.
    by_cases hnull : u = .null
    · subst hnull
      obtain ⟨rfl, rfl⟩ := yields_pure.mp ho
      simp [ApplicationEntry.config, hsome, membersOf, validMembers, invalidMembers, Json.get?]
    · have hne : u.toNode ≠ .null := by
        cases u <;> simp_all [Json.toNode]
      obtain ⟨r, hr, rfl⟩ := (yields_optional_of_ne_null hne).mp ho
      have hrelease := yields_release (take_of_field? htake hu) hr
      simpa [ApplicationEntry.config, hsome] using hrelease

/-! ### Entries with an invalid identifier -/

/-- An application whose identifier is no segment does not decode. -/
theorem not_canYield_application {w : Json} {s : String} (hid : w.get? "id" = some (.text s))
    (hs : ¬ ValidSegment s) (a : Application) : ¬ (application depth w.toNode).CanYield a := by
  intro h
  have htext := text_of_application h hid
  exact hs (htext ▸ a.id.valid)

/-- The element `w` has an invalid identifier if it has one that is no segment: a text `s` in the
member `id` of its application. -/
theorem hasInvalidId_iff {w : Json} :
    hasInvalidId w = true ↔ ∃ a s, w.get? "application" = some a ∧
      a.get? "id" = some (.text s) ∧ ¬ ValidSegment s := by
  unfold hasInvalidId
  cases happ : w.get? "application" with
  | none => simp
  | some a =>
    cases hid : a.get? "id" with
    | none => simp [hid]
    | some i => cases i <;> simp [hid, Json.text?]

/-- **An entry with an invalid identifier fails without a note**, even if its configuration has
services to note, since `application` comes before `latestRelease` among its members. -/
theorem outcome_of_hasInvalidId {w : Json} (htake : w.toNode.take depth = .ok w)
    (h : hasInvalidId w = true) :
    ∃ e, (applicationEntry depth w.toNode).outcome = (.error e, []) := by
  obtain ⟨a, s, happ, hid, hs⟩ := hasInvalidId_iff.mp h
  obtain ⟨members, rfl, hmem⟩ := exists_of_get? happ
  obtain ⟨front, back, rfl⟩ := List.append_of_mem hmem
  have hsorted := Json.sorted_of_take htake
  have hquiet : ∀ k, k ≠ "latestRelease" → ∀ s n,
      (fillMember (applicationEntrySlots depth) ignored s k n).NotesOnly fun _ => False := by
    intro k hk s n
    have honly := (isField_latestRelease depth).notesOnly_fillMember_of_ne
      notesOnly_fill_beside_latestRelease (fun _ _ _ => notesOnly_ignored) hk s n
    exact honly.imp fun _ h => Bool.noConfusion h
  have hfails : ∀ s x, ∃ e, (fillMember (applicationEntrySlots depth) ignored s "application"
      a.toNode).Fails x e x := by
    intro s x
    refine (hquiet "application" (by decide) s a.toNode).exists_fails ?_ x
    rintro t ⟨y, z, ht⟩
    obtain ⟨-, -, b, hb, -⟩ | ⟨hne, -⟩ := (isField_application depth).fillMember ht
    · exact not_canYield_application hid hs b hb.canYield
    · exact hne rfl
  -- The release comes behind the application, for its name does.
  have hfront : ∀ m ∈ Json.toNodeMembers front, ∀ k, m.1 = .ok k → ∀ s,
      (fillMember (applicationEntrySlots depth) ignored s k m.2).NotesOnly fun _ => False := by
    intro m hm k hk s
    refine hquiet k ?_ s m.2
    rintro rfl
    rw [Json.toNodeMembers_eq_map] at hm
    obtain ⟨⟨k, v⟩, hkv, rfl⟩ := List.mem_map.mp hm
    obtain rfl : k = "latestRelease" := Except.ok.inj hk
    have hlt : "latestRelease" < "application" :=
      (List.pairwise_append.mp hsorted).2.2 _ hkv _ List.mem_cons_self
    exact absurd hlt (by decide)
  have hnode : Json.toNodeMembers (front ++ ("application", a) :: back) =
      Json.toNodeMembers front ++ (.ok "application", a.toNode) :: Json.toNodeMembers back := by
    simp only [Json.toNodeMembers_eq_map, List.map_append, List.map_cons]
  obtain ⟨e, he⟩ : ∃ e, (fillMembers (applicationEntrySlots depth) ignored ⟨none, none⟩
      (Json.toNodeMembers (front ++ ("application", a) :: back))).Fails [] e [] := by
    rw [hnode]
    exact exists_fails_fillMembers hfront hfails _ []
  exact ⟨e, Fails.bind (Fails.bind he _) _⟩

end Wire

end FleetAgent
