import FleetAgent.Proofs.Wire.Elements
/-!
# What is left out of a bundle

A bundle is filled from four lists, each of which has its own notes (`list_of_yields_record`). It
decodes if each of them does (`succeeds_record`), and a list does if it is absent, `null` or an
array whose elements decode or may be left out. `bundle_skipsExactly` tells from the value alone
whether it decodes, what the bundle then holds, and what is noted: `SkipsExactly` has a field for
each of these.

That a list holds all elements but those with a note on themselves is counted element by element
(`countP_notes`): an element either decodes or is worth exactly one such note, and the notes on its
services are of another kind.

The value is one that a text holds: the names of its objects are sorted, and it is nested no deeper
than a text may be.
-/

namespace FleetAgent.Wire

open FleetAgent.Json (Node)
open Decoder

/-! ### Bundles -/

section Bundles

variable {kind : EntryKind} {members : List (String × Json)}

/-- The elements `w` of a list of a value that was taken are taken as they are. -/
theorem EntryKind.take_of_mem_listed
    (hv : (Json.object members).toNode.take 0 = .ok (.object members)) {w : Json}
    (hw : w ∈ kind.listed (.object members)) : w.toNode.take 0 = .ok w := by
  unfold EntryKind.listed at hw
  split at hw
  next items hget =>
    have hitems := take_of_get? hv (Nat.le_refl _) hget
    exact Json.take_toNode (take_of_mem_array hitems hw) (Nat.zero_le _)
  next => cases hw

/-- **What a bundle holds of a list**: the list is one, if it is there, all of its elements fit,
those that decode are held, and the notes on this list are those that its elements are worth. -/
theorem list_of_yields_record (hv : (Json.object members).toNode.take 0 = .ok (.object members))
    {draft : BundleDraft} {notes : List Skipped}
    (h : (record "Bundle" bundleSlots ⟨none, none, none, none⟩
      (Json.object members).toNode).Yields [] draft notes) :
    kind.IsListIfAny (.object members) ∧ (∀ w ∈ kind.listed (.object members), kind.Fits w) ∧
      (kind.filled? draft).getD [] =
        (kind.listed (.object members)).filterMap (fun w => (kind.own w).toOption) ∧
      (notes.filter fun s => s.list = kind) =
        (kind.listed (.object members)).flatMap kind.notes := by
  have hempty : kind.filled? ⟨none, none, none, none⟩ = none := by
    cases kind <;> rfl
  have hnotes := ((EntryKind.isField_filled? kind).record_noting
    (fun other ho => EntryKind.notesOnly_fill_of_mem_eraseIdx ho) hempty h).of_value hv
  -- In an object the field is the member.
  have hfield : (Json.object members).field? kind.name kind.place =
      (Json.object members).get? kind.name := rfl
  rw [hfield] at hnotes
  obtain ⟨hget, hnone, hnotes⟩ | ⟨u, as, x, y, hget, has, hsome, hx, hy⟩ := hnotes
  · have hlisted : kind.listed (.object members) = [] := by
      rw [EntryKind.listed, hget]
    rw [hlisted, hnone, hnotes]
    exact ⟨.inl hget, by simp, rfl, rfl⟩
  · obtain ⟨items, hitems, hfits, rfl, rfl⟩ :=
      (EntryKind.yields_decodeList_iff (take_of_get? hv (Nat.le_refl _) hget)).mp has
    have hlisted : kind.listed (.object members) = items := by
      obtain ⟨rfl, rfl⟩ | rfl := hitems
      · rw [EntryKind.listed, hget]
      · rw [EntryKind.listed, hget]
    have hown : (items.flatMap kind.notes).filter (fun s => s.list = kind) =
        items.flatMap kind.notes := by
      refine List.filter_eq_self.mpr fun s hs => decide_eq_true ?_
      obtain ⟨w, -, hs⟩ := List.mem_flatMap.mp hs
      exact EntryKind.list_of_mem_notes hs
    rw [hlisted, hsome, hy, List.filter_append, hx, hown]
    refine ⟨.inr ?_, hfits, rfl, rfl⟩
    obtain ⟨rfl, -⟩ | rfl := hitems
    · exact .inl hget
    · exact .inr ⟨items, hget⟩

/-- **A bundle decodes** if each of its lists is one, if it is there, and all elements fit. Members
that are no list are passed over. -/
theorem succeeds_record (hv : (Json.object members).toNode.take 0 = .ok (.object members))
    (hlists : ∀ kind : EntryKind, kind.IsListIfAny (.object members))
    (hfits : ∀ kind : EntryKind, ∀ w ∈ kind.listed (.object members), kind.Fits w) :
    (record "Bundle" bundleSlots ⟨none, none, none, none⟩
      (Json.object members).toNode).Succeeds := by
  have hsorted := Json.sorted_of_take hv
  have hlist : ∀ (kind : EntryKind) u, (Json.object members).get? kind.name = some u →
      (kind.decodeList u.toNode).Succeeds := by
    intro kind u hget x
    have hu : u = .null ∧ kind.listed (.object members) = [] ∨
        u = .array (kind.listed (.object members)) := by
      unfold EntryKind.listed
      rw [hget]
      obtain hnone | hnull | ⟨items, hitems⟩ := hlists kind
      · rw [hget] at hnone
        cases hnone
      · obtain rfl := Option.some.inj (hget.symm.trans hnull)
        exact .inl ⟨rfl, rfl⟩
      · obtain rfl := Option.some.inj (hget.symm.trans hitems)
        exact .inr rfl
    exact ⟨_, _, (EntryKind.yields_decodeList_iff (take_of_get? hv (Nat.le_refl _) hget)).mpr
      ⟨_, hu, hfits kind, rfl, rfl⟩⟩
  -- The keys are distinct, so each list is filled once.
  refine (fillMembers_succeeds ?_ hsorted.nodup_keys_toNodeMembers ?_).bind fun _ _ =>
    (succeeds_taking rfl).bind fun _ _ => succeeds_pure
  · intro slot hslot
    obtain ⟨i, hi⟩ := List.mem_iff_getElem?.mp hslot
    obtain ⟨kind, rfl, -⟩ := EntryKind.exists_of_getElem?_bundleSlots hi
    exact (EntryKind.isField_filled? kind).isSeparate hi
  · intro m hm
    rw [Json.toNodeMembers_eq_map] at hm
    obtain ⟨⟨k, u⟩, hu, rfl⟩ := List.mem_map.mp hm
    refine ⟨k, rfl, ⟨?_, fun _ d => ?_⟩, ?_⟩
    · rintro slot hslot rfl d
      obtain ⟨kind, rfl⟩ := EntryKind.exists_of_mem_bundleSlots hslot
      exact succeeds_fill_of (hlist kind u ((Json.lookup_eq_some_iff hsorted.nodup_keys).mpr hu))
    · exact (succeeds_taking (Json.pass_toNode u)).bind fun _ _ => succeeds_pure
    · intro slot hslot _
      obtain ⟨kind, rfl⟩ := EntryKind.exists_of_mem_bundleSlots hslot
      cases kind <;> rfl

/-- A bundle comes from the fields of its record: a list that was not filled is empty. -/
theorem outcome_bundle_iff {n : Node} {b : Bundle} {notes : List Skipped} :
    (bundle n).outcome = (.ok b, notes) ↔
      ∃ draft, (record "Bundle" bundleSlots ⟨none, none, none, none⟩ n).Yields [] draft notes ∧
        ∀ kind : EntryKind, kind.entries b = (kind.filled? draft).getD [] := by
  show (bundle n).Yields [] b notes ↔ _
  rw [bundle, yields_bind]
  constructor
  · rintro ⟨draft, z, hdraft, hpure⟩
    obtain ⟨rfl, rfl⟩ := yields_pure.mp hpure
    exact ⟨draft, hdraft, fun kind => by cases kind <;> rfl⟩
  · rintro ⟨draft, hdraft, hentries⟩
    refine ⟨draft, notes, hdraft, yields_pure.mpr ⟨?_, rfl⟩⟩
    rw [Bundle.mk.injEq]
    exact ⟨(hentries .application).symm, (hentries .applicationStatus).symm,
      (hentries .serviceStatus).symm, (hentries .serviceState).symm⟩

end Bundles

/-! ### What is left out -/

/-- The element `w` has a text as its identifier that no application can have. An identifier that is
no text, or is missing, is not rejected in this sense. -/
def HasRejectedId (w : Json) : Prop :=
  ∃ a s e, w.get? "application" = some a ∧ a.get? "id" = some (.text s) ∧
    Identifier.parse .application s = .error e

theorem hasRejectedId_iff {w : Json} : HasRejectedId w ↔ hasInvalidId w = true := by
  rw [hasInvalidId_iff]
  constructor
  · rintro ⟨a, s, e, happ, hid, hs⟩
    refine ⟨a, s, happ, hid, fun hvalid => ?_⟩
    obtain ⟨b, hb⟩ := Identifier.parse_isOk_iff.mpr hvalid
    rw [hs] at hb
    cases hb
  · rintro ⟨a, s, happ, hid, hs⟩
    cases hparse : Identifier.parse .application s with
    | ok b => exact absurd (Identifier.parse_isOk_iff.mp ⟨b, hparse⟩) hs
    | error e => exact ⟨a, s, e, happ, hid, hparse⟩

/-- Whether a note is on an element of the list `kind` that was left out, and not on a service. -/
def Skipped.isEntryOf (kind : EntryKind) : Skipped → Bool
  | .entry k _ _ => k = kind
  | .service _ _ => false

/-- The bundle `b` and the `notes` on it are what they should be for a value `v` that decodes. -/
structure SkipsExactly (v : Json) (b : Bundle) (notes : List Skipped) : Prop where
  /-- Each list holds the elements that decode on their own, in their order. -/
  kept : ∀ kind : EntryKind, kind.entries b =
    (kind.listed v).filterMap fun w => (kind.own w).toOption
  /-- Each configuration holds the services with a valid name, with their values. -/
  config : ∀ w ∈ EntryKind.application.listed v, ∀ e, EntryKind.application.own w = .ok e →
    e.config = validMembers (configured w)
  /-- The notes on a list are one for each element that is left out, and one for each service with
  an invalid name of an application that is not. -/
  noted : ∀ kind : EntryKind, (notes.filter fun s => s.list = kind) =
    (kind.listed v).flatMap kind.notes
  /-- An element is held or noted. -/
  counted : ∀ kind : EntryKind, (kind.entries b).length + notes.countP (·.isEntryOf kind) =
    (kind.listed v).length

theorem list_eq_of_isEntryOf {kind : EntryKind} {s : Skipped} (h : s.isEntryOf kind = true) :
    s.list = kind := by
  cases s with
  | entry k e w => exact of_decide_eq_true h
  | service name e => cases h

/-- The element `w` is worth a note on itself exactly if it does not decode. -/
theorem countP_notes (kind : EntryKind) (w : Json) :
    (kind.own w).toOption.toList.length + (kind.notes w).countP (·.isEntryOf kind) = 1 := by
  unfold EntryKind.notes
  cases kind.own w with
  | error e =>
    have hentry : (Skipped.entry kind e w).isEntryOf kind = true := decide_eq_true rfl
    simp [Except.toOption, hentry]
  | ok e =>
    have hnone : (kind.keptNotes w).countP (·.isEntryOf kind) = 0 := by
      refine List.countP_eq_zero.mpr fun s hs => ?_
      cases kind with
      | application =>
        obtain ⟨name, e, rfl⟩ := exists_of_mem_invalidMembers hs
        exact Bool.false_ne_true
      | applicationStatus | serviceStatus | serviceState => cases hs
    rw [hnone]
    rfl

/-- Those of the elements `ws` that decode, and the notes on those that do not, are as many as
`ws`. -/
theorem length_add_countP (kind : EntryKind) (ws : List Json) :
    (ws.filterMap fun w => (kind.own w).toOption).length +
      (ws.flatMap kind.notes).countP (·.isEntryOf kind) = ws.length := by
  induction ws with
  | nil => rfl
  | cons w ws ih =>
    have hw := countP_notes kind w
    have hheld : ((w :: ws).filterMap fun w => (kind.own w).toOption).length =
        (kind.own w).toOption.toList.length +
          (ws.filterMap fun w => (kind.own w).toOption).length := by
      rw [List.filterMap_cons]
      cases (kind.own w).toOption with
      | none => exact (Nat.zero_add _).symm
      | some e => exact Nat.add_comm _ 1
    rw [hheld, List.flatMap_cons, List.countP_append, List.length_cons]
    omega

/-- **What is left out of a bundle is exact.** An object that a text holds decodes as a bundle if
and only if each of the four lists is absent, `null` or an array, and every element of the
applications decodes on its own or has a text as its identifier that is rejected; whatever stands in
the lists of observations does not matter. Then the bundle holds what decodes and nothing else, and
there is a note for each thing that was left out and no other. -/
theorem bundle_skipsExactly {members : List (String × Json)}
    (hv : ∃ n : Node, n.take 0 = .ok (.object members)) :
    ((∃ b notes, (bundle (Json.object members).toNode).outcome = (.ok b, notes)) ↔
      (∀ kind : EntryKind, kind.IsListIfAny (.object members)) ∧
        ∀ w ∈ EntryKind.application.listed (.object members),
          (∃ e, EntryKind.application.own w = .ok e) ∨ HasRejectedId w) ∧
      ∀ b notes, (bundle (Json.object members).toNode).outcome = (.ok b, notes) →
        SkipsExactly (.object members) b notes := by
  obtain ⟨n, hn⟩ := hv
  have htake : (Json.object members).toNode.take 0 = .ok (.object members) :=
    Json.take_toNode hn (Nat.le_refl _)
  have hfits : ∀ w, EntryKind.application.Fits w ↔
      (∃ e, EntryKind.application.own w = .ok e) ∨ HasRejectedId w := by
    intro w
    rw [hasRejectedId_iff]
    rfl
  -- Whether it decodes, and then what it holds.
  constructor
  · constructor
    · rintro ⟨b, notes, hb⟩
      obtain ⟨draft, hdraft, -⟩ := outcome_bundle_iff.mp hb
      refine ⟨fun kind => (list_of_yields_record htake hdraft).1, fun w hw => (hfits w).mp ?_⟩
      exact (list_of_yields_record htake hdraft).2.1 w hw
    · rintro ⟨hlists, happlications⟩
      have hall : ∀ kind : EntryKind, ∀ w ∈ kind.listed (.object members), kind.Fits w := by
        intro kind w hw
        cases kind with
        | application => exact (hfits w).mpr (happlications w hw)
        | applicationStatus | serviceStatus | serviceState => exact .inr rfl
      obtain ⟨draft, notes, hdraft⟩ := succeeds_record htake hlists hall []
      refine ⟨⟨draft.applications.getD [], draft.applicationStatuses.getD [],
        draft.serviceStatuses.getD [], draft.serviceStates.getD []⟩, notes, ?_⟩
      exact outcome_bundle_iff.mpr ⟨draft, hdraft, fun kind => by cases kind <;> rfl⟩
  · intro b notes hb
    obtain ⟨draft, hdraft, hentries⟩ := outcome_bundle_iff.mp hb
    have hkept : ∀ kind : EntryKind, kind.entries b =
        (kind.listed (.object members)).filterMap fun w => (kind.own w).toOption :=
      fun kind => (hentries kind).trans (list_of_yields_record htake hdraft).2.2.1
    have hnoted : ∀ kind : EntryKind, (notes.filter fun s => s.list = kind) =
        (kind.listed (.object members)).flatMap kind.notes :=
      fun kind => (list_of_yields_record htake hdraft).2.2.2
    refine ⟨hkept, ?_, hnoted, ?_⟩
    · intro w hw e he
      have hyields : (applicationEntry 0 w.toNode).Yields [] e _ :=
        (EntryKind.notesOnly_decoder w.toNode).yields_iff.mpr ⟨he, rfl⟩
      exact (yields_applicationEntry (EntryKind.take_of_mem_listed htake hw) hyields).1
    · intro kind
      -- The notes on elements of a list are among the notes on that list, which are known.
      have hcount : notes.countP (·.isEntryOf kind) =
          (notes.filter fun s => s.list = kind).countP (·.isEntryOf kind) := by
        rw [List.countP_filter]
        refine List.countP_congr fun s _ => ?_
        rw [Bool.and_eq_true, decide_eq_true_iff]
        exact (and_iff_left_of_imp list_eq_of_isEntryOf).symm
      rw [hcount, hnoted, hkept]
      exact length_add_countP kind _

/-- A bundle with something to leave out in each of its lists, and a service in a configuration. -/
def mixedMembers : List (String × Json) :=
  [("applicationStatuses", .array [
      .object [("applicationId", .text "app 1")],
      .object [("applicationId", .text "app2"), ("currentReleaseId", .text "r1")]]),
    ("applications", .array [
      .object [("application", .object [("id", .text "app 1")])],
      .object [("application", .object [("id", .text "app2")]),
        ("latestRelease", .object [
          ("config", .object [("bad%name", .object []), ("web", .object [])])])]]),
    ("serviceStates", .array [
      .object [("applicationId", .text "app2"), ("service", .text "bad name"),
        ("state", .text "running")],
      .object [("applicationId", .text "app2"), ("service", .text "web"),
        ("state", .text "running")]]),
    ("serviceStatuses", .array [
      .object [("applicationId", .text "app2"), ("service", .text "a/b")]])]

/-- Each list is left with what decodes. Four elements and a service are noted. -/
theorem bundle_skipsExactly_mixed :
    ∃ b notes, (bundle (Json.object mixedMembers).toNode).outcome = (.ok b, notes) ∧
      SkipsExactly (.object mixedMembers) b notes ∧
      b.applications.map (fun e => (e.application.id.text, e.services.map (·.text))) =
        [("app2", ["web"])] ∧
      (b.applicationStatuses.length, b.serviceStatuses.length, b.serviceStates.length) =
        (1, 0, 1) ∧
      notes.length = 5 := by
  have hv : ∃ n : Node, n.take 0 = .ok (.object mixedMembers) :=
    ⟨(Json.object mixedMembers).toNode, rfl⟩
  have hheld : ((bundle (Json.object mixedMembers).toNode).outcome.1.toOption.map fun b =>
      (b.applications.map (fun e => (e.application.id.text, e.services.map (·.text))),
        b.applicationStatuses.length, b.serviceStatuses.length, b.serviceStates.length)) =
          some ([("app2", ["web"])], 1, 0, 1) ∧
      (bundle (Json.object mixedMembers).toNode).outcome.2.length = 5 := by
    decide +kernel
  rcases hb : (bundle (Json.object mixedMembers).toNode).outcome with ⟨e | b, notes⟩
  · rw [hb] at hheld
    cases hheld.1
  · rw [hb] at hheld
    obtain ⟨hentries, hnotes⟩ := hheld
    obtain ⟨happlications, hobservations⟩ := Prod.mk.inj (Option.some.inj hentries)
    exact ⟨b, notes, rfl, (bundle_skipsExactly hv).2 b notes hb, happlications, hobservations,
      hnotes⟩

end FleetAgent.Wire
