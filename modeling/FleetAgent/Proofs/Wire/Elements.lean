import FleetAgent.Proofs.Wire.Entries
import FleetAgent.Proofs.Wire.Observations
/-!
# Lists that do without some of their elements

A list of a bundle is decoded element by element. An element that does not decode is left out with a
note on it, if the list may do without it (`yields_element_iff`); so of all elements those are held
that decode, and the notes come in the order of the elements (`yields_elements_iff`, by induction on
the elements).

The four lists of a bundle have this in common (`EntryKind.yields_decodeList_iff`). They differ in
what they may do without, which is `EntryKind.spare`: lists of observations in any element, and the
applications in those with an invalid identifier. An element that decodes or may be spared is said
to fit (`EntryKind.Fits`). What an element comes to is told by itself (`EntryKind.own`), and so are
the notes that it is worth (`EntryKind.notes`): one on itself if it does not decode, and otherwise
those on the services of its configuration. That an entry that fails takes no note on its services
(`EntryKind.outcome_notes`) holds because its identifier is decoded before them.
-/

namespace FleetAgent.Wire

open FleetAgent.Json (Node)
open Decoder

/-! ### Lenient lists -/

section Elements

variable {α : Type} {kind : EntryKind} {spare : Json → Bool} {d : Node → Decoder α}
  {p : Skipped → Prop} {w : Json} {vs : List Json} {as : List α} {x y : List Skipped}

/-- Decodes the element `w` by `d`, or leaves it out with a note if it may be spared. This is one
step of `elements`. -/
def element (kind : EntryKind) (spare : Json → Bool) (d : Node → Decoder α) (w : Json) :
    Decoder (Option α) :=
  tryCatch (some <$> d w.toNode) fun e => do
    if spare w then
      skip (.entry kind e w)
      return none
    else match e with
      | .mismatch m => mismatch (.element m)
      | .fault f => throw (.fault f)

/-- The notes of the element `w` are on its list, if those of its decoder `d` are. -/
theorem notesOnly_element (hd : (d w.toNode).NotesOnly fun s => s.list = kind) :
    (element kind spare d w).NotesOnly fun s => s.list = kind := by
  refine (hd.map some).tryCatch fun e => ?_
  split
  · have hskip : (skip (.entry kind e w)).NotesOnly fun s => s.list = kind := notesOnly_skip rfl
    exact hskip.bind fun _ => notesOnly_pure
  · cases e with
    | mismatch m => exact notesOnly_mismatch
    | fault f => exact notesOnly_throw

/-- The notes of the list `vs` are on it, if those of the decoder `d` are. -/
theorem notesOnly_elements (hd : ∀ n, (d n).NotesOnly fun s => s.list = kind) :
    (elements kind spare d vs).NotesOnly fun s => s.list = kind := by
  induction vs with
  | nil => exact notesOnly_pure
  | cons w vs ih => exact (notesOnly_element (hd _)).bind fun _ => ih.bind fun _ => notesOnly_pure

/-- The note on the element `w`, if it does not decode. -/
def leftOut (kind : EntryKind) (w : Json) : Except DecodeError α → List Skipped
  | .ok _ => []
  | .error e => [.entry kind e w]

/-- The element `w` gives something exactly if it decodes by `d` or may be spared. It gives what it
decodes to, if anything (`o`), and has the notes of `d`, with one behind them if it was left out
(`leftOut`). -/
theorem yields_element_iff {o : Option α} (hd : (d w.toNode).NotesOnly p) :
    (element kind spare d w).Yields x o y ↔
      ((∃ a, (d w.toNode).outcome.1 = .ok a) ∨ spare w = true) ∧
        o = (d w.toNode).outcome.1.toOption ∧
        y = x ++ ((d w.toNode).outcome.2 ++ leftOut kind w (d w.toNode).outcome.1) := by
  unfold element
  rw [yields_tryCatch, yields_map]
  cases houtcome : (d w.toNode).outcome.1 with
  | ok a =>
    have hyields : (d w.toNode).Yields x a (x ++ (d w.toNode).outcome.2) :=
      hd.yields_iff.mpr ⟨houtcome, rfl⟩
    constructor
    · rintro (⟨b, hb, rfl⟩ | ⟨e, t, he, -⟩)
      · obtain ⟨rfl, rfl⟩ := hb.unique hyields
        exact ⟨.inl ⟨b, rfl⟩, rfl, by rw [leftOut, List.append_nil]⟩
      · exact absurd he.of_map hyields.not_fails
    · rintro ⟨-, rfl, rfl⟩
      rw [leftOut, List.append_nil]
      exact .inl ⟨a, hyields, rfl⟩
  | error e =>
    -- What was noted before the failure stays, and the note on the element comes behind.
    have hfails : (d w.toNode).Fails x e (x ++ (d w.toNode).outcome.2) :=
      hd.fails_iff.mpr ⟨houtcome, rfl⟩
    have hmap : (some <$> d w.toNode).Fails x e (x ++ (d w.toNode).outcome.2) := by
      rw [map_eq_pure_bind]
      exact hfails.bind _
    constructor
    · rintro (⟨b, hb, -⟩ | ⟨e', t, he, hcaught⟩)
      · exact absurd hfails hb.not_fails
      · obtain ⟨herror, rfl⟩ := Prod.mk.inj (Eq.trans (Eq.symm he) hmap)
        obtain rfl := Except.error.inj herror
        cases hspare : spare w with
        | true =>
          rw [hspare, if_pos rfl] at hcaught
          obtain ⟨ho, rfl⟩ := Prod.mk.inj hcaught
          exact ⟨.inr rfl, (Except.ok.inj ho).symm, List.append_assoc _ _ _⟩
        | false =>
          rw [hspare, if_neg Bool.false_ne_true] at hcaught
          cases e' with
          | mismatch m => exact absurd hcaught (not_yields_mismatch _)
          | fault f => exact absurd hcaught (not_yields_throw _)
    · rintro ⟨hfits, rfl, rfl⟩
      have hspare : spare w = true := by
        obtain ⟨a, ha⟩ | hspare := hfits
        · cases ha
        · exact hspare
      refine .inr ⟨e, _, hmap, ?_⟩
      rw [hspare, if_pos rfl, leftOut, ← List.append_assoc]
      rfl

/-- A list gives what its first element `w` gives, if anything, and behind it what the others `vs`
give. -/
theorem yields_elements_cons_iff :
    (elements kind spare d (w :: vs)).Yields x as y ↔
      ∃ o z bs, (element kind spare d w).Yields x o z ∧ (elements kind spare d vs).Yields z bs y ∧
        as = o.toList ++ bs := by
  rw [elements]
  simp only [yields_bind, yields_pure]
  constructor
  · rintro ⟨o, z, ho, bs, z', hbs, rfl, rfl⟩
    refine ⟨o, z, bs, ho, hbs, ?_⟩
    cases o <;> rfl
  · rintro ⟨o, z, bs, ho, hbs, rfl⟩
    refine ⟨o, z, ho, bs, y, hbs, ?_, rfl⟩
    cases o <;> rfl

/-- **A lenient list** decodes if each element decodes or may be left out. It holds what those come
to that decode, and has the notes of all, in their order. The notes `x` that were there before stay
in front. -/
theorem yields_elements_iff (hd : ∀ w ∈ vs, (d w.toNode).NotesOnly p) :
    (elements kind spare d vs).Yields x as y ↔
      (∀ w ∈ vs, (∃ a, (d w.toNode).outcome.1 = .ok a) ∨ spare w = true) ∧
        as = vs.filterMap (fun w => (d w.toNode).outcome.1.toOption) ∧
        y = x ++ vs.flatMap fun w =>
          (d w.toNode).outcome.2 ++ leftOut kind w (d w.toNode).outcome.1 := by
  induction vs generalizing x as with
  | nil =>
    rw [elements, yields_pure, List.filterMap_nil, List.flatMap_nil, List.append_nil,
      eq_comm (a := as), eq_comm (a := y)]
    simp
  | cons w vs ih =>
    obtain ⟨hw, hvs⟩ := List.forall_mem_cons.mp hd
    rw [yields_elements_cons_iff, List.forall_mem_cons, List.flatMap_cons, ← List.append_assoc x]
    -- The notes of the first element are those that the others start from.
    constructor
    · rintro ⟨o, z, bs, ho, hbs, rfl⟩
      obtain ⟨hfits, rfl, rfl⟩ := (yields_element_iff hw).mp ho
      obtain ⟨hall, rfl, rfl⟩ := (ih hvs).mp hbs
      refine ⟨⟨hfits, hall⟩, ?_, rfl⟩
      rw [List.filterMap_cons]
      cases (d w.toNode).outcome.1 <;> rfl
    · rintro ⟨⟨hfits, hall⟩, rfl, rfl⟩
      refine ⟨_, _, _, (yields_element_iff hw).mpr ⟨hfits, rfl, rfl⟩,
        (ih hvs).mpr ⟨hall, rfl, rfl⟩, ?_⟩
      rw [List.filterMap_cons]
      cases (d w.toNode).outcome.1 <;> rfl

end Elements

/-! ### The four lists -/

/-- The elements `vs` of a value that was taken: its items, if it is an array, and none, if it is
`null`. Anything else is no list. -/
theorem yields_values_toNode_iff {u : Json} {vs : List Json} {depth : Nat} {x y : List Skipped}
    (htake : u.toNode.take depth = .ok u) :
    (values depth u.toNode).Yields x vs y ↔
      (u = .null ∧ vs = [] ∨ u = .array vs) ∧ y = x := by
  cases u with
  | null =>
    rw [show values depth Json.null.toNode = pure [] from rfl, yields_pure]
    simp [eq_comm]
  | array items =>
    obtain ⟨-, -, ws, hws, heq⟩ := Json.take_array_eq_ok_iff.mp htake
    obtain rfl := Json.array.inj heq
    simp only [Json.toNode, values, yields_bind, yields_taking, yields_pure, hws]
    constructor
    · rintro ⟨us, -, ⟨hus, rfl⟩, _, -, ⟨-, rfl⟩, rfl, rfl⟩
      exact ⟨.inr (congrArg _ (Except.ok.inj hus)), rfl⟩
    · rintro ⟨⟨h, -⟩ | h, rfl⟩
      · cases h
      · obtain rfl := Json.array.inj h
        exact ⟨_, y, ⟨rfl, rfl⟩, (), y, ⟨rfl, rfl⟩, rfl, rfl⟩
  | boolean _ | number _ | text _ | object _ =>
    constructor
    · intro h
      simp only [Json.toNode, values] at h
      exact absurd h not_yields_wrongType
    · rintro ⟨⟨h, -⟩ | h, -⟩ <;> cases h

namespace EntryKind

/-- The elements that the value `v` lists: none, if it holds no array in the place of this list. -/
def listed (kind : EntryKind) (v : Json) : List Json :=
  match v.get? kind.name with
  | some (.array items) => items
  | _ => []

/-- What the value `v` holds in the place of this list, if anything, is `null` or an array. -/
def IsListIfAny (kind : EntryKind) (v : Json) : Prop :=
  v.get? kind.name = none ∨ v.get? kind.name = some .null ∨
    ∃ items, v.get? kind.name = some (.array items)

/-- The notes that an element is worth if it decodes: for an application, one for each service of
its configuration with an invalid name. An observation is worth none. -/
def keptNotes : EntryKind → Json → List Skipped
  | .application, w => invalidMembers (configured w)
  | .applicationStatus, _ | .serviceStatus, _ | .serviceState, _ => []

/-- The notes that the element `w` is worth. If it does not decode, this is one note on itself. -/
def notes (kind : EntryKind) (w : Json) : List Skipped :=
  match kind.own w with
  | .ok _ => kind.keptNotes w
  | .error e => [.entry kind e w]

/-- The element `w` decodes on its own, or may be left out. -/
def Fits (kind : EntryKind) (w : Json) : Prop :=
  (∃ e, kind.own w = .ok e) ∨ kind.spare w = true

variable {kind : EntryKind}

theorem notesOnly_decoder (n : Node) : (kind.decoder n).NotesOnly fun s => s.list = kind := by
  cases kind with
  | application => exact notesOnly_applicationEntry
  | applicationStatus => exact ObservationKind.notesOnly_form .applicationStatus 0 n
  | serviceStatus => exact ObservationKind.notesOnly_form .serviceStatus 0 n
  | serviceState => exact ObservationKind.notesOnly_form .serviceState 0 n

theorem notesOnly_decodeList (n : Node) :
    (kind.decodeList n).NotesOnly fun s => s.list = kind :=
  notesOnly_values.bind fun _ => notesOnly_elements notesOnly_decoder

theorem list_of_mem_notes {w : Json} {s : Skipped} (hs : s ∈ kind.notes w) : s.list = kind := by
  unfold notes at hs
  split at hs
  next =>
    cases kind with
    | application => exact list_of_mem_invalidMembers hs
    | applicationStatus | serviceStatus | serviceState => cases hs
  next =>
    obtain rfl := List.mem_singleton.mp hs
    rfl

/-- Observations are worth no note of their own. -/
theorem decoder_notesOnly_false (hkind : kind ≠ .application) (n : Node) :
    (kind.decoder n).NotesOnly fun _ => False := by
  cases kind with
  | application => exact absurd rfl hkind
  | applicationStatus => exact ObservationKind.notesOnly_form .applicationStatus 0 n
  | serviceStatus => exact ObservationKind.notesOnly_form .serviceStatus 0 n
  | serviceState => exact ObservationKind.notesOnly_form .serviceState 0 n

/-- **What an element that is decoded notes itself**, if it `Fits`: the notes of its decoder, and
one on itself if it was left out. If an application is left out its identifier is invalid, and then
its decoder took no note before it failed. -/
theorem outcome_notes {w : Json} (htake : w.toNode.take 0 = .ok w) (hfits : kind.Fits w) :
    (kind.decoder w.toNode).outcome.2 ++ leftOut kind w (kind.own w) = kind.notes w := by
  unfold notes
  by_cases hkind : kind = .application
  · subst hkind
    cases hown : own .application w with
    | ok e =>
      -- Its services are noted, and the entry itself is not.
      have hyields : (applicationEntry 0 w.toNode).Yields [] e _ :=
        (notesOnly_decoder w.toNode).yields_iff.mpr ⟨hown, rfl⟩
      obtain ⟨-, hnotes⟩ := yields_applicationEntry htake hyields
      simpa [leftOut, keptNotes] using hnotes
    | error e =>
      -- The entry is noted, and none of its services was.
      have hspare : hasInvalidId w = true := hfits.resolve_left (by simp [hown])
      obtain ⟨e', he'⟩ := outcome_of_hasInvalidId htake hspare
      show (applicationEntry 0 w.toNode).outcome.2 ++ [.entry .application e w] = _
      rw [he']
      rfl
  · have hnil : (kind.decoder w.toNode).outcome.2 = [] :=
      (decoder_notesOnly_false hkind w.toNode).outcome_notes_eq_nil
    rw [hnil, List.nil_append]
    cases kind.own w with
    | ok e =>
      cases kind with
      | application => exact absurd rfl hkind
      | applicationStatus | serviceStatus | serviceState => rfl
    | error e => rfl

/-- **A list that is a value** decodes if it is `null` or an array of elements that fit. It holds
what those come to that decode, and its notes are those that its elements are worth, in their
order. -/
theorem yields_decodeList_iff {u : Json} {as : List kind.Entry} {x y : List Skipped}
    (htake : u.toNode.take 1 = .ok u) :
    (kind.decodeList u.toNode).Yields x as y ↔
      ∃ items, (u = .null ∧ items = [] ∨ u = .array items) ∧ (∀ w ∈ items, kind.Fits w) ∧
        as = items.filterMap (fun w => (kind.own w).toOption) ∧
        y = x ++ items.flatMap kind.notes := by
  -- The elements were taken as values, so their notes are known.
  have hnotes : ∀ items, (u = .null ∧ items = [] ∨ u = .array items) →
      (∀ w ∈ items, kind.Fits w) →
      (items.flatMap fun w => (kind.decoder w.toNode).outcome.2 ++
        leftOut kind w (kind.decoder w.toNode).outcome.1) = items.flatMap kind.notes := by
    intro items hu hfits
    refine List.flatMap_congr fun w hw => outcome_notes ?_ (hfits w hw)
    obtain ⟨-, rfl⟩ | rfl := hu
    · cases hw
    · exact Json.take_toNode (take_of_mem_array htake hw) (Nat.zero_le _)
  have hdecoder : ∀ items : List Json, ∀ w ∈ items,
      (kind.decoder w.toNode).NotesOnly fun s => s.list = kind :=
    fun _ w _ => notesOnly_decoder w.toNode
  rw [decodeList, yields_bind]
  constructor
  · rintro ⟨items, z, hitems, h⟩
    obtain ⟨hu, rfl⟩ := (yields_values_toNode_iff htake).mp hitems
    obtain ⟨hfits, rfl, rfl⟩ := (yields_elements_iff (hdecoder items)).mp h
    exact ⟨items, hu, hfits, rfl, by rw [hnotes items hu hfits]⟩
  · rintro ⟨items, hu, hfits, rfl, rfl⟩
    refine ⟨items, x, (yields_values_toNode_iff htake).mpr ⟨hu, rfl⟩,
      (yields_elements_iff (hdecoder items)).mpr ⟨hfits, rfl, ?_⟩⟩
    rw [hnotes items hu hfits]

/-- The draft `d` with this list filled by `as`. -/
def set : (kind : EntryKind) → BundleDraft → List kind.Entry → BundleDraft
  | .application, d, as => { d with applications := some as }
  | .applicationStatus, d, as => { d with applicationStatuses := some as }
  | .serviceStatus, d, as => { d with serviceStatuses := some as }
  | .serviceState, d, as => { d with serviceStates := some as }

/-- The field of a bundle that is this list. A document that is an array may end before it. -/
def slot (kind : EntryKind) : Slot BundleDraft :=
  .of kind.name true kind.filled? kind.set kind.decodeList

/-- The field at the place `i` of a bundle is one of the four lists, and has this place. -/
theorem exists_of_getElem?_bundleSlots {i : Nat} {other : Slot BundleDraft}
    (h : bundleSlots[i]? = some other) :
    ∃ kind : EntryKind, kind.place = i ∧ kind.slot = other := by
  match i with
  | 0 => exact ⟨.application, rfl, Option.some.inj h⟩
  | 1 => exact ⟨.applicationStatus, rfl, Option.some.inj h⟩
  | 2 => exact ⟨.serviceStatus, rfl, Option.some.inj h⟩
  | 3 => exact ⟨.serviceState, rfl, Option.some.inj h⟩
  | i + 4 => cases h

theorem exists_of_mem_bundleSlots {other : Slot BundleDraft} (h : other ∈ bundleSlots) :
    ∃ kind : EntryKind, kind.slot = other := by
  obtain ⟨i, hi⟩ := List.mem_iff_getElem?.mp h
  obtain ⟨kind, -, hkind⟩ := exists_of_getElem?_bundleSlots hi
  exact ⟨kind, hkind⟩

/-- The fields at other places than that of the list `kind` take no notes on it: each notes what is
on itself only. -/
theorem notesOnly_fill_of_mem_eraseIdx {other : Slot BundleDraft}
    (h : other ∈ bundleSlots.eraseIdx kind.place) (d : BundleDraft) (n : Node) :
    (other.fill d n).NotesOnly fun s => decide (s.list = kind) = false := by
  obtain ⟨i, hi, hother⟩ := List.mem_eraseIdx_iff_getElem?.mp h
  obtain ⟨k, rfl, rfl⟩ := exists_of_getElem?_bundleSlots hother
  have hne : k ≠ kind := fun hk => hi (congrArg place hk)
  refine notesOnly_fill_of (fun m => ?_) d n
  exact (notesOnly_decodeList m).imp fun s hs => by simp [hs, hne]

end EntryKind

end FleetAgent.Wire
