import FleetAgent.Proofs.Json.ReadBack
import FleetAgent.Proofs.Wire.Leaves
/-!
# What a document lists, and what its bundle holds

A document lists values in the four lists of a bundle: `Lists bytes name place v` says that the
document lists `v` in the list of that `name`, or at that `place` if it is an array. The four lists
are alike but for what their elements are and which of them may be left out; `EntryKind` names them,
and `EntryKind.decoder`, `EntryKind.spare`, `EntryKind.entries` and the rest are what they differ
in.

If a document decodes, every element of a list is a value (`Holds.valued`), and the bundle holds
what these values decode to, except for those that were left out (`holds_of_decode`). An element
that is left out does not decode on its own, and its list allows leaving it out. Both come from
`elements_cons` by induction on the elements: the first one either decodes or is left out, and
nothing of it remains in the rest of the list.
-/

namespace FleetAgent.Wire

open FleetAgent.Json (Node Ending)
open Decoder

variable {α : Type}

/-! ### Lenient lists -/

section Elements

variable {kind : EntryKind} {spare : Json → Bool} {d : Node → Decoder α}

/-- The first element `v` either decodes to the first entry, or is left out because it does not and
that is allowed. The others decode to the rest. -/
theorem elements_cons {v : Json} {vs : List Json} {as : List α} {x y : List Skipped}
    (h : (elements kind spare d (v :: vs)).Yields x as y) :
    ∃ bs, (elements kind spare d vs).CanYield bs ∧
      ((∃ a, (d v.toNode).CanYield a ∧ as = a :: bs) ∨
        spare v = true ∧ ¬ (d v.toNode).Succeeds ∧ as = bs) := by
  rw [elements, yields_bind] at h
  obtain ⟨o, z, ho, hrest⟩ := h
  obtain ⟨bs, z', hbs, hpure⟩ := yields_bind.mp hrest
  obtain ⟨rfl, -⟩ := yields_pure.mp hpure
  refine ⟨bs, hbs.canYield, ?_⟩
  rcases yields_tryCatch.mp ho with hsome | ⟨e, t, he, hcaught⟩
  · obtain ⟨a, ha, rfl⟩ := yields_map.mp hsome
    exact .inl ⟨a, ha.canYield, rfl⟩
  · -- A failure is caught only where the element may be left out.
    cases hs : spare v with
    | true =>
      rw [hs, if_pos rfl, yields_bind] at hcaught
      obtain ⟨-, u, -, hnone⟩ := hcaught
      obtain ⟨rfl, -⟩ := yields_pure.mp hnone
      refine .inr ⟨rfl, fun hd => ?_, rfl⟩
      obtain ⟨a, u, ha⟩ := hd x
      exact ha.not_fails he.of_map
    | false =>
      rw [hs, if_neg Bool.false_ne_true] at hcaught
      cases e with
      | mismatch m => exact absurd hcaught (not_yields_mismatch _)
      | fault f => exact absurd hcaught (not_yields_throw _)

/-- **Every element `v` decodes or may be left out**: `as` holds what it decodes to, or it does not
decode and may be spared. -/
theorem elements_of_mem {vs : List Json} {as : List α}
    (h : (elements kind spare d vs).CanYield as) {v : Json} (hv : v ∈ vs) :
    (∃ a ∈ as, (d v.toNode).CanYield a) ∨ spare v = true ∧ ¬ (d v.toNode).Succeeds := by
  induction vs generalizing as with
  | nil => cases hv
  | cons w vs ih =>
    obtain ⟨x, y, h⟩ := h
    obtain ⟨bs, hbs, hw⟩ := elements_cons h
    rcases List.mem_cons.mp hv with rfl | hv
    · rcases hw with ⟨a, ha, rfl⟩ | ⟨hspare, hfail, -⟩
      · exact .inl ⟨a, List.mem_cons_self, ha⟩
      · exact .inr ⟨hspare, hfail⟩
    · refine (ih hbs hv).imp_left ?_
      rintro ⟨a, ha, hd⟩
      rcases hw with ⟨b, -, rfl⟩ | ⟨-, -, rfl⟩
      · exact ⟨a, List.mem_cons_of_mem _ ha, hd⟩
      · exact ⟨a, ha, hd⟩

/-- **What a list holds comes from an element**: each `a` of `as` is what some `v` decodes to. -/
theorem exists_of_mem_elements {vs : List Json} {as : List α}
    (h : (elements kind spare d vs).CanYield as) {a : α} (ha : a ∈ as) :
    ∃ v ∈ vs, (d v.toNode).CanYield a := by
  induction vs generalizing as with
  | nil =>
    obtain ⟨x, y, h⟩ := h
    obtain ⟨rfl, -⟩ := yields_pure.mp h
    cases ha
  | cons w vs ih =>
    obtain ⟨x, y, h⟩ := h
    obtain ⟨bs, hbs, hw⟩ := elements_cons h
    have hrest : a ∈ bs → ∃ v ∈ w :: vs, (d v.toNode).CanYield a := by
      intro ha
      obtain ⟨v, hv, hd⟩ := ih hbs ha
      exact ⟨v, List.mem_cons_of_mem _ hv, hd⟩
    rcases hw with ⟨b, hb, rfl⟩ | ⟨-, -, rfl⟩
    · rcases List.mem_cons.mp ha with rfl | ha
      · exact ⟨w, List.mem_cons_self, hb⟩
      · exact hrest ha
    · exact hrest ha

end Elements

/-! ### The lists of a document -/

/-- The value at the start of a document, as far as it can be read. What follows it does not matter
here. -/
def root (bytes : List UInt8) : Node :=
  (Json.Reader.document (Text.Utf8.symbols bytes)).root

/-- The document lists the value `v` in one of its lists: the list is the member of that `name`, or
stands at that `place` if the document is an array, and one of its items is taken as `v`. The items
stand within two brackets, those of the document and of the list. -/
def Lists (bytes : List UInt8) (name : String) (place : Nat) (v : Json) : Prop :=
  ∃ items ending n, (root bytes).HasField name place (.array items ending) ∧ n ∈ items ∧
    n.take 2 = .ok v

theorem root_compact {v : Json} (h : v.Exact) : root (Text.Utf8.encode v.compact) = v.toNode := by
  rw [root, Json.Reader.document_compact h]

/-- What a text lists that is read as the value `document`: the items of its member of that `name`.
The `place` is only for documents that are arrays. -/
theorem lists_of_root_eq {bytes : List UInt8} {document : Json} {name : String} {items : List Json}
    (hroot : root bytes = document.toNode) (hitems : document.get? name = some (.array items))
    (place : Nat) {v : Json} (hv : v ∈ items) (htake : v.toNode.take 2 = .ok v) :
    Lists bytes name place v := by
  refine ⟨Json.toNodes items, .closed, v.toNode, ?_, ?_, htake⟩
  · rw [hroot]
    exact hasField_of_get? place hitems
  · rw [Json.toNodes_eq_map]
    exact List.mem_map_of_mem hv

/-- What `f` computes from the outcome of decoding is computed from a value that was decoded. -/
theorem exists_of_map_toOption {β : Type} {d : Node → Decoder α} {bytes : List UInt8} {f : α → β}
    {r : β} (h : (decode d bytes).toOption.map f = some r) :
    ∃ a, decode d bytes = .ok a ∧ f a = r := by
  cases hd : decode d bytes with
  | error e =>
    rw [hd] at h
    cases h
  | ok a =>
    rw [hd] at h
    exact ⟨a, rfl, Option.some.inj h⟩

/-- What decodes as a whole text decodes from its root. -/
theorem canYield_of_decode {d : Node → Decoder α} {bytes : List UInt8} {a : α}
    (h : decode d bytes = .ok a) : (d (root bytes)).CanYield a := by
  have hout : ofText (Json.Reader.document (Text.Utf8.symbols bytes)).ended
      (d (root bytes)).outcome.1 = .ok a := h
  rcases hrun : (d (root bytes)).outcome with ⟨e | b, notes⟩
  · rw [hrun] at hout
    cases e with
    | fault f => cases hout
    | mismatch m => cases m <;> cases hout
  · rw [hrun, ofText] at hout
    split at hout
    · obtain rfl := Except.ok.inj hout
      exact ⟨[], notes, hrun⟩
    · cases hout

/-- The list `as` of a bundle holds what the document lists: every element decodes to something it
holds, or was left out; and it holds nothing else. -/
structure Holds (bytes : List UInt8) (name : String) (place : Nat) (spare : Json → Bool)
    (d : Node → Decoder α) (as : List α) : Prop where
  /-- An element is held or was left out. -/
  kept : ∀ ⦃v⦄, Lists bytes name place v →
    (∃ a ∈ as, (d v.toNode).CanYield a) ∨ spare v = true ∧ ¬ (d v.toNode).Succeeds
  /-- What is held was listed. -/
  listed : ∀ a ∈ as, ∃ v, Lists bytes name place v ∧ (d v.toNode).CanYield a
  /-- Every element has a value. -/
  valued : ∀ ⦃items ending n⦄, (root bytes).HasField name place (.array items ending) → n ∈ items →
    ∃ v, n.take 2 = .ok v

/-- A list `r` that a field ends up with holds what its node lists. If the field has no node the
list is empty, and nothing is listed. -/
theorem holds_of_fieldGives {bytes : List UInt8} {name : String} {place : Nat} {kind : EntryKind}
    {spare : Json → Bool} {d : Node → Decoder α} {r : Option (List α)}
    (h : FieldGives name place (fun n => values 1 n >>= elements kind spare d) (root bytes) r) :
    Holds bytes name place spare d (r.getD []) := by
  -- A node that stands for the list is an array of values, or it would not decode.
  have hlist : ∀ {items ending}, (root bytes).HasField name place (.array items ending) →
      ∃ as vs, r = some as ∧ Json.takeItems 2 items = .ok vs ∧
        (elements kind spare d vs).CanYield as := by
    intro items ending hfield
    obtain ⟨as, ⟨x, y, has⟩, hr⟩ := h.1 _ hfield
    obtain ⟨vs, z, hvs, has⟩ := yields_bind.mp has
    obtain ⟨hnull, -⟩ | ⟨_, hitems, htake⟩ := yields_values hvs
    · cases hnull
    · obtain ⟨rfl, -⟩ := Node.array.inj hitems
      exact ⟨as, vs, hr, htake, has.canYield⟩
  constructor
  · rintro v ⟨items, ending, n, hfield, hn, hv⟩
    obtain ⟨as, vs, rfl, htake, has⟩ := hlist hfield
    exact elements_of_mem has ((Json.mem_iff_of_takeItems htake).mpr ⟨n, hn, hv⟩)
  · intro a ha
    obtain ⟨as, rfl⟩ : ∃ as, r = some as := by
      cases r with
      | none => cases ha
      | some as => exact ⟨as, rfl⟩
    obtain ⟨m, hfield, x, y, has⟩ := h.2 as rfl
    obtain ⟨vs, z, hvs, has⟩ := yields_bind.mp has
    obtain ⟨v, hv, hd⟩ := exists_of_mem_elements has.canYield ha
    obtain ⟨-, rfl⟩ | ⟨items, rfl, htake⟩ := yields_values hvs
    · cases hv
    · obtain ⟨n, hn, htaken⟩ := (Json.mem_iff_of_takeItems htake).mp hv
      exact ⟨v, ⟨items, .closed, n, hfield, hn, htaken⟩, hd⟩
  · intro items ending n hfield hn
    obtain ⟨-, vs, -, htake, -⟩ := hlist hfield
    obtain ⟨v, -, hv⟩ := Json.exists_of_takeItems htake hn
    exact ⟨v, hv⟩

/-! ### The four lists -/

namespace EntryKind

/-- What an element of a list decodes to. -/
abbrev Entry : EntryKind → Type
  | .application => ApplicationEntry
  | .applicationStatus => ApplicationStatus
  | .serviceStatus => ServiceStatus
  | .serviceState => ServiceState

/-- The decoder of an element. -/
def decoder : (kind : EntryKind) → Node → Decoder kind.Entry
  | .application => Wire.applicationEntry 0
  | .applicationStatus => Wire.applicationStatus 0
  | .serviceStatus => Wire.serviceStatus 0
  | .serviceState => Wire.serviceState 0

/-- What the element `w` comes to on its own, outside its list. -/
def own (kind : EntryKind) (w : Json) : Except DecodeError kind.Entry :=
  (kind.decoder w.toNode).outcome.1

/-- Whether the element `w` may be left out if it does not decode. An observation always may, and an
entry of the applications only if its identifier is invalid. -/
def spare : EntryKind → Json → Bool
  | .application, w => hasInvalidId w
  | .applicationStatus, _ | .serviceStatus, _ | .serviceState, _ => true

/-- The name of a list in a document that is an object. -/
def name : EntryKind → String
  | .application => "applications"
  | .applicationStatus => "applicationStatuses"
  | .serviceStatus => "serviceStatuses"
  | .serviceState => "serviceStates"

/-- The place of a list in a document that is an array. -/
def place : EntryKind → Nat
  | .application => 0
  | .applicationStatus => 1
  | .serviceStatus => 2
  | .serviceState => 3

/-- The list of a bundle. -/
def entries : (kind : EntryKind) → Bundle → List kind.Entry
  | .application, b => b.applications
  | .applicationStatus, b => b.applicationStatuses
  | .serviceStatus, b => b.serviceStatuses
  | .serviceState, b => b.serviceStates

/-- An element of a list as JSON. -/
def write : (kind : EntryKind) → kind.Entry → Json
  | .application, e => e.toJson
  | .applicationStatus, s => s.toJson
  | .serviceStatus, s => s.toJson
  | .serviceState, s => s.toJson

/-- The list of a bundle that is being filled. -/
def filled? : (kind : EntryKind) → BundleDraft → Option (List kind.Entry)
  | .application, d => d.applications
  | .applicationStatus, d => d.applicationStatuses
  | .serviceStatus, d => d.serviceStatuses
  | .serviceState, d => d.serviceStates

/-- The decoder of a list: its values are taken first, and then decoded one by one. -/
def decodeList (kind : EntryKind) (n : Node) : Decoder (List kind.Entry) := do
  elements kind kind.spare kind.decoder (← values 1 n)

/-- The slot of each list fills it with what `decodeList` gives, and nothing else touches it. -/
theorem isField_filled? (kind : EntryKind) :
    IsField bundleSlots ignored kind.name kind.place kind.filled? kind.decodeList := by
  -- The other three slots set other lists.
  cases kind <;> exact isField_of rfl rfl (fun _ _ => rfl)
    (List.forall_mem_cons.mpr ⟨keeps_of fun _ _ => rfl, List.forall_mem_cons.mpr
      ⟨keeps_of fun _ _ => rfl, List.forall_mem_singleton.mpr (keeps_of fun _ _ => rfl)⟩⟩)
    fun _ => keeps_ignored

end EntryKind

/-- **A bundle `b` holds what its document lists**, in each of its four lists. -/
theorem holds_of_decode {bytes : List UInt8} {b : Bundle} (h : decode bundle bytes = .ok b)
    (kind : EntryKind) :
    Holds bytes kind.name kind.place kind.spare kind.decoder (kind.entries b) := by
  obtain ⟨x, y, hb⟩ := canYield_of_decode h
  rw [bundle, yields_bind] at hb
  obtain ⟨draft, z, hdraft, hpure⟩ := hb
  obtain ⟨rfl, -⟩ := yields_pure.mp hpure
  have hempty : kind.filled? ⟨none, none, none, none⟩ = none := by cases kind <;> rfl
  have hholds := holds_of_fieldGives ((EntryKind.isField_filled? kind).record hempty hdraft)
  cases kind <;> exact hholds

end FleetAgent.Wire
