import FleetAgent.Proofs.Wire.Yields
/-!
# What a record gives

The fields of a record are filled one by one while its node is walked. `IsField` says what there is
to know about one of them: the `name` and the `place` where it stands, the decoder `d` of its node,
the function `get` that reads it off what has been filled, and that neither another slot nor a
member of another name touches it. `FieldGives` is what a walk leaves in the field: what its node
decodes to, if it has one. `IsField.record` and `IsField.openRecord` prove it of the two sorts of
records.

The walk over the members of an object is an induction on the members, carried by what one member
does to the field (`IsField.fillMember`): a member of that `name` fills the field, which was empty,
and any other leaves it. The walk over the items of an array is an induction on the slots that are
left, in which the `place` counts down (`fillItems_field`).

In the other direction, `fillMembers_succeeds` says when a walk over an object succeeds: its keys
are distinct, and every member decodes on its own (`MemberSucceeds`). The invariant is that the
fields of the members still to come are not filled yet, which `Slot.IsSeparate` keeps.
-/

namespace FleetAgent.Json

/-- The node `m` is that of a field of the record `n`: a member of that `name`, if `n` is an object,
or the item at that `place`, if it is an array. An object of a text may have more members than one
of a name, so a field may have more nodes than one. -/
inductive Node.HasField (name : String) (place : Nat) : Node → Node → Prop
  | member {members ending m} (h : (.ok name, m) ∈ members) :
    HasField name place (.object members ending) m
  | item {items ending m} (h : items[place]? = some m) :
    HasField name place (.array items ending) m

end FleetAgent.Json

namespace FleetAgent.Wire

open FleetAgent.Json (Fault Node Ending)
open Decoder

variable {α β σ : Type} {slots : List (Slot σ)} {unknown : Unknown σ} {name : String}
  {place : Nat} {get : σ → Option α} {d : Node → Decoder α}

/-! ### Fields -/

/-- A `step` leaves what is seen through `get` as it was, whenever it gives something. -/
def Keeps (get : σ → α) (step : σ → Node → Decoder σ) : Prop :=
  ∀ ⦃s n x t y⦄, (step s n).Yields x t y → get t = get s

/-- The slot of that place fills the field that is seen through `get` with what `d` decodes, and
nothing else touches the field. -/
structure IsField (slots : List (Slot σ)) (unknown : Unknown σ) (name : String) (place : Nat)
    (get : σ → Option α) (d : Node → Decoder α) : Prop where
  /-- The slot is found by its name. -/
  find : slots.find? (·.name == name) = slots[place]?
  /-- The slot fills the field. -/
  own : ∃ slot, slots[place]? = some slot ∧ slot.name = name ∧
    (∀ s, slot.isFilled s = (get s).isSome) ∧
    ∀ ⦃s n x t y⦄, (slot.fill s n).Yields x t y → ∃ a, (d n).Yields x a y ∧ get t = some a
  /-- The other slots do not touch it. -/
  others : ∀ other ∈ slots.eraseIdx place, Keeps get other.fill
  /-- Members that are no field do not touch it. -/
  unknown : ∀ key, Keeps get fun s n => unknown s key n

/-- A slot that is made of `get`, `set` and `d` fills in what `d` gives for the node, with the notes
of `d`. -/
theorem yields_fill_of {hasDefault : Bool} {set : σ → α → σ} {s t : σ} {n : Node}
    {x y : List Skipped} :
    ((Slot.of name hasDefault get set d).fill s n).Yields x t y ↔
      ∃ a, (d n).Yields x a y ∧ set s a = t := by
  simp only [Slot.of, yields_bind, yields_pure]
  constructor
  · rintro ⟨a, u, ha, rfl, rfl⟩
    exact ⟨a, ha, rfl⟩
  · rintro ⟨a, ha, rfl⟩
    exact ⟨a, y, ha, rfl, rfl⟩

/-- A field that is set leaves those that are seen otherwise. -/
theorem keeps_of {get' : σ → β} {hasDefault : Bool} {set : σ → α → σ}
    (h : ∀ s a, get' (set s a) = get' s) :
    Keeps get' (Slot.of name hasDefault get set d).fill := by
  intro s n x t y hfill
  obtain ⟨a, -, rfl⟩ := yields_fill_of.mp hfill
  exact h s a

theorem keeps_ignored {get : σ → β} {key : String} : Keeps get fun s n => ignored s key n := by
  intro s n x t y h
  simp only [ignored, yields_bind, yields_taking, yields_pure] at h
  obtain ⟨-, -, -, rfl, -⟩ := h
  rfl

/-- A slot that is made of `get`, `set` and `d` is a field if `set` can be seen through `get` and
the rest of the record does not touch it. -/
theorem isField_of {hasDefault : Bool} {set : σ → α → σ}
    (hat : slots[place]? = some (.of name hasDefault get set d))
    (hfind : slots.find? (·.name == name) = slots[place]?)
    (hset : ∀ s a, get (set s a) = some a)
    (hothers : ∀ other ∈ slots.eraseIdx place, Keeps get other.fill)
    (hunknown : ∀ key, Keeps get fun s n => unknown s key n) :
    IsField slots unknown name place get d where
  find := hfind
  own := by
    refine ⟨_, hat, rfl, fun s => rfl, fun s n x t y h => ?_⟩
    obtain ⟨a, ha, rfl⟩ := yields_fill_of.mp h
    exact ⟨a, ha, hset s a⟩
  others := hothers
  unknown := hunknown

/-! ### Objects -/

/-- A walk over members goes through the first one, whose `key` was read as `k`, and then through
the others. -/
theorem yields_fillMembers_cons {s t : σ} {key : Except Fault String} {n : Node}
    {members : List (Except Fault String × Node)} {x y : List Skipped} :
    (fillMembers slots unknown s ((key, n) :: members)).Yields x t y ↔
      ∃ k, key = .ok k ∧ ∃ u z, (fillMember slots unknown s k n).Yields x u z ∧
        (fillMembers slots unknown u members).Yields z t y := by
  rw [fillMembers, yields_bind]
  constructor
  · rintro ⟨k, x', hk, h⟩
    obtain ⟨rfl, rfl⟩ := yields_taking.mp hk
    exact ⟨k, rfl, yields_bind.mp h⟩
  · rintro ⟨k, rfl, h⟩
    exact ⟨k, x, yields_taking.mpr ⟨rfl, rfl⟩, yields_bind.mpr h⟩

namespace IsField

variable (hf : IsField slots unknown name place get d)
include hf

/-- A slot `other` of another name stands elsewhere: two slots at one `place` would have one
name. -/
theorem mem_eraseIdx_of_find? {key : String} {other : Slot σ}
    (hother : slots.find? (·.name == key) = some other) (hkey : key ≠ name) :
    other ∈ slots.eraseIdx place := by
  obtain ⟨slot, hat, hname, -, -⟩ := hf.own
  obtain ⟨i, hi⟩ := List.mem_iff_getElem?.mp (List.mem_of_find?_eq_some hother)
  refine List.mem_eraseIdx_iff_getElem?.mpr ⟨i, ?_, hi⟩
  rintro rfl
  rw [hat, Option.some.injEq] at hi
  have hother := List.find?_some hother
  rw [← hi, hname, beq_iff_eq] at hother
  exact hkey hother.symm

/-- A member of that `name` fills the field, which was empty; any other leaves what `get` sees. -/
theorem fillMember {s t : σ} {key : String} {n : Node} {x y : List Skipped}
    (h : (Wire.fillMember slots unknown s key n).Yields x t y) :
    (key = name ∧ get s = none ∧ ∃ a, (d n).Yields x a y ∧ get t = some a) ∨
      (key ≠ name ∧ get t = get s) := by
  obtain ⟨slot, hat, hname, hfilled, hfill⟩ := hf.own
  unfold Wire.fillMember at h
  by_cases hkey : key = name
  · -- The field was empty, or it would be a duplicate.
    subst hkey
    rw [hf.find, hat] at h
    dsimp only at h
    by_cases hs : slot.isFilled s = true
    · rw [if_pos hs] at h
      exact absurd h (not_yields_mismatch _)
    · rw [if_neg hs] at h
      rw [hfilled, Bool.not_eq_true, Option.isSome_eq_false_iff, Option.isNone_iff_eq_none] at hs
      exact .inl ⟨rfl, hs, hfill h⟩
  · refine .inr ⟨hkey, ?_⟩
    split at h
    next other hother =>
      split at h
      · exact absurd h (not_yields_mismatch _)
      · exact hf.others other (hf.mem_eraseIdx_of_find? hother hkey) h
    next => exact hf.unknown key h

/-- A field that is filled stays as it is. -/
theorem fillMembers_of_some {members : List (Except Fault String × Node)} {s t : σ} {a : α}
    {x y : List Skipped} (h : (fillMembers slots unknown s members).Yields x t y)
    (ha : get s = some a) : get t = some a := by
  induction members generalizing s x with
  | nil =>
    obtain ⟨rfl, -⟩ := yields_pure.mp h
    exact ha
  | cons m members ih =>
    obtain ⟨k, -, u, z, hm, h⟩ := yields_fillMembers_cons.mp h
    obtain ⟨-, hs, -⟩ | ⟨-, hu⟩ := hf.fillMember hm
    · rw [ha] at hs
      cases hs
    · exact ih h (hu.trans ha)

/-- Every member `n` of that `name` decodes to what the field holds in the end. -/
theorem fillMembers_of_mem {members : List (Except Fault String × Node)} {s t : σ}
    {x y : List Skipped} (h : (fillMembers slots unknown s members).Yields x t y) {n : Node}
    (hn : (.ok name, n) ∈ members) : ∃ a, (d n).CanYield a ∧ get t = some a := by
  induction members generalizing s x with
  | nil => cases hn
  | cons m members ih =>
    obtain ⟨k, hk, u, z, hm, hrest⟩ := yields_fillMembers_cons.mp h
    rcases List.mem_cons.mp hn with rfl | hn
    · obtain rfl : name = k := Except.ok.inj hk
      obtain ⟨-, -, a, ha, hu⟩ | ⟨hne, -⟩ := hf.fillMember hm
      · exact ⟨a, ha.canYield, hf.fillMembers_of_some hrest hu⟩
      · exact absurd rfl hne
    · exact ih hrest hn

/-- What the field holds in the end, `a`, comes from a member, as it was empty before. -/
theorem exists_of_fillMembers {members : List (Except Fault String × Node)} {s t : σ}
    {x y : List Skipped} (h : (fillMembers slots unknown s members).Yields x t y) {a : α}
    (hs : get s = none) (ht : get t = some a) :
    ∃ n, (.ok name, n) ∈ members ∧ (d n).CanYield a := by
  induction members generalizing s x with
  | nil =>
    obtain ⟨rfl, -⟩ := yields_pure.mp h
    rw [hs] at ht
    cases ht
  | cons m members ih =>
    obtain ⟨key, n⟩ := m
    obtain ⟨k, rfl, u, z, hm, hrest⟩ := yields_fillMembers_cons.mp h
    obtain ⟨rfl, -, b, hb, hu⟩ | ⟨-, hu⟩ := hf.fillMember hm
    · rw [hf.fillMembers_of_some hrest hu] at ht
      obtain rfl := Option.some.inj ht
      exact ⟨n, List.mem_cons_self, hb.canYield⟩
    · obtain ⟨n, hn, ha⟩ := ih hrest (hu.trans hs)
      exact ⟨n, List.mem_cons_of_mem _ hn, ha⟩

end IsField

/-! ### Arrays -/

section Items

variable {record : String} {fields all : Nat} {ending : Ending} {first : Nat} {rest : List (Slot σ)}
  {items : List Node} {s t : σ} {x y : List Skipped}

/-- Slots that do not touch what is seen through `get` leave it, whether items are left for them or
not. -/
theorem fillItems_of_keeps {get : σ → β} (hkeep : ∀ slot ∈ rest, Keeps get slot.fill)
    (h : (fillItems record fields all ending first rest s items).Yields x t y) :
    get t = get s := by
  induction rest generalizing s x items first with
  | nil =>
    cases items with
    | nil =>
      simp only [fillItems, yields_bind, yields_pure] at h
      obtain ⟨-, -, -, rfl, -⟩ := h
      rfl
    | cons n items => exact absurd h (not_yields_mismatch _)
  | cons slot rest ih =>
    have hrest : ∀ other ∈ rest, Keeps get other.fill := fun other ho =>
      hkeep other (List.mem_cons_of_mem _ ho)
    cases items with
    | nil =>
      rw [fillItems, yields_bind] at h
      obtain ⟨-, z, -, h⟩ := h
      split at h
      · exact ih hrest h
      · exact absurd h (not_yields_mismatch _)
    | cons n items =>
      rw [fillItems, yields_bind] at h
      obtain ⟨u, z, hu, h⟩ := h
      rw [ih hrest h]
      exact hkeep slot List.mem_cons_self hu

/-- The item at the `place` of a field decodes to what the field holds in the end. A field without
an item is left as it was. -/
theorem fillItems_field {slot : Slot σ} {place : Nat} (hat : rest[place]? = some slot)
    (hfill : ∀ ⦃s n x t y⦄, (slot.fill s n).Yields x t y → ∃ a, (d n).Yields x a y ∧ get t = some a)
    (hothers : ∀ other ∈ rest.eraseIdx place, Keeps get other.fill)
    (h : (fillItems record fields all ending first rest s items).Yields x t y) :
    match items[place]? with
    | some n => ∃ a, (d n).CanYield a ∧ get t = some a
    | none => get t = get s := by
  induction rest generalizing s x items first place with
  | nil => cases hat
  | cons head rest ih =>
    -- Without items the defaults of all slots are taken, the one of the field among them.
    match items, place with
    | [], 0 =>
      obtain rfl : head = slot := Option.some.inj hat
      rw [fillItems, yields_bind] at h
      obtain ⟨-, z, -, h⟩ := h
      split at h
      · exact fillItems_of_keeps hothers h
      · exact absurd h (not_yields_mismatch _)
    | [], place + 1 =>
      rw [fillItems, yields_bind] at h
      obtain ⟨-, z, -, h⟩ := h
      split at h
      · exact ih hat (fun other ho => hothers other (List.mem_cons_of_mem _ ho)) h
      · exact absurd h (not_yields_mismatch _)
    | n :: items, 0 =>
      obtain rfl : head = slot := Option.some.inj hat
      rw [fillItems, yields_bind] at h
      obtain ⟨u, z, hu, h⟩ := h
      obtain ⟨a, ha, hget⟩ := hfill hu
      exact ⟨a, ha.canYield, (fillItems_of_keeps hothers h).trans hget⟩
    | n :: items, place + 1 =>
      rw [fillItems, yields_bind] at h
      obtain ⟨u, z, hu, h⟩ := h
      have hkeep : get u = get s := hothers head List.mem_cons_self hu
      have := ih hat (fun other ho => hothers other (List.mem_cons_of_mem _ ho)) h
      rw [hkeep] at this
      exact this

end Items

/-! ### Records -/

/-- What the record `n` ends up with in one of its fields is `r`: every node of the field decodes to
it, and it comes from a node of the field. So `r` is `none` exactly if the field has no node. -/
def FieldGives (name : String) (place : Nat) (d : Node → Decoder α) (n : Node) (r : Option α) :
    Prop :=
  (∀ m, n.HasField name place m → ∃ a, (d m).CanYield a ∧ r = some a) ∧
    ∀ a, r = some a → ∃ m, n.HasField name place m ∧ (d m).CanYield a

/-- **The fields of a record** are what their nodes decode to: `FieldGives` holds of what `get` sees
in the end, if the field was empty. -/
theorem IsField.record (hf : IsField slots ignored name place get d) {s t : σ} {n : Node}
    {label : String} {x y : List Skipped} (hs : get s = none)
    (h : (record label slots s n).Yields x t y) : FieldGives name place d n (get t) := by
  match n with
  | .object members ending =>
    simp only [Wire.record, yields_bind, yields_pure] at h
    obtain ⟨_, _, hm, _, _, _, rfl, _⟩ := h
    constructor
    · intro m hn
      cases hn with
      | member hn => exact hf.fillMembers_of_mem hm hn
    · intro a ha
      obtain ⟨m, hn, hd⟩ := hf.exists_of_fillMembers hm hs ha
      exact ⟨m, .member hn, hd⟩
  | .array items ending =>
    obtain ⟨slot, hat, -, -, hfill⟩ := hf.own
    have hitem := fillItems_field hat hfill hf.others h
    constructor
    · intro m hm
      cases hm with
      | item hm =>
        rw [hm] at hitem
        exact hitem
    · intro a ha
      rcases hi : items[place]? with _ | m
      · rw [hi] at hitem
        rw [show get t = get s from hitem, hs] at ha
        cases ha
      · rw [hi] at hitem
        obtain ⟨b, hb, hget⟩ := hitem
        obtain rfl := Option.some.inj (hget.symm.trans ha)
        exact ⟨m, .item hi, hb⟩
  | .null | .boolean _ | .number (some _) | .text (.ok _) => exact absurd h (not_yields_mismatch _)
  | .number none | .text (.error _) | .broken _ _ => exact absurd h (not_yields_throw _)

/-- **The fields of an open record** are what their nodes decode to, in the same sense. Members that
are no field do not touch it. -/
theorem IsField.openRecord (hf : IsField slots unknown name place get d) {s t : σ} {n : Node}
    {label : String} {x y : List Skipped} (hs : get s = none)
    (h : (openRecord label slots unknown s n).Yields x t y) :
    FieldGives name place d n (get t) := by
  match n with
  | .object members ending =>
    simp only [Wire.openRecord, yields_bind, yields_pure] at h
    obtain ⟨_, _, hm, _, _, _, rfl, _⟩ := h
    constructor
    · intro m hn
      cases hn with
      | member hn => exact hf.fillMembers_of_mem hm hn
    · intro a ha
      obtain ⟨m, hn, hd⟩ := hf.exists_of_fillMembers hm hs ha
      exact ⟨m, .member hn, hd⟩
  | .array _ _ | .null | .boolean _ | .number (some _) | .text (.ok _) =>
    exact absurd h (not_yields_mismatch _)
  | .number none | .text (.error _) | .broken _ _ => exact absurd h (not_yields_throw _)

/-! ### Objects that decode -/

/-- Nothing else makes the field of a slot a filled one. -/
def Slot.IsSeparate (slots : List (Slot σ)) (unknown : Unknown σ) (slot : Slot σ) : Prop :=
  (∀ other ∈ slots, other.name ≠ slot.name → Keeps slot.isFilled other.fill) ∧
    ∀ key, Keeps slot.isFilled fun s n => unknown s key n

/-- The slot of a field is separate: whether the field is filled is seen through `get`, and nothing
else touches what is seen there. -/
theorem IsField.isSeparate (hf : IsField slots unknown name place get d) {slot : Slot σ}
    (hat : slots[place]? = some slot) : slot.IsSeparate slots unknown := by
  obtain ⟨own, hown, -, hfilled, -⟩ := hf.own
  obtain rfl : own = slot := Option.some.inj (hown.symm.trans hat)
  constructor
  · intro other ho hne s n x t y h
    rw [hfilled, hfilled, hf.others other ?_ h]
    obtain ⟨i, hi⟩ := List.mem_iff_getElem?.mp ho
    refine List.mem_eraseIdx_iff_getElem?.mpr ⟨i, ?_, hi⟩
    rintro rfl
    rw [hat, Option.some.injEq] at hi
    exact hne (congrArg Slot.name hi.symm)
  · intro key s n x t y h
    rw [hfilled, hfilled, hf.unknown key h]

/-- The member of the key `k` with the node `n` decodes on its own, whatever was filled before: in
the slot of that name if there is one, and as `unknown` otherwise. -/
def MemberSucceeds (slots : List (Slot σ)) (unknown : Unknown σ) (k : String) (n : Node) : Prop :=
  (∀ slot ∈ slots, slot.name = k → ∀ s, (slot.fill s n).Succeeds) ∧
    ((∀ slot ∈ slots, slot.name ≠ k) → ∀ s, (unknown s k n).Succeeds)

/-- A member that decodes on its own is filled in, if the field of its name is still empty.
Otherwise it would be there twice. -/
theorem fillMember_succeeds {s : σ} {k : String} {n : Node}
    (h : MemberSucceeds slots unknown k n)
    (hs : ∀ slot ∈ slots, slot.name = k → slot.isFilled s = false) :
    (fillMember slots unknown s k n).Succeeds := by
  -- A member of a field's name is filled by its slot, and any other is handed to `unknown`.
  unfold fillMember
  split
  next slot hslot =>
    have hmem : slot ∈ slots := List.mem_of_find?_eq_some hslot
    have hname : slot.name = k := by simpa using List.find?_some hslot
    rw [if_neg (Bool.eq_false_iff.mp (hs slot hmem hname))]
    exact h.1 slot hmem hname s
  next hnone =>
    refine h.2 (fun slot hmem hname => ?_) s
    exact absurd (beq_iff_eq.mpr hname) (List.find?_eq_none.mp hnone slot hmem)

/-- A member leaves the fields of other names unfilled. -/
theorem fillMember_isFilled (hsep : ∀ slot ∈ slots, slot.IsSeparate slots unknown) {s t : σ}
    {k : String} {n : Node} {x y : List Skipped}
    (h : (fillMember slots unknown s k n).Yields x t y) {slot : Slot σ} (hslot : slot ∈ slots)
    (hne : slot.name ≠ k) : slot.isFilled t = slot.isFilled s := by
  unfold fillMember at h
  split at h
  next other hother =>
    split at h
    · exact absurd h (not_yields_mismatch _)
    · have hname : other.name = k := by simpa using List.find?_some hother
      refine (hsep slot hslot).1 other (List.mem_of_find?_eq_some hother) ?_ h
      rw [hname]
      exact hne.symm
  next => exact (hsep slot hslot).2 k h

/-- **A walk over an object succeeds** if its keys are distinct and every member decodes on its own.
What is walked next finds its field empty: the first member has another key than those behind it. -/
theorem fillMembers_succeeds (hsep : ∀ slot ∈ slots, slot.IsSeparate slots unknown) {s : σ}
    {members : List (Except Fault String × Node)} (hkeys : (members.map (·.1)).Nodup)
    (hok : ∀ m ∈ members, ∃ k, m.1 = .ok k ∧ MemberSucceeds slots unknown k m.2 ∧
      ∀ slot ∈ slots, slot.name = k → slot.isFilled s = false) :
    (fillMembers slots unknown s members).Succeeds := by
  induction members generalizing s with
  | nil => exact succeeds_pure
  | cons m members ih =>
    rw [List.map_cons, List.nodup_cons] at hkeys
    obtain ⟨key, n⟩ := m
    obtain ⟨k, rfl, hm, hs⟩ := hok _ List.mem_cons_self
    intro x
    obtain ⟨u, z, hu⟩ := fillMember_succeeds hm hs x
    have hrest : (fillMembers slots unknown u members).Succeeds := by
      refine ih hkeys.2 fun m' hm' => ?_
      obtain ⟨k', hk', hm'', hs'⟩ := hok m' (List.mem_cons_of_mem _ hm')
      refine ⟨k', hk', hm'', fun slot hslot hname => ?_⟩
      -- The key of the first member is another one.
      have hne : slot.name ≠ k := by
        rintro rfl
        refine hkeys.1 (List.mem_map.mpr ⟨m', hm', ?_⟩)
        rw [hk', hname]
      rw [fillMember_isFilled hsep hu hslot hne]
      exact hs' slot hslot hname
    obtain ⟨t, y, ht⟩ := hrest z
    exact ⟨t, y, yields_fillMembers_cons.mpr ⟨k, rfl, u, z, hu, ht⟩⟩

/-- A slot that is made of `d` fills its field with every node on which `d` succeeds. -/
theorem succeeds_fill_of {hasDefault : Bool} {set : σ → α → σ} {s : σ} {n : Node}
    (h : (d n).Succeeds) : ((Slot.of name hasDefault get set d).fill s n).Succeeds := by
  intro x
  obtain ⟨a, y, ha⟩ := h x
  exact ⟨set s a, y, yields_fill_of.mpr ⟨a, ha, rfl⟩⟩

end FleetAgent.Wire
