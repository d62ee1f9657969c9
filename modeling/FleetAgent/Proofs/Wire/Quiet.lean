import FleetAgent.Proofs.Wire.Leaves
/-!
# Decoders that note nothing

A decoder is *quiet* if it leaves the notes as they were whenever it gives a value
(`Decoder.Quiet`). If it gives `a` whatever was noted before, and quietly, then it *gives* `a`
(`Decoder.Gives`). What is given is all that can come out (`Gives.eq_of_canYield`), so this is the
form in which a record is said to be read back: no note and no other value.

Both are kept by the building blocks of decoders (`Quiet.bind`, `Gives.bind`, `Gives.map`,
`Gives.tryCatch`), and the decoders of single values give what was written (`gives_text`,
`gives_identifier`, `gives_serviceStateKind`).

`openRecord_yields_quietly` is the result on records: an object decodes as an open record without a
note, if the decoders of the members that are fields give something. Members that are no field are
kept without a note.
-/

namespace FleetAgent.Wire

open FleetAgent.Json (Fault Node Ending)

namespace Decoder

variable {α β : Type} {x y z : List Skipped} {a b : α}

/-- The decoder `d` notes nothing where it gives a value. What it notes before it fails does not
count. -/
def Quiet (d : Decoder α) : Prop :=
  ∀ ⦃x a y⦄, d.Yields x a y → y = x

/-- The decoder `d` gives the value `a` and notes nothing, whatever was noted before. -/
def Gives (d : Decoder α) (a : α) : Prop :=
  ∀ x, d.Yields x a x

/-- From the same notes a decoder gives one value. -/
theorem Yields.unique {d : Decoder α} (h : d.Yields x a y) (h' : d.Yields x b z) :
    a = b ∧ y = z := by
  obtain ⟨hab, hyz⟩ := Prod.mk.inj (Eq.trans (Eq.symm h) h')
  exact ⟨Except.ok.inj hab, hyz⟩

/-- A decoder that gives a value gives no other one, so it is quiet. -/
theorem Gives.quiet {d : Decoder α} (h : d.Gives a) : d.Quiet :=
  fun x _ _ hy => (hy.unique (h x)).2

theorem Gives.succeeds {d : Decoder α} (h : d.Gives a) : d.Succeeds :=
  fun x => ⟨a, x, h x⟩

/-- What is given is all that may come out. -/
theorem Gives.eq_of_canYield {d : Decoder α} (h : d.Gives a) (hb : d.CanYield b) : b = a := by
  obtain ⟨x, y, hb⟩ := hb
  exact (hb.unique (h x)).1

/-! ### Building blocks -/

theorem quiet_pure : (pure a : Decoder α).Quiet :=
  fun _ _ _ h => (yields_pure.mp h).2.symm

theorem quiet_taking {r : Except Fault α} : (taking r).Quiet :=
  fun _ _ _ h => (yields_taking.mp h).2.symm

theorem quiet_mismatch {m : Mismatch} : (mismatch m : Decoder α).Quiet :=
  fun _ _ _ h => absurd h (not_yields_mismatch m)

theorem Quiet.bind {d : Decoder α} {f : α → Decoder β} (hd : d.Quiet) (hf : ∀ a, (f a).Quiet) :
    (d >>= f).Quiet := by
  intro x c y h
  obtain ⟨a, z, ha, hc⟩ := yields_bind.mp h
  rw [hf a hc, hd ha]

theorem gives_pure (a : α) : (pure a : Decoder α).Gives a :=
  fun _ => yields_pure.mpr ⟨rfl, rfl⟩

theorem gives_taking {r : Except Fault α} (h : r = .ok a) : (taking r).Gives a :=
  fun _ => yields_taking.mpr ⟨h, rfl⟩

/-- A sequence gives what the second decoder gives for what the first one gives. -/
theorem Gives.bind {d : Decoder α} {f : α → Decoder β} {c : β} (hd : d.Gives a)
    (hf : (f a).Gives c) : (d >>= f).Gives c :=
  fun x => yields_bind.mpr ⟨a, x, hd x, hf x⟩

theorem Gives.map {d : Decoder α} (hd : d.Gives a) (g : α → β) : (g <$> d).Gives (g a) :=
  fun x => yields_map.mpr ⟨a, hd x, rfl⟩

/-- What is given is not caught: a decoder that gives a value does not fail. -/
theorem Gives.tryCatch {d : Decoder α} (hd : d.Gives a) (f : DecodeError → Decoder α) :
    (tryCatch d f).Gives a :=
  fun x => yields_tryCatch.mpr (.inl (hd x))

end Decoder

open Decoder

variable {α σ : Type} {slots : List (Slot σ)} {unknown : Unknown σ}

/-! ### Single values -/

theorem gives_text (s : String) : (text (Json.text s).toNode).Gives s :=
  fun _ => yields_text.mpr ⟨rfl, rfl⟩

theorem gives_identifier {kind : Kind} (a : Identifier kind) :
    (identifier kind (Json.text a.text).toNode).Gives a :=
  fun _ => yields_identifier.mpr ⟨rfl, rfl⟩

/-- What may be `null` is read as something if it is not. -/
theorem gives_optional {d : Node → Decoder α} {n : Node} {a : α} (hn : n ≠ .null)
    (h : (d n).Gives a) : (optional d n).Gives (some a) :=
  fun x => (yields_optional_of_ne_null hn).mpr ⟨a, h x, rfl⟩

/-- A state is read off its text. -/
theorem gives_serviceStateKind {k : ServiceStateKind} (hk : k.IsCanonical) :
    (serviceStateKind (Json.text k.text).toNode).Gives k := by
  have hne : (Json.text k.text).toNode ≠ .null := fun h => Node.noConfusion h
  refine (gives_optional hne (gives_text k.text)).bind ?_
  show (pure (ServiceStateKind.ofText k.text) : Decoder ServiceStateKind).Gives k
  rw [show ServiceStateKind.ofText k.text = k from hk]
  exact gives_pure k

/-! ### Records -/

/-- A slot that is made of `get`, `set` and `d` sets its field to what `d` gives for the node. -/
theorem gives_fill_of {name : String} {hasDefault : Bool} {get : σ → Option α} {set : σ → α → σ}
    {d : Node → Decoder α} {n : Node} {a : α} (h : (d n).Gives a) (s : σ) :
    ((Slot.of name hasDefault get set d).fill s n).Gives (set s a) :=
  fun x => yields_fill_of.mpr ⟨a, h x, rfl⟩

theorem quiet_keep {depth : Nat} {add : σ → String → Json → σ} {s : σ} {key : String} {n : Node} :
    (keep depth add s key n).Quiet :=
  quiet_taking.bind fun _ => quiet_pure

/-- A member of the key `k` is filled in quietly if the slots of that name fill quietly, and
`unknown` is quiet for where there is none. -/
theorem quiet_fillMember {s : σ} {k : String} {n : Node}
    (hfill : ∀ slot ∈ slots, slot.name = k → (slot.fill s n).Quiet)
    (hunknown : (unknown s k n).Quiet) : (fillMember slots unknown s k n).Quiet := by
  unfold fillMember
  split
  next slot hslot =>
    split
    · exact quiet_mismatch
    · exact hfill slot (List.mem_of_find?_eq_some hslot) (by simpa using List.find?_some hslot)
  next => exact hunknown

/-- A walk is quiet if each of its members is, whatever was filled before. -/
theorem quiet_fillMembers {members : List (Except Fault String × Node)} {s : σ}
    (h : ∀ m ∈ members, ∀ k, m.1 = .ok k → ∀ s, (fillMember slots unknown s k m.2).Quiet) :
    (fillMembers slots unknown s members).Quiet := by
  induction members generalizing s with
  | nil => exact quiet_pure
  | cons m members ih =>
    intro x t y ht
    obtain ⟨k, hk, u, z, hu, hrest⟩ := yields_fillMembers_cons.mp ht
    rw [ih (fun m' hm' => h m' (List.mem_cons_of_mem _ hm')) hrest,
      h m List.mem_cons_self k hk s hu]

/-- **An object decodes as an open record without a note** if, for every slot that has a member in
it, the slot gives something for that member. The three hypotheses before say that the slots do not
interfere, that nothing is filled in the beginning, and that the object was taken as a value, so
that its keys are distinct. -/
theorem openRecord_yields_quietly (label : String) {depth : Nat} {add : σ → String → Json → σ}
    {init : σ} {members : List (String × Json)}
    (hsep : ∀ slot ∈ slots, slot.IsSeparate slots (keep (depth + 1) add))
    (hinit : ∀ slot ∈ slots, slot.isFilled init = false)
    (htake : (Json.object members).toNode.take depth = .ok (.object members))
    (hfields : ∀ slot ∈ slots, ∀ w, (Json.object members).get? slot.name = some w →
      ∀ s, ∃ t, (slot.fill s w.toNode).Gives t) (x : List Skipped) :
    ∃ t, (openRecord label slots (keep (depth + 1) add) init
      (Json.object members).toNode).Yields x t x := by
  have hsucceeds : (openRecord label slots (keep (depth + 1) add) init
      (Json.object members).toNode).Succeeds :=
    openRecord_succeeds hsep hinit htake fun slot hslot w hw s =>
      (hfields slot hslot w hw s).elim fun _ ht => ht.succeeds
  obtain ⟨t, y, ht⟩ := hsucceeds x
  refine ⟨t, ?_⟩
  -- That it decodes is known; it remains that the walk takes no note, which is so member by member.
  have hquiet : (fillMembers slots (keep (depth + 1) add) init
      (Json.toNodeMembers members)).Quiet := by
    refine quiet_fillMembers fun m hm k hk s => quiet_fillMember ?_ quiet_keep
    rintro slot hslot rfl
    obtain ⟨key, n⟩ := m
    obtain rfl : key = .ok slot.name := hk
    obtain ⟨w, hw, rfl⟩ := Json.mem_toNodeMembers.mp hm
    have hget := (Json.lookup_eq_some_iff (Json.sorted_of_take htake).nodup_keys).mpr hw
    obtain ⟨u, hu⟩ := hfields slot hslot w hget s
    exact hu.quiet
  have hall : (openRecord label slots (keep (depth + 1) add) init
      (Json.object members).toNode).Quiet :=
    hquiet.bind fun _ => quiet_taking.bind fun _ => quiet_pure
  rw [show y = x from hall ht] at ht
  exact ht

end FleetAgent.Wire
