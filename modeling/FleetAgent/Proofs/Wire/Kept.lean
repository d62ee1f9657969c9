import FleetAgent.Proofs.Wire.Quiet
/-!
# What an open record keeps

An open record keeps the members that are none of its fields, as they are (`IsOpen.keeps`);
`beside names members` are those members. If the value was taken from a text, they are sorted, have
other names than the fields, and can be taken once more: they are `Kept`.

Written behind the fields, they come out again as they were (`Kept.beside_collect`). Reading sorts
the `fields` in among the `extra` members by `Json.collect`, but no two of them have one key, so
that none replaces another. Hence a member is collected exactly if it is one of them
(`Json.mem_collect`), and sorted members are determined by that (`Json.Sorted.eq_of_mem_iff`). In
the same way the fields are found under their names (`Kept.get?_collect`).

`IsOpen.yields_written` puts both together: if the fields that were written decode, an open record
fills them and keeps what stood behind them.
-/

namespace FleetAgent.Json

/-! ### Members with distinct keys -/

/-- What is set under a key stands there. -/
theorem mem_setMember_self (key : String) (value : Json) (members : List (String × Json)) :
    (key, value) ∈ setMember key value members := by
  induction members with
  | nil => exact List.mem_singleton_self _
  | cons head rest ih =>
    obtain ⟨k, v⟩ := head
    rw [setMember]
    split
    · exact List.mem_cons_self
    split
    · exact List.mem_cons_self
    · exact List.mem_cons_of_mem _ ih

/-- Setting a key leaves the members of other keys. -/
theorem mem_setMember_of_ne {key : String} {value : Json} {members : List (String × Json)}
    {m : String × Json} (hm : m ∈ members) (hne : m.1 ≠ key) : m ∈ setMember key value members := by
  induction members with
  | nil => cases hm
  | cons head rest ih =>
    obtain ⟨k, v⟩ := head
    rw [setMember]
    split
    next hkey =>
      refine List.mem_cons_of_mem _ ((List.mem_cons.mp hm).resolve_left ?_)
      rintro rfl
      exact hne hkey.symm
    split
    · exact List.mem_cons_of_mem _ hm
    · rcases List.mem_cons.mp hm with rfl | hm
      · exact List.mem_cons_self
      · exact List.mem_cons_of_mem _ (ih hm)

/-- Members with distinct keys are all set, and what `acc` holds under other keys stays. -/
theorem mem_foldl_setMember {members acc : List (String × Json)} {m : String × Json}
    (hkeys : (members.map (·.1)).Nodup)
    (hm : m ∈ members ∨ m ∈ acc ∧ m.1 ∉ members.map (·.1)) :
    m ∈ members.foldl (fun acc (k, v) => setMember k v acc) acc := by
  induction members generalizing acc with
  | nil => exact (hm.resolve_left List.not_mem_nil).1
  | cons head members ih =>
    rw [List.map_cons, List.nodup_cons] at hkeys
    refine ih hkeys.2 ?_
    rcases hm with hm | ⟨hm, hne⟩
    · rcases List.mem_cons.mp hm with rfl | hm
      · exact .inr ⟨mem_setMember_self _ _ _, hkeys.1⟩
      · exact .inl hm
    · rw [List.map_cons, List.mem_cons, not_or] at hne
      exact .inr ⟨mem_setMember_of_ne hm hne.1, hne.2⟩

/-- Members with distinct keys are all collected. -/
theorem mem_collect {members : List (String × Json)} (hkeys : (members.map (·.1)).Nodup)
    {m : String × Json} : m ∈ collect members ↔ m ∈ members :=
  ⟨mem_of_mem_collect, fun hm => mem_foldl_setMember hkeys (.inl hm)⟩

/-- What stands under a `key` is not changed by collecting members with distinct keys. -/
theorem lookup_collect {members : List (String × Json)} (hkeys : (members.map (·.1)).Nodup)
    (key : String) : lookup key (collect members) = lookup key members := by
  ext v
  rw [lookup_eq_some_iff (sorted_collect members).nodup_keys, lookup_eq_some_iff hkeys,
    mem_collect hkeys]

/-- Sorted members are determined by what is among them. -/
theorem Sorted.eq_of_mem_iff {members others : List (String × Json)} (h : Sorted members)
    (h' : Sorted others) (hmem : ∀ m, m ∈ members ↔ m ∈ others) : members = others := by
  have hnodup : ∀ {l : List (String × Json)}, Sorted l → l.Nodup := fun hl =>
    hl.imp fun hlt heq => String.ne_of_lt hlt (congrArg Prod.fst heq)
  have hperm : members.Perm others :=
    (List.perm_ext_iff_of_nodup (hnodup h) (hnodup h')).mpr hmem
  exact hperm.eq_of_pairwise (fun a b _ _ hab hba => absurd hba (String.lt_asymm hab)) h h'

/-- A `key` that does not stand in the `others` is looked up in the members before them. -/
theorem lookup_append_of_not_mem {key : String} {members others : List (String × Json)}
    (h : ∀ m ∈ others, m.1 ≠ key) : lookup key (members ++ others) = lookup key members := by
  induction members with
  | nil =>
    cases hl : lookup key others with
    | none => exact hl
    | some v => exact absurd rfl (h _ (mem_of_lookup hl))
  | cons head members ih =>
    obtain ⟨k, v⟩ := head
    rw [List.cons_append, lookup, lookup, ih]

/-- A `key` that does not stand in the members is looked up in the `others` behind them. -/
theorem lookup_append_of_not_mem_left {key : String} {members others : List (String × Json)}
    (h : ∀ m ∈ members, m.1 ≠ key) : lookup key (members ++ others) = lookup key others := by
  induction members with
  | nil => rfl
  | cons head members ih =>
    obtain ⟨hhead, hrest⟩ := List.forall_mem_cons.mp h
    obtain ⟨k, v⟩ := head
    rw [List.cons_append, lookup, if_neg hhead, ih hrest]

end FleetAgent.Json

namespace FleetAgent.Wire

open FleetAgent.Json (Node)
open Decoder

/-! ### Members beside the fields -/

/-- The members that are none of the fields of these names. -/
def beside (names : List String) (members : Extra) : Extra :=
  members.filter fun m => m.1 ∉ names

/-- A member stands beside the fields if it is a member and has none of their `names`. -/
theorem mem_beside {names : List String} {members : Extra} {m : String × Json} :
    m ∈ beside names members ↔ m ∈ members ∧ m.1 ∉ names := by
  rw [beside, List.mem_filter, decide_eq_true_iff]

/-- What stands under a `key` that is no field stands there beside the fields as well. -/
theorem lookup_beside {names : List String} {members : Extra} {key : String} (hkey : key ∉ names) :
    Json.lookup key (beside names members) = Json.lookup key members := by
  induction members with
  | nil => rfl
  | cons m members ih =>
    obtain ⟨k, v⟩ := m
    by_cases hk : k ∈ names
    · have hne : k ≠ key := fun heq => hkey (heq ▸ hk)
      rw [beside, List.filter_cons_of_neg (by simpa using hk), Json.lookup, if_neg hne]
      exact ih
    · rw [beside, List.filter_cons_of_pos (by simpa using hk), Json.lookup, Json.lookup]
      exact congrArg _ ih

/-- The members `extra` are such as a record keeps beside the fields of these `names`, where they
stand within `depth` arrays and objects. -/
structure Kept (depth : Nat) (names : List String) (extra : Extra) : Prop where
  /-- They are sorted. -/
  sorted : Json.Sorted extra
  /-- They are no fields. -/
  apart : ∀ m ∈ extra, m.1 ∉ names
  /-- They are taken as they are. -/
  taken : ∀ m ∈ extra, m.2.toNode.take depth = .ok m.2

/-- What an object that was taken holds beside the fields of these `names` is `Kept` as it is. -/
theorem kept_beside {depth : Nat} {names : List String} {members : Extra}
    (htake : (Json.object members).toNode.take depth = .ok (.object members)) :
    Kept (depth + 1) names (beside names members) where
  sorted := (Json.sorted_of_take htake).sublist List.filter_sublist
  apart _ hm := (mem_beside.mp hm).2
  taken _ hm := Json.take_toNode_of_mem htake (Nat.le_refl _) (mem_beside.mp hm).1

/-- How an open record within `depth` arrays and objects is filled: `add` sets the members that are
no field, which are seen through `get`, and nothing else touches them. -/
structure IsOpen {σ : Type} (depth : Nat) (slots : List (Slot σ)) (add : σ → String → Json → σ)
    (init : σ) (get : σ → Extra) : Prop where
  /-- Each field is filled by its slot only. -/
  separate : ∀ slot ∈ slots, slot.IsSeparate slots (keep (depth + 1) add)
  /-- No field is filled in the beginning. -/
  unfilled : ∀ slot ∈ slots, slot.isFilled init = false
  /-- Nothing is kept in the beginning. -/
  empty : get init = []
  /-- A member that is no field is set. -/
  sets : ∀ s k v, get (add s k v) = Json.setMember k v (get s)
  /-- Fields are not kept. -/
  leaves : ∀ slot ∈ slots, Keeps get slot.fill

section Walk

variable {σ : Type} {outer : Nat} {slots : List (Slot σ)} {add : σ → String → Json → σ} {init : σ}
  {get : σ → Extra} (hopen : IsOpen outer slots add init get)
include hopen

/-- A member `m` that is a field leaves what `get` sees, and any other is set there. -/
theorem IsOpen.fillMember {depth : Nat} {s t : σ} {m : String × Json}
    (htake : m.2.toNode.take depth = .ok m.2) {x y : List Skipped}
    (h : (Wire.fillMember slots (keep depth add) s m.1 m.2.toNode).Yields x t y) :
    get t = if m.1 ∈ slots.map (·.name) then get s else Json.setMember m.1 m.2 (get s) := by
  unfold Wire.fillMember at h
  split at h
  -- A slot has that name, so the member is a field.
  next slot hslot =>
    have hmem := List.mem_of_find?_eq_some hslot
    have hname : slot.name = m.1 := by simpa using List.find?_some hslot
    rw [if_pos (List.mem_map.mpr ⟨slot, hmem, hname⟩)]
    split at h
    · exact absurd h (not_yields_mismatch _)
    · exact hopen.leaves slot hmem h
  next hnone =>
    rw [if_neg]
    · simp only [keep, yields_bind, yields_taking, yields_pure, htake, Except.ok.injEq] at h
      obtain ⟨_, _, ⟨rfl, rfl⟩, rfl, -⟩ := h
      exact hopen.sets s m.1 m.2
    · intro hmem
      obtain ⟨slot, hslot, hname⟩ := List.mem_map.mp hmem
      exact List.find?_eq_none.mp hnone slot hslot (beq_iff_eq.mpr hname)

/-- A walk sets the `members` that are no field, one after the other, and `get` sees just these. -/
theorem IsOpen.fillMembers {depth : Nat} {s t : σ} {members : Extra}
    (htake : ∀ m ∈ members, m.2.toNode.take depth = .ok m.2) {x y : List Skipped}
    (h : (Wire.fillMembers slots (keep depth add) s (Json.toNodeMembers members)).Yields x t y) :
    get t = (beside (slots.map (·.name)) members).foldl
      (fun acc (k, v) => Json.setMember k v acc) (get s) := by
  induction members generalizing s x with
  | nil =>
    obtain ⟨rfl, -⟩ := yields_pure.mp h
    rfl
  | cons m members ih =>
    obtain ⟨k, hk, u, z, hu, hrest⟩ := yields_fillMembers_cons.mp h
    obtain rfl : m.1 = k := Except.ok.inj hk
    have hhead := hopen.fillMember (htake m List.mem_cons_self) hu
    rw [ih (fun m' hm' => htake m' (List.mem_cons_of_mem _ hm')) hrest, hhead]
    by_cases hm : m.1 ∈ slots.map (·.name)
    · rw [if_pos hm, beside, beside, List.filter_cons_of_neg (by simpa using hm)]
    · rw [if_neg hm, beside, beside, List.filter_cons_of_pos (by simpa using hm)]
      rfl

/-- **An open record keeps the members that are none of its fields**, as they are. They are sorted
as those of the object are, so setting them one after the other gives the same list. -/
theorem IsOpen.keeps {label : String} {depth : Nat} {t : σ} {members : Extra}
    (htake : (Json.object members).toNode.take depth = .ok (.object members)) (hle : outer ≤ depth)
    {x y : List Skipped}
    (h : (openRecord label slots (keep (outer + 1) add) init
      (Json.object members).toNode).Yields x t y) :
    get t = beside (slots.map (·.name)) members := by
  obtain ⟨u, z, hu, hend⟩ := yields_bind.mp h
  obtain ⟨_, _, _, hpure⟩ := yields_bind.mp hend
  obtain ⟨rfl, -⟩ := yields_pure.mp hpure
  have htaken : ∀ m ∈ members, m.2.toNode.take (outer + 1) = .ok m.2 := fun m hm =>
    Json.take_toNode_of_mem htake (Nat.succ_le_succ hle) hm
  rw [hopen.fillMembers htaken hu, hopen.empty]
  exact Json.collect_of_sorted (kept_beside htake).sorted

end Walk

/-! ### Fields written before what is kept -/

/-- Members that are written as the fields of these names: each of them once at most, and each is
taken as it is. -/
structure Fields (depth : Nat) (names : List String) (fields : Extra) : Prop where
  /-- No field stands twice. -/
  nodup : (fields.map (·.1)).Nodup
  /-- They are fields. -/
  named : ∀ m ∈ fields, m.1 ∈ names
  /-- They are taken as they are. -/
  taken : ∀ m ∈ fields, m.2.toNode.take depth = .ok m.2

namespace Kept

variable {depth : Nat} {names : List String} {fields extra : Extra}

theorem nodup_append (h : Kept depth names extra) (hf : Fields depth names fields) :
    ((fields ++ extra).map (·.1)).Nodup := by
  rw [List.map_append, List.nodup_append]
  refine ⟨hf.nodup, h.sorted.nodup_keys, ?_⟩
  intro k hk k' hk' heq
  obtain ⟨m, hm, rfl⟩ := List.mem_map.mp hk
  obtain ⟨m', hm', rfl⟩ := List.mem_map.mp hk'
  exact h.apart m' hm' (heq ▸ hf.named m hm)

/-- **What was kept is beside the fields again** after `extra` was written behind the `fields` and
read. Both sides are sorted, so it is enough that they have the same members. -/
theorem beside_collect (h : Kept depth names extra) (hf : Fields depth names fields) :
    beside names (Json.collect (fields ++ extra)) = extra := by
  have hsorted : Json.Sorted (beside names (Json.collect (fields ++ extra))) :=
    (Json.sorted_collect _).sublist List.filter_sublist
  refine hsorted.eq_of_mem_iff h.sorted fun m => ?_
  rw [mem_beside, Json.mem_collect (h.nodup_append hf), List.mem_append]
  constructor
  · rintro ⟨hm | hm, hname⟩
    · exact absurd (hf.named m hm) hname
    · exact hm
  · intro hm
    exact ⟨.inr hm, h.apart m hm⟩

/-- The fields are read as they were written: under a `key` that is the name of a field stands what
was written of it, for nothing that is kept has that name. -/
theorem get?_collect (h : Kept depth names extra) (hf : Fields depth names fields) {key : String}
    (hkey : key ∈ names) :
    (Json.object (Json.collect (fields ++ extra))).get? key = Json.lookup key fields := by
  rw [Json.get?, Json.lookup_collect (h.nodup_append hf)]
  refine Json.lookup_append_of_not_mem fun m hm => ?_
  rintro rfl
  exact h.apart m hm hkey

/-- What is written is taken within `depth` arrays and objects, as the collected members, if a text
may be nested one level deeper. -/
theorem take_written (h : Kept (depth + 1) names extra) (hf : Fields (depth + 1) names fields)
    (hdepth : depth < Json.maxNesting) :
    (Json.object (fields ++ extra)).toNode.take depth =
      .ok (.object (Json.collect (fields ++ extra))) := by
  refine Json.take_object_eq_ok_iff.mpr ⟨hdepth, rfl, fields ++ extra, ?_, rfl⟩
  refine Json.takeMembers_toNodeMembers_of_forall fun m hm => ?_
  exact (List.mem_append.mp hm).elim (hf.taken m) (h.taken m)

end Kept

/-! ### Records that were written -/

/-- **An open record is read as it was written**: if every field that was written decodes
(`hgives`), the fields are filled without a note, and what was written behind them is kept as it
was. -/
theorem IsOpen.yields_written {σ : Type} {depth outer : Nat} {slots : List (Slot σ)}
    {add : σ → String → Json → σ} {init : σ} {get : σ → Extra}
    (hopen : IsOpen outer slots add init get) (label : String) {fields extra : Extra}
    (hkept : Kept (depth + 1) (slots.map (·.name)) extra)
    (hfields : Fields (depth + 1) (slots.map (·.name)) fields) (hdepth : depth < Json.maxNesting)
    (hle : outer ≤ depth)
    (hgives : ∀ slot ∈ slots, ∀ w, Json.lookup slot.name fields = some w →
      ∀ s, ∃ t, (slot.fill s w.toNode).Gives t) (x : List Skipped) :
    ∃ t, (openRecord label slots (keep (outer + 1) add) init
        (Json.object (Json.collect (fields ++ extra))).toNode).Yields x t x ∧ get t = extra := by
  have htake := Json.take_toNode (hkept.take_written hfields hdepth) hle
  obtain ⟨t, ht⟩ := openRecord_yields_quietly label hopen.separate hopen.unfilled htake
    (fun slot hslot w hw s => by
      rw [hkept.get?_collect hfields (List.mem_map_of_mem hslot)] at hw
      exact hgives slot hslot w hw s) x
  refine ⟨t, ht, ?_⟩
  rw [hopen.keeps htake (Nat.le_refl _) ht]
  exact hkept.beside_collect hfields

section Fields

variable {α : Type} {name : String} {place : Nat} {d : Node → Decoder α} {members : Extra}
  {r : Option α}

/-- A field holds what its member decodes to. -/
theorem FieldGives.eq_some {w : Json} {a : α}
    (h : FieldGives name place d (Json.object members).toNode r)
    (hget : (Json.object members).get? name = some w) (hd : (d w.toNode).Gives a) :
    r = some a := by
  obtain ⟨b, hb, hr⟩ := h.1 _ (hasField_of_get? place hget)
  rw [hr, hd.eq_of_canYield hb]

/-- A field without a member holds nothing. -/
theorem FieldGives.eq_none (h : FieldGives name place d (Json.object members).toNode r)
    (hsorted : Json.Sorted members) (hget : (Json.object members).get? name = none) :
    r = none := by
  have hnone := h.of_object hsorted
  rwa [hget] at hnone

end Fields

end FleetAgent.Wire
