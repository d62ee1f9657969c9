import FleetAgent.Json.Node
import FleetAgent.Proofs.Outcome
/-!
# Values that have been taken

The objects of a value that was taken from a text hold their members sorted by key
(`sorted_of_take`), whatever stood in the text: members are set one after the other (`setMember`),
each at its place, and a later one replaces an earlier one of its key. Such a value is as good as
the text: taken once more, at the same depth or further out, it is the same value (`take_toNode`).
So nothing is lost when a list is first taken as a value and its elements are decoded afterwards.
-/

namespace FleetAgent.Json

/-! ### Sorted members -/

/-- The members stand in the order of their keys, and every key stands once. -/
def Sorted (members : List (String × Json)) : Prop :=
  members.Pairwise (·.1 < ·.1)

theorem Sorted.nodup_keys {members : List (String × Json)} (h : Sorted members) :
    (members.map (·.1)).Nodup := by
  rw [List.Nodup, List.pairwise_map]
  exact h.imp String.ne_of_lt

/-- Only what was there and what is set is among the members. -/
theorem mem_of_mem_setMember {key : String} {value : Json} {members : List (String × Json)}
    {m : String × Json} (h : m ∈ setMember key value members) : m = (key, value) ∨ m ∈ members := by
  induction members with
  | nil => exact .inl (List.mem_singleton.mp h)
  | cons head rest ih =>
    obtain ⟨k, v⟩ := head
    rw [setMember] at h
    -- The new member comes before the first one, takes its place, or goes behind it.
    split at h
    · rcases List.mem_cons.mp h with rfl | h
      · exact .inl rfl
      · exact .inr (List.mem_cons_of_mem _ h)
    split at h
    · exact List.mem_cons.mp h
    · rcases List.mem_cons.mp h with rfl | h
      · exact .inr List.mem_cons_self
      · exact (ih h).imp_right (List.mem_cons_of_mem _)

/-- A member that is set takes its place in the order, or that of the one with its `key`. -/
theorem Sorted.setMember {members : List (String × Json)} (h : Sorted members) (key : String)
    (value : Json) : Sorted (setMember key value members) := by
  induction members with
  | nil => exact List.pairwise_singleton _ _
  | cons head rest ih =>
    obtain ⟨k, v⟩ := head
    obtain ⟨hhead, hrest⟩ := List.pairwise_cons.mp h
    rw [Json.setMember]
    split
    next heq =>
      subst heq
      exact List.pairwise_cons.mpr ⟨hhead, hrest⟩
    next hne =>
    split
    next hlt =>
      refine List.pairwise_cons.mpr ⟨fun m hm => ?_, h⟩
      rcases List.mem_cons.mp hm with rfl | hm
      · exact hlt
      · exact String.lt_trans hlt (hhead m hm)
    next hnlt =>
      -- The order is total: neither equal nor smaller leaves larger.
      have hlt : k < key := by
        rw [← Decidable.not_not (p := k < key), String.not_lt]
        exact fun hle => hne (String.le_antisymm hle (String.not_lt.mp hnlt))
      refine List.pairwise_cons.mpr ⟨fun m hm => ?_, ih hrest⟩
      rcases mem_of_mem_setMember hm with rfl | hm
      · exact hlt
      · exact hhead m hm

theorem sorted_foldl_setMember {members acc : List (String × Json)} (h : Sorted acc) :
    Sorted (members.foldl (fun acc (k, v) => setMember k v acc) acc) := by
  induction members generalizing acc with
  | nil => exact h
  | cons m members ih => exact ih (h.setMember m.1 m.2)

/-- Collected members are sorted. -/
theorem sorted_collect (members : List (String × Json)) : Sorted (collect members) :=
  sorted_foldl_setMember List.Pairwise.nil

theorem mem_of_mem_foldl_setMember {members acc : List (String × Json)} {m : String × Json}
    (h : m ∈ members.foldl (fun acc (k, v) => setMember k v acc) acc) : m ∈ acc ∨ m ∈ members := by
  induction members generalizing acc with
  | nil => exact .inl h
  | cons head members ih =>
    rcases ih h with h | h
    · rcases mem_of_mem_setMember h with rfl | h
      · exact .inr List.mem_cons_self
      · exact .inl h
    · exact .inr (List.mem_cons_of_mem _ h)

theorem mem_of_mem_collect {members : List (String × Json)} {m : String × Json}
    (h : m ∈ collect members) : m ∈ members :=
  (mem_of_mem_foldl_setMember h).resolve_left List.not_mem_nil

/-- A member whose `key` comes behind all others is set at the end. -/
theorem setMember_of_forall_lt {key : String} {members : List (String × Json)}
    (h : ∀ m ∈ members, m.1 < key) (value : Json) :
    setMember key value members = members ++ [(key, value)] := by
  induction members with
  | nil => rfl
  | cons head rest ih =>
    have hhead : head.1 < key := h head List.mem_cons_self
    rw [setMember, if_neg, if_neg (String.lt_asymm hhead),
      ih fun m hm => h m (List.mem_cons_of_mem _ hm)]
    · rfl
    · rintro rfl
      exact String.lt_irrefl _ hhead

/-- Members that come in order, behind those of `acc`, are set at the end one by one. -/
theorem foldl_setMember_of_sorted {members acc : List (String × Json)}
    (h : Sorted (acc ++ members)) :
    members.foldl (fun acc (k, v) => setMember k v acc) acc = acc ++ members := by
  induction members generalizing acc with
  | nil => exact (List.append_nil acc).symm
  | cons head rest ih =>
    have hlt : ∀ m ∈ acc, m.1 < head.1 := fun m hm =>
      (List.pairwise_append.mp h).2.2 m hm head List.mem_cons_self
    obtain ⟨k, v⟩ := head
    -- All that was collected so far comes before the key, so the member goes to the end.
    have hset : setMember k v acc = acc ++ [(k, v)] := setMember_of_forall_lt hlt v
    show rest.foldl _ (setMember k v acc) = _
    rw [hset, ih]
    · rw [List.append_assoc, List.singleton_append]
    · rwa [List.append_assoc, List.singleton_append]

/-- Members that are sorted stay as they are. -/
theorem collect_of_sorted {members : List (String × Json)} (h : Sorted members) :
    collect members = members :=
  @foldl_setMember_of_sorted members [] h

/-! ### Members by their keys -/

/-- What is found under a key is there. -/
theorem mem_of_lookup {key : String} {v : Json} {members : List (String × Json)}
    (h : lookup key members = some v) : (key, v) ∈ members := by
  induction members with
  | nil => cases h
  | cons head rest ih =>
    obtain ⟨k, w⟩ := head
    rw [lookup] at h
    split at h
    next heq =>
      subst heq
      obtain rfl := Option.some.inj h
      exact List.mem_cons_self
    next => exact List.mem_cons_of_mem _ (ih h)

/-- Among distinct keys, what is found is what is there. -/
theorem lookup_eq_some_iff {key : String} {v : Json} {members : List (String × Json)}
    (hkeys : (members.map (·.1)).Nodup) : lookup key members = some v ↔ (key, v) ∈ members := by
  refine ⟨mem_of_lookup, fun h => ?_⟩
  induction members with
  | nil => cases h
  | cons head rest ih =>
    rw [List.map_cons, List.nodup_cons] at hkeys
    rcases List.mem_cons.mp h with rfl | h
    · exact if_pos rfl
    · rw [lookup, if_neg]
      · exact ih hkeys.2 h
      · rintro rfl
        exact hkeys.1 (List.mem_map.mpr ⟨_, h, rfl⟩)

/-! ### Nodes of values -/

theorem toNodes_eq_map (items : List Json) : toNodes items = items.map toNode := by
  induction items with
  | nil => rfl
  | cons v items ih => rw [toNodes, ih, List.map_cons]

/-- The nodes of `members` are theirs one by one, each with its key. -/
theorem toNodeMembers_eq_map (members : List (String × Json)) :
    toNodeMembers members = members.map fun m => (.ok m.1, m.2.toNode) := by
  induction members with
  | nil => rfl
  | cons m members ih =>
    obtain ⟨k, v⟩ := m
    rw [toNodeMembers, ih, List.map_cons]

/-- A member `key` of the node of an object is the node of a member of that key. -/
theorem mem_toNodeMembers {key : String} {n : Node} {members : List (String × Json)} :
    (.ok key, n) ∈ toNodeMembers members ↔ ∃ v, (key, v) ∈ members ∧ v.toNode = n := by
  rw [toNodeMembers_eq_map, List.mem_map]
  constructor
  · rintro ⟨⟨k, v⟩, hm, heq⟩
    obtain ⟨hk, rfl⟩ := Prod.mk.inj heq
    obtain rfl := Except.ok.inj hk
    exact ⟨v, hm, rfl⟩
  · rintro ⟨v, hm, rfl⟩
    exact ⟨(key, v), hm, rfl⟩

/-! ### Taking once more -/

theorem Ending.take_eq_ok_iff {e : Ending} {u : Unit} : e.take = .ok u ↔ e = .closed := by
  cases e <;> simp [take]

/-- Items are taken one after the other, and the first fault ends it: of `n` comes `v`, and of the
others `ws`. -/
theorem takeItems_cons_eq_ok_iff {depth : Nat} {n : Node} {items : List Node} {vs : List Json} :
    takeItems depth (n :: items) = .ok vs ↔
      ∃ v, n.take depth = .ok v ∧ ∃ ws, takeItems depth items = .ok ws ∧ v :: ws = vs := by
  simp only [takeItems, Except.bind_eq_ok_iff, pure, Except.pure, Except.ok.injEq]

theorem takeMembers_cons_eq_ok_iff {depth : Nat} {key : Except Fault String} {n : Node}
    {members : List (Except Fault String × Node)} {vs : List (String × Json)} :
    takeMembers depth ((key, n) :: members) = .ok vs ↔
      ∃ k, key = .ok k ∧ ∃ v, n.take depth = .ok v ∧
        ∃ ws, takeMembers depth members = .ok ws ∧ (k, v) :: ws = vs := by
  simp only [takeMembers, Except.bind_eq_ok_iff, pure, Except.pure, Except.ok.injEq]

/-- An array is taken if it is not nested too deep, is `closed`, and its items are taken one level
further in. -/
theorem take_array_eq_ok_iff {depth : Nat} {items : List Node} {ending : Ending} {v : Json} :
    (Node.array items ending).take depth = .ok v ↔
      depth < maxNesting ∧ ending = .closed ∧
        ∃ vs, takeItems (depth + 1) items = .ok vs ∧ .array vs = v := by
  rw [Node.take]
  split
  next hdeep =>
    exact ⟨fun h => (nomatch h), fun h => absurd h.1 (Nat.not_lt.mpr hdeep)⟩
  next hdeep =>
    simp only [Except.bind_eq_ok_iff, pure, Except.pure, Except.ok.injEq, Ending.take_eq_ok_iff]
    constructor
    · rintro ⟨vs, hvs, -, hend, hv⟩
      exact ⟨Nat.not_le.mp hdeep, hend, vs, hvs, hv⟩
    · rintro ⟨-, hend, vs, hvs, hv⟩
      exact ⟨vs, hvs, (), hend, hv⟩

theorem take_object_eq_ok_iff {depth : Nat} {members : List (Except Fault String × Node)}
    {ending : Ending} {v : Json} :
    (Node.object members ending).take depth = .ok v ↔
      depth < maxNesting ∧ ending = .closed ∧
        ∃ vs, takeMembers (depth + 1) members = .ok vs ∧ .object (collect vs) = v := by
  rw [Node.take]
  split
  next hdeep =>
    exact ⟨fun h => (nomatch h), fun h => absurd h.1 (Nat.not_lt.mpr hdeep)⟩
  next hdeep =>
    simp only [Except.bind_eq_ok_iff, pure, Except.pure, Except.ok.injEq, Ending.take_eq_ok_iff]
    constructor
    · rintro ⟨vs, hvs, -, hend, hv⟩
      exact ⟨Nat.not_le.mp hdeep, hend, vs, hvs, hv⟩
    · rintro ⟨-, hend, vs, hvs, hv⟩
      exact ⟨vs, hvs, (), hend, hv⟩

/-- An object that was taken was written as one. -/
theorem exists_of_take_eq_object {depth : Nat} {n : Node} {members : List (String × Json)}
    (h : n.take depth = .ok (.object members)) :
    ∃ written vs, n = .object written .closed ∧ takeMembers (depth + 1) written = .ok vs ∧
      members = collect vs := by
  match n with
  | .object written ending =>
    obtain ⟨-, rfl, vs, hvs, hv⟩ := take_object_eq_ok_iff.mp h
    exact ⟨written, vs, rfl, hvs, (Json.object.inj hv).symm⟩
  | .array _ _ =>
    obtain ⟨-, -, vs, -, hv⟩ := take_array_eq_ok_iff.mp h
    cases hv
  | .null | .boolean _ | .number (some _) | .text (.ok _) => cases h
  | .number none | .text (.error _) | .broken _ _ => cases h

/-- The objects of a value that was taken are sorted. -/
theorem sorted_of_take {depth : Nat} {n : Node} {members : List (String × Json)}
    (h : n.take depth = .ok (.object members)) : Sorted members := by
  obtain ⟨_, vs, -, -, rfl⟩ := exists_of_take_eq_object h
  exact sorted_collect vs

/-- Members whose values are taken as they are within `depth` arrays and objects, are taken as they
are. -/
theorem takeMembers_toNodeMembers_of_forall {depth : Nat} {members : List (String × Json)}
    (h : ∀ m ∈ members, m.2.toNode.take depth = .ok m.2) :
    takeMembers depth (toNodeMembers members) = .ok members := by
  induction members with
  | nil => rfl
  | cons m members ih =>
    obtain ⟨k, v⟩ := m
    exact takeMembers_cons_eq_ok_iff.mpr ⟨k, rfl, v, h _ List.mem_cons_self, members,
      ih fun m hm => h m (List.mem_cons_of_mem _ hm), rfl⟩

mutual

/-- **A value that was taken is taken as it is**, at the same depth or further `outer`. An object's
members were collected, and what is sorted stays so (`collect_of_sorted`). -/
theorem take_toNode : ∀ {n : Node} {depth outer : Nat} {v : Json},
    n.take depth = .ok v → outer ≤ depth → v.toNode.take outer = .ok v
  | .null, _, _, _, h, _ | .boolean _, _, _, _, h, _ | .number (some _), _, _, _, h, _
  | .text (.ok _), _, _, _, h, _ => by
    cases h
    rfl
  | .number none, _, _, _, h, _ | .text (.error _), _, _, _, h, _ | .broken _ _, _, _, _, h, _ => by
    cases h
  | .array items ending, depth, outer, _, h, hle => by
    obtain ⟨hdepth, -, vs, hvs, rfl⟩ := take_array_eq_ok_iff.mp h
    have := takeItems_toNodes hvs (Nat.succ_le_succ hle)
    exact take_array_eq_ok_iff.mpr ⟨Nat.lt_of_le_of_lt hle hdepth, rfl, vs, this, rfl⟩
  | .object members ending, depth, outer, _, h, hle => by
    obtain ⟨hdepth, -, vs, hvs, rfl⟩ := take_object_eq_ok_iff.mp h
    -- The members come out sorted, so collecting them a second time changes nothing.
    have hmembers := takeMembers_toNode hvs (Nat.succ_le_succ hle)
    refine take_object_eq_ok_iff.mpr ⟨Nat.lt_of_le_of_lt hle hdepth, rfl, collect vs, ?_, ?_⟩
    · exact takeMembers_toNodeMembers_of_forall fun m hm => hmembers m (mem_of_mem_collect hm)
    · rw [collect_of_sorted (sorted_collect vs)]

theorem takeItems_toNodes : ∀ {items : List Node} {depth outer : Nat} {vs : List Json},
    takeItems depth items = .ok vs → outer ≤ depth → takeItems outer (toNodes vs) = .ok vs
  | [], _, _, _, h, _ => by
    cases h
    rfl
  | n :: items, _, _, _, h, hle => by
    obtain ⟨v, hv, ws, hws, rfl⟩ := takeItems_cons_eq_ok_iff.mp h
    exact takeItems_cons_eq_ok_iff.mpr
      ⟨v, take_toNode hv hle, ws, takeItems_toNodes hws hle, rfl⟩

theorem takeMembers_toNode : ∀ {members : List (Except Fault String × Node)} {depth outer : Nat}
    {vs : List (String × Json)}, takeMembers depth members = .ok vs → outer ≤ depth →
      ∀ m ∈ vs, m.2.toNode.take outer = .ok m.2
  | [], _, _, _, h, _ => by
    cases h
    exact fun m hm => absurd hm List.not_mem_nil
  | (key, n) :: members, _, _, _, h, hle => by
    obtain ⟨k, -, v, hv, ws, hws, rfl⟩ := takeMembers_cons_eq_ok_iff.mp h
    intro m hm
    rcases List.mem_cons.mp hm with rfl | hm
    · exact take_toNode hv hle
    · exact takeMembers_toNode hws hle m hm

end

/-- What a member `m` of an object holds was taken one level further in. -/
theorem take_toNode_of_mem {n : Node} {depth outer : Nat} {members : List (String × Json)}
    (h : n.take depth = .ok (.object members)) (hle : outer ≤ depth + 1) {m : String × Json}
    (hm : m ∈ members) : m.2.toNode.take outer = .ok m.2 := by
  obtain ⟨_, vs, -, hvs, rfl⟩ := exists_of_take_eq_object h
  exact takeMembers_toNode hvs hle m (mem_of_mem_collect hm)

/-- The items `vs` of an array that were taken are what its nodes give. -/
theorem mem_iff_of_takeItems {depth : Nat} {items : List Node} {vs : List Json}
    (h : takeItems depth items = .ok vs) {v : Json} :
    v ∈ vs ↔ ∃ n ∈ items, n.take depth = .ok v := by
  induction items generalizing vs with
  | nil =>
    cases h
    simp
  | cons n items ih =>
    obtain ⟨w, hw, ws, hws, rfl⟩ := takeItems_cons_eq_ok_iff.mp h
    simp only [List.mem_cons, ih hws, exists_eq_or_imp, hw, Except.ok.injEq]
    rw [eq_comm]

theorem exists_of_takeItems {depth : Nat} {items : List Node} {vs : List Json}
    (h : takeItems depth items = .ok vs) {n : Node} (hn : n ∈ items) :
    ∃ v ∈ vs, n.take depth = .ok v := by
  induction items generalizing vs with
  | nil => cases hn
  | cons m items ih =>
    obtain ⟨w, hw, ws, hws, rfl⟩ := takeItems_cons_eq_ok_iff.mp h
    rcases List.mem_cons.mp hn with rfl | hn
    · exact ⟨w, List.mem_cons_self, hw⟩
    · obtain ⟨v, hv, htake⟩ := ih hws hn
      exact ⟨v, List.mem_cons_of_mem _ hv, htake⟩

/-- The keys of the `members` of an object that was taken are distinct, for they are sorted. -/
theorem Sorted.nodup_keys_toNodeMembers {members : List (String × Json)} (h : Sorted members) :
    ((toNodeMembers members).map (·.1)).Nodup := by
  rw [toNodeMembers_eq_map, List.Nodup, List.pairwise_map, List.pairwise_map]
  exact h.imp fun hlt heq => String.ne_of_lt hlt (Except.ok.inj heq)

/-! ### Passing over values -/

mutual

/-- A value is passed over without a fault. -/
theorem pass_toNode : ∀ v : Json, v.toNode.pass = .ok ()
  | .null | .boolean _ | .number _ | .text _ => rfl
  | .array items => by
    rw [toNode, Node.pass, passItems_toNodes items]
    rfl
  | .object members => by
    rw [toNode, Node.pass, passMembers_toNodeMembers members]
    rfl

theorem passItems_toNodes : ∀ items : List Json, passItems (toNodes items) = .ok ()
  | [] => rfl
  | v :: items => by
    rw [toNodes, passItems, pass_toNode v]
    exact passItems_toNodes items

theorem passMembers_toNodeMembers :
    ∀ members : List (String × Json), passMembers (toNodeMembers members) = .ok ()
  | [] => rfl
  | (key, v) :: members => by
    rw [toNodeMembers, passMembers, pass_toNode v]
    exact passMembers_toNodeMembers members

end

end FleetAgent.Json
