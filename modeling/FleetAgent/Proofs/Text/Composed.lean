import FleetAgent.Text.Composed
/-!
# What composing keeps

A character `c` that is no composite, is not part of one, and is no mark is not changed when a text
is composed (`mem_composed`). `StandsAlone c` says so, and each step of composing keeps such a
character: taking apart, ordering marks, and putting together. Blanks are of this kind
(`StandsAlone.of_blank`), because all characters of `compositePairs` come after them.
-/

namespace FleetAgent.Text

/-- The character `c` is not written as a pair, and no pair with `c` is written as one character. -/
structure StandsAlone (c : Char) : Prop where
  /-- It is not taken apart. -/
  pair?_eq : pair? c = none
  /-- Nothing is put together with it on the left. -/
  composite?_left (d : Char) : composite? c d = none
  /-- Nothing is put together with it on the right. -/
  composite?_right (d : Char) : composite? d c = none

/-! ### Blanks -/

/-- All three characters of a row of `compositePairs` come after the blanks. -/
theorem lt_of_mem_compositePairs {n a b : Nat} (h : (n, a, b) ∈ compositePairs) :
    0x20 < n ∧ 0x20 < a ∧ 0x20 < b := by
  have hall : compositePairs.all
      (fun row => 0x20 < row.1 && 0x20 < row.2.1 && 0x20 < row.2.2) = true := by decide +kernel
  simpa [and_assoc] using List.all_eq_true.mp hall _ h

/-- A pair is not put together if neither the rule for syllables nor a row of `compositePairs` does
so. -/
theorem composite?_eq_none {a b : Char} (hhangul : hangulComposite? a.toNat b.toNat = none)
    (h : ∀ n, (n, a.toNat, b.toNat) ∉ compositePairs) : composite? a b = none := by
  rw [composite?, hhangul, List.find?_eq_none.mpr]
  · rfl
  · rintro ⟨n, pair⟩ hmem hpair
    rw [eq_of_beq hpair] at hmem
    exact h n hmem

/-- Blanks stand alone: syllables and the characters of `compositePairs` come after them. -/
theorem StandsAlone.of_blank {c : Char} (hc : c.toNat ≤ 0x20) : StandsAlone c := by
  constructor
  · have hhangul : hangulPair? c.toNat = none := by
      rw [hangulPair?, if_pos (.inl (by omega))]
    -- No row of the table is that of a blank.
    have hfind : compositePairs.find? (·.1 == c.toNat) = none := by
      rw [List.find?_eq_none]
      rintro ⟨n, a, b⟩ hmem heq
      have hlt := lt_of_mem_compositePairs hmem
      have hn : n = c.toNat := eq_of_beq heq
      omega
    rw [pair?, hhangul, hfind]
    rfl
  · intro d
    refine composite?_eq_none ?_ fun n hmem => ?_
    · rw [hangulComposite?, if_neg (by omega), if_neg (by omega)]
    · have hlt := lt_of_mem_compositePairs hmem
      omega
  · intro d
    refine composite?_eq_none ?_ fun n hmem => ?_
    · rw [hangulComposite?, if_neg (by omega), if_neg (by omega)]
    · have hlt := lt_of_mem_compositePairs hmem
      omega

/-! ### The steps of composing -/

variable {c d : Char} {cs : List Char}

theorem mem_splitPairs (hc : pair? c = none) (h : c ∈ cs) : c ∈ splitPairs cs :=
  List.mem_flatMap.mpr ⟨c, h, by rw [hc]; exact List.mem_singleton_self c⟩

theorem mem_takeApart (hc : pair? c = none) (h : c ∈ cs) : c ∈ takeApart cs :=
  mem_splitPairs hc (mem_splitPairs hc (mem_splitPairs hc (mem_splitPairs hc h)))

theorem mem_insertOrdered : c ∈ insertOrdered d cs ↔ c = d ∨ c ∈ cs := by
  induction cs with
  | nil => exact List.mem_singleton.trans (by simp)
  | cons e cs ih =>
    rw [insertOrdered]
    split
    · rw [List.mem_cons, ih, List.mem_cons, or_left_comm]
    · exact List.mem_cons

/-- `orderMarks` only changes places. -/
theorem mem_orderMarks : c ∈ orderMarks cs ↔ c ∈ cs := by
  have hfold (before : List Char) :
      c ∈ cs.foldl (fun before c => insertOrdered c before) before ↔ c ∈ before ∨ c ∈ cs := by
    induction cs generalizing before with
    | nil => simp
    | cons d cs ih =>
      rw [List.foldl_cons, ih, mem_insertOrdered, List.mem_cons, or_assoc, or_left_comm]
  rw [orderMarks, List.mem_reverse, hfold]
  simp

namespace PartlyComposed

variable {p : PartlyComposed}

/-- What a text `p` holds so far: the marks, the base, and what is finished. -/
theorem mem_text : c ∈ p.text ↔ c ∈ p.marks ∨ p.base? = some c ∨ c ∈ p.finished := by
  simp only [text, List.mem_reverse, List.mem_append, Option.mem_toList, or_assoc]

/-- What is put together with `d` is the base, so that `c` stays where it is. -/
theorem mem_text_add (hc : StandsAlone c) (h : c ∈ p.text) : c ∈ (p.add d).text := by
  rw [mem_text] at h
  rw [add]
  split
  next base hbase =>
    -- The base is replaced by what it is put together with, so it is not `c`.
    have hne : p.base? ≠ some c := by
      rintro heq
      rw [heq, Option.bind_some, hc.composite?_left, ite_self] at hbase
      cases hbase
    rw [mem_text]
    exact h.imp_right fun h => .inr (h.resolve_left hne)
  next =>
    split <;> rw [mem_text]
    · simp only [List.mem_append, Option.mem_toList, or_assoc]
      exact .inr (.inr h)
    · exact h.imp_left (List.mem_cons_of_mem _)

theorem mem_text_add_self (hc : StandsAlone c) : c ∈ (p.add c).text := by
  have htaken : (if p.blocks c then none else p.base?.bind (composite? · c)) = none := by
    split
    · rfl
    · exact Option.bind_eq_none_iff.mpr fun d _ => hc.composite?_right d
  rw [add, htaken]
  dsimp only
  split <;> rw [mem_text] <;> simp

end PartlyComposed

/-- A character `c` that stands alone is kept when a text is put together, by induction on the
text. -/
theorem mem_putTogether (hc : StandsAlone c) (h : c ∈ cs) : c ∈ putTogether cs := by
  have hkept (cs : List Char) {p : PartlyComposed} (h : c ∈ p.text) :
      c ∈ (cs.foldl PartlyComposed.add p).text := by
    induction cs generalizing p with
    | nil => exact h
    | cons d cs ih => exact ih (PartlyComposed.mem_text_add hc h)
  -- The text is cut at `c`: what is put together before `c` is added does not matter.
  obtain ⟨before, after, rfl⟩ := List.append_of_mem h
  rw [putTogether, List.foldl_append, List.foldl_cons]
  exact hkept after (PartlyComposed.mem_text_add_self hc)

/-- A character `c` that stands alone is still there when the text is composed. -/
theorem mem_composed (hc : StandsAlone c) (h : c ∈ cs) : c ∈ composed cs :=
  mem_putTogether hc (mem_orderMarks.mpr (mem_takeApart hc.pair?_eq h))

end FleetAgent.Text
