import FleetAgent.Text.Cut
/-!
# The first mark of a text

Cutting a text `cs` at the first occurrence of `piece` gives the parts `a` and `b` on its two sides;
with the piece between them they are the whole (`of_splitAtText`). The first occurrence stays the
first when the text goes on (`splitAtText_append`), since a piece that does not begin at a place
does not begin there in a longer text, if there was room for it (`stripLeading_append_eq_none`).
-/

namespace FleetAgent.Text

/-- A text is not cut at `c` exactly if `c` is not in it. -/
theorem splitOnce_eq_none_iff {c : Char} {cs : List Char} : splitOnce c cs = none ↔ c ∉ cs := by
  induction cs with
  | nil => exact iff_of_true rfl List.not_mem_nil
  | cons d cs ih =>
    rw [splitOnce, List.mem_cons, not_or, ← ih]
    split
    next heq => exact iff_of_false (Option.some_ne_none _) fun h => h.1 heq.symm
    next hne =>
      rw [Option.map_eq_none_iff]
      exact (and_iff_right (Ne.symm hne)).symm

variable {piece cs rest : List Char}

theorem of_stripLeading (h : stripLeading piece cs = some rest) : cs = piece ++ rest := by
  induction piece generalizing cs with
  | nil => exact Option.some.inj h
  | cons p ps ih =>
    cases cs with
    | nil => cases h
    | cons c cs =>
      rw [stripLeading] at h
      split at h
      next heq => rw [heq, ih h, List.cons_append]
      next => cases h

theorem stripLeading_append (piece rest : List Char) :
    stripLeading piece (piece ++ rest) = some rest := by
  induction piece with
  | nil => rfl
  | cons p ps ih => rw [List.cons_append, stripLeading, if_pos rfl, ih]

/-- What is no start of a text that is long enough is no start of a longer one. Without the
condition on the length the piece could begin in `cs` and end in `rest`. -/
theorem stripLeading_append_eq_none (h : stripLeading piece cs = none)
    (hlength : piece.length ≤ cs.length) (rest : List Char) :
    stripLeading piece (cs ++ rest) = none := by
  induction piece generalizing cs with
  | nil => cases h
  | cons p ps ih =>
    cases cs with
    | nil => cases hlength
    | cons c cs =>
      rw [stripLeading] at h
      rw [List.cons_append, stripLeading]
      split
      next heq =>
        rw [if_pos heq] at h
        exact ih h (Nat.le_of_succ_le_succ hlength)
      next => rfl

variable {a b : List Char}

/-- The two sides and the piece between them are the text. -/
theorem of_splitAtText (h : splitAtText piece cs = some (a, b)) : cs = a ++ (piece ++ b) := by
  induction cs generalizing a with
  | nil =>
    rw [splitAtText] at h
    split at h
    next hempty =>
      obtain ⟨rfl, rfl⟩ := Prod.mk.inj (Option.some.inj h)
      rw [List.isEmpty_iff.mp hempty]
      rfl
    next => cases h
  | cons c cs ih =>
    rw [splitAtText] at h
    split at h
    next rest hrest =>
      obtain ⟨rfl, rfl⟩ := Prod.mk.inj (Option.some.inj h)
      rw [of_stripLeading hrest, List.nil_append]
    next =>
      obtain ⟨⟨a', b'⟩, hsplit, heq⟩ := Option.map_eq_some_iff.mp h
      obtain ⟨rfl, rfl⟩ := Prod.mk.inj heq
      rw [ih hsplit, List.cons_append]

/-- **The first mark of a text stays the first when the text goes on** with `rest`. -/
theorem splitAtText_append (h : splitAtText piece cs = some (a, b)) (rest : List Char) :
    splitAtText piece (cs ++ rest) = some (a, b ++ rest) := by
  induction cs generalizing a with
  | nil =>
    rw [splitAtText] at h
    split at h
    next hempty =>
      obtain ⟨rfl, rfl⟩ := Prod.mk.inj (Option.some.inj h)
      rw [List.isEmpty_iff.mp hempty]
      cases rest <;> rfl
    next => cases h
  | cons c cs ih =>
    -- The piece stands in the text, so there is room for it at each place before.
    have hlength := congrArg List.length (of_splitAtText h)
    rw [splitAtText] at h
    rw [List.cons_append, splitAtText]
    split at h
    next r hr =>
      obtain ⟨rfl, rfl⟩ := Prod.mk.inj (Option.some.inj h)
      rw [← List.cons_append, of_stripLeading hr, List.append_assoc, stripLeading_append]
    next hnone =>
      obtain ⟨⟨a', b'⟩, hsplit, heq⟩ := Option.map_eq_some_iff.mp h
      obtain ⟨rfl, rfl⟩ := Prod.mk.inj heq
      rw [List.length_append, List.length_append] at hlength
      rw [← List.cons_append, stripLeading_append_eq_none hnone (by omega), ih hsplit]
      rfl

/-- A mark is the first if its first character `p` does not stand before it. -/
theorem splitAtText_of_not_mem {p : Char} {ps : List Char} (h : p ∉ a) (b : List Char) :
    splitAtText (p :: ps) (a ++ (p :: ps ++ b)) = some (a, b) := by
  induction a with
  | nil =>
    show splitAtText (p :: ps) (p :: (ps ++ b)) = _
    rw [splitAtText, ← List.cons_append, stripLeading_append]
  | cons c a ih =>
    rw [List.mem_cons, not_or] at h
    rw [List.cons_append, splitAtText, stripLeading, if_neg h.1, ih h.2]
    rfl

end FleetAgent.Text
