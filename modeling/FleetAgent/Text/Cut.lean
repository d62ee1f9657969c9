/-!
# Cutting text at a mark

Splitting at the first occurrence of a character or of a piece of text, or at all occurrences. What
stands before the first mark and what stands after it give back the whole, and the part before is
free of the mark (`splitOnce_eq_some`, `splitOnce_append`).
-/

namespace FleetAgent.Text

/-- The parts before and after the first occurrence of the character `c`, if there is one. -/
def splitOnce (c : Char) : List Char → Option (List Char × List Char)
  | [] => none
  | d :: r => if d = c then some ([], r) else (splitOnce c r).map fun (a, b) => (d :: a, b)

/-- The parts of a text between occurrences of `sep`: one more than there are occurrences. -/
def splitOn (sep : Char) : List Char → List (List Char)
  | [] => [[]]
  | c :: r =>
    if c = sep then [] :: splitOn sep r
    else match splitOn sep r with
      | [] => [[c]]
      | p :: ps => (c :: p) :: ps

/-- The part after a leading piece of text, if the text starts with that piece. -/
def stripLeading : List Char → List Char → Option (List Char)
  | [], cs => some cs
  | _ :: _, [] => none
  | p :: ps, c :: cs => if p = c then stripLeading ps cs else none

/-- The texts before and after the first occurrence of a piece of text, if there is one. -/
def splitAtText (piece : List Char) : List Char → Option (List Char × List Char)
  | [] => if piece.isEmpty then some ([], []) else none
  | c :: cs =>
    match stripLeading piece (c :: cs) with
    | some rest => some ([], rest)
    | none => (splitAtText piece cs).map fun (a, b) => (c :: a, b)

/-- The parts give back the whole, and the mark is not in the first part. -/
theorem splitOnce_eq_some {c : Char} {cs a b : List Char} (h : splitOnce c cs = some (a, b)) :
    cs = a ++ c :: b ∧ c ∉ a := by
  induction cs generalizing a with
  | nil => simp [splitOnce] at h
  | cons d r ih =>
    by_cases hd : d = c
    · simp [splitOnce, hd] at h
      obtain ⟨rfl, rfl⟩ := h
      simp [hd]
    · simp [splitOnce, hd] at h
      obtain ⟨a', hr, rfl⟩ := h
      obtain ⟨rfl, hn⟩ := ih hr
      simp [hn, Ne.symm hd]

/-- A text with a mark is cut there if there is none before it. -/
theorem splitOnce_append {c : Char} {a b : List Char} (h : c ∉ a) :
    splitOnce c (a ++ c :: b) = some (a, b) := by
  induction a with
  | nil => simp [splitOnce]
  | cons d r ih =>
    simp only [List.mem_cons, not_or] at h
    simp [splitOnce, Ne.symm h.1, ih h.2]

end FleetAgent.Text
