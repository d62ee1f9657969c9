import FleetAgent.Text.Cut
/-!
# Names in the letters of ASCII

A label of a name that holds other characters is written in ASCII as two parts: first its characters
of ASCII, then, behind a hyphen, a row of numbers, one for each other character in increasing order.
A number says how far it is to go on through all pairs of a character and a place in the label,
ordered by the character first.

A number has digits of which the least comes first; where it ends is told by a threshold for each
digit, which is adapted to the numbers before.

`decode?` finds the label that is written, and `encode` writes a label.
-/

namespace FleetAgent.Url.Punycode

/-- The value of the digit `c`: letters of either case, then the digits of ASCII. -/
def digitValue? (c : Char) : Option Nat :=
  let n := c.toNat
  if 0x61 ≤ n ∧ n ≤ 0x7A then some (n - 0x61)
  else if 0x41 ≤ n ∧ n ≤ 0x5A then some (n - 0x41)
  else if 0x30 ≤ n ∧ n ≤ 0x39 then some (n - 0x30 + 26)
  else none

/-- A digit below its threshold ends a number. The threshold grows with the place of the digit,
counted in steps of 36, and lies between 1 and 26. -/
def threshold (bias place : Nat) : Nat :=
  max 1 (min 26 (place - bias))

/-- A threshold is never zero, so a digit of zero always ends a number. -/
theorem threshold_pos (bias place : Nat) : 0 < threshold bias place := by
  grind [threshold]

/-- Makes `delta` small, and adds the steps of 36 on the way to `steps`. -/
def reduce (delta steps : Nat) : Nat × Nat :=
  if h : 455 < delta then reduce (delta / 35) (steps + 36) else (delta, steps)
termination_by delta
decreasing_by omega

/-- The bias after a number, in a label of the given length. The first number is often much greater
than those that follow. -/
def adapt (delta length : Nat) (isFirst : Bool) : Nat :=
  let delta := if isFirst then delta / 700 else delta / 2
  let (delta, steps) := reduce (delta + delta / length) 0
  steps + 36 * delta / (delta + 38)

/-! ### Reading -/

/-- Numbers stay below this. -/
def limit : Nat := 0x100000000

/-- Reads a number; gives it and what is behind it. `weight` is what the next digit counts for, and
`value` what has been read. -/
def readNumber? (bias : Nat) (place weight value : Nat) : List Char → Option (Nat × List Char)
  | [] => none
  | c :: rest => do
    let digit ← digitValue? c
    let value := value + digit * weight
    let t := threshold bias place
    if limit ≤ value then none
    else if digit < t then some (value, rest)
    else if limit ≤ weight * (36 - t) then none
    else readNumber? bias (place + 36) (weight * (36 - t)) value rest

/-- A number has at least one digit, so that the numbers of a label can be read by recursion. -/
theorem length_lt_of_readNumber? {bias place weight value number : Nat} {cs rest : List Char}
    (h : readNumber? bias place weight value cs = some (number, rest)) :
    rest.length < cs.length := by
  induction cs generalizing place weight value with
  | nil => simp [readNumber?] at h
  | cons c cs ih =>
    simp only [readNumber?, Option.bind_eq_bind, Option.bind_eq_some_iff] at h
    obtain ⟨digit, -, h⟩ := h
    split at h
    · simp at h
    · split at h
      · simp only [Option.some.injEq, Prod.mk.injEq] at h
        simp [h.2]
      · split at h
        · simp at h
        · exact Nat.lt_trans (ih h) (by simp)

/-- Puts the characters that are given by the numbers in `cs` into `label`. The next number counts
from the character `code` and the place `place` on. -/
def insertAll? (bias code place : Nat) (isFirst : Bool) (label cs : List Char) :
    Option (List Char) :=
  if cs.isEmpty then some label
  else
    match h : readNumber? bias 36 1 0 cs with
    | none => none
    | some (delta, rest) =>
      let length := label.length + 1
      let total := place + delta
      let code := code + total / length
      if code.isValidChar then
        have : rest.length < cs.length := length_lt_of_readNumber? h
        insertAll? (adapt delta length isFirst) code (total % length + 1) false
          (label.insertIdx (total % length) (Char.ofNat code)) rest
      else none
termination_by cs.length

/-- The part before the last hyphen and the part behind it. Without a hyphen, and also if nothing is
before it, all belongs to the second part. -/
def splitAtHyphen (cs : List Char) : List Char × List Char :=
  match Text.splitOnce '-' cs.reverse with
  | some (back, front) => if front.isEmpty then ([], cs) else (front.reverse, back.reverse)
  | none => ([], cs)

/-- The label that is written in ASCII as `cs`, if there is one. -/
def decode? (cs : List Char) : Option (List Char) :=
  let (label, numbers) := splitAtHyphen cs
  insertAll? 72 0x80 0 true label numbers

/-! ### Writing -/

/-- The digit of a value below 36. -/
def digit (value : Nat) : Char :=
  if value < 26 then Char.ofNat (0x61 + value) else Char.ofNat (0x30 + (value - 26))

/-- Writes the number `number`, from the digit at `place` on; `readNumber?` reads it back. -/
def writeNumber (bias place number : Nat) : List Char :=
  let t := threshold bias place
  if number < t then [digit number]
  else
    digit (t + (number - t) % (36 - t)) ::
      writeNumber bias (place + 36) ((number - t) / (36 - t))
termination_by number
decreasing_by
  have hpos := threshold_pos bias place
  have hdiv := Nat.div_le_self (number - threshold bias place) (36 - threshold bias place)
  omega

/-- The characters of a label, each with the number of those on its left that are not greater. The
text on the left is given backwards. -/
def withPlaces (left : List Char) : List Char → List (Char × Nat)
  | [] => []
  | c :: right => (c, left.countP (· ≤ c)) :: withPlaces (c :: left) right

/-- Puts a character with its place in front of the first that is not less, which keeps the order of
equal ones. -/
def insertByCharacter (p : Char × Nat) : List (Char × Nat) → List (Char × Nat)
  | [] => [p]
  | q :: rest => if p.1 ≤ q.1 then p :: q :: rest else q :: insertByCharacter p rest

/-- The characters outside ASCII of a label in the order in which `insertAll?` puts them in, each
with the place that it then gets. -/
def insertions (label : List Char) : List (Char × Nat) :=
  ((withPlaces [] label).filter (0x80 ≤ ·.1.toNat)).foldr insertByCharacter []

/-- Writes the numbers that stand for characters to be put into a label of the given length. As in
`insertAll?`, the next number counts from a character and a place on. -/
def writeAll (bias code place length : Nat) (isFirst : Bool) : List (Char × Nat) → List Char
  | [] => []
  | (c, index) :: rest =>
    let delta := (c.toNat - code) * (length + 1) + index - place
    writeNumber bias 36 delta ++
      writeAll (adapt delta (length + 1) isFirst) c.toNat (index + 1) (length + 1) false rest

/-- Writes the label `label` in ASCII: its characters of ASCII, and numbers for the others. -/
def encode (label : List Char) : List Char :=
  let front := label.filter (·.toNat < 0x80)
  (if front.isEmpty then [] else front ++ ['-']) ++
    writeAll 72 0x80 0 front.length true (insertions label)

end FleetAgent.Url.Punycode
