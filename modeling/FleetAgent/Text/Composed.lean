import FleetAgent.Text.CombiningClass
import FleetAgent.Text.Composite
/-!
# Composed text

One text can be written in several ways: with a composite character or with the pair that it stands
for, and with marks of different classes in any order. Its *composed form* is the same for all of
them. To find it the text is taken apart (`takeApart`), its marks are ordered by class
(`orderMarks`), and what can be written as one character is put together again (`putTogether`).
-/

namespace FleetAgent.Text

/-- Writes the pairs in the place of composite characters. -/
def splitPairs (cs : List Char) : List Char :=
  cs.flatMap fun c =>
    match pair? c with
    | some (a, b) => [a, b]
    | none => [c]

/-- Text without composite characters. The first of a pair may be a composite itself, but that does
not go on more than four times, which is why four rounds of `splitPairs` are enough. -/
def takeApart (cs : List Char) : List Char :=
  splitPairs (splitPairs (splitPairs (splitPairs cs)))

/-- Adds a character at the end of ordered text, which is given backwards. A mark goes in front of
the marks of greater class. -/
def insertOrdered (c : Char) : List Char → List Char
  | [] => [c]
  | d :: before =>
    if combiningClass c ≠ 0 ∧ combiningClass c < combiningClass d then d :: insertOrdered c before
    else c :: d :: before

/-- Text in which marks that follow one another are ordered by class. Those of one class keep their
order. -/
def orderMarks (cs : List Char) : List Char :=
  (cs.foldl (fun before c => insertOrdered c before) []).reverse

/-- Text that is being put together, from left to right. All parts are given backwards. -/
structure PartlyComposed where
  /-- What does not change any more. -/
  finished : List Char
  /-- The last character of class zero, which may still take up what follows. -/
  base? : Option Char
  /-- The marks behind it. -/
  marks : List Char

namespace PartlyComposed

/-- Nothing has been put together. -/
def empty : PartlyComposed := ⟨[], none, []⟩

/-- All of it. -/
def text (p : PartlyComposed) : List Char :=
  (p.marks ++ p.base?.toList ++ p.finished).reverse

/-- Whether a character is kept from the base by the marks in between: the last of them has the same
class or a greater one. -/
def blocks (p : PartlyComposed) (c : Char) : Bool :=
  p.marks.head?.any fun mark => combiningClass c ≤ combiningClass mark

/-- Adds the character `c`: the base takes it up if no mark keeps it away, and otherwise it is a
mark of the base or a new base. -/
def add (p : PartlyComposed) (c : Char) : PartlyComposed :=
  let taken? := if p.blocks c then none else p.base?.bind (composite? · c)
  match taken? with
  | some base => { p with base? := some base }
  | none =>
    if combiningClass c = 0 then ⟨p.marks ++ p.base?.toList ++ p.finished, some c, []⟩
    else { p with marks := c :: p.marks }

end PartlyComposed

/-- Text in which every base is one character with the marks behind it, as far as there is one. -/
def putTogether (cs : List Char) : List Char :=
  (cs.foldl PartlyComposed.add .empty).text

/-- The composed form of the text `cs`. -/
def composed (cs : List Char) : List Char :=
  putTogether (orderMarks (takeApart cs))

/-- Whether a text is in composed form. -/
def isComposed (cs : List Char) : Bool :=
  composed cs == cs

end FleetAgent.Text
