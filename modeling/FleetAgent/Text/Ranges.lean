/-!
# Ranges of characters

A Unicode property is given as a list of closed ranges of code points in increasing order. All
tables of the project are those of Unicode 17.
-/

namespace FleetAgent.Text

/-- Whether the number `n` lies in one of the ranges, ends included. -/
def inRanges (ranges : List (Nat × Nat)) (n : Nat) : Bool :=
  ranges.any fun (lo, hi) => lo ≤ n && n ≤ hi

end FleetAgent.Text
