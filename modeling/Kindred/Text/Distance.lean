import Kindred.Text.Basic

/-!
# Edit distance

The distance of two texts is the least number of characters that have to be inserted, removed or
exchanged to make one of the other. It is computed row by row: a row has the distances of one
prefix of the first text from all prefixes of the second.
-/

namespace Kindred

namespace Text

/-- The rest of the row for a prefix that ends in `c`, behind the entry `left`. The entries of the
row before it, for the prefix without `c`, are `corner` and those of `above`. -/
def distanceRow (c : Char) : (left corner : Nat) → (above : List Nat) → Text → List Nat
  | left, corner, up :: above, d :: text =>
    let entry := min (min (left + 1) (up + 1)) (corner + if c = d then 0 else 1)
    entry :: distanceRow c entry up above text
  | _, _, _, _ => []

/-- The row for a prefix with one more character `c`, from the row for the prefix. -/
def nextDistanceRow (text : Text) (row : List Nat) (c : Char) : List Nat :=
  match row with
  | [] => []
  | corner :: above => (corner + 1) :: distanceRow c (corner + 1) corner above text

/-- The edit distance of two texts. -/
def distance (a b : Text) : Nat :=
  ((a.foldl (nextDistanceRow b) (List.range (b.length + 1))).getLast?).getD 0

end Text

end Kindred
