import Kindred.Text.Basic

/-!
# Ranges of characters

A set of characters is a list of inclusive ranges of code points. The canonical lists are sorted
and have gaps between their ranges; `Ranges.ofList` makes one of any list, and the operations of
sets give canonical lists. Tables of character properties are written as text, one range of
hexadecimal code points after the other (`Ranges.ofTable`).
-/

namespace Kindred

/-- A set of code points as inclusive ranges. -/
abbrev Ranges := List (Nat × Nat)

namespace Ranges

/-- The greatest code point. -/
def greatest : Nat := 0x10FFFF

/-- Whether a code point lies in one of the ranges. -/
def containsPoint (ranges : Ranges) (n : Nat) : Bool :=
  ranges.any fun (low, high) => low ≤ n && n ≤ high

/-- Whether a character lies in one of the ranges. -/
def contains (ranges : Ranges) (c : Char) : Bool := ranges.containsPoint c.toNat

/-- The set of one character. -/
def single (c : Char) : Ranges := [(c.toNat, c.toNat)]

/-- The set of the characters between two. -/
def between (low high : Char) : Ranges := [(low.toNat, high.toNat)]

/-- A canonical list with a range added, which is joined with all ranges that it meets. -/
def insert (low high : Nat) : Ranges → Ranges
  | [] => [(low, high)]
  | (low', high') :: rest =>
    if high + 1 < low' then (low, high) :: (low', high') :: rest
    else if high' + 1 < low then (low', high') :: insert low high rest
    else insert (min low low') (max high high') rest

/-- The canonical list of a list of ranges. -/
def ofList (ranges : Ranges) : Ranges :=
  (ranges.filter fun (low, high) => low ≤ high).foldr (fun (low, high) rest => insert low high rest) []

/-- The code points from `next` on that are in no range of a sorted list. -/
def gapsFrom (next : Nat) : Ranges → Ranges
  | [] => if next ≤ greatest then [(next, greatest)] else []
  | (low, high) :: rest =>
    if next < low then (next, low - 1) :: gapsFrom (high + 1) rest else gapsFrom (high + 1) rest

/-- The characters that are not in a set. -/
def complement (ranges : Ranges) : Ranges := gapsFrom 0 (ofList ranges)

/-- The characters of either set. -/
def union (a b : Ranges) : Ranges := ofList (a ++ b)

/-- The characters of both sets. -/
def intersection (a b : Ranges) : Ranges :=
  ofList (a.flatMap fun (low, high) =>
    b.filterMap fun (low', high') =>
      if max low low' ≤ min high high' then some (max low low', min high high') else none)

/-- The characters of the first set that are not in the second. -/
def difference (a b : Ranges) : Ranges := intersection a (complement b)

/-- The characters of exactly one of two sets. -/
def symmetricDifference (a b : Ranges) : Ranges := union (difference a b) (difference b a)

/-! ## Tables -/

/-- The value of a hexadecimal digit; other characters have none. -/
def hexValue? (c : Char) : Option Nat :=
  if '0' ≤ c ∧ c ≤ '9' then some (c.toNat - '0'.toNat)
  else if 'A' ≤ c ∧ c ≤ 'F' then some (c.toNat - 'A'.toNat + 10)
  else if 'a' ≤ c ∧ c ≤ 'f' then some (c.toNat - 'a'.toNat + 10)
  else none

/-- Reads the rest of a line of a table whose last number so far is `n`; the range that it ends starts at
`low` if a dash was read before it. -/
def readTable (low : Option Nat) (n : Nat) : Text → Ranges
  | [] => [(low.getD n, n)]
  | ' ' :: rest => (low.getD n, n) :: readTable none 0 rest
  | '-' :: rest => readTable (some n) 0 rest
  | c :: rest => readTable low (16 * n + (hexValue? c).getD 0) rest

/-- The ranges of a table: code points or pairs of them with a dash between, in hexadecimal, with
one space after each but the last of a line. -/
def ofTable (lines : List String) : Ranges :=
  lines.flatMap fun line => readTable none 0 line.toList

end Ranges

end Kindred
