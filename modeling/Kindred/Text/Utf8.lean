import Kindred.Text.Ranges

/-!
# Characters as bytes

In UTF-8 a character is one to four bytes. The characters of a range are those whose bytes lie,
each in its turn, in the ranges of one of a few byte sequences (`Utf8.sequences`).
-/

namespace Kindred

namespace Utf8

/-- A range of bytes. -/
abbrev ByteRange := Nat × Nat

/-- The ranges in which the bytes of a character lie, one after the other. -/
abbrev ByteSequence := List ByteRange

/-- The range of all bytes that go on with a character. -/
def continuation : ByteRange := (0x80, 0xBF)

/-- The sequences of the numbers between two, where a first byte is written as `lead` and a digit to
the base of 64 and `more` bytes with a digit each follow. -/
def split (lead : Nat) : (more low high : Nat) → List ByteSequence
  | 0, low, high => [[(lead + low, lead + high)]]
  | more + 1, low, high =>
    let unit := 64 * 64 ^ more
    let first := low / unit
    let last := high / unit
    let one (digit low high : Nat) : List ByteSequence :=
      (split 0x80 more low high).map ((lead + digit, lead + digit) :: ·)
    if first = last then one first (low % unit) (high % unit)
    else
      let cutsFirst : Bool := low % unit != 0
      let cutsLast : Bool := high % unit != unit - 1
      let fullFirst := if cutsFirst then first + 1 else first
      let fullLast := if cutsLast then last - 1 else last
      (if cutsFirst then one first (low % unit) (unit - 1) else []) ++
        (if fullFirst ≤ fullLast then
          [(lead + fullFirst, lead + fullLast) :: List.replicate (more + 1) continuation]
        else []) ++
        (if cutsLast then one last 0 (high % unit) else [])

/-- The parts into which the code points fall by the number of their bytes: the first and the last
code point of each part, what its first byte is counted from, and the number of further bytes. The
code points that are no characters are left out. -/
def parts : List (Nat × Nat × Nat × Nat) := [
  (0, 0x7F, 0, 0), (0x80, 0x7FF, 0xC0, 1), (0x800, 0xD7FF, 0xE0, 2), (0xE000, 0xFFFF, 0xE0, 2),
  (0x10000, 0x10FFFF, 0xF0, 3)]

/-- The byte sequences of the characters of a set, in order. -/
def sequences (set : Ranges) : List ByteSequence :=
  set.flatMap fun (low, high) =>
    parts.flatMap fun (first, last, lead, more) =>
      if max low first ≤ min high last then split lead more (max low first) (min high last) else []

/-- The bytes of a character. -/
def bytes (n : Nat) : List Nat := (sequences [(n, n)]).flatten.map Prod.fst

end Utf8

end Kindred
