/-!
# Texts

Every text that the library reads or writes is a list of characters: a code, a phrase, a
template, a whole vocabulary. This module holds the vocabulary-independent words on texts:
blanks and digits, decimal numerals and their values, trimming, and the cut at a mark.

The main facts are that a text is cut at its first mark (`splitAtMark_append_mark`) and not at all
if it has none (`splitAtMark_eq_none`).
-/

namespace Kindred

/-- A text is the list of its characters. -/
abbrev Text := List Char

namespace Text

/-! ## Characters -/

/-- The ASCII blanks: space, tab, line feed, form feed and carriage return. -/
def isBlank (c : Char) : Bool :=
  c == ' ' || c == '\t' || c == '\n' || c == '\x0c' || c == '\r'

/-- The white space of any script, as trimming counts it. -/
def isSpace (c : Char) : Bool :=
  let n := c.toNat
  (9 ≤ n && n ≤ 13) || n == 0x20 || n == 0x85 || n == 0xA0 || n == 0x1680 ||
    (0x2000 ≤ n && n ≤ 0x200A) || n == 0x2028 || n == 0x2029 || n == 0x202F || n == 0x205F ||
    n == 0x3000

/-! ## Blanks at the edges -/

/-- A text without its leading ASCII blanks. -/
def skipBlanks (text : Text) : Text := text.dropWhile isBlank

/-- A text without the white space at its two ends. -/
def trim (text : Text) : Text :=
  ((text.dropWhile isSpace).reverse.dropWhile isSpace).reverse

/-! ## Marks -/

/-- What follows `mark`, if the text starts with it. -/
def afterMark? : (mark text : Text) → Option Text
  | [], text => some text
  | _ :: _, [] => none
  | m :: mark, c :: text => if m = c then afterMark? mark text else none

theorem afterMark?_eq_some_iff {mark text rest : Text} :
    afterMark? mark text = some rest ↔ text = mark ++ rest := by
  induction mark generalizing text with
  | nil => simp [afterMark?]
  | cons m mark ih =>
    cases text with
    | nil => simp [afterMark?]
    | cons c text =>
      by_cases h : m = c
      · simp [afterMark?, h, ih]
      · simp [afterMark?, h, Ne.symm h]

/-- The text before the first `mark` and the text after it; `none` when there is no mark. -/
def splitAtMark (mark : Char) : Text → Option (Text × Text)
  | [] => none
  | c :: rest =>
    if c = mark then some ([], rest)
    else (splitAtMark mark rest).map fun (before, after) => (c :: before, after)

theorem splitAtMark_append_mark {mark : Char} {before : Text} (h : mark ∉ before) (after : Text) :
    splitAtMark mark (before ++ mark :: after) = some (before, after) := by
  induction before with
  | nil => simp [splitAtMark]
  | cons c before ih =>
    obtain ⟨hc, hbefore⟩ := List.ne_and_not_mem_of_not_mem_cons h
    simp [splitAtMark, Ne.symm hc, ih hbefore]

theorem splitAtMark_eq_none {mark : Char} {text : Text} (h : mark ∉ text) :
    splitAtMark mark text = none := by
  induction text with
  | nil => rfl
  | cons c text ih =>
    obtain ⟨hc, htext⟩ := List.ne_and_not_mem_of_not_mem_cons h
    simp [splitAtMark, Ne.symm hc, ih htext]

/-! ## Numerals -/

/-- The number that a run of decimal digits denotes. -/
def decimalValue (digits : Text) : Nat :=
  digits.foldl (fun n d => 10 * n + (d.toNat - '0'.toNat)) 0

/-- The decimal numeral of a natural number, without leading zeros. -/
def numeral (n : Nat) : Text := Nat.toDigits 10 n

/-- The decimal numeral of an integer: a minus sign stands before a negative one. -/
def integerNumeral : Int → Text
  | .ofNat n => numeral n
  | .negSucc n => '-' :: numeral (n + 1)

/-- Indices are machine words: a numeral of this value or more denotes none. -/
def indexBound : Nat := 0x10000000000000000

/-- The index that a non-empty run of decimal digits denotes, if it is within bounds. -/
def index? (digits : Text) : Option Nat :=
  if digits.isEmpty then none
  else
    let n := decimalValue digits
    if n < indexBound then some n else none

/-- The number of bytes of a text in UTF-8. -/
def byteLength : Text → Nat
  | [] => 0
  | c :: rest => c.utf8Size + byteLength rest

@[simp] theorem byteLength_nil : byteLength [] = 0 := rfl

@[simp] theorem byteLength_cons (c : Char) (rest : Text) :
    byteLength (c :: rest) = c.utf8Size + byteLength rest := rfl

@[simp] theorem byteLength_append (a b : Text) :
    byteLength (a ++ b) = byteLength a + byteLength b := by
  induction a with
  | nil => simp
  | cons c rest ih => simp [ih, Nat.add_assoc]

end Text

end Kindred
