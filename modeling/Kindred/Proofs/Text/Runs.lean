import Kindred.Text.Basic
import Mathlib.Data.List.TakeWhile

/-!
# Runs of characters and numerals

A run of characters of a kind ends where the first character of another kind stands, so that a reader
which takes as many as it can takes the run (`takeWhile_append_of_ends`,
`dropWhile_append_of_ends`). Numerals are runs of digits, and **the digits of a numeral denote its
number** (`decimalValue_numeral`).
-/

namespace Kindred

namespace Text

variable {kind : Char → Bool} {word rest : Text} {c : Char}

/-! ## Runs -/

/-- What holds of the first character of a text. -/
theorem forall_mem_head?_cons {p : Char → Prop} (hc : p c) (rest : Text) :
    ∀ d ∈ (c :: rest).head?, p d := by
  intro d hd
  obtain rfl : c = d := Option.some.inj hd
  exact hc

/-- Where a character of another kind follows, a text loses what it loses by itself. -/
theorem dropWhile_append_of_head (word : Text) (hrest : ∀ c ∈ rest.head?, kind c = false) :
    (word ++ rest).dropWhile kind = word.dropWhile kind ++ rest := by
  rw [List.dropWhile_append]
  split
  · rename_i hempty
    rw [List.isEmpty_iff.1 hempty, List.nil_append]
    cases rest with
    | nil => rfl
    | cons c rest => simp [hrest c rfl]
  · rfl

/-- Where a character of another kind follows, a text starts with the run that it starts with by
itself. -/
theorem takeWhile_append_of_head (word : Text) (hrest : ∀ c ∈ rest.head?, kind c = false) :
    (word ++ rest).takeWhile kind = word.takeWhile kind := by
  have hwhole : (word ++ rest).takeWhile kind ++ (word ++ rest).dropWhile kind =
      word.takeWhile kind ++ (word.dropWhile kind ++ rest) := by
    rw [List.takeWhile_append_dropWhile, ← List.append_assoc, List.takeWhile_append_dropWhile]
  rw [dropWhile_append_of_head word hrest] at hwhole
  exact List.append_cancel_right hwhole

theorem takeWhile_append_of_ends (hword : ∀ c ∈ word, kind c = true)
    (hrest : ∀ c ∈ rest.head?, kind c = false) : (word ++ rest).takeWhile kind = word := by
  rw [takeWhile_append_of_head word hrest, List.takeWhile_eq_self_iff.2 hword]

theorem dropWhile_append_of_ends (hword : ∀ c ∈ word, kind c = true)
    (hrest : ∀ c ∈ rest.head?, kind c = false) : (word ++ rest).dropWhile kind = rest := by
  rw [dropWhile_append_of_head word hrest, List.dropWhile_eq_nil_iff.2 hword, List.nil_append]

/-- A text is a run of a kind, possibly empty, and what follows it. -/
theorem exists_run (kind : Char → Bool) (text : Text) :
    (∀ c ∈ text.takeWhile kind, kind c = true) ∧
      (∀ c ∈ (text.dropWhile kind).head?, kind c = false) ∧
      text = text.takeWhile kind ++ text.dropWhile kind := by
  refine ⟨List.all_eq_true.1 List.all_takeWhile, fun c hc => ?_,
    List.takeWhile_append_dropWhile.symm⟩
  have hhead := List.head?_dropWhile_not kind text
  rwa [hc] at hhead

/-! ## Blanks -/

/-- A kind without blanks has no character that is one. -/
theorem eq_false_of_isBlank (hkind : [' ', '\t', '\n', '\x0c', '\r'].all (!kind ·) = true)
    (h : isBlank c = true) : kind c = false := by
  have hmem : c ∈ [' ', '\t', '\n', '\x0c', '\r'] := by
    simpa [isBlank, or_assoc] using h
  simpa using List.all_eq_true.1 hkind c hmem

theorem isBlank_eq_false (hkind : [' ', '\t', '\n', '\x0c', '\r'].all (!kind ·) = true)
    (h : kind c = true) : isBlank c = false := by
  cases hc : isBlank c with
  | false => rfl
  | true => rw [eq_false_of_isBlank hkind hc] at h; cases h

theorem isBlank_of_isDigit (h : c.isDigit = true) : isBlank c = false := isBlank_eq_false rfl h

theorem isDigit_of_isBlank (h : isBlank c = true) : c.isDigit = false :=
  eq_false_of_isBlank rfl h

/-! ## Numerals -/

theorem isDigit_of_mem_numeral {n : Nat} (h : c ∈ numeral n) : c.isDigit = true :=
  Nat.isDigit_of_mem_toDigits (by decide) (by decide) h

theorem numeral_ne_nil (n : Nat) : numeral n ≠ [] := Nat.toDigits_ne_nil

/-- The digits of a numeral denote its number. -/
theorem decimalValue_numeral (n : Nat) : decimalValue (numeral n) = n := by
  have hfold : decimalValue (numeral n) = Nat.ofDigitChars 10 (numeral n) 0 :=
    Nat.ofDigitChars_eq_foldl.symm
  rw [hfold, numeral, Nat.ofDigitChars_ten_toDigits]

theorem index?_eq_some_iff {digits : Text} {n : Nat} :
    index? digits = some n ↔ digits ≠ [] ∧ decimalValue digits = n ∧ n < indexBound := by
  unfold index?
  by_cases hempty : digits = []
  · simp [hempty]
  · by_cases hbound : decimalValue digits < indexBound
    · simp only [List.isEmpty_iff, hempty, hbound, if_true, if_false, Option.some.injEq, ne_eq,
        not_false_eq_true, true_and]
      exact ⟨fun h => ⟨h, h ▸ hbound⟩, And.left⟩
    · simp only [List.isEmpty_iff, hempty, hbound, if_false, reduceCtorEq, false_iff, not_and, ne_eq,
        not_false_eq_true, true_and]
      rintro rfl
      exact hbound

end Text

end Kindred
