import Kindred.Ordinal
import Kindred.Proofs.Text.Runs

/-!
# Ordinals by their last digits

The category of an ordinal is defined by the remainders of its magnitude, and a reader sees it in
the numeral: the last digit decides, unless the last two are 11, 12 or 13
(`OrdinalCategory.ofNumeral`). Both agree because a numeral ends in the digits of the remainders
(`Text.getLast?_numeral`, `Text.pair_suffix_numeral_iff`), and a sign in front of it is no digit.

**`OrdinalSuffixes.format_spec` is the main statement**: an ordinal is the decimal numeral of its
number, behind it the suffix that the last digits of this numeral give, and nothing but the last two
digits of the magnitude has a part in it.
-/

namespace Kindred

namespace Text

variable {n : Nat} {c d : Char}

/-! ## The digits of a numeral -/

/-- The digits denote the number, and no zero stands in front of another digit. -/
structure IsDecimal (digits : Text) (n : Nat) : Prop where
  ne_nil : digits ≠ []
  isDigit : ∀ c ∈ digits, c.isDigit = true
  decimalValue : decimalValue digits = n
  leading : digits.head? = some '0' → digits = ['0']

/-- The last digit of a numeral is that of the remainder by ten. -/
theorem numeral_eq (n : Nat) :
    numeral n = (if n < 10 then [] else numeral (n / 10)) ++ [Nat.digitChar (n % 10)] := by
  rw [numeral, Nat.toDigits_eq_if (by decide)]
  split
  · next h => rw [Nat.mod_eq_of_lt h, List.nil_append]
  · rfl

theorem getLast?_numeral (n : Nat) : (numeral n).getLast? = some (Nat.digitChar (n % 10)) := by
  rw [numeral_eq, List.getLast?_concat]

/-- The last two digits of a numeral are those of the remainder by a hundred. -/
theorem pair_suffix_numeral_iff : [c, d] <:+ numeral n ↔
    10 ≤ n ∧ c = Nat.digitChar (n / 10 % 10) ∧ d = Nat.digitChar (n % 10) := by
  by_cases hn : n < 10
  · have hone : ¬[c, d] <:+ numeral n := fun h => by
      have hlength := h.length_le
      rw [numeral_eq, if_pos hn] at hlength
      simp at hlength
    exact iff_of_false hone fun h => by omega
  · have hpair : numeral n = (if n / 10 < 10 then [] else numeral (n / 10 / 10)) ++
        [Nat.digitChar (n / 10 % 10), Nat.digitChar (n % 10)] := by
      rw [numeral_eq n, if_neg hn, numeral_eq (n / 10), List.append_assoc]
      rfl
    rw [hpair]
    constructor
    · intro h
      have hsame : [c, d] = [Nat.digitChar (n / 10 % 10), Nat.digitChar (n % 10)] :=
        (List.suffix_of_suffix_length_le h (List.suffix_append ..) (Nat.le_refl _)).eq_of_length rfl
      obtain ⟨hc, hd⟩ := List.cons.inj hsame
      exact ⟨by omega, hc, (List.cons.inj hd).1⟩
    · rintro ⟨-, rfl, rfl⟩
      exact List.suffix_append ..

theorem head?_numeral (hn : 0 < n) : (numeral n).head? ≠ some '0' := by
  induction n using Nat.strongRecOn with
  | ind n ih =>
    rw [numeral_eq]
    split
    · next h => simp [Nat.mod_eq_of_lt h, Nat.ne_of_gt hn]
    · have hfront : (numeral (n / 10)).head? ≠ some '0' := ih (n / 10) (by omega) (by omega)
      obtain ⟨c, rest, hnumeral⟩ := List.exists_cons_of_ne_nil (numeral_ne_nil (n / 10))
      rw [hnumeral] at hfront ⊢
      exact hfront

theorem isDecimal_numeral (n : Nat) : IsDecimal (numeral n) n where
  ne_nil := numeral_ne_nil n
  isDigit _ := isDigit_of_mem_numeral
  decimalValue := decimalValue_numeral n
  leading h := by
    obtain rfl : n = 0 := Nat.eq_zero_of_not_pos fun hn => head?_numeral hn h
    rfl

theorem integerNumeral_eq (n : Int) :
    integerNumeral n = (if n < 0 then ['-'] else []) ++ numeral n.natAbs := by
  cases n with
  | ofNat n => rfl
  | negSucc n =>
    rw [if_pos (Int.negSucc_lt_zero n)]
    rfl

end Text

/-! ## Categories -/

namespace OrdinalCategory

open Text

variable {n : Nat}

/-- The category that the last digits of a numeral give. -/
def ofNumeral (numeral : Text) : OrdinalCategory :=
  if ['1', '1'] <:+ numeral ∨ ['1', '2'] <:+ numeral ∨ ['1', '3'] <:+ numeral then .other
  else if numeral.getLast? = some '1' then .one
  else if numeral.getLast? = some '2' then .two
  else if numeral.getLast? = some '3' then .few
  else .other

/-- A numeral gives the category of its number. -/
theorem ofNumeral_numeral (n : Nat) : ofNumeral (numeral n) = ofInt n := by
  have hteen : ['1', '1'] <:+ numeral n ∨ ['1', '2'] <:+ numeral n ∨ ['1', '3'] <:+ numeral n ↔
      11 ≤ n % 100 ∧ n % 100 ≤ 13 := by
    simp only [pair_suffix_numeral_iff, Nat.one_eq_digitChar, Nat.two_eq_digitChar,
      Nat.three_eq_digitChar]
    omega
  simp only [ofNumeral, ofInt, hteen, getLast?_numeral, Option.some.injEq, Nat.digitChar_eq_one,
    Nat.digitChar_eq_two, Nat.digitChar_eq_three, Int.natAbs_natCast]

/-- A sign in front of a numeral has no part in its category. -/
theorem ofNumeral_minus {digits : Text} (h : digits ≠ []) :
    ofNumeral ('-' :: digits) = ofNumeral digits := by
  simp only [ofNumeral, List.suffix_cons_iff, List.getLast?_cons_of_ne_nil h]
  simp

theorem ofNumeral_integerNumeral (n : Int) : ofNumeral (integerNumeral n) = ofInt n := by
  have hmagnitude : ofInt n.natAbs = ofInt n := by simp only [ofInt, Int.natAbs_natCast]
  rw [integerNumeral_eq, ← hmagnitude]
  split
  · rw [List.singleton_append, ofNumeral_minus (numeral_ne_nil _), ofNumeral_numeral]
  · rw [List.nil_append, ofNumeral_numeral]

/-- Numbers whose magnitudes have the same remainder by a hundred share their category. -/
theorem ofInt_congr {m n : Int} (h : m.natAbs % 100 = n.natAbs % 100) : ofInt m = ofInt n := by
  have hten : m.natAbs % 10 = n.natAbs % 10 := by omega
  simp only [ofInt, h, hten]

end OrdinalCategory

namespace OrdinalSuffixes

open Text OrdinalCategory

/-- **Ordinals follow the written numeral.** An ordinal is the decimal numeral of its number, with a
minus sign in front of a negative one, and behind it the suffix that the last digits of this numeral
give. A number and its opposite have the same suffix, and so have all numbers whose magnitudes have
the same remainder by a hundred. -/
theorem format_spec (suffixes : OrdinalSuffixes) (n : Int) :
    suffixes.format n =
        integerNumeral n ++ suffixes.suffix (.ofNumeral (integerNumeral n)) ∧
    (∃ digits, integerNumeral n = (if n < 0 then ['-'] else []) ++ digits ∧
      IsDecimal digits n.natAbs) ∧
    suffixes.suffix (.ofNumeral (integerNumeral (-n))) =
        suffixes.suffix (.ofNumeral (integerNumeral n)) ∧
    ∀ m : Int, m.natAbs % 100 = n.natAbs % 100 →
      suffixes.suffix (.ofNumeral (integerNumeral m)) =
        suffixes.suffix (.ofNumeral (integerNumeral n)) := by
  have hshared : ∀ m : Int, m.natAbs % 100 = n.natAbs % 100 →
      suffixes.suffix (.ofNumeral (integerNumeral m)) =
        suffixes.suffix (.ofNumeral (integerNumeral n)) := by
    intro m h
    rw [ofNumeral_integerNumeral, ofNumeral_integerNumeral, ofInt_congr h]
  refine ⟨?_, ⟨numeral n.natAbs, integerNumeral_eq n, isDecimal_numeral n.natAbs⟩, ?_, hshared⟩
  · rw [format, ofNumeral_integerNumeral]
  · exact hshared (-n) (by rw [Int.natAbs_neg])

/-- The least number of a machine word has no opposite there, and it has the suffix of eight. -/
theorem format_spec_least :
    (8 : Int).natAbs % 100 = (-9223372036854775808 : Int).natAbs % 100 ∧
      english.format (-9223372036854775808) = "-9223372036854775808th".toList ∧
      english.suffix (.ofNumeral (integerNumeral 8)) =
        english.suffix (.ofNumeral (integerNumeral (-9223372036854775808))) := by
  have hremainder : (8 : Int).natAbs % 100 = (-9223372036854775808 : Int).natAbs % 100 := by decide
  obtain ⟨hformat, -, -, hshared⟩ := format_spec english (-9223372036854775808)
  refine ⟨hremainder, ?_, hshared 8 hremainder⟩
  rw [hformat]
  decide +kernel

end OrdinalSuffixes

end Kindred
