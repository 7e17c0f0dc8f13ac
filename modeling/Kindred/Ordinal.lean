import Kindred.Text.Basic

/-!
# Ordinal numbers

A language writes an ordinal as a numeral with a suffix, and the suffix hangs on the last digits
of the numeral alone: 1st, 2nd, 3rd, 4th, but 11th, 12th, 13th and again 21st.
-/

namespace Kindred

/-- The classes of numbers that share an ordinal suffix. -/
inductive OrdinalCategory
  /-- Last digit 1, as in 1st and 21st. -/
  | one
  /-- Last digit 2, as in 2nd and 22nd. -/
  | two
  /-- Last digit 3, as in 3rd and 23rd. -/
  | few
  /-- All other numbers, and those that end in 11, 12 or 13. -/
  | other
  deriving DecidableEq, Repr

namespace OrdinalCategory

/-- The category of a number; a negative one has that of its magnitude. -/
def ofInt (n : Int) : OrdinalCategory :=
  let m := n.natAbs
  if 11 ≤ m % 100 ∧ m % 100 ≤ 13 then .other
  else if m % 10 = 1 then .one
  else if m % 10 = 2 then .two
  else if m % 10 = 3 then .few
  else .other

/-- The name of a category in a vocabulary. -/
def name : OrdinalCategory → Text
  | .one => "one".toList
  | .two => "two".toList
  | .few => "few".toList
  | .other => "other".toList

/-- The category of a name. -/
def ofName? (name : Text) : Option OrdinalCategory :=
  if name = "one".toList then some .one
  else if name = "two".toList then some .two
  else if name = "few".toList then some .few
  else if name = "other".toList then some .other
  else none

@[simp] theorem ofName?_name (category : OrdinalCategory) : ofName? category.name = some category := by
  cases category <;> decide

theorem ofName?_eq_some_iff {name : Text} {category : OrdinalCategory} :
    ofName? name = some category ↔ name = category.name := by
  constructor
  · intro h
    unfold ofName? at h
    repeat' split at h
    all_goals cases h
    all_goals assumption
  · rintro rfl
    exact ofName?_name category

end OrdinalCategory

/-- The suffixes that a language appends to the numerals of ordinals. -/
structure OrdinalSuffixes where
  one : Text
  two : Text
  few : Text
  other : Text
  deriving DecidableEq, Repr

namespace OrdinalSuffixes

/-- The English suffixes, which hold where a vocabulary gives no others. -/
def english : OrdinalSuffixes where
  one := "st".toList
  two := "nd".toList
  few := "rd".toList
  other := "th".toList

instance : Inhabited OrdinalSuffixes := ⟨english⟩

/-- The suffix of a category. -/
def suffix (suffixes : OrdinalSuffixes) : OrdinalCategory → Text
  | .one => suffixes.one
  | .two => suffixes.two
  | .few => suffixes.few
  | .other => suffixes.other

/-- The suffixes with that of one category replaced. -/
def set (suffixes : OrdinalSuffixes) (category : OrdinalCategory) (text : Text) : OrdinalSuffixes :=
  match category with
  | .one => { suffixes with one := text }
  | .two => { suffixes with two := text }
  | .few => { suffixes with few := text }
  | .other => { suffixes with other := text }

/-- A number as an ordinal: its numeral, then the suffix of its category. -/
def format (suffixes : OrdinalSuffixes) (n : Int) : Text :=
  Text.integerNumeral n ++ suffixes.suffix (.ofInt n)

theorem suffix_set (suffixes : OrdinalSuffixes) (c d : OrdinalCategory) (text : Text) :
    (suffixes.set c text).suffix d = if c = d then text else suffixes.suffix d := by
  cases c <;> cases d <;> rfl

end OrdinalSuffixes

end Kindred
