import Kindred.Proofs.Rule.Reading

/-!
# Branches with numerals for keys

A branch whose key is the numeral of an integer is read with that integer as its key, if keys can name
it. If they cannot, the numeral is no key, but its last digits are one: the reader passes over its
first characters, and the branch applies at another balance than the one that is written there
(`RuleTemplate.IsLastDigits`). **`RuleTemplate.select?_numeralBranch` is the main statement**: it says
for every integer at which balance its branch applies. Ten trillion million is read as zero
(`RuleTemplate.numeralBranch_misread`).
-/

namespace Kindred

/-! ## Numerals that are no keys -/

namespace BranchKey

variable {digits : Text}

/-- Digits are no key if their number is too great for one. -/
theorem ofLabel?_digits_eq_none (hdigits : ∀ c ∈ digits, c.isDigit = true)
    (h : greatestBalance < Text.decimalValue digits) : ofLabel? digits = none := by
  refine Option.eq_none_iff_forall_ne_some.2 fun key hkey => ?_
  have hletter : ∀ {c : Char} {rest : Text}, digits = c :: rest → c.isDigit = true :=
    fun hcons => hdigits _ (hcons ▸ List.mem_cons_self)
  cases ofLabel?_eq_some_iff.1 hkey with
  | equal => exact absurd (hletter rfl) (by decide)
  | less => exact absurd (hletter rfl) (by decide)
  | greater => exact absurd (hletter rfl) (by decide)
  | natural _ _ hbound => omega
  | negative _ _ _ => exact absurd (hletter rfl) (by decide)

theorem ofLabel?_negative_eq_none (h : -(Text.decimalValue digits : Int) < leastBalance) :
    ofLabel? ('-' :: digits) = none := by
  refine Option.eq_none_iff_forall_ne_some.2 fun key hkey => ?_
  cases ofLabel?_eq_some_iff.1 hkey with
  | natural _ hdigits _ => exact absurd (hdigits '-' List.mem_cons_self) (by decide)
  | negative _ _ hbound => omega

end BranchKey

namespace RuleTemplate

open BranchKey

variable {label digits body rest : Text} {key : BranchKey}

/-! ## Reading a single branch -/

/-- No branch is read where the characters in front of the parenthesis are no key. -/
theorem readSpacedBranch?_eq_none (hne : label ≠ []) (hlabel : ∀ c ∈ label, isCharacter c = true)
    (h : ofLabel? label = none) : readSpacedBranch? (label ++ '(' :: rest) = none := by
  obtain ⟨c, more, rfl⟩ := List.exists_cons_of_ne_nil hne
  have hblank : Text.isBlank c = false :=
    Text.isBlank_eq_false rfl (hlabel c List.mem_cons_self)
  have hskip : Text.skipBlanks (c :: more ++ '(' :: rest) = c :: more ++ '(' :: rest :=
    List.dropWhile_cons_of_neg (by rw [hblank]; exact Bool.false_ne_true)
  have hopen : ∀ d ∈ ('(' :: rest).head?, isCharacter d = false :=
    Text.forall_mem_head?_cons (by decide) rest
  rw [readSpacedBranch?, hskip, readBranch?, Text.dropWhile_append_of_ends hlabel hopen,
    Text.takeWhile_append_of_ends hlabel hopen, h]
  rfl

/-- A text that is one marker is one branch. -/
theorem pieces_marker (hkey : key.Written label) (hbody : ')' ∉ body) :
    pieces (label ++ '(' :: (body ++ [')'])) = ([⟨key, .read body⟩], []) := by
  have hread : readSpacedBranch? (label ++ '(' :: (body ++ [')'])) =
      some (⟨key, .read body⟩, []) :=
    readSpacedBranch?_eq_some_iff.2
      ⟨[], _, [], (fun _ h => nomatch h), (List.append_nil _).symm, .intro hkey hbody, rfl⟩
  rw [pieces_of_some hread]
  rfl

/-! ## Digits -/

/-- The digits `last` are the longest end of `digits` whose number a key can name, and `front` stands
before them. -/
structure IsLastDigits (digits front last : Text) : Prop where
  append : digits = front ++ last
  ne_nil : last ≠ []
  le : (Text.decimalValue last : Int) ≤ greatestBalance
  longest : ∀ front' last', digits = front' ++ last' → last.length < last'.length →
    greatestBalance < Text.decimalValue last'

theorem IsLastDigits.whole (hne : digits ≠ [])
    (h : (Text.decimalValue digits : Int) ≤ greatestBalance) : IsLastDigits digits [] digits := by
  refine ⟨rfl, hne, h, fun front' last' happend hlength => ?_⟩
  have := congrArg List.length happend
  rw [List.length_append] at this
  omega

theorem IsLastDigits.cons {d : Char} {front last : Text} (h : IsLastDigits digits front last)
    (hgreat : greatestBalance < Text.decimalValue (d :: digits)) :
    IsLastDigits (d :: digits) (d :: front) last := by
  refine ⟨by rw [h.append, List.cons_append], h.ne_nil, h.le, fun front' last' happend hlength => ?_⟩
  cases front' with
  | nil =>
    obtain rfl : d :: digits = last' := happend
    exact hgreat
  | cons e front' => exact h.longest front' last' (List.cons.inj happend).2 hlength

/-- Only the first digit is passed over if the others are few enough for a key. -/
theorem IsLastDigits.eq_of_cons {d : Char} {front last : Text}
    (h : IsLastDigits (d :: digits) front last)
    (hgreat : greatestBalance < Text.decimalValue (d :: digits))
    (hle : (Text.decimalValue digits : Int) ≤ greatestBalance) : last = digits := by
  cases front with
  | nil =>
    obtain rfl : d :: digits = last := h.append
    exact absurd h.le (by omega)
  | cons e front =>
    have happend : digits = front ++ last := (List.cons.inj h.append).2
    cases front with
    | nil => exact happend.symm
    | cons e' front =>
      -- a longer end that a key can name would be `digits` itself
      have hlength : last.length < digits.length := by
        rw [happend, List.length_append, List.length_cons]
        omega
      exact absurd (h.longest [d] digits rfl hlength) (by omega)

/-- A key can name the number of a single digit. -/
theorem decimalValue_singleton_le {d : Char} (h : d.isDigit = true) :
    (Text.decimalValue [d] : Int) ≤ greatestBalance := by
  have hvalue : Text.decimalValue [d] = d.toNat - '0'.toNat := Nat.zero_add _
  have hzero : '0'.toNat = 48 := rfl
  have hnine : d.toNat ≤ 57 := (Char.isDigit_iff_toNat.1 h).2
  rw [hvalue, hzero, greatestBalance]
  omega

/-- Digits in front of a parenthesis are read from the first place on from which they are a key. -/
theorem exists_pieces_digits (hne : digits ≠ []) (hdigits : ∀ c ∈ digits, c.isDigit = true)
    (hbody : ')' ∉ body) :
    ∃ front last, IsLastDigits digits front last ∧
      pieces (digits ++ '(' :: (body ++ [')'])) =
        ([⟨.exact (Text.decimalValue last), .read body⟩], front) := by
  induction digits with
  | nil => exact absurd rfl hne
  | cons d digits ih =>
    by_cases hle : (Text.decimalValue (d :: digits) : Int) ≤ greatestBalance
    · exact ⟨[], d :: digits, .whole hne hle, pieces_marker (.natural hne hdigits hle) hbody⟩
    · have hgreat : greatestBalance < Text.decimalValue (d :: digits) := by omega
      have hmore : digits ≠ [] := by
        rintro rfl
        exact hle (decimalValue_singleton_le (hdigits d List.mem_cons_self))
      have hnone : readSpacedBranch? (d :: (digits ++ '(' :: (body ++ [')']))) = none :=
        readSpacedBranch?_eq_none hne (fun c hc => isCharacter_of_isDigit (hdigits c hc))
          (ofLabel?_digits_eq_none hdigits hgreat)
      obtain ⟨front, last, hlast, hpieces⟩ :=
        ih hmore fun c hc => hdigits c (List.mem_cons_of_mem d hc)
      exact ⟨d :: front, last, hlast.cons hgreat, by rw [List.cons_append, pieces_of_none hnone, hpieces]⟩

/-! ## Numerals -/

/-- The text of a branch that has the numeral of an integer for its key. -/
def numeralBranch (z : Int) (body : Text) : Text :=
  Text.integerNumeral z ++ '(' :: (body ++ [')'])

/-- A key can name the integer. -/
def IsInBounds (z : Int) : Prop := leastBalance ≤ z ∧ z ≤ greatestBalance

theorem pieces_numeralBranch {z : Int} (hz : IsInBounds z) (hbody : ')' ∉ body) :
    pieces (numeralBranch z body) = ([⟨.exact z, .read body⟩], []) :=
  have hwritten : (BranchKey.exact z).Written (Text.integerNumeral z) := written_label hz
  pieces_marker hwritten hbody

/-- The numeral of an integer that no key can name is read from its last digits. -/
theorem exists_pieces_numeralBranch {z : Int} (hz : ¬ IsInBounds z) (hbody : ')' ∉ body) :
    ∃ front last outside, IsLastDigits (Text.numeral z.natAbs) front last ∧
      pieces (numeralBranch z body) = ([⟨.exact (Text.decimalValue last), .read body⟩], outside) := by
  obtain ⟨front, last, hlast, hpieces⟩ := exists_pieces_digits (Text.numeral_ne_nil z.natAbs)
    (fun _ => Text.isDigit_of_mem_numeral) hbody
  cases z with
  | ofNat n => exact ⟨front, last, front, hlast, hpieces⟩
  | negSucc n =>
    -- the sign and all digits together are no key either
    have hsmall : -(Text.decimalValue (Text.numeral (n + 1)) : Int) < leastBalance := by
      rw [Text.decimalValue_numeral]
      unfold IsInBounds leastBalance greatestBalance at hz
      rw [leastBalance]
      omega
    have hsigned : ∀ c ∈ '-' :: Text.numeral (n + 1), isCharacter c = true :=
      List.forall_mem_cons.2
        ⟨rfl, fun c hc => isCharacter_of_isDigit (Text.isDigit_of_mem_numeral hc)⟩
    have hnone : readSpacedBranch? ('-' :: (Text.numeral (n + 1) ++ '(' :: (body ++ [')']))) = none :=
      readSpacedBranch?_eq_none (List.cons_ne_nil _ _) hsigned (ofLabel?_negative_eq_none hsmall)
    refine ⟨front, last, '-' :: front, hlast, ?_⟩
    rw [numeralBranch, Text.integerNumeral, List.cons_append, pieces_of_none hnone]
    rw [Int.natAbs_negSucc] at hpieces
    rw [hpieces]

theorem select?_single (n : Int) (replacement : Replacement) (outside : Text) (k : Int) :
    (conditional [⟨.exact n, replacement⟩] outside).select? k =
      if k = n then some replacement else none := by
  have hsign : ∀ k, ofSign k ≠ .exact n := by
    intro k
    unfold ofSign
    split
    · exact fun h => nomatch h
    · split
      · exact fun h => nomatch h
      · exact fun h => nomatch h
  by_cases hk : k = n
  · simp [select?, branch?, hk]
  · simp [select?, branch?, hk, Ne.symm hk, (hsign k).symm]

/-- **At which balance the branch of a numeral applies.** Its key is the integer itself, if a key can
name it; otherwise it is the number of the last digits of the numeral, as many as a key can name. The
branch applies at the balance that is its key and at no other. -/
theorem select?_numeralBranch (z : Int) {body : Text} (hbody : ')' ∉ body) :
    ∃ n outside, read (numeralBranch z body) = .conditional [⟨.exact n, .read body⟩] outside ∧
      (∀ k, (read (numeralBranch z body)).select? k = if k = n then some (.read body) else none) ∧
      (IsInBounds z → n = z) ∧
      (¬ IsInBounds z → ∃ front last, IsLastDigits (Text.numeral z.natAbs) front last ∧
        n = Text.decimalValue last) := by
  by_cases hz : IsInBounds z
  · have hread := read_of_branches (List.cons_ne_nil _ _) (pieces_numeralBranch hz hbody)
    refine ⟨z, _, hread, fun k => ?_, fun _ => rfl, fun hout => absurd hz hout⟩
    rw [hread, select?_single]
  · obtain ⟨front, last, outside, hlast, hpieces⟩ := exists_pieces_numeralBranch hz hbody
    have hread := read_of_branches (List.cons_ne_nil _ _) hpieces
    refine ⟨_, _, hread, fun k => ?_, fun hin => absurd hin hz, fun _ => ⟨front, last, hlast, rfl⟩⟩
    rw [hread, select?_single]

/-- Minus two is read as it is written. The greatest balance and one more is read from its second
digit on. -/
theorem select?_numeralBranch_aunt :
    ')' ∉ "PZ".toList ∧ IsInBounds (-2) ∧ ¬ IsInBounds 9223372036854775808 ∧
      (read (numeralBranch (-2) "PZ".toList)).select? (-2) = some [.literal "PZ".toList] ∧
      (read (numeralBranch 9223372036854775808 "PZ".toList)).select? 223372036854775808 =
        some [.literal "PZ".toList] := by
  have hbody : ')' ∉ "PZ".toList := by decide
  have hin : IsInBounds (-2) := ⟨by decide, by decide⟩
  have hout : ¬ IsInBounds 9223372036854775808 := fun h => absurd h.2 (by decide)
  have hphrase : Replacement.read "PZ".toList = [.literal "PZ".toList] := by decide +kernel
  refine ⟨hbody, hin, hout, ?_, ?_⟩
  · obtain ⟨n, outside, -, hselect, hbounds, -⟩ := select?_numeralBranch (-2) hbody
    rw [hselect, hbounds hin, if_pos rfl, hphrase]
  · obtain ⟨n, outside, -, hselect, -, hoverflow⟩ :=
      select?_numeralBranch 9223372036854775808 hbody
    obtain ⟨front, last, hlast, hn⟩ := hoverflow hout
    have hdigits : Text.numeral (Int.natAbs 9223372036854775808) =
        '9' :: "223372036854775808".toList := by decide +kernel
    rw [hdigits] at hlast
    rw [hselect, hn, hlast.eq_of_cons (by decide +kernel) (by decide +kernel), hphrase]
    exact if_pos (by decide +kernel)

/-- **The branch of an integer that no key can name may apply**, and at a balance that codes have. -/
theorem numeralBranch_misread :
    ¬ ∀ (z : Int) (body : Text) (k : Int) (branches : List Branch) (outside : Text), ')' ∉ body →
      read (numeralBranch z body) = .conditional branches outside →
        branch? branches (.exact k) = some (.read body) → k = z := by
  intro h
  have hread : read (numeralBranch 10000000000000000000 "F".toList) =
      .conditional [⟨.exact 0, .read "F".toList⟩] ['1'] := by decide +kernel
  have hzero : (0 : Int) = 10000000000000000000 :=
    h _ _ 0 _ _ (by decide) hread (by decide +kernel)
  exact absurd hzero (by decide)

end RuleTemplate

end Kindred
