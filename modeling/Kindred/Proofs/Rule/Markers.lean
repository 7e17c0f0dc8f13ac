import Kindred.Proofs.Rule.Replacements
import Kindred.Rule.Template

/-!
# The markers of a rule template

A branch is written as a marker: its key, and in parentheses a text for its replacement
(`Branch.Written`). A key within bounds is written with leading zeros or none
(`BranchKey.Written`). A reader takes the marker at the front of a text if there is one
(`RuleTemplate.readBranch?_eq_some_iff`), the blanks before it, and behind it what may separate it
from the next (`RuleTemplate.dropSeparator`).

What is printed for a branch is a marker for it (`Branch.IsCanonical.written_render`).
-/

namespace Kindred

/-! ## Keys -/

namespace BranchKey

variable {key : BranchKey} {label digits : Text} {n : Int}

/-- A key as it may be written: a balance has leading zeros or none, and a sign if it is below zero. -/
inductive Written : BranchKey → Text → Prop
  | equal : Written .equal ['E', 'Q']
  | less : Written .less ['L', 'T']
  | greater : Written .greater ['G', 'T']
  | natural {digits : Text} (hne : digits ≠ []) (hdigits : ∀ c ∈ digits, c.isDigit = true)
      (hbound : (Text.decimalValue digits : Int) ≤ greatestBalance) :
      Written (.exact (Text.decimalValue digits)) digits
  | negative {digits : Text} (hne : digits ≠ []) (hdigits : ∀ c ∈ digits, c.isDigit = true)
      (hbound : leastBalance ≤ -(Text.decimalValue digits : Int)) :
      Written (.exact (-(Text.decimalValue digits : Int))) ('-' :: digits)

theorem ofBalance?_eq_some_iff :
    ofBalance? n = some key ↔ leastBalance ≤ n ∧ n ≤ greatestBalance ∧ .exact n = key := by
  unfold ofBalance?
  split
  · rename_i hbound
    simp [hbound]
  · rename_i hbound
    simpa using fun hleast hgreatest => (hbound ⟨hleast, hgreatest⟩).elim

theorem ofDigits?_eq_some_iff {negative : Bool} :
    ofDigits? negative digits = some key ↔ digits ≠ [] ∧ (∀ c ∈ digits, c.isDigit = true) ∧
      ofBalance? (if negative then -(Text.decimalValue digits : Int) else Text.decimalValue digits) =
        some key := by
  unfold ofDigits?
  split
  · rename_i hnone
    simp only [Bool.or_eq_true, List.isEmpty_iff, Bool.not_eq_true', List.all_eq_false] at hnone
    simp only [reduceCtorEq, false_iff]
    rintro ⟨hne, hdigits, -⟩
    obtain hempty | ⟨c, hc, hdigit⟩ := hnone
    · exact hne hempty
    · exact hdigit (hdigits c hc)
  · rename_i hsome
    simp only [Bool.or_eq_true, List.isEmpty_iff, Bool.not_eq_true', not_or, Bool.not_eq_false,
      List.all_eq_true] at hsome
    exact ⟨fun h => ⟨hsome.1, hsome.2, h⟩, fun h => h.2.2⟩

/-- The key that a text denotes is the one that is written there. -/
theorem ofLabel?_eq_some_iff : ofLabel? label = some key ↔ key.Written label := by
  constructor
  · intro h
    unfold ofLabel? at h
    split at h
    · exact Option.some.inj h ▸ .equal
    · exact Option.some.inj h ▸ .less
    · exact Option.some.inj h ▸ .greater
    · obtain ⟨hne, hdigits, hbalance⟩ := ofDigits?_eq_some_iff.1 h
      obtain ⟨hleast, -, rfl⟩ := ofBalance?_eq_some_iff.1 hbalance
      exact .negative hne hdigits hleast
    · obtain ⟨hne, hdigits, hbalance⟩ := ofDigits?_eq_some_iff.1 h
      obtain ⟨-, hgreatest, rfl⟩ := ofBalance?_eq_some_iff.1 hbalance
      exact .natural hne hdigits hgreatest
  · intro h
    cases h with
    | equal => rfl
    | less => rfl
    | greater => rfl
    | natural hne hdigits hbound =>
      have hletter {c : Char} {rest : Text} (hc : c.isDigit = false) (hlabel : label = c :: rest) :
          False := by
        have hdigit := hdigits c (hlabel ▸ List.mem_cons_self)
        rw [hc] at hdigit
        cases hdigit
      rw [ofLabel?.eq_5 label (hletter rfl) (hletter rfl) (hletter rfl) fun _ => hletter rfl,
        ofDigits?_eq_some_iff]
      have hleast : leastBalance ≤ (Text.decimalValue label : Int) :=
        Int.le_trans (by decide) (Int.natCast_nonneg _)
      exact ⟨hne, hdigits, ofBalance?_eq_some_iff.2 ⟨hleast, hbound, rfl⟩⟩
    | negative hne hdigits hbound =>
      rename_i digits
      rw [ofLabel?, ofDigits?_eq_some_iff]
      have hgreatest : -(Text.decimalValue digits : Int) ≤ greatestBalance :=
        Int.le_trans (Int.neg_nonpos_of_nonneg (Int.natCast_nonneg _)) (by decide)
      exact ⟨hne, hdigits, ofBalance?_eq_some_iff.2 ⟨hbound, hgreatest, rfl⟩⟩

theorem isCharacter_of_isDigit {c : Char} (h : c.isDigit = true) : isCharacter c = true := by
  simp [isCharacter, h]

theorem Written.isCharacter (h : key.Written label) : ∀ c ∈ label, isCharacter c = true := by
  cases h with
  | equal => exact List.all_eq_true.1 rfl
  | less => exact List.all_eq_true.1 rfl
  | greater => exact List.all_eq_true.1 rfl
  | natural _ hdigits _ => exact fun c hc => isCharacter_of_isDigit (hdigits c hc)
  | negative _ hdigits _ =>
    exact List.forall_mem_cons.2 ⟨rfl, fun c hc => isCharacter_of_isDigit (hdigits c hc)⟩

theorem Written.ne_nil (h : key.Written label) : label ≠ [] := by
  cases h with
  | natural hne _ _ => exact hne
  | _ => exact List.cons_ne_nil _ _

/-- The key can be written: a balance is within bounds. -/
def IsWritable : BranchKey → Prop
  | .exact n => leastBalance ≤ n ∧ n ≤ greatestBalance
  | _ => True

theorem written_natural {n : Nat} (h : (n : Int) ≤ greatestBalance) :
    Written (.exact n) (Text.numeral n) := by
  have hvalue : Text.decimalValue (Text.numeral n) = n := Text.decimalValue_numeral n
  have hwritten : Written (.exact (Text.decimalValue (Text.numeral n))) (Text.numeral n) :=
    .natural (Text.numeral_ne_nil n) (fun _ => Text.isDigit_of_mem_numeral) (hvalue.symm ▸ h)
  rwa [hvalue] at hwritten

theorem written_negative {n : Nat} (h : leastBalance ≤ -(n : Int)) :
    Written (.exact (-(n : Int))) ('-' :: Text.numeral n) := by
  have hvalue : Text.decimalValue (Text.numeral n) = n := Text.decimalValue_numeral n
  have hwritten : Written (.exact (-(Text.decimalValue (Text.numeral n) : Int)))
      ('-' :: Text.numeral n) :=
    .negative (Text.numeral_ne_nil n) (fun _ => Text.isDigit_of_mem_numeral) (hvalue.symm ▸ h)
  rwa [hvalue] at hwritten

theorem written_label (h : key.IsWritable) : key.Written key.label := by
  cases key with
  | equal => exact .equal
  | less => exact .less
  | greater => exact .greater
  | exact n =>
    cases n with
    | ofNat n => exact written_natural h.2
    | negSucc n =>
      have hvalue : Int.negSucc n = -((n + 1 : Nat) : Int) := rfl
      have hleast : leastBalance ≤ -((n + 1 : Nat) : Int) := hvalue ▸ h.1
      have hwritten := written_negative hleast
      rw [← hvalue] at hwritten
      exact hwritten

end BranchKey

/-! ## Branches -/

namespace Branch

variable {branch : Branch} {marker : Text}

/-- A branch as it may be written: its key and, in parentheses, a text that denotes its replacement
and does not close them. -/
inductive Written : Branch → Text → Prop
  | intro {key : BranchKey} {label body : Text} (hkey : key.Written label) (hbody : ')' ∉ body) :
      Written ⟨key, .read body⟩ (label ++ '(' :: (body ++ [')']))

theorem Written.exists_cons (h : branch.Written marker) :
    ∃ c rest, marker = c :: rest ∧ BranchKey.isCharacter c = true := by
  obtain ⟨hkey, -⟩ := h
  obtain ⟨c, label, rfl⟩ := List.exists_cons_of_ne_nil hkey.ne_nil
  exact ⟨c, _, rfl, hkey.isCharacter c List.mem_cons_self⟩

/-- A marker starts with no blank and with no semicolon. -/
theorem Written.head?_append (h : branch.Written marker) (rest : Text) :
    ∀ c ∈ (marker ++ rest).head?, Text.isBlank c = false ∧ c ≠ ';' := by
  obtain ⟨c, marker, rfl, hc⟩ := h.exists_cons
  refine Text.forall_mem_head?_cons ⟨Text.isBlank_eq_false rfl hc, ?_⟩ _
  rintro rfl
  revert hc
  decide

/-- A branch as it is printed. -/
def render (branch : Branch) : Text :=
  branch.key.label ++ '(' :: (branch.replacement.render ++ [')'])

/-- The branch is read back from what is printed for it. -/
structure IsCanonical (branch : Branch) : Prop where
  key : branch.key.IsWritable
  normal : branch.replacement.IsNormal
  groups : ∀ ref ∈ branch.replacement.groups, ref.IsWritable
  literals : ∀ text, .literal text ∈ branch.replacement → ')' ∉ text

end Branch

theorem Replacement.not_mem_render {replacement : Replacement}
    (hgroups : ∀ ref ∈ replacement.groups, ref.IsWritable)
    (hliterals : ∀ text, .literal text ∈ replacement → ')' ∉ text) : ')' ∉ replacement.render := by
  intro hmem
  obtain ⟨part, hpart, hmem⟩ := List.mem_flatMap.1 hmem
  cases part with
  | literal text =>
    obtain ⟨c, hc, hmem⟩ := List.mem_flatMap.1 hmem
    split at hmem
    · simp at hmem
    · exact hliterals text hpart (List.mem_singleton.1 hmem ▸ hc)
  | group ref =>
    have href : ref.IsWritable := hgroups ref (List.mem_filterMap.2 ⟨_, hpart, rfl⟩)
    have hlabel : ')' ∈ ref.label := by simpa using hmem
    exact absurd (href.isNameCharacter hlabel) (by decide)

theorem Branch.IsCanonical.written_render {branch : Branch} (h : branch.IsCanonical) :
    branch.Written branch.render := by
  have hwritten := Branch.Written.intro (BranchKey.written_label h.key)
    (Replacement.not_mem_render h.groups h.literals)
  rwa [Replacement.read_render h.normal h.groups] at hwritten

namespace RuleTemplate

variable {text rest : Text} {branch : Branch}

/-- The branch at the front of a text is the one that is written there. -/
theorem readBranch?_eq_some_iff :
    readBranch? text = some (branch, rest) ↔
      ∃ marker, text = marker ++ rest ∧ branch.Written marker := by
  constructor
  · intro h
    obtain ⟨-, -, htext⟩ := Text.exists_run BranchKey.isCharacter text
    unfold readBranch? at h
    split at h
    · rename_i inside hinside
      obtain ⟨hbody, -, hclosed⟩ := Text.exists_run (· != ')') inside
      split at h
      · rename_i key after hkey hafter
        obtain ⟨rfl, rfl⟩ := Prod.mk.inj (Option.some.inj h)
        refine ⟨_, ?_, .intro (BranchKey.ofLabel?_eq_some_iff.1 hkey)
          fun hmem => by simpa using hbody _ hmem⟩
        calc text
          _ = text.takeWhile BranchKey.isCharacter ++ '(' :: inside := by rw [← hinside, ← htext]
          _ = text.takeWhile BranchKey.isCharacter ++
                '(' :: (inside.takeWhile (· != ')') ++ ')' :: after) := by rw [← hafter, ← hclosed]
          _ = _ := by simp
      · cases h
    · cases h
  · rintro ⟨marker, rfl, hmarker⟩
    cases hmarker with
    | @intro key label body hkey hbody =>
      -- the opening parenthesis ends the key, and the first closing one ends the body
      have hopen : ∀ c ∈ ('(' :: (body ++ ')' :: rest)).head?, BranchKey.isCharacter c = false :=
        Text.forall_mem_head?_cons (by decide) _
      have hinside : ∀ c ∈ body, (c != ')') = true := fun c hc => by
        simpa using fun h : c = ')' => hbody (h ▸ hc)
      have hclose : ∀ c ∈ (')' :: rest).head?, (c != ')') = false :=
        Text.forall_mem_head?_cons (by decide) rest
      have htext : label ++ '(' :: (body ++ [')']) ++ rest =
          label ++ '(' :: (body ++ ')' :: rest) := by simp
      rw [htext]
      simp only [readBranch?, Text.takeWhile_append_of_ends hkey.isCharacter hopen,
        Text.dropWhile_append_of_ends hkey.isCharacter hopen,
        Text.takeWhile_append_of_ends hinside hclose, Text.dropWhile_append_of_ends hinside hclose,
        BranchKey.ofLabel?_eq_some_iff.2 hkey]

/-! ## Separators -/

/-- A text without the blanks, the semicolon and the blanks behind it that it may start with. -/
def dropSeparator (text : Text) : Text :=
  match Text.skipBlanks text with
  | ';' :: rest => Text.skipBlanks rest
  | rest => rest

theorem dropSeparator_suffix (text : Text) : dropSeparator text <:+ text := by
  unfold dropSeparator
  split
  · rename_i rest hrest
    have hsuffix : ';' :: rest <:+ text := hrest ▸ List.dropWhile_suffix _
    exact (List.dropWhile_suffix _).trans ((List.suffix_cons _ _).trans hsuffix)
  · exact List.dropWhile_suffix _

theorem dropSeparator_append (gap : Text)
    (hrest : ∀ c ∈ rest.head?, Text.isBlank c = false ∧ c ≠ ';') :
    dropSeparator (gap ++ rest) = dropSeparator gap ++ rest := by
  have hblank : ∀ c ∈ rest.head?, Text.isBlank c = false := fun c hc => (hrest c hc).1
  unfold dropSeparator
  have hskip : Text.skipBlanks (gap ++ rest) = Text.skipBlanks gap ++ rest :=
    Text.dropWhile_append_of_head gap hblank
  rw [hskip]
  cases Text.skipBlanks gap with
  | nil =>
    rw [List.nil_append]
    split
    · exact ((hrest _ rfl).2 rfl).elim
    · rfl
  | cons c gap =>
    by_cases hc : c = ';'
    · subst hc
      exact Text.dropWhile_append_of_head gap hblank
    · simp [hc]

theorem readSpacedBranch?_eq_some_iff :
    readSpacedBranch? text = some (branch, rest) ↔
      ∃ blanks marker after, (∀ c ∈ blanks, Text.isBlank c = true) ∧
        text = blanks ++ (marker ++ after) ∧ branch.Written marker ∧ rest = dropSeparator after := by
  have hseparator : readSpacedBranch? text =
      (readBranch? (Text.skipBlanks text)).map fun found => (found.1, dropSeparator found.2) := by
    unfold readSpacedBranch? dropSeparator
    congr 1
    funext ⟨branch, rest⟩
    cases hskip : Text.skipBlanks rest with
    | nil => simp only [hskip]
    | cons c more =>
      by_cases hc : c = ';'
      · subst hc
        simp only [hskip]
      · simp [hskip, hc]
  rw [hseparator, Option.map_eq_some_iff]
  constructor
  · rintro ⟨⟨branch, after⟩, hread, hrest⟩
    obtain ⟨rfl, rfl⟩ := Prod.mk.inj hrest
    obtain ⟨marker, hmarker, hwritten⟩ := readBranch?_eq_some_iff.1 hread
    obtain ⟨hblanks, -, htext⟩ := Text.exists_run Text.isBlank text
    rw [← Text.skipBlanks, hmarker] at htext
    exact ⟨_, marker, after, hblanks, htext, hwritten, rfl⟩
  · rintro ⟨blanks, marker, after, hblanks, rfl, hwritten, rfl⟩
    have hskip : Text.skipBlanks (blanks ++ (marker ++ after)) = marker ++ after :=
      Text.dropWhile_append_of_ends hblanks fun c hc => (hwritten.head?_append after c hc).1
    rw [hskip]
    exact ⟨(branch, after), readBranch?_eq_some_iff.2 ⟨marker, rfl, hwritten⟩, rfl⟩

end RuleTemplate

end Kindred
