import Kindred.Decomposition
import Kindred.Proofs.Pattern.Span

/-!
# Where a code is cut

What each way to decompose a code does on one level, apart from what becomes of the pieces. A rule,
a spouse and a peeled suffix cut a code into pieces that make up the code again, and every piece
that is decomposed further is shorter than the code.

`Tables.cut` gathers the ways in the order in which they are tried. It depends on the tables and the
code alone: no bound and nothing that was peeled before has a part in it. `cut_isOf` says what the
pieces are, and all that is proved about decompositions is drawn from it.
-/

namespace Kindred

/-! ## Pieces -/

section Pieces

variable {code before text after left right : Text}

theorem Text.length_lt_of_around (h : code = before ++ text ++ after) (hne : text ≠ []) :
    before.length < code.length ∧ after.length < code.length := by
  have hpos := List.length_pos_iff.2 hne
  rw [h, List.length_append, List.length_append]
  omega

theorem Text.length_lt_of_between (h : code = left ++ right) (hleft : left ≠ [])
    (hright : right ≠ []) : left.length < code.length ∧ right.length < code.length := by
  have hleft := List.length_pos_iff.2 hleft
  have hright := List.length_pos_iff.2 hright
  rw [h, List.length_append]
  omega

end Pieces

/-! ## The pieces of a rule -/

namespace Rule

variable {rule : Rule} {number : Nat} {tables : Tables} {code before after : Text} {term : Term}

theorem fragment_of_termOf? {m : Match} (h : rule.termOf? number tables m = some term) :
    term.fragment = m.text := by
  obtain ⟨template, -, rfl⟩ := Option.map_eq_some_iff.1 h
  rfl

/-- A rule takes a piece that is not empty out of a code. -/
theorem resolve?_eq_some (h : rule.resolve? number tables code = some (before, term, after)) :
    code = before ++ term.fragment ++ after ∧ term.fragment ≠ [] := by
  unfold resolve? apply at h
  cases hm : rule.pattern.search? code with
  | none => simp [hm] at h
  | some m =>
    have hin : code = m.before ++ m.text ++ m.after := Pattern.search?_isIn hm
    have hne : m.text ≠ [] := Pattern.search?_text_ne_nil hm
    cases ht : rule.termOf? number tables m with
    | none => simp [hm, ht] at h
    | some found =>
      simp only [hm, Option.map_some, ht, Option.some.injEq, Prod.mk.injEq] at h
      obtain ⟨rfl, rfl, rfl⟩ := h
      rw [fragment_of_termOf? ht]
      exact ⟨hin, hne⟩

end Rule

namespace Tables

variable {tables : Tables} {code before after left right suffix : Text} {term : Term}

theorem firstResolved?_eq_some (h : tables.firstResolved? code = some (before, term, after)) :
    code = before ++ term.fragment ++ after ∧ term.fragment ≠ [] := by
  obtain ⟨⟨rule, i⟩, -, hrule⟩ := List.exists_of_findSome?_eq_some h
  exact Rule.resolve?_eq_some hrule

theorem length_lt_of_firstResolved? (h : tables.firstResolved? code = some (before, term, after)) :
    before.length < code.length ∧ after.length < code.length := by
  obtain ⟨hcode, hne⟩ := firstResolved?_eq_some h
  exact Text.length_lt_of_around hcode hne

/-! ## Spouses -/

/-- Both sides of the cut before a spouse are pieces of the code, and neither is empty. -/
theorem marriageCut?_eq_some (h : marriageCut? code = some (left, right)) :
    code = left ++ right ∧ left ≠ [] ∧ right ≠ [] := by
  simp only [marriageCut?] at h
  generalize hlast : code.length -
    (code.reverse.takeWhile fun letter => !Code.makes .spouse letter).length - 1 = last at h
  split at h
  · simp at h
  · rename_i hpos
    obtain ⟨rfl, rfl⟩ := Prod.mk.inj (Option.some.inj h)
    refine ⟨(List.take_append_drop last code).symm, ?_, ?_⟩
    · intro hnil
      have := congrArg List.length hnil
      simp only [List.length_take, List.length_nil] at this
      omega
    · intro hnil
      have := congrArg List.length hnil
      simp only [List.length_drop, List.length_nil] at this
      omega

theorem length_lt_of_marriageCut? (h : marriageCut? code = some (left, right)) :
    left.length < code.length ∧ right.length < code.length := by
  obtain ⟨hcode, hleft, hright⟩ := marriageCut?_eq_some h
  exact Text.length_lt_of_between hcode hleft hright

/-! ## Suffixes -/

theorem fragment_of_direct? (h : tables.direct? code = some term) : term.fragment = code := by
  obtain ⟨key, -, hkey⟩ := List.exists_of_findSome?_eq_some h
  obtain ⟨template, -, rfl⟩ := Option.map_eq_some_iff.1 hkey
  rfl

theorem exists_origin_of_direct? (h : tables.direct? code = some term) :
    ∃ key, term.origin = .direct key := by
  obtain ⟨key, -, hkey⟩ := List.exists_of_findSome?_eq_some h
  obtain ⟨template, -, rfl⟩ := Option.map_eq_some_iff.1 hkey
  exact ⟨key, rfl⟩

/-- `suffix` is the longest end of a code that has a phrase, `before` is what stands before it, and
`term` is its term. The empty text at the end of a code is no suffix of it. -/
structure IsLongestDirectSuffix (tables : Tables) (code before suffix : Text) (term : Term) :
    Prop where
  append : code = before ++ suffix
  ne_nil : suffix ≠ []
  direct : tables.direct? suffix = some term
  longest : ∀ before' suffix', code = before' ++ suffix' → suffix.length < suffix'.length →
    tables.direct? suffix' = none

theorem IsLongestDirectSuffix.length_lt (h : tables.IsLongestDirectSuffix code before suffix term) :
    before.length < code.length := by
  have hpos := List.length_pos_iff.2 h.ne_nil
  rw [h.append, List.length_append]
  omega

/-- The search for a suffix with a phrase finds none where there is none. -/
theorem directSuffix?_eq_none (h : tables.directSuffix? code = none) :
    ∀ before suffix, code = before ++ suffix → suffix ≠ [] → tables.direct? suffix = none := by
  induction code with
  | nil =>
    intro before suffix hcode hne
    exact absurd (List.append_eq_nil_iff.1 hcode.symm).2 hne
  | cons letter rest ih =>
    unfold directSuffix? at h
    cases hdirect : tables.direct? (letter :: rest) with
    | some term => simp [hdirect] at h
    | none =>
      simp only [hdirect, Option.map_eq_none_iff] at h
      intro before suffix hcode hne
      cases before with
      | nil =>
        rw [List.nil_append] at hcode
        rw [← hcode, hdirect]
      | cons b before =>
        obtain ⟨-, hrest⟩ := List.cons.inj hcode
        exact ih h before suffix hrest hne

/-- The search for a suffix with a phrase finds the longest. -/
theorem directSuffix?_eq_some (h : tables.directSuffix? code = some (before, term)) :
    tables.IsLongestDirectSuffix code before term.fragment term := by
  induction code generalizing before with
  | nil => simp [directSuffix?] at h
  | cons letter rest ih =>
    unfold directSuffix? at h
    cases hdirect : tables.direct? (letter :: rest) with
    | some found =>
      simp only [hdirect, Option.some.injEq, Prod.mk.injEq] at h
      obtain ⟨rfl, rfl⟩ := h
      rw [fragment_of_direct? hdirect]
      refine ⟨rfl, List.cons_ne_nil _ _, hdirect, ?_⟩
      intro before' suffix' hcode hlen
      have := congrArg List.length hcode
      rw [List.length_append] at this
      omega
    | none =>
      simp only [hdirect, Option.map_eq_some_iff] at h
      obtain ⟨⟨before', found⟩, hrest, heq⟩ := h
      obtain ⟨rfl, rfl⟩ := Prod.mk.inj heq
      obtain ⟨happend, hne, hfound, hlongest⟩ := ih hrest
      refine ⟨by rw [List.cons_append, ← happend], hne, hfound, ?_⟩
      intro front suffix' hcode hlen
      cases front with
      | nil =>
        rw [List.nil_append] at hcode
        rw [← hcode, hdirect]
      | cons b front =>
        obtain ⟨-, hcode⟩ := List.cons.inj hcode
        exact hlongest front suffix' hcode hlen

/-- Something is left of a suffix unless the code itself has a phrase. -/
theorem before_ne_nil_of_directSuffix? (hdirect : tables.direct? code = none)
    (h : tables.directSuffix? code = some (before, term)) : before ≠ [] := by
  rintro rfl
  have hlongest := directSuffix?_eq_some h
  have hcode : code = term.fragment := hlongest.append
  rw [← hcode] at hlongest
  simp [hlongest.direct] at hdirect

end Tables

/-! ## One level of a decomposition -/

/-- How a code is cut on one level. -/
inductive Cut
  /-- The code has a phrase itself. -/
  | whole (term : Term)
  /-- A rule has a phrase for a part of the code. -/
  | around (before : Text) (term : Term) (after : Text)
  /-- The code is cut before the last letter for a spouse. -/
  | between (left right : Text)
  /-- The longest suffix that has a phrase is peeled off. -/
  | behind (before : Text) (term : Term)
  /-- Nothing is found for the code. -/
  | nowhere

/-- The pieces of a cut make up the code. What has a phrase in it is not empty, and neither side of
a cut before a spouse is, nor what is left of a suffix. -/
def Cut.IsOf (code : Text) : Cut → Prop
  | .whole term => term.fragment = code
  | .around before term after => code = before ++ term.fragment ++ after ∧ term.fragment ≠ []
  | .between left right => code = left ++ right ∧ left ≠ [] ∧ right ≠ []
  | .behind before term => code = before ++ term.fragment ∧ term.fragment ≠ [] ∧ before ≠ []
  | .nowhere => True

/-- By which way a cut is found. A rule is asked only for a code that has no phrase itself. -/
def Cut.IsFoundBy (tables : Tables) (code : Text) : Cut → Prop
  | .whole term => tables.direct? code = some term
  | .around before term after =>
    tables.direct? code = none ∧ tables.firstResolved? code = some (before, term, after)
  | .between left right => Tables.marriageCut? code = some (left, right)
  | .behind before term => tables.directSuffix? code = some (before, term)
  | .nowhere => tables.directSuffix? code = none

namespace Tables

/-- The cut of a code by the first way that succeeds. -/
def cut (tables : Tables) (useRules : Bool) (code : Text) : Cut :=
  match tables.direct? code with
  | some term => .whole term
  | none =>
    match if useRules then tables.firstResolved? code else none with
    | some (before, term, after) => .around before term after
    | none =>
      match marriageCut? code with
      | some (left, right) => .between left right
      | none =>
        match tables.directSuffix? code with
        | some (before, term) => .behind before term
        | none => .nowhere

theorem cut_isFoundBy (tables : Tables) (useRules : Bool) (code : Text) :
    (tables.cut useRules code).IsFoundBy tables code := by
  unfold cut
  split
  · assumption
  · rename_i hdirect
    split
    · rename_i before term after hrule
      cases useRules with
      | false => simp at hrule
      | true => exact ⟨hdirect, hrule⟩
    · split
      · assumption
      · split <;> assumption

/-- **A cut loses nothing and leaves shorter pieces.** -/
theorem cut_isOf (tables : Tables) (useRules : Bool) (code : Text) :
    (tables.cut useRules code).IsOf code := by
  unfold cut
  split
  · rename_i term hdirect
    exact fragment_of_direct? hdirect
  · rename_i hdirect
    split
    · rename_i before term after hrule
      cases useRules with
      | false => simp at hrule
      | true => exact firstResolved?_eq_some hrule
    · split
      · rename_i left right hmarriage
        exact marriageCut?_eq_some hmarriage
      · split
        · rename_i before term hsuffix
          have hlongest := directSuffix?_eq_some hsuffix
          exact ⟨hlongest.append, hlongest.ne_nil, before_ne_nil_of_directSuffix? hdirect hsuffix⟩
        · trivial

section Shorter

variable {tables : Tables} {useRules : Bool} {code before after left right : Text} {term : Term}

theorem length_lt_of_cut_around (h : tables.cut useRules code = .around before term after) :
    before.length < code.length ∧ after.length < code.length := by
  obtain ⟨hcode, hne⟩ : (Cut.around before term after).IsOf code := h ▸ tables.cut_isOf useRules code
  exact Text.length_lt_of_around hcode hne

theorem length_lt_of_cut_between (h : tables.cut useRules code = .between left right) :
    left.length < code.length ∧ right.length < code.length := by
  obtain ⟨hcode, hleft, hright⟩ : (Cut.between left right).IsOf code :=
    h ▸ tables.cut_isOf useRules code
  exact Text.length_lt_of_between hcode hleft hright

theorem length_lt_of_cut_behind (h : tables.cut useRules code = .behind before term) :
    before.length < code.length := by
  obtain ⟨hcode, hne, -⟩ : (Cut.behind before term).IsOf code := h ▸ tables.cut_isOf useRules code
  have hpos := List.length_pos_iff.2 hne
  rw [hcode, List.length_append]
  omega

end Shorter

end Tables

end Kindred
