import Kindred.Proofs.Decomposition.Cuts

/-!
# Peeling is recursion

Suffixes are peeled in a loop that keeps the peeled terms and leaves by one of four exits. Here the
loop is taken apart: the terms peeled before play no part in what comes next (`peel_append`), there
are rounds enough (`peel_rounds`), and so peeling one suffix is resolving what stands before it
without rules, and the term of the suffix behind that (`growSuffix_of_directSuffix?`).

`resolve_eq_cut` puts this beside the other ways: a code is resolved by its cut, and only the text
before a peeled suffix is resolved again on the same level. So what two decompositions of a code
have in common follows from what they have in common piece by piece: `resolve_rel` for one level,
and `decompose_rel` for all levels within two bounds.

`decomposeRecursively` is the decomposition by recursion alone, with a limit or without one, and
the main statement is that decomposing within a bound is just that (`growSuffix_eq_recursion`).
-/

namespace Kindred

namespace Tables

variable {tables : Tables} {split : Text → List Term} {code before : Text} {term : Term}

/-! ## The loop -/

/-- The terms peeled so far stay behind what the loop still finds. -/
theorem peel_append (tables : Tables) (split : Text → List Term) (rounds : Nat)
    (peeled : List Term) (code : Text) :
    tables.peel split rounds peeled code = tables.peel split rounds [] code ++ peeled := by
  induction rounds generalizing peeled code with
  | zero => rfl
  | succ rounds ih =>
    simp only [peel]
    cases tables.directSuffix? code with
    | none => rfl
    | some found =>
      obtain ⟨before, term⟩ := found
      cases before with
      | nil => rfl
      | cons letter before =>
        simp only
        cases tables.direct? (letter :: before) with
        | some first => rfl
        | none =>
          simp only
          cases marriageCut? (letter :: before) with
          | some sides => simp
          | none =>
            simp only
            rw [ih (term :: peeled), ih [term], List.append_assoc]
            rfl

/-- Any two numbers of rounds that reach the length of the code do the same. -/
theorem peel_rounds {rounds rounds' : Nat} {peeled : List Term} (h : code.length ≤ rounds)
    (h' : code.length ≤ rounds') :
    tables.peel split rounds peeled code = tables.peel split rounds' peeled code := by
  induction rounds generalizing rounds' peeled code with
  | zero =>
    obtain rfl := List.length_eq_zero_iff.1 (Nat.le_zero.1 h)
    cases rounds' <;> rfl
  | succ rounds ih =>
    cases rounds' with
    | zero =>
      obtain rfl := List.length_eq_zero_iff.1 (Nat.le_zero.1 h')
      rfl
    | succ rounds' =>
      simp only [peel]
      cases hsuffix : tables.directSuffix? code with
      | none => rfl
      | some found =>
        obtain ⟨before, term⟩ := found
        have hlt := (directSuffix?_eq_some hsuffix).length_lt
        cases before with
        | nil => rfl
        | cons letter before =>
          have hmore : tables.peel split rounds (term :: peeled) (letter :: before) =
              tables.peel split rounds' (term :: peeled) (letter :: before) :=
            ih (by omega) (by omega)
          simp only
          rw [hmore]

/-- Nothing is peeled off a code that no suffix has a phrase for. -/
theorem growSuffix_of_directSuffix?_eq_none (h : tables.directSuffix? code = none) :
    tables.growSuffix split code = [.literal code] := by
  unfold growSuffix
  cases hlen : code.length with
  | zero => rfl
  | succ n => simp only [peel, h]

/-- One suffix is peeled off a code, and what stands before it is resolved without rules. -/
theorem growSuffix_of_directSuffix? (h : tables.directSuffix? code = some (before, term))
    (hbefore : before ≠ []) :
    tables.growSuffix split code = tables.resolve split false before ++ [term] := by
  have hlt := (directSuffix?_eq_some h).length_lt
  obtain ⟨rounds, hrounds⟩ : ∃ rounds, code.length = rounds + 1 := ⟨code.length - 1, by omega⟩
  obtain ⟨letter, rest, rfl⟩ := List.exists_cons_of_ne_nil hbefore
  simp only [growSuffix, hrounds, peel, h, resolve, Bool.false_eq_true, if_false]
  cases tables.direct? (letter :: rest) with
  | some first => rfl
  | none =>
    simp only
    cases marriageCut? (letter :: rest) with
    | some sides => simp
    | none =>
      simp only
      rw [peel_append, peel_rounds (by omega) (Nat.le_refl _)]

/-! ## Recursion by cuts -/

/-- **A code is resolved by its cut.** What is left and right of a cut goes to `split`, and what
stands before a peeled suffix is resolved again without rules. -/
theorem resolve_eq_cut (tables : Tables) (split : Text → List Term) (useRules : Bool)
    (code : Text) :
    tables.resolve split useRules code =
      match tables.cut useRules code with
      | .whole term => [term]
      | .around before term after => split before ++ term :: split after
      | .between left right => split left ++ split right
      | .behind before term => tables.resolve split false before ++ [term]
      | .nowhere => [.literal code] := by
  rw [resolve]
  unfold cut
  cases hdirect : tables.direct? code with
  | some term => rfl
  | none =>
    simp only
    cases (if useRules then tables.firstResolved? code else none) with
    | some found => rfl
    | none =>
      simp only
      cases marriageCut? code with
      | some sides => rfl
      | none =>
        simp only
        cases hsuffix : tables.directSuffix? code with
        | none => exact growSuffix_of_directSuffix?_eq_none hsuffix
        | some found =>
          obtain ⟨before, term⟩ := found
          have hbefore := before_ne_nil_of_directSuffix? hdirect hsuffix
          exact growSuffix_of_directSuffix? hsuffix hbefore

/-! ## Relations that are made up piece by piece -/

/-- A relation between a text and two lists of terms that holds of no terms for the empty text, of
one term for its own fragment, and that may be joined like the texts and the lists. -/
structure IsPiecewise (R : Text → List Term → List Term → Prop) : Prop where
  nil : R [] [] []
  single : ∀ term : Term, term.fragment ≠ [] → R term.fragment [term] [term]
  append : ∀ {a b k k' l l'}, R a k k' → R b l l' → R (a ++ b) (k ++ l) (k' ++ l')

/-- **Whatever two ways to decompose the sides of cuts have in common piece by piece, resolving a
code by the one and by the other has in common too.** Only sides shorter than the code count: it
is cut in the same places for both, and no cut leaves it whole. -/
theorem resolve_rel {R : Text → List Term → List Term → Prop} (hR : IsPiecewise R)
    (split split' : Text → List Term) {useRules : Bool} (hcode : code ≠ [])
    (hsides : ∀ side, side.length < code.length → R side (split side) (split' side)) :
    R code (tables.resolve split useRules code) (tables.resolve split' useRules code) := by
  induction hn : code.length using Nat.strongRecOn generalizing useRules code with
  | ind n ih =>
    have hisOf := tables.cut_isOf useRules code
    rw [resolve_eq_cut, resolve_eq_cut]
    cases hcut : tables.cut useRules code with
    | whole term =>
      rw [hcut] at hisOf
      obtain rfl : term.fragment = code := hisOf
      exact hR.single term hcode
    | around before term after =>
      obtain ⟨hbefore, hafter⟩ := length_lt_of_cut_around hcut
      rw [hcut] at hisOf
      have hjoined := hR.append (hR.append (hsides before hbefore) (hR.single term hisOf.2))
        (hsides after hafter)
      rw [← hisOf.1, List.append_assoc, List.append_assoc] at hjoined
      exact hjoined
    | between left right =>
      obtain ⟨hleft, hright⟩ := length_lt_of_cut_between hcut
      rw [hcut] at hisOf
      have hjoined := hR.append (hsides left hleft) (hsides right hright)
      rwa [← hisOf.1] at hjoined
    | behind before term =>
      have hlt := length_lt_of_cut_behind hcut
      rw [hcut] at hisOf
      obtain ⟨hcode, hne, hbefore⟩ := hisOf
      have hrest : R before (tables.resolve split false before)
          (tables.resolve split' false before) :=
        ih before.length (hn ▸ hlt) hbefore (fun side hside => hsides side (by omega)) rfl
      have hjoined := hR.append hrest (hR.single term hne)
      rwa [← hcode] at hjoined
    | nowhere => exact hR.single (.literal code) hcode

/-- What holds of a text left as a literal at the smaller of two bounds, whatever the greater one
makes of it, holds of the decompositions within the two bounds. -/
theorem decompose_rel {R : Text → List Term → List Term → Prop} (hR : IsPiecewise R)
    (hleft : ∀ bound useRules text, text ≠ [] →
      R text [.literal text] (tables.decompose bound useRules text))
    (useRules : Bool) (code : Text) {m m' : Nat} (h : m ≤ m') :
    R code (tables.decompose m useRules code) (tables.decompose m' useRules code) := by
  induction m generalizing useRules code m' with
  | zero =>
    by_cases hcode : code = []
    · rw [hcode, decompose_nil, decompose_nil]
      exact hR.nil
    · rw [decompose_zero tables _ hcode]
      exact hleft m' useRules code hcode
  | succ m ih =>
    obtain ⟨n, rfl⟩ : ∃ n, m' = n + 1 := ⟨m' - 1, by omega⟩
    by_cases hcode : code = []
    · rw [hcode, decompose_nil, decompose_nil]
      exact hR.nil
    · rw [decompose_succ tables m _ hcode, decompose_succ tables n _ hcode]
      exact resolve_rel hR _ _ hcode fun side _ => ih true side (by omega)

/-! ## The decomposition by recursion -/

/-- The terms of a code by recursion alone: what stands before a peeled suffix is decomposed as any
code is, without rules. Cuts by rules and before spouses are nested at most `limit` deep, or as
deep as they go where there is no limit; peeling does not count. -/
def decomposeRecursively (tables : Tables) (limit : Option Nat) (useRules : Bool) (code : Text) :
    List Term :=
  if code = [] then []
  else if limit = some 0 then [.literal code]
  else
    match _hcut : tables.cut useRules code with
    | .whole term => [term]
    | .around before term after =>
      decomposeRecursively tables (limit.map Nat.pred) true before ++
        term :: decomposeRecursively tables (limit.map Nat.pred) true after
    | .between left right =>
      decomposeRecursively tables (limit.map Nat.pred) true left ++
        decomposeRecursively tables (limit.map Nat.pred) true right
    | .behind before term => decomposeRecursively tables limit false before ++ [term]
    | .nowhere => [.literal code]
termination_by code.length
decreasing_by
  · exact (length_lt_of_cut_around _hcut).1
  · exact (length_lt_of_cut_around _hcut).2
  · exact (length_lt_of_cut_between _hcut).1
  · exact (length_lt_of_cut_between _hcut).2
  · exact length_lt_of_cut_behind _hcut

theorem decomposeRecursively_nil (tables : Tables) (limit : Option Nat) (useRules : Bool) :
    tables.decomposeRecursively limit useRules [] = [] := by
  rw [decomposeRecursively, if_pos rfl]

theorem decomposeRecursively_zero (tables : Tables) (useRules : Bool) (hcode : code ≠ []) :
    tables.decomposeRecursively (some 0) useRules code = [.literal code] := by
  rw [decomposeRecursively, if_neg hcode, if_pos rfl]

/-- A code that is not cut off is decomposed by its cut. -/
theorem decomposeRecursively_eq_cut {limit : Option Nat} {useRules : Bool} (hcode : code ≠ [])
    (hlimit : limit ≠ some 0) :
    tables.decomposeRecursively limit useRules code =
      match tables.cut useRules code with
      | .whole term => [term]
      | .around before term after =>
        tables.decomposeRecursively (limit.map Nat.pred) true before ++
          term :: tables.decomposeRecursively (limit.map Nat.pred) true after
      | .between left right =>
        tables.decomposeRecursively (limit.map Nat.pred) true left ++
          tables.decomposeRecursively (limit.map Nat.pred) true right
      | .behind before term => tables.decomposeRecursively limit false before ++ [term]
      | .nowhere => [.literal code] := by
  rw [decomposeRecursively, if_neg hcode, if_neg hlimit]
  split <;> rename_i hcut <;> rw [hcut]

theorem decomposeRecursively_eq_resolve {limit : Option Nat} {useRules : Bool} (hcode : code ≠ [])
    (hlimit : limit ≠ some 0) :
    tables.decomposeRecursively limit useRules code =
      tables.resolve (tables.decomposeRecursively (limit.map Nat.pred) true) useRules code := by
  induction hn : code.length using Nat.strongRecOn generalizing useRules code with
  | ind n ih =>
    have hisOf := tables.cut_isOf useRules code
    rw [decomposeRecursively, if_neg hcode, if_neg hlimit, resolve_eq_cut]
    split
    all_goals rename_i hcut; rw [hcut] at hisOf ⊢
    -- only what stands before a peeled suffix stays on this level
    rw [ih _ (hn ▸ length_lt_of_cut_behind hcut) hisOf.2.2 rfl]

/-- Within a bound, the loop and the recursion give the same terms. -/
theorem decompose_eq_decomposeRecursively (tables : Tables) (bound : Nat) (useRules : Bool)
    (code : Text) :
    tables.decompose bound useRules code =
      tables.decomposeRecursively (some bound) useRules code := by
  by_cases hcode : code = []
  · rw [decomposeRecursively, if_pos hcode, hcode, decompose_nil]
  induction bound generalizing useRules code with
  | zero => rw [decomposeRecursively, if_neg hcode, if_pos rfl, decompose_zero tables _ hcode]
  | succ bound ih =>
    have hsides : tables.decompose bound true = tables.decomposeRecursively (some bound) true := by
      funext side
      by_cases hside : side = []
      · rw [decomposeRecursively, if_pos hside, hside, decompose_nil]
      · exact ih true side hside
    rw [decompose_succ tables _ _ hcode, decomposeRecursively_eq_resolve hcode (by simp), hsides]
    rfl

/-- A small vocabulary: a father, a wife, and a rule by which the son of a father is a brother. -/
def household : Tables := { empty with
  terms := ((Dictionary.empty.insert ['F'] [.literal "father".toList]).insert
    ['W'] [.literal "wife".toList]).insert "brother".toList [.literal "brother".toList]
  rules := [⟨⟨['F', 'S'], .seq (.one (.single 'F')) (.one (.single 'S')), []⟩,
    .direct [.literal "brother".toList]⟩] }

/-- **Peeling suffixes is recursion.** On a code that has no phrase itself, and with any bound left
for the sides of a cut, growing suffixes gives the code as a literal if no suffix has a phrase;
otherwise it resolves what stands before the longest suffix that has one, without rules and with
the same bound left, and puts the term of the suffix behind that. Decomposing within a bound is the
decomposition by recursion, in which only cuts by rules and before spouses count. -/
theorem growSuffix_eq_recursion (tables : Tables) (bound : Nat) :
    (∀ code, tables.direct? code = none →
      ((∀ before suffix, code = before ++ suffix → suffix ≠ [] → tables.direct? suffix = none) ∧
        tables.growSuffix (tables.decompose bound true) code = [.literal code]) ∨
      ∃ before suffix term, tables.IsLongestDirectSuffix code before suffix term ∧
        tables.growSuffix (tables.decompose bound true) code =
          tables.resolve (tables.decompose bound true) false before ++ [term]) ∧
    ∀ useRules code, tables.decompose bound useRules code =
      tables.decomposeRecursively (some bound) useRules code := by
  refine ⟨fun code hdirect => ?_, tables.decompose_eq_decomposeRecursively bound⟩
  cases hsuffix : tables.directSuffix? code with
  | none =>
    exact .inl ⟨directSuffix?_eq_none hsuffix, growSuffix_of_directSuffix?_eq_none hsuffix⟩
  | some found =>
    obtain ⟨before, term⟩ := found
    have hbefore := before_ne_nil_of_directSuffix? hdirect hsuffix
    exact .inr ⟨before, term.fragment, term, directSuffix?_eq_some hsuffix,
      growSuffix_of_directSuffix? hsuffix hbefore⟩

theorem growSuffix_eq_recursion_household :
    household.direct? ['F', 'S', 'F'] = none ∧
      ∃ before suffix term, household.IsLongestDirectSuffix ['F', 'S', 'F'] before suffix term ∧
        household.growSuffix (household.decompose 1 true) ['F', 'S', 'F'] =
          household.resolve (household.decompose 1 true) false before ++ [term] := by
  have hdirect : household.direct? ['F', 'S', 'F'] = none := by decide
  refine ⟨hdirect, ?_⟩
  rcases (growSuffix_eq_recursion household 1).1 _ hdirect with ⟨hnone, -⟩ | hlongest
  · have hfather : household.direct? ['F'] = none := hnone ['F', 'S'] ['F'] rfl (by decide)
    exact absurd hfather (by decide)
  · exact hlongest

end Tables

end Kindred
