import Kindred.Proofs.Decomposition.Bound

/-!
# Where terms come from

The origin of a term tells how its phrase was found, and it tells the truth: a literal stands for
itself, a direct term has the phrase of the first key of its fragment, and the term of a rule is
what that rule makes of a piece of the code for which nothing that is tried before has a phrase.
**`origin_of_decompose` is the main statement.**

What a rule makes of a text depends on the text around the match. So a term is accounted for at its
place, with the text before it and the text after it (`Accounts`), and what accounts for a term
does so in every longer text (`Accounts.extend`): that carries the account of a piece of a cut over
to the code.
-/

namespace Kindred

namespace Rule

variable {rule : Rule} {number : Nat} {tables : Tables} {code before after : Text} {term : Term}

theorem resolve?_eq_some_iff : rule.resolve? number tables code = some (before, term, after) ↔
    rule.apply number tables code = some (.resolved before term after) := by
  unfold resolve?
  split
  · rename_i hresolved
    simp [hresolved]
  · rename_i hother
    simpa using fun h => hother _ _ _ h

theorem resolve?_eq_none_iff : rule.resolve? number tables code = none ↔
    ∀ before term after, rule.apply number tables code ≠ some (.resolved before term after) := by
  constructor
  · intro h before term after happly
    rw [resolve?_eq_some_iff.2 happly] at h
    cases h
  · intro h
    refine Option.eq_none_iff_forall_ne_some.2 fun ⟨before, term, after⟩ hfound => ?_
    exact h before term after (resolve?_eq_some_iff.1 hfound)

/-- The term of a rule names the rule by its number. -/
theorem origin_of_apply (h : rule.apply number tables code = some (.resolved before term after)) :
    ∃ key, term.origin = .rule number key := by
  obtain ⟨m, -, hm⟩ := Option.map_eq_some_iff.1 h
  split at hm
  · rename_i found hfound
    obtain ⟨rfl, rfl, rfl⟩ := RuleOutcome.resolved.inj hm
    obtain ⟨template, -, rfl⟩ := Option.map_eq_some_iff.1 hfound
    exact ⟨_, rfl⟩
  · cases hm

end Rule

namespace Tables

/-! ## The first rule that has a phrase -/

/-- The term is what the rule of that number makes of a text that has no phrase itself and for
which no rule before that one has a phrase. -/
structure IsFirstRuleFor (tables : Tables) (number : Nat) (text before : Text) (term : Term)
    (after : Text) : Prop where
  direct : tables.direct? text = none
  one_le : 1 ≤ number
  le_length : number ≤ tables.rules.length
  resolved : ∃ rule, tables.rules[number - 1]? = some rule ∧
    rule.apply number tables text = some (.resolved before term after)
  first : ∀ i rule, i < number - 1 → tables.rules[i]? = some rule →
    ∀ before term after, rule.apply (i + 1) tables text ≠ some (.resolved before term after)

/-- What a search among numbered values finds, it finds at the first that gives a result. -/
theorem findSome?_zipIdx_eq_some {α β : Type} {f : α × Nat → Option β} {values : List α} {b : β}
    (h : values.zipIdx.findSome? f = some b) :
    ∃ i a, values[i]? = some a ∧ f (a, i) = some b ∧
      ∀ j other, j < i → values[j]? = some other → f (other, j) = none := by
  obtain ⟨earlier, ⟨a, i⟩, later, hsplit, hfound, hearlier⟩ := List.findSome?_eq_some_iff.1 h
  have hget : ∀ j : Nat, (earlier ++ (a, i) :: later)[j]? =
      (values[j]?).map fun value => (value, j) := by
    intro j
    rw [← hsplit, List.getElem?_zipIdx, Nat.zero_add]
  have hplace : (values[earlier.length]?).map (fun value => (value, earlier.length)) =
      some (a, i) := by
    rw [← hget]
    simp
  obtain ⟨value, hvalue, heq⟩ := Option.map_eq_some_iff.1 hplace
  obtain ⟨rfl, rfl⟩ := Prod.mk.inj heq
  refine ⟨_, value, hvalue, hfound, fun j other hj hother => hearlier _ ?_⟩
  have hmem := hget j
  rw [List.getElem?_append_left hj, hother] at hmem
  exact List.mem_of_getElem? hmem

variable {tables : Tables} {unbounded : Prop} {code before after : Text} {term : Term}

theorem isFirstRuleFor_of_firstResolved? (hdirect : tables.direct? code = none)
    (h : tables.firstResolved? code = some (before, term, after)) :
    ∃ number key, term.origin = .rule number key ∧
      tables.IsFirstRuleFor number code before term after := by
  obtain ⟨i, rule, hrule, hresolved, hfirst⟩ := findSome?_zipIdx_eq_some h
  have happly := Rule.resolve?_eq_some_iff.1 hresolved
  obtain ⟨key, hkey⟩ := Rule.origin_of_apply happly
  have hlt : i < tables.rules.length := (List.getElem?_eq_some_iff.1 hrule).1
  refine ⟨i + 1, key, hkey, hdirect, by omega, hlt, ⟨rule, hrule, happly⟩, ?_⟩
  intro j other hj hother before' term' after' hotherApply
  have hnone : other.resolve? (j + 1) tables code = none := hfirst j other hj hother
  rw [Rule.resolve?_eq_some_iff.2 hotherApply] at hnone
  cases hnone

/-! ## Accounts of a term -/

/-- What the origin of a term says, where `before` and `after` are the texts around its fragment.
What is said of the suffixes of a literal, each of one letter at least, holds only where no text is
cut off at a bound. -/
def Accounts (tables : Tables) (unbounded : Prop) (before : Text) (term : Term) (after : Text) :
    Prop :=
  match term.origin with
  | .literal =>
    term.phrase = term.fragment ∧
      (unbounded → ∀ front suffix, term.fragment = front ++ suffix → suffix ≠ [] →
        tables.direct? suffix = none)
  | .direct key =>
    ∃ earlier later template,
      [term.fragment, Code.neutralize term.fragment (term.fragment.length - 1),
        Code.neutralize term.fragment term.fragment.length] = earlier ++ key :: later ∧
      (∀ other ∈ earlier, tables.term? other = none) ∧
      tables.term? key = some template ∧
      term.phrase =
        template.fillDegrees (.between term.fragment term.fragment) tables.ordinals
  | .rule number _ =>
    ∃ outerBefore innerBefore innerAfter outerAfter,
      before = outerBefore ++ innerBefore ∧ after = innerAfter ++ outerAfter ∧
      tables.IsFirstRuleFor number (innerBefore ++ term.fragment ++ innerAfter) innerBefore term
        innerAfter

/-- What accounts for a term accounts for it in a longer text. -/
theorem Accounts.extend (h : tables.Accounts unbounded before term after) (x y : Text) :
    tables.Accounts unbounded (x ++ before) term (after ++ y) := by
  unfold Accounts at h ⊢
  split at h
  · exact h
  · exact h
  · obtain ⟨outerBefore, innerBefore, innerAfter, outerAfter, rfl, rfl, hrule⟩ := h
    exact ⟨x ++ outerBefore, innerBefore, innerAfter, outerAfter ++ y,
      (List.append_assoc ..).symm, List.append_assoc .., hrule⟩

theorem accounts_of_direct? (h : tables.direct? code = some term) (before after : Text) :
    tables.Accounts unbounded before term after := by
  obtain ⟨earlier, key, later, hkeys, hkey, hearlier⟩ := List.findSome?_eq_some_iff.1 h
  obtain ⟨template, htemplate, rfl⟩ := Option.map_eq_some_iff.1 hkey
  refine ⟨earlier, later, template, hkeys, fun other hother => ?_, htemplate, rfl⟩
  exact Option.map_eq_none_iff.1 (hearlier other hother)

theorem accounts_of_firstResolved? (hdirect : tables.direct? code = none)
    (h : tables.firstResolved? code = some (before, term, after)) :
    tables.Accounts unbounded before term after := by
  obtain ⟨number, key, horigin, hrule⟩ := isFirstRuleFor_of_firstResolved? hdirect h
  rw [(firstResolved?_eq_some h).1] at hrule
  unfold Accounts
  rw [horigin]
  exact ⟨[], before, after, [], rfl, (List.append_nil _).symm, hrule⟩

/-! ## Accounts of all terms -/

/-- Every term of a list is accounted for at its place, where `before` and `after` are the texts
around the fragments of the list. -/
def AccountsAll (tables : Tables) (unbounded : Prop) : (before : Text) → List Term →
    (after : Text) → Prop
  | _, [], _ => True
  | before, term :: terms, after =>
    tables.Accounts unbounded before term (terms.flatMap Term.fragment ++ after) ∧
      AccountsAll tables unbounded (before ++ term.fragment) terms after

namespace AccountsAll

variable {terms others : List Term}

theorem append_iff : tables.AccountsAll unbounded before (terms ++ others) after ↔
    tables.AccountsAll unbounded before terms (others.flatMap Term.fragment ++ after) ∧
      tables.AccountsAll unbounded (before ++ terms.flatMap Term.fragment) others after := by
  induction terms generalizing before with
  | nil => simp [AccountsAll]
  | cons term terms ih =>
    simp only [List.cons_append, AccountsAll, ih, List.flatMap_append, List.flatMap_cons,
      List.append_assoc, and_assoc]

theorem extend (h : tables.AccountsAll unbounded before terms after) (x y : Text) :
    tables.AccountsAll unbounded (x ++ before) terms (after ++ y) := by
  induction terms generalizing before with
  | nil => trivial
  | cons term terms ih =>
    obtain ⟨hterm, hterms⟩ := h
    refine ⟨?_, ?_⟩
    · rw [← List.append_assoc]
      exact hterm.extend x y
    · rw [List.append_assoc]
      exact ih hterms

theorem accounts (h : tables.AccountsAll unbounded [] (terms ++ term :: others) []) :
    tables.Accounts unbounded (terms.flatMap Term.fragment) term
      (others.flatMap Term.fragment) := by
  have hterm := (append_iff.1 h).2.1
  rwa [List.nil_append, List.append_nil] at hterm

/-- Two lists whose terms are accounted for may be joined. -/
theorem append (hterms : tables.AccountsAll unbounded [] terms [])
    (hothers : tables.AccountsAll unbounded [] others []) :
    tables.AccountsAll unbounded [] (terms ++ others) [] := by
  rw [append_iff]
  constructor
  · exact hterms.extend [] (others.flatMap Term.fragment ++ [])
  · have hothers' := hothers.extend ([] ++ terms.flatMap Term.fragment) []
    rwa [List.append_nil] at hothers'

/-- The term of a rule may be put between the terms of the texts around it. -/
theorem around (hterms : tables.AccountsAll unbounded [] terms [])
    (hterm : tables.Accounts unbounded (terms.flatMap Term.fragment) term
      (others.flatMap Term.fragment))
    (hothers : tables.AccountsAll unbounded [] others []) :
    tables.AccountsAll unbounded [] (terms ++ term :: others) [] := by
  rw [append_iff]
  refine ⟨hterms.extend [] _, ?_, ?_⟩
  · rwa [List.nil_append, List.append_nil]
  · have hothers' := hothers.extend ([] ++ terms.flatMap Term.fragment ++ term.fragment) []
    rwa [List.append_nil] at hothers'

end AccountsAll

/-- The fragments of the terms are the code, with a limit and without one. -/
theorem flatMap_fragment_decomposeRecursively (tables : Tables) (limit : Option Nat)
    (useRules : Bool) (code : Text) :
    (tables.decomposeRecursively limit useRules code).flatMap Term.fragment = code := by
  cases limit with
  | none =>
    have hfull : tables.decompose code.length useRules code = tables.decomposeFully useRules code :=
      decompose_eq_decomposeFully (Nat.le_refl code.length)
    rw [← decomposeFully, ← hfull]
    exact (tables.decompose_covers ..).flatMap_fragment
  | some bound =>
    rw [← decompose_eq_decomposeRecursively]
    exact (tables.decompose_covers ..).flatMap_fragment

/-- **Every term of a decomposition by recursion is accounted for**, cut by cut. -/
theorem accountsAll_decomposeRecursively (tables : Tables) (limit : Option Nat) (useRules : Bool)
    (code : Text) :
    tables.AccountsAll (limit = none) [] (tables.decomposeRecursively limit useRules code) [] := by
  -- each cut is found in one way, and that way accounts for the term that stays whole
  have hfound : ∀ useRules code cut, tables.cut useRules code = cut → cut.IsFoundBy tables code :=
    fun useRules code cut h => h ▸ tables.cut_isFoundBy useRules code
  fun_induction decomposeRecursively tables limit useRules code with
  | case1 => trivial
  | case2 useRules code hcode =>
    exact ⟨⟨rfl, fun hunbounded => nomatch hunbounded⟩, trivial⟩
  | case3 limit useRules code hcode hlimit term hcut =>
    exact ⟨accounts_of_direct? (hfound _ _ _ hcut) _ _, trivial⟩
  | case4 limit useRules code hcode hlimit before term after hcut ihbefore ihafter =>
    obtain ⟨hdirect, hrule⟩ := hfound _ _ _ hcut
    rw [Option.map_eq_none_iff] at ihbefore ihafter
    refine ihbefore.around ?_ ihafter
    rw [flatMap_fragment_decomposeRecursively, flatMap_fragment_decomposeRecursively]
    exact accounts_of_firstResolved? hdirect hrule
  | case5 limit useRules code hcode hlimit left right hcut ihleft ihright =>
    rw [Option.map_eq_none_iff] at ihleft ihright
    exact ihleft.append ihright
  | case6 limit useRules code hcode hlimit before term hcut ih =>
    have hdirect := (directSuffix?_eq_some (hfound _ _ _ hcut)).direct
    exact ih.append ⟨accounts_of_direct? hdirect _ _, trivial⟩
  | case7 limit useRules code hcode hlimit hcut =>
    exact ⟨⟨rfl, fun _ => directSuffix?_eq_none (hfound _ _ _ hcut)⟩, trivial⟩

theorem accountsAll_decompose (tables : Tables) (bound : Nat) (useRules : Bool) (code : Text) :
    tables.AccountsAll (code.length ≤ bound) [] (tables.decompose bound useRules code) [] := by
  by_cases hbound : code.length ≤ bound
  · have haccounts := tables.accountsAll_decomposeRecursively none useRules code
    rw [decompose_eq_decomposeFully hbound, decomposeFully]
    simpa only [hbound] using haccounts
  · have haccounts := tables.accountsAll_decomposeRecursively (some bound) useRules code
    rw [decompose_eq_decomposeRecursively]
    simpa only [hbound, reduceCtorEq] using haccounts

/-- Every term of a decomposition is accounted for at some place. -/
theorem accounts_of_mem_decompose {bound : Nat} {useRules : Bool}
    (h : term ∈ tables.decompose bound useRules code) :
    ∃ before after, tables.Accounts (code.length ≤ bound) before term after := by
  obtain ⟨earlier, later, hsplit⟩ := List.append_of_mem h
  exact ⟨_, _, (hsplit ▸ tables.accountsAll_decompose bound useRules code).accounts⟩

/-- **Every term of a decomposition comes from where its origin says**, at its place in the code. -/
theorem origin_of_decompose (tables : Tables) (bound : Nat) (useRules : Bool) (code : Text)
    (before : List Term) (term : Term) (after : List Term)
    (h : tables.decompose bound useRules code = before ++ term :: after) :
    code = before.flatMap Term.fragment ++ term.fragment ++ after.flatMap Term.fragment ∧
      tables.Accounts (code.length ≤ bound) (before.flatMap Term.fragment) term
        (after.flatMap Term.fragment) := by
  have haccounts := tables.accountsAll_decompose bound useRules code
  have hcovers := (tables.decompose_covers bound useRules code).flatMap_fragment
  rw [h] at haccounts hcovers
  refine ⟨?_, haccounts.accounts⟩
  rw [← hcovers, List.flatMap_append, List.flatMap_cons, List.append_assoc]

theorem origin_of_decompose_household :
    household.decompose 4 true ['S', 'W', 'F', 'S'] =
        [.literal ['S'], ⟨['W'], "wife".toList, .direct ['W']⟩] ++
          ⟨['F', 'S'], "brother".toList, .rule 1 "brother".toList⟩ :: [] ∧
      (∀ front suffix, ['S'] = front ++ suffix → suffix ≠ [] → household.direct? suffix = none) ∧
      ∃ outerBefore innerBefore innerAfter outerAfter,
        ['S', 'W'] = outerBefore ++ innerBefore ∧ [] = innerAfter ++ outerAfter ∧
        household.IsFirstRuleFor 1 (innerBefore ++ ['F', 'S'] ++ innerAfter) innerBefore
          ⟨['F', 'S'], "brother".toList, .rule 1 "brother".toList⟩ innerAfter := by
  have hterms : household.decompose 4 true ['S', 'W', 'F', 'S'] =
      [.literal ['S'], ⟨['W'], "wife".toList, .direct ['W']⟩] ++
        ⟨['F', 'S'], "brother".toList, .rule 1 "brother".toList⟩ :: [] := by decide
  have hliteral := origin_of_decompose household 4 true _ [] (.literal ['S']) _ hterms
  have hrule := origin_of_decompose household 4 true _ _ _ _ hterms
  exact ⟨hterms, hliteral.2.2 (by decide), hrule.2⟩

end Tables

end Kindred
