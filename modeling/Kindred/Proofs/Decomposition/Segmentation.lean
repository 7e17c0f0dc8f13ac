import Kindred.Proofs.Decomposition.Origins
import Mathlib.Data.List.Induction

/-!
# Codes that are peeled to the end

Where no letter for a spouse stands behind the first letter of a code and no rule has a phrase for the
code, suffixes that have phrases are all that a code is cut into: the longest one first, then the
longest one of what stands before it, and so on until nothing is left or nothing that has a suffix with
a phrase. What is left is a literal, and the first term. `Tables.IsSegmentation` says this of terms, and
there is just one segmentation of a code (`IsSegmentation.unique`). **The decomposition of such a code is
its segmentation** (`decompose_eq_segmentation`), within every bound but zero and whatever the rules
are, if rules are not tried.
-/

namespace Kindred

namespace Tables

variable {tables : Tables} {code before before' suffix suffix' rest : Text} {term term' : Term}
  {terms : List Term} {useRules : Bool}

/-! ## Longest suffixes -/

/-- No suffix of the code has a phrase, so that the code is left as it is. -/
def IsStuck (tables : Tables) (code : Text) : Prop :=
  ∀ before suffix, code = before ++ suffix → suffix ≠ [] → tables.direct? suffix = none

theorem IsStuck.not_isLongestDirectSuffix (h : tables.IsStuck code) :
    ¬ tables.IsLongestDirectSuffix code before suffix term := by
  intro hlongest
  have hnone := h before suffix hlongest.append hlongest.ne_nil
  rw [hlongest.direct] at hnone
  cases hnone

theorem IsStuck.directSuffix? (h : tables.IsStuck code) : tables.directSuffix? code = none :=
  Option.eq_none_iff_forall_ne_some.2 fun _ hsuffix =>
    h.not_isLongestDirectSuffix (directSuffix?_eq_some hsuffix)

theorem IsLongestDirectSuffix.length_le (h : tables.IsLongestDirectSuffix code before suffix term)
    (h' : tables.IsLongestDirectSuffix code before' suffix' term') :
    suffix'.length ≤ suffix.length := by
  by_contra hlt
  have hnone := h.longest before' suffix' h'.append (by omega)
  rw [h'.direct] at hnone
  cases hnone

/-- A code has one longest suffix with a phrase at most. -/
theorem IsLongestDirectSuffix.unique (h : tables.IsLongestDirectSuffix code before suffix term)
    (h' : tables.IsLongestDirectSuffix code before' suffix' term') :
    before = before' ∧ term = term' := by
  have hlength : suffix.length = suffix'.length := Nat.le_antisymm (h'.length_le h) (h.length_le h')
  obtain ⟨rfl, rfl⟩ := List.append_inj' (h.append.symm.trans h'.append) hlength
  exact ⟨rfl, Option.some.inj (h.direct.symm.trans h'.direct)⟩

theorem IsLongestDirectSuffix.directSuffix?
    (h : tables.IsLongestDirectSuffix code before suffix term) :
    tables.directSuffix? code = some (before, term) := by
  cases hsuffix : tables.directSuffix? code with
  | none =>
    have hstuck : tables.IsStuck code := directSuffix?_eq_none hsuffix
    exact absurd h hstuck.not_isLongestDirectSuffix
  | some found =>
    obtain ⟨rfl, rfl⟩ := h.unique (directSuffix?_eq_some hsuffix)
    rfl

/-! ## Segmentations -/

/-- The terms stand behind what is left of a code, and each is that of the longest suffix with a phrase
of the piece of the code that ends where the term ends. What is left has no suffix with a phrase. -/
structure IsSegmentation (tables : Tables) (code rest : Text) (terms : List Term) : Prop where
  append : code = rest ++ terms.flatMap Term.fragment
  direct : ∀ before term after, terms = before ++ term :: after →
    (∃ key, term.origin = .direct key) ∧
      tables.IsLongestDirectSuffix (rest ++ before.flatMap Term.fragment ++ term.fragment)
        (rest ++ before.flatMap Term.fragment) term.fragment term
  stuck : tables.IsStuck rest

theorem IsStuck.isSegmentation (h : tables.IsStuck code) : tables.IsSegmentation code code [] :=
  ⟨(List.append_nil code).symm, fun _ _ _ h => absurd h.symm (by simp), h⟩

namespace IsSegmentation

/-- The longest suffix with a phrase comes behind what stands before it. -/
theorem concat (h : tables.IsSegmentation before rest terms)
    (hlongest : tables.IsLongestDirectSuffix code before term.fragment term) :
    tables.IsSegmentation code rest (terms ++ [term]) := by
  have happend := h.append
  refine ⟨?_, fun earlier other later hsplit => ?_, h.stuck⟩
  · rw [hlongest.append, List.flatMap_append, List.flatMap_singleton, ← List.append_assoc, ← happend]
  · obtain rfl | ⟨front, last, rfl⟩ := List.eq_nil_or_concat later
    · obtain ⟨rfl, hterm⟩ := List.append_inj' hsplit rfl
      obtain rfl := List.singleton_inj.1 hterm
      rw [← happend, ← hlongest.append]
      exact ⟨exists_origin_of_direct? hlongest.direct, hlongest⟩
    · rw [List.concat_eq_append, ← List.cons_append, ← List.append_assoc] at hsplit
      obtain ⟨hterms, -⟩ := List.append_inj' hsplit rfl
      exact h.direct earlier other front hterms

/-- The last term is that of the longest suffix with a phrase, and the others are a segmentation of
what stands before it. -/
theorem of_concat (h : tables.IsSegmentation code rest (terms ++ [term])) :
    tables.IsLongestDirectSuffix code (rest ++ terms.flatMap Term.fragment) term.fragment term ∧
      tables.IsSegmentation (rest ++ terms.flatMap Term.fragment) rest terms := by
  have hlast := (h.direct terms term [] rfl).2
  have hcode : code = rest ++ terms.flatMap Term.fragment ++ term.fragment := by
    rw [h.append, List.flatMap_append, List.flatMap_singleton, List.append_assoc]
  rw [← hcode] at hlast
  refine ⟨hlast, rfl, fun earlier other later hsplit => ?_, h.stuck⟩
  exact h.direct earlier other (later ++ [term]) (by rw [hsplit, List.append_assoc, List.cons_append])

/-- **A code has one segmentation.** -/
theorem unique {rest' : Text} {terms' : List Term} (h : tables.IsSegmentation code rest terms)
    (h' : tables.IsSegmentation code rest' terms') : rest = rest' ∧ terms = terms' := by
  induction terms using List.reverseRecOn generalizing code terms' with
  | nil =>
    have hcode : code = rest := by simpa using h.append
    obtain rfl | ⟨front, last, rfl⟩ := List.eq_nil_or_concat terms'
    · exact ⟨hcode.symm.trans (by simpa using h'.append), rfl⟩
    · rw [List.concat_eq_append] at h'
      exact absurd (hcode ▸ h'.of_concat.1) h.stuck.not_isLongestDirectSuffix
  | append_singleton terms term ih =>
    obtain rfl | ⟨front, last, rfl⟩ := List.eq_nil_or_concat terms'
    · have hcode : code = rest' := by simpa using h'.append
      exact absurd (hcode ▸ h.of_concat.1) h'.stuck.not_isLongestDirectSuffix
    · rw [List.concat_eq_append] at h' ⊢
      obtain ⟨hlast, hterms⟩ := h.of_concat
      obtain ⟨hlast', hterms'⟩ := h'.of_concat
      obtain ⟨hbefore, rfl⟩ := hlast.unique hlast'
      obtain ⟨rfl, rfl⟩ := ih hterms (hbefore ▸ hterms')
      exact ⟨rfl, rfl⟩

end IsSegmentation

theorem exists_isSegmentation (tables : Tables) (code : Text) :
    ∃ rest terms, tables.IsSegmentation code rest terms := by
  induction hn : code.length using Nat.strongRecOn generalizing code with
  | ind n ih =>
    cases hsuffix : tables.directSuffix? code with
    | none => exact ⟨code, [], IsStuck.isSegmentation (directSuffix?_eq_none hsuffix)⟩
    | some found =>
      obtain ⟨before, term⟩ := found
      have hlongest := directSuffix?_eq_some hsuffix
      obtain ⟨rest, terms, h⟩ := ih before.length (hn ▸ hlongest.length_lt) before rfl
      exact ⟨rest, terms ++ [term], h.concat hlongest⟩

/-! ## Codes without spouses -/

/-- No letter behind the first is one for a spouse. -/
def SpouseFree (code : Text) : Prop := ∀ letter ∈ code.tail, Code.makes .spouse letter = false

theorem SpouseFree.of_append (h : SpouseFree (before ++ suffix)) : SpouseFree before := by
  cases before with
  | nil => exact fun _ hletter => nomatch hletter
  | cons first before => exact fun letter hletter => h letter (List.mem_append_left suffix hletter)

theorem SpouseFree.marriageCut? (h : SpouseFree code) : marriageCut? code = none := by
  cases code with
  | nil => rfl
  | cons first code =>
    have hkept : ∀ letter ∈ code.reverse, (!Code.makes .spouse letter) = true := by
      intro letter hletter
      rw [h letter (List.mem_reverse.1 hletter), Bool.not_false]
    have hlast : ∀ kept : Text, (first :: code).length - (code.reverse ++ kept).length - 1 = 0 := by
      intro kept
      rw [List.length_cons, List.length_append, List.length_reverse]
      omega
    rw [Tables.marriageCut?, List.reverse_cons, List.takeWhile_append_of_pos hkept]
    exact if_pos (hlast _)

/-! ## The decomposition -/

/-- What is left of a code as a literal, if anything is. -/
def remainder (rest : Text) : List Term := if rest = [] then [] else [.literal rest]

theorem remainder_of_ne_nil (h : rest ≠ []) : remainder rest = [.literal rest] := if_neg h

theorem isStuck_nil (tables : Tables) : tables.IsStuck [] :=
  fun _ _ hnil hne => absurd (List.append_eq_nil_iff.1 hnil.symm).2 hne

/-- **A code without spouses for which no rule has a phrase is resolved by its segmentation.** -/
theorem IsSegmentation.resolve_eq (h : tables.IsSegmentation code rest terms) (hcode : code ≠ [])
    (hspouse : SpouseFree code)
    (hrules : (if useRules then tables.firstResolved? code else none) = none)
    (split : Text → List Term) :
    tables.resolve split useRules code = remainder rest ++ terms := by
  induction terms using List.reverseRecOn generalizing code useRules with
  | nil =>
    obtain rfl : code = rest := by simpa using h.append
    have hdirect : tables.direct? code = none := h.stuck [] code rfl hcode
    rw [resolve, hdirect, hrules, hspouse.marriageCut?, List.append_nil, remainder_of_ne_nil hcode]
    exact growSuffix_of_directSuffix?_eq_none h.stuck.directSuffix?
  | append_singleton terms term ih =>
    obtain ⟨hlongest, hterms⟩ := h.of_concat
    by_cases hbefore : rest ++ terms.flatMap Term.fragment = []
    · rw [hbefore] at hlongest hterms
      obtain ⟨rfl, rfl⟩ := (tables.isStuck_nil).isSegmentation.unique hterms
      have hfragment : code = term.fragment := hlongest.append
      rw [resolve, hfragment, hlongest.direct]
      rfl
    · have hshorter : term.fragment.length < code.length := by
        have hpos := List.length_pos_iff.2 hbefore
        rw [hlongest.append, List.length_append]
        omega
      have hdirect : tables.direct? code = none := hlongest.longest [] code rfl hshorter
      have hfront : SpouseFree (rest ++ terms.flatMap Term.fragment) := by
        rw [hlongest.append] at hspouse
        exact hspouse.of_append
      -- what stands before the suffix is resolved without rules
      have hresolve : tables.resolve split false (rest ++ terms.flatMap Term.fragment) =
          remainder rest ++ terms := ih hterms hbefore hfront rfl
      rw [resolve, hdirect, hrules, hspouse.marriageCut?, ← List.append_assoc, ← hresolve]
      exact growSuffix_of_directSuffix? hlongest.directSuffix? hbefore

/-- Rules have no part in segmentations. -/
theorem IsSegmentation.withRules (h : tables.IsSegmentation code rest terms) (rules : List Rule) :
    IsSegmentation { tables with rules := rules } code rest terms where
  append := h.append
  direct before term after hsplit :=
    let ⟨hkey, hlongest⟩ := h.direct before term after hsplit
    ⟨hkey, hlongest.append, hlongest.ne_nil, hlongest.direct, hlongest.longest⟩
  stuck := h.stuck

theorem firstResolved?_eq_none (h : ∀ i (rule : Rule), tables.rules[i]? = some rule →
    ∀ before term after, rule.apply (i + 1) tables code ≠ some (.resolved before term after)) :
    tables.firstResolved? code = none := by
  refine List.findSome?_eq_none_iff.2 fun ⟨rule, i⟩ hmem => ?_
  have hget : tables.rules[i]? = some rule := List.mem_zipIdx_iff_getElem?.1 hmem
  exact Rule.resolve?_eq_none_iff.2 (h i rule hget)

/-- **A code with no spouse behind its first letter is cut into longest suffixes.** It has just one
segmentation. Without rules that is its decomposition within every bound but zero, with what is left as
a literal in front if anything is, and no other rules would make it another. With rules it is so too if
no rule has a phrase for the code. -/
theorem decompose_eq_segmentation (tables : Tables) (bound : Nat) (code : Text) (hcode : code ≠ [])
    (hspouse : ∀ letter ∈ code.tail, Code.makes .spouse letter = false) :
    ∃ rest terms, tables.IsSegmentation code rest terms ∧
      (∀ rest' terms', tables.IsSegmentation code rest' terms' → rest' = rest ∧ terms' = terms) ∧
      (∀ rules, Tables.decompose { tables with rules := rules } (bound + 1) false code =
        remainder rest ++ terms) ∧
      ((∀ i (rule : Rule), tables.rules[i]? = some rule → ∀ before term after,
          rule.apply (i + 1) tables code ≠ some (.resolved before term after)) →
        tables.decompose (bound + 1) true code = remainder rest ++ terms) := by
  obtain ⟨rest, terms, h⟩ := tables.exists_isSegmentation code
  refine ⟨rest, terms, h, fun _ _ h' => h'.unique h, fun rules => ?_, fun hsilent => ?_⟩
  · rw [decompose_succ _ _ _ hcode]
    exact (h.withRules rules).resolve_eq hcode hspouse rfl _
  · have hrules : (if true then tables.firstResolved? code else none) = none :=
      firstResolved?_eq_none hsilent
    rw [decompose_succ _ _ _ hcode]
    exact h.resolve_eq hcode hspouse hrules _

/-- Two fathers are peeled off, and the son is left. -/
theorem decompose_eq_segmentation_fathers :
    ['S', 'F', 'F'] ≠ [] ∧
      (∀ letter ∈ ['S', 'F', 'F'].tail, Code.makes .spouse letter = false) ∧
      (∃ rest terms, household.IsSegmentation ['S', 'F', 'F'] rest terms ∧
        household.decompose 1 true ['S', 'F', 'F'] = remainder rest ++ terms) ∧
      household.decompose 1 true ['S', 'F', 'F'] =
        [.literal ['S'], ⟨['F'], "father".toList, .direct ['F']⟩,
          ⟨['F'], "father".toList, .direct ['F']⟩] := by
  have hspouse : ∀ letter ∈ ['S', 'F', 'F'].tail, Code.makes .spouse letter = false :=
    List.forall_mem_cons.2 ⟨by decide, List.forall_mem_singleton.2 (by decide)⟩
  have hsilent : ∀ i (rule : Rule), household.rules[i]? = some rule → ∀ before term after,
      rule.apply (i + 1) household ['S', 'F', 'F'] ≠ some (.resolved before term after) := by
    intro i rule hrule
    cases i with
    | zero =>
      obtain rfl := Option.some.inj hrule
      exact Rule.resolve?_eq_none_iff.1 (by decide +kernel)
    | succ i => cases hrule
  obtain ⟨rest, terms, hsegmentation, -, -, htrue⟩ :=
    decompose_eq_segmentation household 0 _ (List.cons_ne_nil _ _) hspouse
  exact ⟨List.cons_ne_nil _ _, hspouse, ⟨rest, terms, hsegmentation, htrue hsilent⟩, by decide⟩

end Tables

end Kindred
