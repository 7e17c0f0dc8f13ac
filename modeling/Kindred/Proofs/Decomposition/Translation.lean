import Kindred.Proofs.Decomposition.Recursion

/-!
# Translated vocabularies

The phrases of a vocabulary play no part in where a code is cut. Two vocabularies that have phrases
for the same keys and the same rules decompose every code into the same fragments, with phrases from
the same origins, whatever the phrases are in the one and in the other (`outline_decompose`).

A term without its phrase is its outline. Every search for a term is followed through for two such
vocabularies: both find nothing, or both find terms of one outline.
-/

namespace Kindred

/-- What a term is apart from its phrase. -/
def Term.outline (term : Term) : Text × Origin := (term.fragment, term.origin)

namespace Tables

/-- Both tables have phrases for the same keys, and they have the same rules. The phrases, the
suffixes of ordinals and the possessive forms may differ. -/
structure IsTranslationOf (tables other : Tables) : Prop where
  keys : ∀ key, tables.terms.contains key = other.terms.contains key
  rules : tables.rules = other.rules

section Searches

variable {α β γ : Type}

/-- Two searches that come to something together, and then to what `f` and `g` make of it. -/
theorem map_eq_map_of_isSome_eq {f : α → γ} {g : β → γ} {first : Option α} {second : Option β}
    (hsome : first.isSome = second.isSome) (hfg : ∀ a b, f a = g b) :
    first.map f = second.map g := by
  cases first with
  | none =>
    cases second with
    | none => rfl
    | some b => cases hsome
  | some a =>
    obtain ⟨b, rfl⟩ := Option.isSome_iff_exists.1 hsome.symm
    exact congrArg some (hfg a b)

/-- Two searches with one outline both find nothing, or both find something of that outline. -/
theorem none_or_some_of_map_eq {f : α → β} {first second : Option α}
    (h : first.map f = second.map f) :
    first = none ∧ second = none ∨ ∃ a b, first = some a ∧ second = some b ∧ f a = f b := by
  cases first with
  | none =>
    have hsecond : second.map f = none := h.symm
    exact .inl ⟨rfl, Option.map_eq_none_iff.1 hsecond⟩
  | some a =>
    obtain ⟨b, rfl, hb⟩ := Option.map_eq_some_iff.1 h.symm
    exact .inr ⟨a, b, rfl, rfl, hb.symm⟩

end Searches

end Tables

/-- Both cuts are in the same places, and the term that stays whole has the same outline. -/
inductive Cut.SameOutline : Cut → Cut → Prop
  /-- The code has a phrase itself. -/
  | whole {term other : Term} :
    term.outline = other.outline → SameOutline (.whole term) (.whole other)
  /-- A rule has a phrase for a part of the code. -/
  | around {before after : Text} {term other : Term} :
    term.outline = other.outline →
      SameOutline (.around before term after) (.around before other after)
  /-- The code is cut before a spouse. -/
  | between (left right : Text) : SameOutline (.between left right) (.between left right)
  /-- A suffix is peeled off. -/
  | behind {before : Text} {term other : Term} :
    term.outline = other.outline → SameOutline (.behind before term) (.behind before other)
  /-- Nothing is found for the code. -/
  | nowhere : SameOutline .nowhere .nowhere

namespace Tables.IsTranslationOf

variable {tables other : Tables} (h : tables.IsTranslationOf other)

include h

/-! ## Searches for terms -/

theorem outline_direct? (code : Text) :
    (tables.direct? code).map Term.outline = (other.direct? code).map Term.outline := by
  unfold direct?
  rw [List.map_findSome?, List.map_findSome?]
  congr 1
  funext key
  simp only [Function.comp, Option.map_map]
  exact map_eq_map_of_isSome_eq (h.keys key) fun _ _ => rfl

theorem outline_directSuffix? (code : Text) :
    (tables.directSuffix? code).map (Prod.map id Term.outline) =
      (other.directSuffix? code).map (Prod.map id Term.outline) := by
  induction code with
  | nil => rfl
  | cons letter rest ih =>
    unfold directSuffix?
    rcases none_or_some_of_map_eq (h.outline_direct? (letter :: rest)) with
      ⟨hnone, hnone'⟩ | ⟨term, term', hsome, hsome', hterm⟩
    · rw [hnone, hnone']
      rcases none_or_some_of_map_eq ih with ⟨hrest, hrest'⟩ | ⟨found, found', hrest, hrest', hfound⟩
      · rw [hrest, hrest']
      · obtain ⟨hbefore, hterm⟩ := Prod.mk.inj hfound
        rw [hrest, hrest']
        simp only [id_eq] at hbefore
        simp [hbefore, hterm]
    · rw [hsome, hsome']
      simp [hterm]

theorem outline_termOf? (rule : Rule) (number : Nat) (m : Match) :
    (rule.termOf? number tables m).map Term.outline =
      (rule.termOf? number other m).map Term.outline := by
  unfold Rule.termOf?
  simp only [Option.map_map]
  exact map_eq_map_of_isSome_eq (h.keys _) fun _ _ => rfl

/-- The pattern finds the same match, and the key of the match is the same. -/
theorem outline_resolve? (rule : Rule) (number : Nat) (code : Text) :
    (rule.resolve? number tables code).map (Prod.map id (Prod.map Term.outline id)) =
      (rule.resolve? number other code).map (Prod.map id (Prod.map Term.outline id)) := by
  unfold Rule.resolve? Rule.apply
  cases rule.pattern.search? code with
  | none => rfl
  | some m =>
    simp only [Option.map_some]
    rcases none_or_some_of_map_eq (h.outline_termOf? rule number m) with
      ⟨hnone, hnone'⟩ | ⟨term, term', hsome, hsome', hterm⟩
    · rw [hnone, hnone']
    · rw [hsome, hsome']
      simp [hterm]

theorem outline_firstResolved? (code : Text) :
    (tables.firstResolved? code).map (Prod.map id (Prod.map Term.outline id)) =
      (other.firstResolved? code).map (Prod.map id (Prod.map Term.outline id)) := by
  unfold firstResolved?
  rw [List.map_findSome?, List.map_findSome?, h.rules]
  congr 1
  funext (rule, i)
  exact h.outline_resolve? rule (i + 1) code

/-! ## Cuts and decompositions -/

theorem sameOutline_cut (useRules : Bool) (code : Text) :
    (tables.cut useRules code).SameOutline (other.cut useRules code) := by
  have hrules : (if useRules then tables.firstResolved? code else none).map
        (Prod.map id (Prod.map Term.outline id)) =
      (if useRules then other.firstResolved? code else none).map
        (Prod.map id (Prod.map Term.outline id)) := by
    cases useRules with
    | false => rfl
    | true => exact h.outline_firstResolved? code
  unfold cut
  rcases none_or_some_of_map_eq (h.outline_direct? code) with
    ⟨hnone, hnone'⟩ | ⟨term, term', hsome, hsome', hterm⟩
  · rw [hnone, hnone']
    rcases none_or_some_of_map_eq hrules with
      ⟨hnone, hnone'⟩ | ⟨⟨before, term, after⟩, ⟨_, term', _⟩, hsome, hsome', houtline⟩
    · rw [hnone, hnone']
      cases marriageCut? code with
      | some sides => exact .between sides.1 sides.2
      | none =>
        rcases none_or_some_of_map_eq (h.outline_directSuffix? code) with
          ⟨hnone, hnone'⟩ | ⟨⟨before, term⟩, ⟨_, term'⟩, hsome, hsome', houtline⟩
        · rw [hnone, hnone']
          exact .nowhere
        · rw [hsome, hsome']
          obtain ⟨rfl, hterm⟩ := Prod.mk.inj houtline
          exact .behind hterm
    · rw [hsome, hsome']
      obtain ⟨rfl, hrest⟩ := Prod.mk.inj houtline
      obtain ⟨hterm, rfl⟩ := Prod.mk.inj hrest
      exact .around hterm
  · rw [hsome, hsome']
    exact .whole hterm

theorem map_outline_decomposeRecursively (limit : Option Nat) (useRules : Bool) (code : Text) :
    (tables.decomposeRecursively limit useRules code).map Term.outline =
      (other.decomposeRecursively limit useRules code).map Term.outline := by
  induction hn : code.length using Nat.strongRecOn generalizing limit useRules code with
  | ind n ih =>
    by_cases hcode : code = []
    · rw [hcode, decomposeRecursively_nil, decomposeRecursively_nil]
    by_cases hlimit : limit = some 0
    · rw [hlimit, decomposeRecursively_zero _ _ hcode, decomposeRecursively_zero _ _ hcode]
    rw [decomposeRecursively_eq_cut hcode hlimit, decomposeRecursively_eq_cut hcode hlimit]
    have hcuts := h.sameOutline_cut useRules code
    generalize hcut : tables.cut useRules code = cut, other.cut useRules code = cut' at hcuts
    cases hcuts with
    | whole hterm => exact congrArg (fun outline => [outline]) hterm
    | @around before after _ _ hterm =>
      obtain ⟨hbefore, hafter⟩ := length_lt_of_cut_around hcut
      rw [List.map_append, List.map_append, List.map_cons, List.map_cons, hterm,
        ih _ (hn ▸ hbefore) _ _ _ rfl, ih _ (hn ▸ hafter) _ _ _ rfl]
    | between left right =>
      obtain ⟨hleft, hright⟩ := length_lt_of_cut_between hcut
      rw [List.map_append, List.map_append, ih _ (hn ▸ hleft) _ _ _ rfl,
        ih _ (hn ▸ hright) _ _ _ rfl]
    | @behind before _ _ hterm =>
      have hbefore := length_lt_of_cut_behind hcut
      rw [List.map_append, List.map_append, List.map_singleton, List.map_singleton, hterm,
        ih _ (hn ▸ hbefore) _ _ _ rfl]
    | nowhere => rfl

end Tables.IsTranslationOf

namespace Tables

/-- **Translating a vocabulary keeps the structure of every decomposition.** Term by term, the
fragments and the origins are the same, and there are as many terms. -/
theorem outline_decompose {tables other : Tables}
    (hkeys : ∀ key, tables.terms.contains key = other.terms.contains key)
    (hrules : tables.rules = other.rules) (bound : Nat) (useRules : Bool) (code : Text) :
    (tables.decompose bound useRules code).length = (other.decompose bound useRules code).length ∧
      ∀ (i : Nat) (term term' : Term),
        (tables.decompose bound useRules code)[i]? = some term →
        (other.decompose bound useRules code)[i]? = some term' →
        term.fragment = term'.fragment ∧ term.origin = term'.origin := by
  have h : tables.IsTranslationOf other := ⟨hkeys, hrules⟩
  have houtlines := h.map_outline_decomposeRecursively (some bound) useRules code
  rw [← decompose_eq_decomposeRecursively, ← decompose_eq_decomposeRecursively] at houtlines
  constructor
  · simpa using congrArg List.length houtlines
  · intro i term term' hterm hterm'
    have hplace := congrArg (fun outlines => outlines[i]?) houtlines
    simp only [List.getElem?_map, hterm, hterm', Option.map_some, Option.some.injEq] at hplace
    exact Prod.mk.inj hplace

/-- The small vocabulary in another language, with other suffixes of ordinals. -/
def householdTranslated : Tables := { household with
  terms := ((Dictionary.empty.insert ['F'] [.literal "Vater".toList]).insert
    ['W'] [.literal "Frau".toList]).insert "brother".toList [.literal "Bruder".toList]
  ordinals := ⟨".".toList, ".".toList, ".".toList, ".".toList⟩ }

theorem outline_decompose_householdTranslated :
    (∀ key, household.terms.contains key = householdTranslated.terms.contains key) ∧
      household.rules = householdTranslated.rules ∧
      (household.decompose 2 true ['W', 'F', 'S', 'F']).length =
        (householdTranslated.decompose 2 true ['W', 'F', 'S', 'F']).length ∧
      ∃ term term', (household.decompose 2 true ['W', 'F', 'S', 'F'])[1]? = some term ∧
        (householdTranslated.decompose 2 true ['W', 'F', 'S', 'F'])[1]? = some term' ∧
        term.phrase ≠ term'.phrase ∧ term.fragment = term'.fragment ∧
        term.origin = term'.origin := by
  have hkeys : ∀ key, household.terms.contains key = householdTranslated.terms.contains key := by
    intro key
    unfold householdTranslated household
    rw [Dictionary.contains_insert, Dictionary.contains_insert, Dictionary.contains_insert,
      Dictionary.contains_insert, Dictionary.contains_insert, Dictionary.contains_insert]
  have hrules : household.rules = householdTranslated.rules := rfl
  have hterm : (household.decompose 2 true ['W', 'F', 'S', 'F'])[1]? =
      some ⟨['F', 'S'], "brother".toList, .rule 1 "brother".toList⟩ := by decide
  have hterm' : (householdTranslated.decompose 2 true ['W', 'F', 'S', 'F'])[1]? =
      some ⟨['F', 'S'], "Bruder".toList, .rule 1 "brother".toList⟩ := by decide
  obtain ⟨hlength, houtlines⟩ := outline_decompose hkeys hrules 2 true ['W', 'F', 'S', 'F']
  exact ⟨hkeys, hrules, hlength, _, _, hterm, hterm', by decide, houtlines 1 _ _ hterm hterm'⟩

end Tables

end Kindred
