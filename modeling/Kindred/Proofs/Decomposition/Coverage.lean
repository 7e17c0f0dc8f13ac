import Kindred.Proofs.Decomposition.Recursion

/-!
# Decompositions cover the code

Whatever the vocabulary and the bound, no letter of a code is lost, repeated or moved: the fragments
of the terms, put together in order, are the code (`fragments_decompose`). None of them is empty, so
that only the empty text has no terms.
-/

namespace Kindred

/-- The fragments of the terms make up the text, and none of them is empty. -/
structure Term.Covers (terms : List Term) (text : Text) : Prop where
  flatMap_fragment : terms.flatMap Term.fragment = text
  fragment_ne_nil : ∀ term ∈ terms, term.fragment ≠ []

namespace Term.Covers

theorem nil : Covers [] [] := ⟨rfl, fun _ h => nomatch h⟩

theorem single (term : Term) (h : term.fragment ≠ []) : Covers [term] term.fragment := by
  refine ⟨List.flatMap_singleton .., fun other hother => ?_⟩
  obtain rfl := List.mem_singleton.1 hother
  exact h

theorem append {terms others : List Term} {a b : Text} (ha : Covers terms a)
    (hb : Covers others b) : Covers (terms ++ others) (a ++ b) := by
  refine ⟨?_, fun term hterm => ?_⟩
  · rw [List.flatMap_append, ha.flatMap_fragment, hb.flatMap_fragment]
  · rcases List.mem_append.1 hterm with hterm | hterm
    · exact ha.fragment_ne_nil term hterm
    · exact hb.fragment_ne_nil term hterm

/-- Only the empty text has no terms. -/
theorem eq_nil_iff {terms : List Term} {text : Text} (h : Covers terms text) :
    terms = [] ↔ text = [] := by
  rw [← h.flatMap_fragment, List.flatMap_eq_nil_iff]
  constructor
  · rintro rfl term hterm
    cases hterm
  · intro hnil
    cases terms with
    | nil => rfl
    | cons term rest => exact absurd (hnil term (by simp)) (h.fragment_ne_nil term (by simp))

/-- The letters of a fragment are letters of the text. -/
theorem fragment_subset {terms : List Term} {text : Text} {term : Term} (h : Covers terms text)
    (hterm : term ∈ terms) : term.fragment ⊆ text := by
  intro letter hletter
  rw [← h.flatMap_fragment]
  exact List.mem_flatMap.2 ⟨term, hterm, hletter⟩

end Term.Covers

namespace Tables

theorem isPiecewise_covers :
    IsPiecewise fun text terms (_ : List Term) => Term.Covers terms text where
  nil := Term.Covers.nil
  single := Term.Covers.single
  append := Term.Covers.append

theorem decompose_covers (tables : Tables) (bound : Nat) (useRules : Bool) (code : Text) :
    Term.Covers (tables.decompose bound useRules code) code := by
  -- the relation is about the first of the two decompositions, so that one bound is enough
  have hleft : ∀ (bound : Nat) (useRules : Bool) (text : Text), text ≠ [] →
      Term.Covers [.literal text] text := fun _ _ text htext => .single (.literal text) htext
  exact decompose_rel isPiecewise_covers hleft useRules code (Nat.le_refl bound)

/-- **A decomposition covers the code.** The fragments of the terms, in order, are the code; none is
empty; and there are no terms only if there are no letters. -/
theorem fragments_decompose (tables : Tables) (bound : Nat) (useRules : Bool) (code : Text) :
    (tables.decompose bound useRules code).flatMap Term.fragment = code ∧
      (∀ term ∈ tables.decompose bound useRules code, term.fragment ≠ []) ∧
      (tables.decompose bound useRules code = [] ↔ code = []) := by
  have h := tables.decompose_covers bound useRules code
  exact ⟨h.flatMap_fragment, h.fragment_ne_nil, h.eq_nil_iff⟩

theorem fragments_decompose_household :
    ⟨['F', 'S'], "brother".toList, .rule 1 "brother".toList⟩ ∈
        household.decompose 2 true ['W', 'F', 'S', 'F'] ∧
      ['F', 'S'] ≠ ([] : Text) := by
  have hmem : ⟨['F', 'S'], "brother".toList, .rule 1 "brother".toList⟩ ∈
      household.decompose 2 true ['W', 'F', 'S', 'F'] := by decide
  exact ⟨hmem, (fragments_decompose household 2 true ['W', 'F', 'S', 'F']).2.1 _ hmem⟩

end Tables

end Kindred
