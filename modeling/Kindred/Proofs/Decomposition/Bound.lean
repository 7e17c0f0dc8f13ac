import Kindred.Proofs.Decomposition.Coverage

/-!
# The bound on a decomposition

What a bound does, and all it does, is to leave texts as they are that lie deeper. A cut leaves
shorter pieces, so that no text of a code lies deeper than the code is long: from there on the bound
plays no part (`decompose_of_length_le`). Below that, a greater bound breaks down literals further
and leaves all other terms as they are (`decompose_refines`).
-/

namespace Kindred

namespace Tables

/-! ## Bounds that play no part -/

/-- The terms of a code by the same ways, with other terms, `cutOff`, for what lies deeper than the
bound. -/
def decomposeOr (tables : Tables) (cutOff : Text → List Term) :
    (bound : Nat) → (useRules : Bool) → Text → List Term
  | _, _, [] => []
  | 0, _, code => cutOff code
  | bound + 1, useRules, code =>
    tables.resolve (decomposeOr tables cutOff bound true) useRules code

/-- The terms of a code with no bound. -/
def decomposeFully (tables : Tables) (useRules : Bool) (code : Text) : List Term :=
  tables.decomposeRecursively none useRules code

variable {tables : Tables} {useRules : Bool} {code : Text}

@[simp] theorem decomposeOr_nil (tables : Tables) (cutOff : Text → List Term) (bound : Nat)
    (useRules : Bool) : tables.decomposeOr cutOff bound useRules [] = [] := by
  cases bound <;> rfl

theorem decomposeOr_succ (tables : Tables) (cutOff : Text → List Term) (bound : Nat)
    (useRules : Bool) (h : code ≠ []) :
    tables.decomposeOr cutOff (bound + 1) useRules code =
      tables.resolve (tables.decomposeOr cutOff bound true) useRules code := by
  cases code with
  | nil => exact absurd rfl h
  | cons letter rest => rfl

/-- A decomposition leaves what lies deeper than the bound as a literal. -/
theorem decompose_eq_decomposeOr (tables : Tables) (bound : Nat) :
    tables.decompose bound = tables.decomposeOr (fun text => [.literal text]) bound := by
  induction bound with
  | zero =>
    funext useRules code
    cases code <;> rfl
  | succ bound ih =>
    funext useRules code
    cases code with
    | nil => rfl
    | cons letter rest => simp only [decompose, decomposeOr, ih]

theorem decomposeFully_nil (tables : Tables) (useRules : Bool) :
    tables.decomposeFully useRules [] = [] := by
  rw [decomposeFully, decomposeRecursively, if_pos rfl]

/-- Without a bound, a code is resolved and the sides of its cuts are decomposed without a bound. -/
theorem decomposeFully_eq_resolve (h : code ≠ []) :
    tables.decomposeFully useRules code =
      tables.resolve (tables.decomposeFully true) useRules code :=
  decomposeRecursively_eq_resolve h (by simp)

theorem isPiecewise_eq : IsPiecewise fun _ terms others => terms = others where
  nil := rfl
  single _ _ := rfl
  append h h' := by rw [h, h']

/-- What lies deeper than the bound is never asked for where the bound reaches the length. -/
theorem decomposeOr_eq_decomposeFully (cutOff : Text → List Term) {bound : Nat}
    (h : code.length ≤ bound) :
    tables.decomposeOr cutOff bound useRules code = tables.decomposeFully useRules code := by
  induction bound generalizing useRules code with
  | zero =>
    obtain rfl := List.length_eq_zero_iff.1 (Nat.le_zero.1 h)
    rw [decomposeOr_nil, decomposeFully_nil]
  | succ bound ih =>
    by_cases hcode : code = []
    · rw [hcode, decomposeOr_nil, decomposeFully_nil]
    · rw [decomposeOr_succ tables _ _ _ hcode, decomposeFully_eq_resolve hcode]
      exact resolve_rel isPiecewise_eq _ _ hcode fun side hside => ih (by omega)

theorem decompose_eq_decomposeFully {bound : Nat} (h : code.length ≤ bound) :
    tables.decompose bound useRules code = tables.decomposeFully useRules code := by
  rw [decompose_eq_decomposeOr]
  exact decomposeOr_eq_decomposeFully _ h

/-- **From the length of the code on, the bound plays no part.** Any two such bounds give the terms
that the same ways give with no bound, each side of a cut being shorter than what is cut; and
nothing depends on what becomes of texts that lie deeper, for there are none. -/
theorem decompose_of_length_le (tables : Tables) (useRules : Bool) (code : Text) {m m' : Nat}
    (hm : code.length ≤ m) (hm' : code.length ≤ m') :
    tables.decompose m useRules code = tables.decompose m' useRules code ∧
      tables.decompose m useRules code = tables.decomposeFully useRules code ∧
      (∀ useRules code, tables.decomposeFully useRules code =
        if code = [] then [] else tables.resolve (tables.decomposeFully true) useRules code) ∧
      (∀ useRules code split split', code ≠ [] →
        (∀ side, side.length < code.length → split side = split' side) →
        tables.resolve split useRules code = tables.resolve split' useRules code) ∧
      ∀ cutOff, tables.decomposeOr cutOff m useRules code = tables.decompose m useRules code := by
  have hfull : ∀ {bound}, code.length ≤ bound →
      tables.decompose bound useRules code = tables.decomposeFully useRules code := by
    intro bound h
    rw [decompose_eq_decomposeOr]
    exact decomposeOr_eq_decomposeFully _ h
  refine ⟨(hfull hm).trans (hfull hm').symm, hfull hm, fun useRules code => ?_,
    fun useRules code split split' hcode hsides => ?_, fun cutOff => ?_⟩
  · split
    · rename_i hcode
      rw [hcode, decomposeFully_nil]
    · rename_i hcode
      exact decomposeFully_eq_resolve hcode
  · exact resolve_rel isPiecewise_eq split split' hcode hsides
  · exact (decomposeOr_eq_decomposeFully cutOff hm).trans (hfull hm).symm

theorem decompose_of_length_le_household :
    ['W', 'F', 'S', 'F'].length ≤ 4 ∧ ['W', 'F', 'S', 'F'].length ≤ 64 ∧
      household.decompose 4 true ['W', 'F', 'S', 'F'] =
        household.decompose 64 true ['W', 'F', 'S', 'F'] ∧
      household.decomposeOr (fun _ => []) 4 true ['W', 'F', 'S', 'F'] =
        household.decompose 4 true ['W', 'F', 'S', 'F'] := by
  have hm : ['W', 'F', 'S', 'F'].length ≤ 4 := by decide
  have hm' : ['W', 'F', 'S', 'F'].length ≤ 64 := by decide
  obtain ⟨hsame, -, -, -, hcutOff⟩ := decompose_of_length_le household true _ hm hm'
  exact ⟨hm, hm', hsame, hcutOff fun _ => []⟩

end Tables

/-! ## Greater bounds -/

/-- The second list of terms has some literals of the first broken down further, each into terms
whose fragments make up its own, and all other terms as they are. -/
inductive Term.Refines : List Term → List Term → Prop
  /-- No terms. -/
  | nil : Refines [] []
  /-- The first term stays. -/
  | keep (term : Term) {coarse fine : List Term} :
    Refines coarse fine → Refines (term :: coarse) (term :: fine)
  /-- The first term is a literal and is broken down. -/
  | expand {fragment : Text} {terms coarse fine : List Term} :
    terms.flatMap Term.fragment = fragment → Refines coarse fine →
      Refines (.literal fragment :: coarse) (terms ++ fine)

namespace Term.Refines

theorem refl (terms : List Term) : Refines terms terms := by
  induction terms with
  | nil => exact .nil
  | cons term terms ih => exact .keep term ih

theorem append {coarse fine coarse' fine' : List Term} (h : Refines coarse fine)
    (h' : Refines coarse' fine') : Refines (coarse ++ coarse') (fine ++ fine') := by
  induction h with
  | nil => exact h'
  | keep term _ ih => exact .keep term ih
  | expand hterms _ ih =>
    rw [List.append_assoc]
    exact .expand hterms ih

theorem flatMap_fragment {coarse fine : List Term} (h : Refines coarse fine) :
    fine.flatMap Term.fragment = coarse.flatMap Term.fragment := by
  induction h with
  | nil => rfl
  | keep term _ ih => rw [List.flatMap_cons, List.flatMap_cons, ih]
  | expand hterms _ ih =>
    rw [List.flatMap_append, List.flatMap_cons, ih, hterms]
    rfl

/-- A term that is no literal stays, and the text before it and after it does. -/
theorem keeps_place {coarse fine : List Term} (h : Refines coarse fine) {before after : List Term}
    {term : Term} (hcoarse : coarse = before ++ term :: after) (hterm : term.origin ≠ .literal) :
    ∃ before' after', fine = before' ++ term :: after' ∧
      before'.flatMap Term.fragment = before.flatMap Term.fragment ∧
      after'.flatMap Term.fragment = after.flatMap Term.fragment := by
  induction h generalizing before with
  | nil => simp at hcoarse
  | @keep first coarse fine hrest ih =>
    cases before with
    | nil =>
      obtain ⟨rfl, rfl⟩ := List.cons.inj hcoarse
      exact ⟨[], fine, rfl, rfl, hrest.flatMap_fragment⟩
    | cons other before =>
      obtain ⟨rfl, htail⟩ := List.cons.inj hcoarse
      obtain ⟨before', after', rfl, hbefore, hafter⟩ := ih htail
      refine ⟨first :: before', after', rfl, ?_, hafter⟩
      rw [List.flatMap_cons, List.flatMap_cons, hbefore]
  | @expand fragment terms coarse fine hterms hrest ih =>
    cases before with
    | nil =>
      obtain ⟨rfl, -⟩ := List.cons.inj hcoarse
      exact absurd rfl hterm
    | cons other before =>
      obtain ⟨rfl, htail⟩ := List.cons.inj hcoarse
      obtain ⟨before', after', rfl, hbefore, hafter⟩ := ih htail
      refine ⟨terms ++ before', after', (List.append_assoc ..).symm, ?_, hafter⟩
      rw [List.flatMap_append, List.flatMap_cons, hbefore, hterms]
      rfl

end Term.Refines

namespace Tables

theorem isPiecewise_refines : IsPiecewise fun _ coarse fine => Term.Refines coarse fine where
  nil := .nil
  single term _ := .refl [term]
  append h h' := h.append h'

theorem refines_decompose (tables : Tables) (useRules : Bool) (code : Text) {m m' : Nat}
    (h : m ≤ m') :
    Term.Refines (tables.decompose m useRules code) (tables.decompose m' useRules code) := by
  refine decompose_rel isPiecewise_refines (fun bound useRules text _ => ?_) useRules code h
  -- what was left as a literal is covered by its terms within any bound
  have hcovers := tables.decompose_covers bound useRules text
  have hexpand := Term.Refines.expand hcovers.flatMap_fragment .nil
  rwa [List.append_nil] at hexpand

/-- **A greater bound only breaks down literals.** Each literal is left as it is or broken down into
terms that make up its fragment, and all other terms stay as they are and where they are. -/
theorem decompose_refines (tables : Tables) (useRules : Bool) (code : Text) {m m' : Nat}
    (h : m ≤ m') :
    Term.Refines (tables.decompose m useRules code) (tables.decompose m' useRules code) ∧
      ∀ before term after, tables.decompose m useRules code = before ++ term :: after →
        term.origin ≠ .literal →
        ∃ before' after', tables.decompose m' useRules code = before' ++ term :: after' ∧
          before'.flatMap Term.fragment = before.flatMap Term.fragment ∧
          after'.flatMap Term.fragment = after.flatMap Term.fragment :=
  have hrefines := tables.refines_decompose useRules code h
  ⟨hrefines, fun _ _ _ hcoarse hterm => hrefines.keeps_place hcoarse hterm⟩

theorem decompose_refines_household :
    1 ≤ 2 ∧
      Term.Refines
        [.literal ['W'], ⟨['F', 'S'], "brother".toList, .rule 1 "brother".toList⟩, .literal ['F']]
        [⟨['W'], "wife".toList, .direct ['W']⟩,
          ⟨['F', 'S'], "brother".toList, .rule 1 "brother".toList⟩,
          ⟨['F'], "father".toList, .direct ['F']⟩] ∧
      ∃ before after, household.decompose 2 true ['W', 'F', 'S', 'F'] =
          before ++ ⟨['F', 'S'], "brother".toList, .rule 1 "brother".toList⟩ :: after ∧
        before.flatMap Term.fragment = ['W'] ∧ after.flatMap Term.fragment = ['F'] := by
  have hle : 1 ≤ 2 := by decide
  have hcoarse : household.decompose 1 true ['W', 'F', 'S', 'F'] =
      [.literal ['W'], ⟨['F', 'S'], "brother".toList, .rule 1 "brother".toList⟩,
        .literal ['F']] := by decide
  have hfine : household.decompose 2 true ['W', 'F', 'S', 'F'] =
      [⟨['W'], "wife".toList, .direct ['W']⟩,
        ⟨['F', 'S'], "brother".toList, .rule 1 "brother".toList⟩,
        ⟨['F'], "father".toList, .direct ['F']⟩] := by decide
  obtain ⟨hrefines, hplace⟩ := decompose_refines household true ['W', 'F', 'S', 'F'] hle
  have hbrother := hplace [.literal ['W']] _ [.literal ['F']] hcoarse (by decide)
  rw [hcoarse, hfine] at hrefines
  exact ⟨hle, hrefines, hbrother⟩

end Tables

end Kindred
