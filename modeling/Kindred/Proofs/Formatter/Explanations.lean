import Kindred.Formatter
import Kindred.Proofs.Decomposition.Coverage

/-!
# Formatting, decomposing and explaining agree

A code can be formatted, decomposed and explained. **The three tell one story**
(`Formatter.explain_agrees`): what is no code has the phrase for the unrelated and no terms; a code
has the terms of its decomposition, and its phrase is made of the phrases of the chained terms.

Chaining is seen from the last term: it stays as it is, and each term before it is put into its
possessive form by itself (`GenitiveTable.chain_concat`), so that nothing but phrases changes
(`GenitiveTable.chains_chain`).
-/

namespace Kindred

/-! ## Chained terms -/

namespace GenitiveTable

variable {table : GenitiveTable} {terms : List Term}

/-- A term with its phrase put into the possessive form. -/
def possess (table : GenitiveTable) (term : Term) : Term :=
  { term with phrase := table.possessive term.phrase }

/-- Terms are chained if they keep their fragments and origins, the last one its phrase too, and the
phrase of each other term is the possessive form of what it was, whatever the other terms are. -/
structure Chains (table : GenitiveTable) (terms chained : List Term) : Prop where
  length_eq : chained.length = terms.length
  fragments : chained.map Term.fragment = terms.map Term.fragment
  origins : chained.map Term.origin = terms.map Term.origin
  last : chained.getLast? = terms.getLast?
  others : ∀ i term, i + 1 < terms.length → terms[i]? = some term →
    chained[i]? = some (table.possess term)

/-- All terms but the last are put into their possessive forms, each by itself. -/
theorem chain_concat (table : GenitiveTable) (terms : List Term) (last : Term) :
    table.chain (terms ++ [last]) = terms.map table.possess ++ [last] := by
  induction terms with
  | nil => rfl
  | cons term terms ih =>
    have hcons : table.chain (term :: (terms ++ [last])) =
        table.possess term :: table.chain (terms ++ [last]) := by
      cases terms with
      | nil => rfl
      | cons next terms => rfl
    rw [List.cons_append, hcons, ih]
    rfl

theorem chains_chain (table : GenitiveTable) (terms : List Term) :
    table.Chains terms (table.chain terms) := by
  rcases List.eq_nil_or_concat terms with rfl | ⟨before, last, rfl⟩
  · exact ⟨rfl, rfl, rfl, rfl, fun i term hi => absurd hi (Nat.not_lt_zero _)⟩
  · rw [List.concat_eq_append]
    have hfragment : Term.fragment ∘ table.possess = Term.fragment := rfl
    have horigin : Term.origin ∘ table.possess = Term.origin := rfl
    rw [chain_concat]
    refine ⟨by simp, by simp [hfragment], by simp [horigin], by simp, fun i term hi hterm => ?_⟩
    have hlt : i < before.length := by simpa using hi
    rw [List.getElem?_append_left hlt] at hterm
    rw [List.getElem?_append_left (by simpa using hlt), List.getElem?_map, hterm, Option.map_some]

end GenitiveTable

/-! ## Explanations -/

namespace Formatter

variable (formatter : Formatter) {code : Option Text} {letters : Text}

/-- What all ways to use a formatter say of what is no code. -/
structure SaysUnrelated (code : Option Text) (told : Explanation) :
    Prop where
  decompose? : formatter.decompose? code = none
  terms : told.terms = []
  chained : told.chained = []
  output : told.output = formatter.tables.unrelated
  format : formatter.format code = formatter.tables.unrelated

/-- What all ways to use a formatter say of a code. -/
structure SaysTerms (letters : Text) (told : Explanation) : Prop where
  decompose? : formatter.decompose? (some letters) = some told.terms
  terms : told.terms = formatter.tables.decompose formatter.bound true letters
  terms_ne_nil : told.terms ≠ []
  terms_cover : told.terms.flatMap Term.fragment = letters
  chained : formatter.tables.genitives.Chains told.terms told.chained
  chained_cover : told.chained.flatMap Term.fragment = letters
  output : told.output = told.chained.flatMap Term.phrase
  format : formatter.format (some letters) = told.output

theorem decompose?_of_isCode (h : Code.isCode letters = true) :
    formatter.decompose? (some letters) =
      some (formatter.tables.decompose formatter.bound true letters) := by
  rw [decompose?, Option.filter_some, if_pos h, Option.map_some]

theorem format_of_isCode (h : Code.isCode letters = true) :
    formatter.format (some letters) =
      (formatter.tables.genitives.chain
        (formatter.tables.decompose formatter.bound true letters)).flatMap Term.phrase := by
  rw [format, decompose?_of_isCode formatter h]

/-- Nothing but a code is decomposed. -/
theorem decompose?_eq_none_iff : formatter.decompose? code = none ↔
    ¬ ∃ letters, code = some letters ∧ Code.isCode letters = true := by
  rw [decompose?, Option.map_eq_none_iff, Option.filter_eq_none_iff]
  constructor
  · rintro hnone ⟨letters, rfl, hcode⟩
    exact hnone letters rfl hcode
  · intro hnone letters hletters hcode
    exact hnone ⟨letters, hletters, hcode⟩

theorem explain_of_none (h : formatter.decompose? code = none) :
    formatter.explain code = ⟨code, false, [], [], formatter.tables.unrelated⟩ := by
  rw [explain, h]

theorem explain_of_some {terms : List Term} (h : formatter.decompose? code = some terms) :
    formatter.explain code = ⟨code, true, terms, formatter.tables.genitives.chain terms,
      (formatter.tables.genitives.chain terms).flatMap Term.phrase⟩ := by
  rw [explain, h]

/-- A formatter gives the phrase that it explains. -/
theorem format_eq_output (code : Option Text) :
    formatter.format code = (formatter.explain code).output := by
  unfold format explain
  cases formatter.decompose? code with
  | none => rfl
  | some terms => rfl

theorem saysUnrelated_explain
    (h : ¬ ∃ letters, code = some letters ∧ Code.isCode letters = true) :
    formatter.SaysUnrelated code (formatter.explain code) := by
  have hnone := formatter.decompose?_eq_none_iff.2 h
  have hexplain := formatter.explain_of_none hnone
  refine ⟨hnone, ?_, ?_, ?_, ?_⟩
  · rw [hexplain]
  · rw [hexplain]
  · rw [hexplain]
  · rw [format_eq_output, hexplain]

theorem saysTerms_explain (h : Code.isCode letters = true) :
    formatter.SaysTerms letters (formatter.explain (some letters)) := by
  have hsome := formatter.decompose?_of_isCode h
  have hcovers := formatter.tables.decompose_covers formatter.bound true letters
  have hletters : letters ≠ [] := by
    rintro rfl
    cases h
  have hchains := formatter.tables.genitives.chains_chain
    (formatter.tables.decompose formatter.bound true letters)
  have hfragments := congrArg List.flatten hchains.fragments
  rw [← List.flatMap_def, ← List.flatMap_def, hcovers.flatMap_fragment] at hfragments
  rw [formatter.explain_of_some hsome]
  refine ⟨hsome, rfl, mt hcovers.eq_nil_iff.1 hletters, hcovers.flatMap_fragment, hchains,
    hfragments, rfl, ?_⟩
  rw [format_eq_output, formatter.explain_of_some hsome]

/-- **Formatting, decomposing and explaining tell one story.** An explanation is valid exactly for a
code. What is no code has no terms and the phrase for the unrelated; a code has the terms of its
decomposition, at least one, and the phrases of the chained terms make up its phrase. -/
theorem explain_agrees (formatter : Formatter) (code : Option Text) :
    (formatter.explain code).code = code ∧
    ((formatter.explain code).valid = true ↔
      ∃ letters, code = some letters ∧ Code.isCode letters = true) ∧
    ((formatter.explain code).valid = false →
      formatter.SaysUnrelated code (formatter.explain code)) ∧
    ∀ letters, code = some letters → Code.isCode letters = true →
      formatter.SaysTerms letters (formatter.explain code) := by
  have hsays : ∀ letters, code = some letters → Code.isCode letters = true →
      formatter.SaysTerms letters (formatter.explain code) := by
    rintro letters rfl hcode
    exact formatter.saysTerms_explain hcode
  by_cases hcode : ∃ letters, code = some letters ∧ Code.isCode letters = true
  · obtain ⟨letters, rfl, hletters⟩ := hcode
    have hexplain := formatter.explain_of_some (formatter.decompose?_of_isCode hletters)
    have hvalid : (formatter.explain (some letters)).valid = true := by rw [hexplain]
    refine ⟨by rw [hexplain], ⟨fun _ => ⟨letters, rfl, hletters⟩, fun _ => hvalid⟩,
      fun hinvalid => ?_, hsays⟩
    rw [hvalid] at hinvalid
    cases hinvalid
  · have hexplain := formatter.explain_of_none (formatter.decompose?_eq_none_iff.2 hcode)
    have hinvalid : (formatter.explain code).valid = false := by rw [hexplain]
    refine ⟨by rw [hexplain], ⟨fun hvalid => ?_, fun h => absurd h hcode⟩,
      fun _ => formatter.saysUnrelated_explain hcode, hsays⟩
    rw [hinvalid] at hvalid
    cases hvalid

/-- The wife's brother's father of a small vocabulary, and a text that is no code. -/
theorem explain_agrees_household :
    Code.isCode ['W', 'F', 'S', 'F'] = true ∧
      (ofTables Tables.household).SaysTerms ['W', 'F', 'S', 'F']
        ((ofTables Tables.household).explain (some ['W', 'F', 'S', 'F'])) ∧
      ((ofTables Tables.household).explain (some ['W', 'F', 'S', 'F'])).output =
        "wife's brother's father".toList ∧
      ((ofTables Tables.household).explain (some ['F', '?'])).valid = false ∧
      (ofTables Tables.household).SaysUnrelated (some ['F', '?'])
        ((ofTables Tables.household).explain (some ['F', '?'])) := by
  have hcode : Code.isCode ['W', 'F', 'S', 'F'] = true := by decide
  have hinvalid : ((ofTables Tables.household).explain (some ['F', '?'])).valid = false := by decide
  have houtput : ((ofTables Tables.household).explain (some ['W', 'F', 'S', 'F'])).output =
      "wife's brother's father".toList := by decide +kernel
  obtain ⟨-, -, -, hsays⟩ := explain_agrees (ofTables Tables.household) (some ['W', 'F', 'S', 'F'])
  obtain ⟨-, -, hunrelated, -⟩ := explain_agrees (ofTables Tables.household) (some ['F', '?'])
  exact ⟨hcode, hsays _ rfl hcode, houtput, hinvalid, hunrelated hinvalid⟩

end Formatter

end Kindred
