import Kindred.Proofs.Formatter.Braces
import Kindred.Proofs.Vocabulary.English

/-!
# Chains in English

English has a possessive form of its own for one word, `I`, and puts `'s` behind every other phrase. No
phrase of the vocabulary has this letter in it (`notMem_phrase`), so **the phrase of a code without it is
the phrases of its terms with `'s` between them** (`format_eq_intercalate`), however long the code is and
wherever its terms come from.
-/

namespace Kindred

/-- If every phrase takes the same ending, chained phrases are the phrases with the ending between
them. -/
theorem GenitiveTable.flatMap_phrase_chain {table : GenitiveTable} {ending : Text}
    {terms : List Term} (h : ∀ term ∈ terms, table.possessive term.phrase = term.phrase ++ ending) :
    (table.chain terms).flatMap Term.phrase = ending.intercalate (terms.map Term.phrase) := by
  induction terms with
  | nil => rfl
  | cons term rest ih =>
    obtain ⟨hterm, hrest⟩ := List.forall_mem_cons.1 h
    cases rest with
    | nil => simp [chain]
    | cons next rest =>
      have hchain : table.chain (term :: next :: rest) =
          table.possess term :: table.chain (next :: rest) := rfl
      have hphrase : (table.possess term).phrase = term.phrase ++ ending := hterm
      rw [hchain, List.flatMap_cons, ih hrest, hphrase]
      simp only [List.map_cons, List.intercalate_cons_cons]

namespace Vocabulary.English

variable {bound : Nat} {useRules : Bool} {code phrase : Text} {term : Term}

theorem possessive_of_notMem (h : 'I' ∉ phrase) :
    tables.genitives.possessive phrase = phrase ++ "'s ".toList := by
  have hnone : ∀ segment ∈ Text.segments phrase, ∀ form,
      ¬ tables.genitives.HasForm segment form := by
    intro segment hsegment form hform
    have hkey := Dictionary.mem_keys_of_get? hform.get?
    rw [keys_genitives, List.mem_singleton] at hkey
    apply h
    rw [← Text.segments_flatten phrase]
    exact List.mem_flatten_of_mem hsegment (hkey ▸ List.mem_singleton_self 'I')
  rw [GenitiveTable.possessive_of_no_form hnone, default_genitives]
  rfl

/-- **No phrase for a code without `I` has an `I` in it**, be it a piece of the code or a template with
its gaps filled. -/
theorem notMem_phrase (hself : 'I' ∉ code) (hterm : term ∈ tables.decompose bound useRules code) :
    'I' ∉ term.phrase := by
  rcases Tables.phrase_of_mem_decompose hterm with
    ⟨hphrase, hfragment⟩ | ⟨key, template, degrees, htemplate, hphrase⟩
  · rw [hphrase]
    exact fun h => hself (hfragment h)
  · obtain ⟨hliterals, hgaps⟩ := phrase_of_term? htemplate
    have hdigit : ∀ c : Char, c.isDigit = true → c ≠ 'I' := by
      rintro c hc rfl
      exact absurd hc (by decide)
    have hordinals : ∀ category, ∀ c ∈ OrdinalSuffixes.english.suffix category, c ≠ 'I' := by
      rintro category c hc rfl
      revert hc
      cases category <;> decide
    have hne : ∀ c ∈ template.fillDegrees degrees .english, c ≠ 'I' :=
      Template.forall_mem_fillDegrees hdigit (by decide) hordinals
        (fun c hc heq => hliterals (heq ▸ hc)) hgaps degrees
    rw [hphrase, ordinals_tables]
    exact fun h => hne 'I' h rfl

/-- **A code without `I` is formatted as the phrases of its terms with `'s` between them**, whatever its
length and the bound. -/
theorem format_eq_intercalate (bound : Nat) (code : Text) (hcode : Code.isCode code = true)
    (hself : 'I' ∉ code) :
    Formatter.format ⟨tables, bound⟩ (some code) =
      "'s ".toList.intercalate ((tables.decompose bound true code).map Term.phrase) := by
  have hpossessive : ∀ term ∈ tables.decompose bound true code,
      tables.genitives.possessive term.phrase = term.phrase ++ "'s ".toList :=
    fun term hterm => possessive_of_notMem (notMem_phrase hself hterm)
  rw [Formatter.format_of_isCode _ hcode]
  -- without projections the tables are compared by name, and their text need not be read
  dsimp only
  exact GenitiveTable.flatMap_phrase_chain hpossessive

/-- A wife of a brother of a husband, with the bound that holds where no other is given. -/
theorem format_eq_intercalate_inLaw :
    Code.isCode ['H', 'B', 'W'] = true ∧ 'I' ∉ ['H', 'B', 'W'] ∧
      (Formatter.ofTables tables).format (some ['H', 'B', 'W']) =
        "'s ".toList.intercalate
          ((tables.decompose Tables.defaultBound true ['H', 'B', 'W']).map Term.phrase) := by
  have hcode : Code.isCode ['H', 'B', 'W'] = true := by decide
  have hself : 'I' ∉ ['H', 'B', 'W'] := by decide
  exact ⟨hcode, hself, format_eq_intercalate Tables.defaultBound _ hcode hself⟩

end Vocabulary.English

end Kindred
