import Kindred.Proofs.Decomposition.Origins
import Kindred.Proofs.Formatter.Explanations
import Kindred.Proofs.Lint.Rules
import Kindred.Proofs.Template.Filling

/-!
# Phrases without gaps

**A vocabulary for which no gap is reported never gives a phrase with a gap**
(`Formatter.braceFree_format_of_noGaps`), as long as no other text of the vocabulary has a brace. The
phrase of a term is a piece of the code or a template of the vocabulary, filled with degrees
(`Tables.phrase_of_mem_decompose`); the possessive forms are templates of the vocabulary too, or the
one of English. So what is asked of the templates of the tables (`Tables.IsFillable`) is kept by every
phrase that is made from them.
-/

namespace Kindred

/-! ## Where phrases come from -/

namespace Tables

variable {tables : Tables} {code : Text} {term : Term} {bound : Nat} {useRules : Bool}

/-- A phrase is the fragment of its term or a template of the tables, filled with degrees. -/
theorem phrase_of_mem_decompose (h : term ∈ tables.decompose bound useRules code) :
    (term.phrase = term.fragment ∧ term.fragment ⊆ code) ∨
      ∃ key template degrees, tables.term? key = some template ∧
        term.phrase = template.fillDegrees degrees tables.ordinals := by
  have hcovers := tables.decompose_covers bound useRules code
  obtain ⟨before, after, haccounts⟩ := accounts_of_mem_decompose h
  unfold Tables.Accounts at haccounts
  split at haccounts
  · exact .inl ⟨haccounts.1, hcovers.fragment_subset h⟩
  · obtain ⟨_, _, template, -, -, htemplate, hphrase⟩ := haccounts
    exact .inr ⟨_, template, _, htemplate, hphrase⟩
  · obtain ⟨_, _, _, _, -, -, hfirst⟩ := haccounts
    obtain ⟨rule, -, happly⟩ := hfirst.resolved
    obtain ⟨m, hmatch, -⟩ := Option.map_eq_some_iff.1 happly
    obtain ⟨hterm, -⟩ := (Rule.apply_eq_resolved_iff hmatch).1 happly
    obtain ⟨template, htemplate, rfl⟩ := Rule.termOf?_eq_some_iff.1 hterm
    exact .inr ⟨_, template, _, htemplate, rfl⟩

/-- All gaps of the tables are filled when a code is formatted, and no text in them has a brace. -/
structure IsFillable (tables : Tables) : Prop where
  terms : ∀ key template, tables.term? key = some template → template.IsFillable Degrees.count
  genitives : tables.genitives.IsFillable
  ordinals : tables.ordinals.BraceFree
  unrelated : tables.unrelated.BraceFree

theorem IsFillable.phrase (h : tables.IsFillable) (hcode : code.BraceFree)
    (hterm : term ∈ tables.decompose bound useRules code) : term.phrase.BraceFree := by
  obtain ⟨hphrase, hfragment⟩ | ⟨key, template, degrees, htemplate, hphrase⟩ :=
    phrase_of_mem_decompose hterm
  · rw [hphrase]
    exact hcode.subset hfragment
  · rw [hphrase]
    exact (h.terms key template htemplate).fillDegrees h.ordinals degrees

end Tables

namespace GenitiveTable

variable {table : GenitiveTable} {terms : List Term}

theorem IsFillable.chain (h : table.IsFillable) (hterms : ∀ term ∈ terms, term.phrase.BraceFree) :
    Text.BraceFree ((table.chain terms).flatMap Term.phrase) := by
  refine Text.braceFree_flatMap fun term hterm => ?_
  rcases List.eq_nil_or_concat terms with rfl | ⟨before, last, rfl⟩
  · cases hterm
  · rw [List.concat_eq_append] at hterm hterms
    rw [chain_concat, List.mem_append, List.mem_map, List.mem_singleton] at hterm
    obtain ⟨other, hother, rfl⟩ | rfl := hterm
    · exact h.possessive (hterms other (List.mem_append_left _ hother))
    · exact hterms term (List.mem_append_right _ (List.mem_singleton_self term))

end GenitiveTable

theorem Code.braceFree_of_isCode {code : Text} (h : isCode code = true) : code.BraceFree := by
  intro c hc
  constructor
  · rintro rfl
    exact notMem_of_isCode h (by decide) hc
  · rintro rfl
    exact notMem_of_isCode h (by decide) hc

/-- A formatter whose gaps are all filled gives phrases without braces. -/
theorem Formatter.braceFree_format {formatter : Formatter} (h : formatter.tables.IsFillable)
    (code : Option Text) : (formatter.format code).BraceFree := by
  by_cases hcode : ∃ letters, code = some letters ∧ Code.isCode letters = true
  · obtain ⟨letters, rfl, hletters⟩ := hcode
    rw [formatter.format_of_isCode hletters]
    refine h.genitives.chain fun term hterm => ?_
    exact h.phrase (Code.braceFree_of_isCode hletters) hterm
  · rw [format, formatter.decompose?_eq_none_iff.2 hcode]
    exact h.unrelated

/-! ## Vocabularies without gaps to report -/

/-- No text of the definition that a phrase may have in it has a brace. -/
def Definition.BraceFree : Definition → Prop
  | .term _ template => template.BraceFree
  | .rule _ _ => True
  | .genitive _ template => template.BraceFree
  | .ordinals entries => ∀ entry ∈ entries, entry.suffix.BraceFree
  | .unrelated phrase => phrase.BraceFree

instance (definition : Definition) : Decidable definition.BraceFree :=
  match definition with
  | .term _ template => inferInstanceAs (Decidable template.BraceFree)
  | .rule _ _ => instDecidableTrue
  | .genitive _ template => inferInstanceAs (Decidable template.BraceFree)
  | .ordinals entries =>
    inferInstanceAs (Decidable (∀ entry ∈ entries, entry.suffix.BraceFree))
  | .unrelated phrase => inferInstanceAs (Decidable phrase.BraceFree)

section NoGaps

/-! Definitions without braces, and the tables that record them. -/

variable {dialect : Pattern.Dialect} {definitions : List Definition} {tables : Tables}
  (hbraces : ∀ definition ∈ definitions, definition.BraceFree)

include hbraces

namespace Lint

/-- The template of a term can be filled if no gap of it is reported. -/
theorem term_isFillable {key : Text} {template : Template}
    (hgaps : ∀ index, .placeholderOutOfRange key index ∉ warnings dialect definitions)
    (hmem : .term key template ∈ definitions) : template.IsFillable Degrees.count := by
  refine ⟨hbraces _ hmem, fun index hindex => ?_⟩
  by_contra hcount
  exact hgaps index (placeholderOutOfRange_mem_warnings_iff.2
    ⟨template, hmem, hindex, Nat.le_of_not_lt hcount⟩)

/-- A possessive form, of a word or of phrases, can be filled if no gap of it is reported. -/
theorem genitive_isFillable {target : GenitiveTarget} {form : Template}
    (hgaps : ∀ index,
      .genitiveSlotOutOfRange (targetText target) index ∉ warnings dialect definitions)
    (hmem : .genitive target form ∈ definitions) : form.IsFillable 2 := by
  refine ⟨hbraces _ hmem, fun index hindex => ?_⟩
  by_contra hcount
  exact hgaps index (genitiveSlotOutOfRange_mem_warnings_iff.2
    ⟨target, form, hmem, rfl, hindex, Nat.le_of_not_lt hcount⟩)

end Lint

namespace Tables.Records

variable (h : tables.Records dialect definitions)

include h

theorem genitives_isFillable
    (hgaps : ∀ word index, .genitiveSlotOutOfRange word index ∉ Lint.warnings dialect definitions) :
    tables.genitives.IsFillable where
  words word form hword := by
    rw [h.word?] at hword
    exact Lint.genitive_isFillable hbraces (hgaps _)
      (Definition.mem_filterMap_wordForm?_iff.1 (mem_of_lastValue?_eq_some hword))
  default := by
    rw [h.default]
    cases hlast : (definitions.filterMap Definition.defaultForm?).getLast? with
    | none => exact ⟨by decide, by decide⟩
    | some form =>
      exact Lint.genitive_isFillable hbraces (hgaps _)
        (Definition.mem_filterMap_defaultForm?_iff.1 (List.mem_of_getLast? hlast))

theorem ordinals_braceFree : tables.ordinals.BraceFree := by
  intro category
  rw [h.suffix]
  cases hlast : lastValue? (definitions.flatMap Definition.suffixes) category with
  | none => cases category <;> decide
  | some suffix =>
    obtain ⟨entries, hmem, hentry⟩ :=
      Definition.mem_flatMap_suffixes_iff.1 (mem_of_lastValue?_eq_some hlast)
    exact hbraces _ hmem _ hentry

theorem unrelated_braceFree : tables.unrelated.BraceFree := by
  rw [h.unrelated]
  cases hlast : (definitions.filterMap Definition.unrelated?).getLast? with
  | none => decide
  | some phrase =>
    exact hbraces _ (Definition.mem_filterMap_unrelated?_iff.1 (List.mem_of_getLast? hlast))

/-- The tables of a vocabulary for which no gap is reported can be filled. -/
theorem isFillable
    (hterms : ∀ key index, .placeholderOutOfRange key index ∉ Lint.warnings dialect definitions)
    (hslots : ∀ word index, .genitiveSlotOutOfRange word index ∉ Lint.warnings dialect definitions) :
    tables.IsFillable where
  terms key template hterm := by
    rw [h.term?] at hterm
    exact Lint.term_isFillable hbraces (hterms key)
      (Definition.mem_filterMap_term?_iff.1 (mem_of_lastValue?_eq_some hterm))
  genitives := genitives_isFillable hbraces h hslots
  ordinals := ordinals_braceFree hbraces h
  unrelated := unrelated_braceFree hbraces h

end Tables.Records

end NoGaps

namespace Formatter

/-- **A vocabulary for which no gap is reported gives no phrase with a gap**, nor any other brace,
whatever is formatted and however deeply cuts are nested. -/
theorem braceFree_format_of_noGaps {dialect : Pattern.Dialect} {definitions : List Definition}
    {tables : Tables}
    (hload : Tables.ofDefinitions dialect definitions = .ok tables)
    (hbraces : ∀ definition ∈ definitions, definition.BraceFree)
    (hterms : ∀ key index, .placeholderOutOfRange key index ∉ Lint.warnings dialect definitions)
    (hslots : ∀ word index, .genitiveSlotOutOfRange word index ∉ Lint.warnings dialect definitions)
    (bound : Nat) (code : Option Text) : (format ⟨tables, bound⟩ code).BraceFree := by
  have hrecords : tables.Records dialect definitions := (Tables.follows_defineAll hload).records
  exact braceFree_format (Tables.Records.isFillable hbraces hrecords hterms hslots) code

/-- A vocabulary in which gaps are filled with degrees and with the texts around a word. -/
def parentDefinitions : List Definition :=
  [.term "P".toList [.literal "parent of ".toList, .placeholder 0 none, .literal " degree".toList],
    .genitive (.word "parent".toList)
      [.placeholder 0 none, .literal "parental".toList, .placeholder 1 none, .literal " ".toList],
    .ordinals [⟨.one, "-st".toList⟩],
    .rule "PP".toList (.read "P#P".toList),
    .unrelated "nobody".toList]

theorem braceFree_format_of_noGaps_parents :
    ∃ tables, Tables.ofDefinitions .builtIn parentDefinitions = .ok tables ∧
      Lint.warnings .builtIn parentDefinitions = [] ∧
      format ⟨tables, 3⟩ (some ['P', 'P', 'P']) =
        "parental of 2nd degree parent of 1-st degree".toList ∧
      (format ⟨tables, 3⟩ (some ['P', 'P', 'P'])).BraceFree ∧
      (format ⟨tables, 3⟩ none).BraceFree := by
  have hload : ∃ tables, Tables.ofDefinitions .builtIn parentDefinitions = .ok tables ∧
      format ⟨tables, 3⟩ (some ['P', 'P', 'P']) =
        "parental of 2nd degree parent of 1-st degree".toList := ⟨_, rfl, by decide +kernel⟩
  obtain ⟨tables, htables, hphrase⟩ := hload
  have hwarnings : Lint.warnings .builtIn parentDefinitions = [] := by decide +kernel
  have hbraces : ∀ definition ∈ parentDefinitions, definition.BraceFree := by decide
  have hclean := braceFree_format_of_noGaps htables hbraces
    (fun _ _ => hwarnings ▸ List.not_mem_nil) (fun _ _ => hwarnings ▸ List.not_mem_nil) 3
  exact ⟨tables, htables, hwarnings, hphrase, hclean _, hclean none⟩

end Formatter

end Kindred
