import Kindred.Pattern.Reader
import Kindred.Proofs.Lint.Warnings
import Kindred.Proofs.Tables.Reordering

/-!
# What is defined twice

Each key and each word that is defined more than once is reported once, and nothing else is
(`count_duplicateTerm`, `count_duplicateGenitive`). The reports stand in the order of the second
definitions (`filterMap_subject?_warnings`): an element of a list occurs for the second time in one
place at most (`count_secondOccurrences`), and the list of these is built from left to right
(`secondOccurrences_concat`).

**`duplicates_spec` is the main statement**: it adds what it means that nothing is reported. All
keys and words are then different, so that there are as many entries as definitions of them, in
whatever order they stand.
-/

namespace Kindred

namespace Lint

/-! ## Second occurrences -/

section SecondOccurrences

variable {α : Type} [DecidableEq α] {x : α} {seen elements : List α}

theorem secondOccurrences_append (seen elements more : List α) :
    secondOccurrences seen (elements ++ more) =
      secondOccurrences seen elements ++ secondOccurrences (elements.reverse ++ seen) more := by
  induction elements generalizing seen with
  | nil => rfl
  | cons x elements ih =>
    simp only [List.cons_append, secondOccurrences, ih, List.reverse_cons, List.append_assoc,
      List.nil_append]
    split
    · rfl
    · rfl

/-- The last element occurs for the second time if it stands once before. -/
theorem secondOccurrences_concat (elements : List α) (x : α) :
    secondOccurrences [] (elements ++ [x]) =
      secondOccurrences [] elements ++ if elements.count x = 1 then [x] else [] := by
  rw [secondOccurrences_append, secondOccurrences, List.append_nil, List.count_reverse]
  rfl

/-- What occurs twice occurs for the second time in one place. -/
theorem count_secondOccurrences (elements : List α) (x : α) :
    (secondOccurrences [] elements).count x = if 2 ≤ elements.count x then 1 else 0 := by
  induction elements using List.reverseRecOn with
  | nil => rfl
  | append_singleton elements y ih =>
    rw [secondOccurrences_concat, List.count_append, List.count_append, ih]
    by_cases hxy : y = x
    · subst hxy
      have hlast : (if elements.count y = 1 then [y] else []).count y =
          if elements.count y = 1 then 1 else 0 := by
        split <;> simp
      rw [hlast, List.count_singleton_self]
      split_ifs <;> omega
    · have hlast : (if elements.count y = 1 then [y] else []).count x = 0 := by
        split <;> simp [hxy]
      have hother : [y].count x = 0 := by simp [hxy]
      rw [hlast, hother]
      rfl

theorem mem_secondOccurrences_iff : x ∈ secondOccurrences [] elements ↔ 2 ≤ elements.count x := by
  rw [← List.count_pos_iff, count_secondOccurrences]
  split
  · next h => simp [h]
  · next h => simp [h]

end SecondOccurrences

end Lint

/-- What a warning says is defined more than once. -/
def Warning.subject? : Warning → Option Lint.Subject
  | .duplicateTerm key => some (.term key)
  | .duplicateGenitive word => some (.genitive word)
  | _ => none

/-! ## What definitions are for -/

namespace Lint

variable {dialect : Pattern.Dialect} {definitions : List Definition} {warning : Warning}
  {subject : Subject} {key word : Text}

theorem count_term_subjects (definitions : List Definition) (key : Text) :
    (definitions.filterMap Subject.ofDefinition?).count (.term key) =
      (Definition.keys definitions).count key := by
  rw [Definition.keys, List.map_filterMap, List.count_filterMap, List.count_filterMap]
  congr 1
  funext definition
  match definition with
  | .term other template => simp [Subject.ofDefinition?, Definition.term?]
  | .genitive .default _ | .genitive (.word _) _ | .rule _ _ | .ordinals _ | .unrelated _ => rfl

theorem count_genitive_subjects (definitions : List Definition) (word : Text) :
    (definitions.filterMap Subject.ofDefinition?).count (.genitive word) =
      (Definition.words definitions).count word := by
  rw [Definition.words, List.map_filterMap, List.count_filterMap, List.count_filterMap]
  congr 1
  funext definition
  match definition with
  | .genitive (.word other) template => simp [Subject.ofDefinition?, Definition.wordForm?]
  | .term _ _ | .genitive .default _ | .rule _ _ | .ordinals _ | .unrelated _ => rfl

/-- What the definition at a place is for, if it is the second one for it. -/
def second? (definitions : List Definition) (i : Nat) : Option Subject :=
  (definitions[i]?.bind Subject.ofDefinition?).filter fun subject =>
    ((definitions.take i).filterMap Subject.ofDefinition?).count subject = 1

theorem second?_append (definitions more : List Definition) {i : Nat}
    (hi : i < definitions.length) :
    second? (definitions ++ more) i = second? definitions i := by
  rw [second?, second?, List.getElem?_append_left hi,
    List.take_append_of_le_length (Nat.le_of_lt hi)]

theorem second?_concat (definitions : List Definition) (definition : Definition) :
    second? (definitions ++ [definition]) definitions.length =
      (Subject.ofDefinition? definition).filter fun subject =>
        (definitions.filterMap Subject.ofDefinition?).count subject = 1 := by
  rw [second?, List.getElem?_concat_length, List.take_left, Option.bind_some]

/-- What is defined for the second time, from place to place. -/
theorem secondOccurrences_subjects (definitions : List Definition) :
    secondOccurrences [] (definitions.filterMap Subject.ofDefinition?) =
      (List.range definitions.length).filterMap (second? definitions) := by
  induction definitions using List.reverseRecOn with
  | nil => rfl
  | append_singleton definitions definition ih =>
    have hbefore :
        (List.range definitions.length).filterMap (second? (definitions ++ [definition])) =
          (List.range definitions.length).filterMap (second? definitions) :=
      List.filterMap_congr fun i hi => second?_append definitions _ (List.mem_range.1 hi)
    rw [List.length_append, List.length_singleton, List.range_succ, List.filterMap_append,
      List.filterMap_append, hbefore, ← ih]
    simp only [List.filterMap_cons, List.filterMap_nil, second?_concat]
    cases Subject.ofDefinition? definition with
    | none => simp
    | some subject =>
      simp only [secondOccurrences_concat, Option.filter_some, decide_eq_true_eq]
      split
      · rfl
      · rfl

/-! ## Reports -/

theorem subject?_duplicate (subject : Subject) : subject.duplicate.subject? = some subject := by
  cases subject <;> rfl

theorem subject?_of_rule? {n : Nat} (h : warning.rule? = some n) : warning.subject? = none := by
  cases warning <;> first | rfl | cases h

/-- No check of a definition by itself reports that something is defined twice. -/
theorem subject?_of_mem_definitionWarnings {keys : List Text} {rules : Nat}
    (h : warning ∈ definitionWarnings dialect keys rules definitions) :
    warning.subject? = none := by
  obtain ⟨before, definition, after, -, hown⟩ := mem_definitionWarnings_iff.1 h
  obtain ⟨_, _, _, -, -, -, rfl⟩ | ⟨_, _, _, -, -, -, rfl⟩ | ⟨_, _, -, hrule⟩ :=
    mem_ownWarnings_iff.1 hown
  · rfl
  · rfl
  · exact subject?_of_rule? (rule?_of_mem_ruleWarnings hrule)

/-- The reports stand in the order of the second definitions. -/
theorem filterMap_subject?_warnings (dialect : Pattern.Dialect) (definitions : List Definition) :
    (warnings dialect definitions).filterMap Warning.subject? =
      (List.range definitions.length).filterMap (second? definitions) := by
  have hothers : (definitionWarnings dialect (definitions.filterMap termKey?) 0
      definitions).filterMap Warning.subject? = [] :=
    List.filterMap_eq_nil_iff.2 fun _ => subject?_of_mem_definitionWarnings
  rw [warnings, List.filterMap_append, hothers, List.append_nil, duplicates, List.filterMap_map,
    ← secondOccurrences_subjects]
  simp [subject?_duplicate]

/-- A subject is reported once if it is defined more than once, and not at all otherwise. -/
theorem count_duplicate (dialect : Pattern.Dialect) (definitions : List Definition)
    (subject : Subject) :
    (warnings dialect definitions).count subject.duplicate =
      if 2 ≤ (definitions.filterMap Subject.ofDefinition?).count subject then 1 else 0 := by
  have hothers : subject.duplicate ∉
      definitionWarnings dialect (definitions.filterMap termKey?) 0 definitions := fun h => by
    have hnone := subject?_of_mem_definitionWarnings h
    rw [subject?_duplicate] at hnone
    cases hnone
  have hinjective : Function.Injective Subject.duplicate := fun subject other h => by
    have hsome := congrArg Warning.subject? h
    rw [subject?_duplicate, subject?_duplicate] at hsome
    exact Option.some.inj hsome
  rw [warnings, List.count_append, List.count_eq_zero.2 hothers, duplicates,
    List.count_map_of_injective _ _ hinjective, count_secondOccurrences, Nat.add_zero]

theorem count_duplicateTerm (dialect : Pattern.Dialect) (definitions : List Definition)
    (key : Text) :
    (warnings dialect definitions).count (.duplicateTerm key) =
      if 2 ≤ (Definition.keys definitions).count key then 1 else 0 := by
  rw [← count_term_subjects, ← count_duplicate dialect, Subject.duplicate]

theorem count_duplicateGenitive (dialect : Pattern.Dialect) (definitions : List Definition)
    (word : Text) :
    (warnings dialect definitions).count (.duplicateGenitive word) =
      if 2 ≤ (Definition.words definitions).count word then 1 else 0 := by
  rw [← count_genitive_subjects, ← count_duplicate dialect, Subject.duplicate]

/-- Where nothing is reported, nothing is defined twice. -/
theorem nodup_subjects (h : ∀ warning ∈ warnings dialect definitions, warning.subject? = none) :
    (definitions.filterMap Subject.ofDefinition?).Nodup := by
  refine List.nodup_iff_count_le_one.2 fun subject => ?_
  by_contra hcount
  have hreported : subject.duplicate ∈ warnings dialect definitions := by
    rw [← List.count_pos_iff, count_duplicate, if_pos (by omega)]
    exact Nat.one_pos
  have hnone := h _ hreported
  rw [subject?_duplicate] at hnone
  cases hnone

/-- **What is defined twice is reported once, and where nothing is the order means nothing.** The
reports stand in the order of the second definitions. The default possessive form is for no word,
and a key and a word of the same text are two things. Definitions without a report that can be added
have an entry for each definition of a phrase and of the form of a word, and these may be moved
about among the others. -/
theorem duplicates_spec (dialect : Pattern.Dialect) (definitions : List Definition) :
    (∀ key, (warnings dialect definitions).count (.duplicateTerm key) =
      if 2 ≤ (Definition.keys definitions).count key then 1 else 0) ∧
    (∀ word, (warnings dialect definitions).count (.duplicateGenitive word) =
      if 2 ≤ (Definition.words definitions).count word then 1 else 0) ∧
    (warnings dialect definitions).filterMap Warning.subject? =
      (List.range definitions.length).filterMap (second? definitions) ∧
    ∀ tables, Tables.ofDefinitions dialect definitions = .ok tables →
      (∀ warning ∈ warnings dialect definitions, warning.subject? = none) →
        tables.terms.size = (Definition.keys definitions).length ∧
        tables.genitives.words.size = (Definition.words definitions).length ∧
        ∀ other, Definition.IsReordering definitions other →
          ∃ tables', Tables.ofDefinitions dialect other = .ok tables' ∧ tables.SameAs tables' := by
  refine ⟨count_duplicateTerm dialect definitions, count_duplicateGenitive dialect definitions,
    filterMap_subject?_warnings dialect definitions, fun tables hload hnone => ?_⟩
  have hsubjects := List.nodup_iff_count_le_one.1 (nodup_subjects hnone)
  have hkeys : (Definition.keys definitions).Nodup :=
    List.nodup_iff_count_le_one.2 fun key => count_term_subjects definitions key ▸ hsubjects _
  have hwords : (Definition.words definitions).Nodup :=
    List.nodup_iff_count_le_one.2 fun word => count_genitive_subjects definitions word ▸ hsubjects _
  have hrecords := (Tables.follows_defineAll hload).records
  refine ⟨?_, ?_, fun other h => ?_⟩
  · exact hrecords.size_terms.trans (List.toFinset_card_of_nodup hkeys)
  · exact hrecords.size_words.trans (List.toFinset_card_of_nodup hwords)
  · exact Tables.exists_ofDefinitions_of_isReordering h hload hkeys hwords

/-- A third phrase of a key is not reported again, and a word of the same text has no part in it. -/
example : (warnings .builtIn
      [.term ['F'] [], .genitive (.word ['F']) [], .term ['F'] [], .term ['F'] []]).filterMap
    Warning.subject? = [.term ['F']] := by decide +kernel

/-- Definitions of which none is reported: the default form has two, and a word has the text of a
key. -/
def quietDefinitions : List Definition :=
  [.term ['F'] [.literal "father".toList], .genitive .default [.placeholder 0 none],
    .term "default".toList [.literal "kin".toList], .rule "P+".toList (.direct [.literal ['F']]),
    .genitive (.word "default".toList) [.placeholder 1 none], .genitive .default []]

/-- The same definitions with the first key at the end and the word before the other key. -/
def quietReordering : List Definition :=
  [.genitive (.word "default".toList) [.placeholder 1 none],
    .genitive .default [.placeholder 0 none],
    .term "default".toList [.literal "kin".toList], .rule "P+".toList (.direct [.literal ['F']]),
    .genitive .default [], .term ['F'] [.literal "father".toList]]

theorem duplicates_spec_quiet :
    ∃ tables, Tables.ofDefinitions .builtIn quietDefinitions = .ok tables ∧
      (∀ warning ∈ warnings .builtIn quietDefinitions, warning.subject? = none) ∧
      Definition.IsReordering quietDefinitions quietReordering ∧
      tables.terms.size = 2 ∧ tables.genitives.words.size = 1 ∧
      ∃ tables', Tables.ofDefinitions .builtIn quietReordering = .ok tables' ∧
        tables.SameAs tables' := by
  obtain ⟨tables, hload⟩ : ∃ tables, Tables.ofDefinitions .builtIn quietDefinitions = .ok tables :=
    ⟨_, rfl⟩
  have hnone : ∀ warning ∈ warnings .builtIn quietDefinitions, warning.subject? = none := by
    decide +kernel
  have hreordering : Definition.IsReordering quietDefinitions quietReordering :=
    ⟨by decide +kernel, by decide +kernel⟩
  obtain ⟨hterms, hwords, hsame⟩ :=
    (duplicates_spec .builtIn quietDefinitions).2.2.2 tables hload hnone
  exact ⟨tables, hload, hnone, hreordering, hterms, hwords, hsame _ hreordering⟩

end Lint

end Kindred
