import Kindred.Lint
import Kindred.Proofs.Rule.Sections
import Kindred.Proofs.Tables.Definitions

/-!
# Where warnings come from

A warning is either about something that is defined twice or about one definition by itself, and
every definition is checked for itself with the number of rules before it (`mem_warnings_iff`). So
the number in a warning is that of the rule among the rules: **a warning about the rule of a number
is one of the warnings for the definition of that rule** (`mem_warnings_iff_of_rule?`). The gaps that
are reported are those that nothing fills (`placeholderOutOfRange_mem_warnings_iff`,
`genitiveSlotOutOfRange_mem_warnings_iff`), and what is reported of keys and bases is said in terms
of the sections of the replacements (`missingTerm_mem_ruleWarnings_iff`,
`baseTermNotCode_mem_ruleWarnings_iff`).
-/

namespace Kindred

/-! ## Rules by their numbers -/

namespace Definition

/-- The rule of that number among definitions, counted from one, has this pattern and template. -/
def IsRule (definitions : List Definition) (n : Nat) (pattern : Text) (template : RuleTemplate) :
    Prop :=
  ∃ before after, definitions = before ++ .rule pattern template :: after ∧
    n = (before.filterMap rule?).length + 1

variable {definitions : List Definition} {n i : Nat} {pattern : Text} {template : RuleTemplate}

theorem isRule_succ_iff : IsRule definitions (i + 1) pattern template ↔
    (definitions.filterMap rule?)[i]? = some (pattern, template) := by
  constructor
  · rintro ⟨before, after, rfl, hn⟩
    obtain rfl : i = (before.filterMap rule?).length := Nat.succ.inj hn
    rw [List.filterMap_append, List.getElem?_append_right (Nat.le_refl _), Nat.sub_self]
    rfl
  · intro h
    obtain ⟨hlt, hget⟩ := List.getElem?_eq_some_iff.1 h
    have hsplit : definitions.filterMap rule? =
        (definitions.filterMap rule?).take i ++
          (pattern, template) :: (definitions.filterMap rule?).drop (i + 1) := by
      rw [← hget, ← List.drop_eq_getElem_cons hlt, List.take_append_drop]
    obtain ⟨front, back, rfl, hfront, hback⟩ := List.filterMap_eq_append_iff.1 hsplit
    obtain ⟨between, definition, after, rfl, hbetween, hdefinition, -⟩ :=
      List.filterMap_eq_cons_iff.1 hback
    obtain rfl : definition = .rule pattern template := by
      cases definition with
      | rule pattern' template' =>
        obtain ⟨rfl, rfl⟩ := Prod.mk.inj (Option.some.inj hdefinition)
        rfl
      | term key template' => cases hdefinition
      | genitive target template' => cases hdefinition
      | ordinals entries => cases hdefinition
      | unrelated phrase => cases hdefinition
    refine ⟨front ++ between, after, (List.append_assoc ..).symm, ?_⟩
    rw [List.filterMap_append, List.filterMap_eq_nil_iff.2 hbetween, List.append_nil, hfront,
      List.length_take, Nat.min_eq_left (Nat.le_of_lt hlt)]

theorem IsRule.exists_eq_succ (h : IsRule definitions n pattern template) : ∃ i, n = i + 1 :=
  let ⟨_, _, _, hn⟩ := h
  ⟨_, hn⟩

end Definition

/-- The number of the rule that a warning is about. -/
def Warning.rule? : Warning → Option Nat
  | .missingTerm rule _ _ => some rule
  | .unknownCaptureGroup rule _ => some rule
  | .duplicateBranch rule _ => some rule
  | .ignoredTemplateText rule _ => some rule
  | .baseTermNotCode rule _ => some rule
  | .emptyMatchPattern rule _ => some rule
  | .duplicateTerm _ => none
  | .duplicateGenitive _ => none
  | .placeholderOutOfRange _ _ => none
  | .genitiveSlotOutOfRange _ _ => none

namespace Lint

open Replacement

variable {dialect : Pattern.Dialect} {definitions : List Definition} {keys : List Text}
  {warning : Warning} {rules n : Nat} {pattern : Text} {template : RuleTemplate} {p : Pattern}

/-! ## Definitions one by one -/

/-- The warnings for a definition by itself, where so many rules came before. -/
def ownWarnings (dialect : Pattern.Dialect) (keys : List Text) (rules : Nat) :
    Definition → List Warning
  | .term key template => placeholders key template
  | .rule pattern template => ruleWarnings dialect (rules + 1) pattern template keys
  | .genitive target template => slots target template
  | .ordinals _ => []
  | .unrelated _ => []

theorem definitionWarnings_cons (dialect : Pattern.Dialect) (keys : List Text) (rules : Nat)
    (definition : Definition) (definitions : List Definition) :
    definitionWarnings dialect keys rules (definition :: definitions) =
      ownWarnings dialect keys rules definition ++
        definitionWarnings dialect keys (rules + ([definition].filterMap Definition.rule?).length)
          definitions := by
  cases definition <;> rfl

theorem mem_definitionWarnings_iff : warning ∈ definitionWarnings dialect keys rules definitions ↔
    ∃ before definition after, definitions = before ++ definition :: after ∧
      warning ∈ ownWarnings dialect keys (rules + (before.filterMap Definition.rule?).length)
        definition := by
  induction definitions generalizing rules with
  | nil => simp [definitionWarnings]
  | cons first rest ih =>
    rw [definitionWarnings_cons, List.mem_append, ih]
    have hlength : ∀ before : List Definition,
        ((first :: before).filterMap Definition.rule?).length =
          ([first].filterMap Definition.rule?).length +
            (before.filterMap Definition.rule?).length := by
      intro before
      rw [← List.length_append, ← List.filterMap_append]
      rfl
    constructor
    · rintro (hfirst | ⟨before, definition, after, rfl, hmem⟩)
      · exact ⟨[], first, rest, rfl, hfirst⟩
      · exact ⟨first :: before, definition, after, rfl, by rwa [hlength, ← Nat.add_assoc]⟩
    · rintro ⟨before, definition, after, hsplit, hmem⟩
      cases before with
      | nil =>
        obtain ⟨rfl, rfl⟩ := List.cons.inj hsplit
        exact .inl hmem
      | cons head before =>
        obtain ⟨rfl, rfl⟩ := List.cons.inj hsplit
        exact .inr ⟨before, definition, after, rfl, by rwa [hlength, ← Nat.add_assoc] at hmem⟩

theorem mem_warnings_iff : warning ∈ warnings dialect definitions ↔
    warning ∈ duplicates definitions ∨
      ∃ before definition after, definitions = before ++ definition :: after ∧
        warning ∈ ownWarnings dialect (definitions.filterMap termKey?)
          (before.filterMap Definition.rule?).length definition := by
  rw [warnings, List.mem_append, mem_definitionWarnings_iff]
  simp only [Nat.zero_add]

/-- What is reported of a definition by itself: gaps that nothing fills, and what is wrong with a
rule. -/
theorem mem_ownWarnings_iff {definition : Definition} :
    warning ∈ ownWarnings dialect keys rules definition ↔
      (∃ key template index, definition = .term key template ∧ index ∈ template.indices ∧
        Degrees.count ≤ index ∧ warning = .placeholderOutOfRange key index) ∨
      (∃ target template index, definition = .genitive target template ∧
        index ∈ template.indices ∧ 1 < index ∧
          warning = .genitiveSlotOutOfRange (targetText target) index) ∨
      ∃ pattern template, definition = .rule pattern template ∧
        warning ∈ ruleWarnings dialect (rules + 1) pattern template keys := by
  cases definition with
  | term key template =>
    simp [ownWarnings, placeholders, and_assoc, eq_comm (a := warning)]
  | rule pattern template => simp [ownWarnings]
  | genitive target template =>
    simp [ownWarnings, slots, and_assoc, eq_comm (a := warning)]
  | ordinals entries => simp [ownWarnings]
  | unrelated phrase => simp [ownWarnings]

/-! ## Warnings about rules -/

theorem mem_duplicates_iff : warning ∈ duplicates definitions ↔
    ∃ subject ∈ secondOccurrences [] (definitions.filterMap Subject.ofDefinition?),
      warning = subject.duplicate := by
  simp only [duplicates, List.mem_map, eq_comm (a := warning)]

/-- A warning that names no second definition is about one of the definitions by itself. -/
theorem mem_warnings_iff_of_ne_duplicate
    (hduplicate : ∀ subject : Subject, warning ≠ subject.duplicate) :
    warning ∈ warnings dialect definitions ↔
      ∃ before definition after, definitions = before ++ definition :: after ∧
        warning ∈ ownWarnings dialect (definitions.filterMap termKey?)
          (before.filterMap Definition.rule?).length definition := by
  rw [mem_warnings_iff, or_iff_right]
  intro hmem
  obtain ⟨subject, -, heq⟩ := mem_duplicates_iff.1 hmem
  exact hduplicate subject heq

theorem rule?_of_mem_duplicates (h : warning ∈ duplicates definitions) : warning.rule? = none := by
  obtain ⟨subject, -, rfl⟩ := mem_duplicates_iff.1 h
  cases subject <;> rfl

/-- What is reported of a replacement: the groups that are unknown, and the key and the base as far as
they can be told. -/
theorem mem_replacementWarnings_iff {replacement : Replacement} :
    warning ∈ replacementWarnings n p keys replacement ↔
      (∃ group ∈ replacement.groups, hasGroup p group = false ∧
        warning = .unknownCaptureGroup n group.label) ∨
      (∃ key, replacement.IsSection 0 key ∧ key ∉ keys ∧
        warning = .missingTerm n key (closestKey? key keys)) ∨
      ∃ base, replacement.IsSection 1 base ∧ Code.isCode base = false ∧
        warning = .baseTermNotCode n base := by
  simp only [← fixedSection?_eq_some_iff]
  rw [replacementWarnings, List.mem_append, List.mem_append, or_assoc]
  refine or_congr ?_ (or_congr ?_ ?_)
  · simp [and_assoc, eq_comm (a := warning)]
  · cases replacement.fixedSection? 0 with
    | none => simp
    | some key => simp
  · cases replacement.fixedSection? 1 with
    | none => simp
    | some base => simp

/-- What is reported of branches: the text outside them, and the keys that several have. -/
theorem mem_branchWarnings_iff : warning ∈ branchWarnings n template ↔
    ∃ branches ignored, template = .conditional branches ignored ∧
      (ignored ≠ [] ∧ warning = .ignoredTemplateText n ignored ∨
        ∃ key ∈ secondOccurrences [] (branches.map Branch.key),
          warning = .duplicateBranch n key.label) := by
  cases template with
  | direct replacement => simp [branchWarnings]
  | conditional branches ignored =>
    have hmem : warning ∈ branchWarnings n (.conditional branches ignored) ↔
        ignored ≠ [] ∧ warning = .ignoredTemplateText n ignored ∨
          ∃ key ∈ secondOccurrences [] (branches.map Branch.key),
            .duplicateBranch n key.label = warning := by
      simp [branchWarnings]
    rw [hmem]
    simp only [RuleTemplate.conditional.injEq, eq_comm (a := warning)]
    exact ⟨fun h => ⟨branches, ignored, ⟨rfl, rfl⟩, h⟩, fun ⟨_, _, ⟨rfl, rfl⟩, h⟩ => h⟩

theorem mem_ruleWarnings_iff : warning ∈ ruleWarnings dialect n pattern template keys ↔
    ∃ p, dialect.read pattern = .ok p ∧
      (matchesOnlyEmpty p = true ∧ warning = .emptyMatchPattern n pattern ∨
        warning ∈ branchWarnings n template ∨
        ∃ replacement ∈ template.replacements, warning ∈ replacementWarnings n p keys replacement) := by
  cases hread : dialect.read pattern with
  | error cause => simp [ruleWarnings, hread]
  | ok p => simp [ruleWarnings, hread]

theorem rule?_of_mem_ruleWarnings (h : warning ∈ ruleWarnings dialect n pattern template keys) :
    warning.rule? = some n := by
  obtain ⟨p, -, hempty | hbranch | ⟨replacement, -, hreplacement⟩⟩ := mem_ruleWarnings_iff.1 h
  · obtain ⟨-, rfl⟩ := hempty
    rfl
  · obtain ⟨branches, ignored, -, ⟨-, rfl⟩ | ⟨key, -, rfl⟩⟩ := mem_branchWarnings_iff.1 hbranch
    · rfl
    · rfl
  · obtain ⟨group, -, -, rfl⟩ | ⟨key, -, -, rfl⟩ | ⟨base, -, -, rfl⟩ :=
      mem_replacementWarnings_iff.1 hreplacement
    · rfl
    · rfl
    · rfl

/-- **A warning about the rule of a number is one of the warnings for the definition of that
rule.** -/
theorem mem_warnings_iff_of_rule? (hrule : warning.rule? = some n) :
    warning ∈ warnings dialect definitions ↔
      ∃ pattern template, Definition.IsRule definitions n pattern template ∧
        warning ∈ ruleWarnings dialect n pattern template (definitions.filterMap termKey?) := by
  rw [mem_warnings_iff]
  constructor
  · rintro (hduplicate | ⟨before, definition, after, hsplit, hown⟩)
    · rw [rule?_of_mem_duplicates hduplicate] at hrule
      cases hrule
    · obtain ⟨key, template, index, -, -, -, rfl⟩ | ⟨target, template, index, -, -, -, rfl⟩ |
        ⟨pattern, template, rfl, hmem⟩ := mem_ownWarnings_iff.1 hown
      · cases hrule
      · cases hrule
      · obtain rfl := Option.some.inj (hrule.symm.trans (rule?_of_mem_ruleWarnings hmem))
        exact ⟨pattern, template, ⟨before, after, hsplit, rfl⟩, hmem⟩
  · rintro ⟨pattern, template, ⟨before, after, hsplit, rfl⟩, hmem⟩
    exact .inr ⟨before, _, after, hsplit, hmem⟩

/-! ## Warnings about gaps -/

/-- A gap of a term is reported if there is no degree for it. -/
theorem placeholderOutOfRange_mem_warnings_iff {key : Text} {index : Nat} :
    .placeholderOutOfRange key index ∈ warnings dialect definitions ↔
      ∃ template, .term key template ∈ definitions ∧ index ∈ template.indices ∧
        Degrees.count ≤ index := by
  rw [mem_warnings_iff_of_ne_duplicate fun subject => by cases subject <;> nofun]
  constructor
  · rintro ⟨before, definition, after, rfl, hown⟩
    obtain ⟨key', template, index', rfl, hindex, hcount, heq⟩ | ⟨_, _, _, -, -, -, heq⟩ |
      ⟨pattern, template, rfl, hmem⟩ := mem_ownWarnings_iff.1 hown
    · obtain ⟨rfl, rfl⟩ := Warning.placeholderOutOfRange.inj heq
      exact ⟨template, by simp, hindex, hcount⟩
    · cases heq
    · cases rule?_of_mem_ruleWarnings hmem
  · rintro ⟨template, hmem, hindex, hcount⟩
    obtain ⟨before, after, rfl⟩ := List.append_of_mem hmem
    exact ⟨before, _, after, rfl,
      mem_ownWarnings_iff.2 (.inl ⟨key, template, index, rfl, hindex, hcount, rfl⟩)⟩

/-- A gap of a possessive form is reported if there is no text for it. -/
theorem genitiveSlotOutOfRange_mem_warnings_iff {word : Text} {index : Nat} :
    .genitiveSlotOutOfRange word index ∈ warnings dialect definitions ↔
      ∃ target template, .genitive target template ∈ definitions ∧ targetText target = word ∧
        index ∈ template.indices ∧ 1 < index := by
  rw [mem_warnings_iff_of_ne_duplicate fun subject => by cases subject <;> nofun]
  constructor
  · rintro ⟨before, definition, after, rfl, hown⟩
    obtain ⟨_, _, _, -, -, -, heq⟩ | ⟨target, template, index', rfl, hindex, hlt, heq⟩ |
      ⟨pattern, template, rfl, hmem⟩ := mem_ownWarnings_iff.1 hown
    · cases heq
    · obtain ⟨rfl, rfl⟩ := Warning.genitiveSlotOutOfRange.inj heq
      exact ⟨target, template, by simp, rfl, hindex, hlt⟩
    · cases rule?_of_mem_ruleWarnings hmem
  · rintro ⟨target, template, hmem, rfl, hindex, hlt⟩
    obtain ⟨before, after, rfl⟩ := List.append_of_mem hmem
    exact ⟨before, _, after, rfl,
      mem_ownWarnings_iff.2 (.inr (.inl ⟨target, template, index, rfl, hindex, hlt, rfl⟩))⟩

/-! ## Keys and bases -/

/-- A key is missed where a replacement leads to it and there is no term for it. -/
theorem missingTerm_mem_ruleWarnings_iff {key : Text} {suggestion : Option Text} :
    .missingTerm n key suggestion ∈ ruleWarnings dialect n pattern template keys ↔
      ∃ p, dialect.read pattern = .ok p ∧ ∃ replacement ∈ template.replacements,
        replacement.IsSection 0 key ∧ key ∉ keys ∧ suggestion = closestKey? key keys := by
  simp [mem_ruleWarnings_iff, mem_branchWarnings_iff, mem_replacementWarnings_iff]

/-- A base is reported where a replacement names it and it is no code. -/
theorem baseTermNotCode_mem_ruleWarnings_iff {base : Text} :
    .baseTermNotCode n base ∈ ruleWarnings dialect n pattern template keys ↔
      ∃ p, dialect.read pattern = .ok p ∧ ∃ replacement ∈ template.replacements,
        replacement.IsSection 1 base ∧ Code.isCode base = false := by
  simp [mem_ruleWarnings_iff, mem_branchWarnings_iff, mem_replacementWarnings_iff]

end Lint

end Kindred
