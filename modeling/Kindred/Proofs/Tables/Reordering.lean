import Kindred.Proofs.Tables.Definitions

/-!
# The order of definitions

The last definition of a key or of a word counts, so that the order of these definitions matters
only where a key or a word has several. If none has, the definitions of phrases and of possessive
forms may be moved about among the others, as long as these keep their order: **the tables are the
same** (`Tables.exists_ofDefinitions_of_isReordering`).

A value is the last one of a key that has no other if and only if it is listed for the key
(`lastValue?_eq_some_iff`), and lists with the same entries have the same of those
(`lastValue?_perm`). All that is not said by phrases and forms is said by the other definitions
(`IsReordering.flatMap_eq`).
-/

namespace Kindred

/-! ## Keys without a second value -/

section LastValue

variable {κ α : Type} [DecidableEq κ] {entries more : List (κ × α)} {key : κ} {value : α}

/-- The value of a key that has no other is listed for it, and the other way around. -/
theorem lastValue?_eq_some_iff (hnodup : (entries.map Prod.fst).Nodup) :
    lastValue? entries key = some value ↔ (key, value) ∈ entries := by
  refine ⟨mem_of_lastValue?_eq_some, fun hmem => ?_⟩
  cases hlast : lastValue? entries key with
  | none => exact absurd (List.mem_map_of_mem hmem) (lastValue?_eq_none_iff.1 hlast)
  | some other =>
    have hsame := List.inj_on_of_nodup_map hnodup (mem_of_lastValue?_eq_some hlast) hmem rfl
    rw [(Prod.mk.inj hsame).2]

theorem lastValue?_perm (h : entries.Perm more) (hnodup : (entries.map Prod.fst).Nodup) (key : κ) :
    lastValue? entries key = lastValue? more key := by
  refine Option.ext fun value => ?_
  rw [lastValue?_eq_some_iff hnodup, lastValue?_eq_some_iff ((h.map Prod.fst).nodup_iff.1 hnodup),
    h.mem_iff]

end LastValue

/-! ## Definitions in another order -/

namespace Definition

/-- The keys that are given phrases, as often as they are. -/
def keys (definitions : List Definition) : List Text :=
  (definitions.filterMap term?).map Prod.fst

/-- The words that are given possessive forms, as often as they are. -/
def words (definitions : List Definition) : List Text :=
  (definitions.filterMap wordForm?).map Prod.fst

/-- Whether a definition gives the phrase of a key or the possessive form of a word. -/
def isEntry : Definition → Bool
  | .term _ _ => true
  | .genitive (.word _) _ => true
  | _ => false

/-- The same definitions in another order, in which only those that give the phrases of keys and the
possessive forms of words have been moved. -/
structure IsReordering (definitions other : List Definition) : Prop where
  perm : definitions.Perm other
  others : definitions.filter (fun definition => !definition.isEntry) =
    other.filter fun definition => !definition.isEntry

variable {definitions other : List Definition} {β : Type}

theorem flatMap_filter_not_isEntry {f : Definition → List β}
    (hf : ∀ definition, definition.isEntry = true → f definition = [])
    (definitions : List Definition) :
    (definitions.filter fun definition => !definition.isEntry).flatMap f =
      definitions.flatMap f := by
  induction definitions with
  | nil => rfl
  | cons definition definitions ih =>
    cases hentry : definition.isEntry with
    | false => simp [hentry, ih]
    | true => simp [hentry, ih, hf definition hentry]

namespace IsReordering

variable (h : IsReordering definitions other)

include h

/-- What no phrase and no form has a part in is said in the same order. -/
theorem flatMap_eq {f : Definition → List β}
    (hf : ∀ definition, definition.isEntry = true → f definition = []) :
    definitions.flatMap f = other.flatMap f := by
  rw [← flatMap_filter_not_isEntry hf, h.others, flatMap_filter_not_isEntry hf]

theorem filterMap_eq {f : Definition → Option β}
    (hf : ∀ definition, definition.isEntry = true → f definition = none) :
    definitions.filterMap f = other.filterMap f := by
  rw [List.filterMap_eq_flatMap_toList, List.filterMap_eq_flatMap_toList]
  exact h.flatMap_eq fun definition hentry => by rw [hf definition hentry, Option.toList_none]

theorem rules : definitions.filterMap rule? = other.filterMap rule? :=
  h.filterMap_eq fun definition hentry => by
    cases definition with
    | rule pattern template => cases hentry
    | _ => rfl

theorem defaultForms : definitions.filterMap defaultForm? = other.filterMap defaultForm? :=
  h.filterMap_eq fun definition hentry => by
    match definition with
    | .genitive .default _ => cases hentry
    | .genitive (.word _) _ | .term _ _ | .rule _ _ | .ordinals _ | .unrelated _ => rfl

theorem suffixes : definitions.flatMap suffixes = other.flatMap suffixes :=
  h.flatMap_eq fun definition hentry => by
    cases definition with
    | ordinals entries => cases hentry
    | _ => rfl

theorem unrelated : definitions.filterMap unrelated? = other.filterMap unrelated? :=
  h.filterMap_eq fun definition hentry => by
    cases definition with
    | unrelated phrase => cases hentry
    | _ => rfl

end IsReordering

end Definition

/-! ## The same tables -/

/-- Suffixes are the same if every category has the same one. -/
theorem OrdinalSuffixes.eq_of_suffix {suffixes other : OrdinalSuffixes}
    (h : ∀ category, suffixes.suffix category = other.suffix category) : suffixes = other := by
  cases suffixes
  cases other
  rw [mk.injEq]
  exact ⟨h .one, h .two, h .few, h .other⟩

namespace Tables

open Definition

variable {dialect : Pattern.Dialect} {tables other : Tables}
  {definitions reordered : List Definition}

/-- The tables have the same entries, in whatever order keys and words were defined. -/
structure SameAs (tables other : Tables) : Prop where
  term? : ∀ key, tables.term? key = other.term? key
  size_terms : tables.terms.size = other.terms.size
  rules : tables.rules = other.rules
  word? : ∀ word, tables.genitives.words.get? word = other.genitives.words.get? word
  size_words : tables.genitives.words.size = other.genitives.words.size
  default : tables.genitives.default = other.genitives.default
  ordinals : tables.ordinals = other.ordinals
  unrelated : tables.unrelated = other.unrelated

theorem rules_eq_of_readRules (h : tables.readRules = other.readRules) :
    tables.rules = other.rules := by
  refine (List.map_inj_right fun rule rule' hrule => ?_).1 h
  obtain ⟨hpattern, htemplate⟩ := Prod.mk.inj hrule
  cases rule
  cases rule'
  exact congr (congrArg Rule.mk (Except.ok.inj hpattern)) htemplate

/-- Whether definitions can be added does not depend on their order. -/
theorem exists_ofDefinitions_of_perm (h : definitions.Perm reordered)
    (hload : ofDefinitions dialect definitions = .ok tables) :
    ∃ other, ofDefinitions dialect reordered = .ok other := by
  cases hreordered : ofDefinitions dialect reordered with
  | ok other => exact ⟨other, rfl⟩
  | error e =>
    obtain ⟨before, template, later, heq, -, hread, -⟩ := defineAll_eq_error hreordered
    have hmem : .rule e.pattern template ∈ definitions := h.mem_iff.2 (by simp [heq])
    obtain ⟨p, hp⟩ := (follows_defineAll hload).allReadable e.pattern template hmem
    rw [hread] at hp
    cases hp

theorem sameAs_of_records (h : IsReordering definitions reordered)
    (htables : tables.Records dialect definitions) (hother : other.Records dialect reordered)
    (hkeys : (Definition.keys definitions).Nodup) (hwords : (Definition.words definitions).Nodup) :
    tables.SameAs other where
  term? key := by
    rw [htables.term?, hother.term?, lastValue?_perm (h.perm.filterMap _) hkeys]
  size_terms := by
    rw [htables.size_terms, hother.size_terms,
      List.toFinset_eq_of_perm _ _ ((h.perm.filterMap Definition.term?).map Prod.fst)]
  rules := rules_eq_of_readRules (by rw [htables.rules, hother.rules, h.rules])
  word? word := by
    rw [htables.word?, hother.word?, lastValue?_perm (h.perm.filterMap _) hwords]
  size_words := by
    rw [htables.size_words, hother.size_words,
      List.toFinset_eq_of_perm _ _ ((h.perm.filterMap wordForm?).map Prod.fst)]
  default := by rw [htables.default, hother.default, h.defaultForms]
  ordinals := OrdinalSuffixes.eq_of_suffix fun category => by
    rw [htables.suffix, hother.suffix, h.suffixes]
  unrelated := by rw [htables.unrelated, hother.unrelated, h.unrelated]

/-- **Where no key and no word is defined twice, the order of these definitions means nothing.** -/
theorem exists_ofDefinitions_of_isReordering (h : IsReordering definitions reordered)
    (hload : ofDefinitions dialect definitions = .ok tables)
    (hkeys : (Definition.keys definitions).Nodup) (hwords : (Definition.words definitions).Nodup) :
    ∃ other, ofDefinitions dialect reordered = .ok other ∧ tables.SameAs other := by
  obtain ⟨other, hother⟩ := exists_ofDefinitions_of_perm h.perm hload
  exact ⟨other, hother, sameAs_of_records h (follows_defineAll hload).records
    (follows_defineAll hother).records hkeys hwords⟩

end Tables

end Kindred
