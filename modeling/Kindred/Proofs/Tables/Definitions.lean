import Kindred.Tables
import Mathlib.Data.Finset.Card

/-!
# What definitions come to

**The last definition of a thing counts, and the first rule that cannot be read is blamed**
(`Tables.ofDefinitions_spec`). What a run of definitions does to tables is one relation between the
tables before and after it (`Tables.Follows`): it holds of each definition by itself
(`Tables.Follows.define`), it is kept where runs are put one after the other
(`Tables.Follows.trans`), and so it holds of all definitions that can be added
(`Tables.follows_defineAll`). A run stops at the first definition that cannot be added, and the
number of the rule to blame counts the rules before it alone (`Tables.defineAll_eq_error`).
-/

namespace Kindred

/-! ## The last value of a key -/

section LastValue

variable {κ α : Type} [DecidableEq κ]

/-- The value of the last entry of a key. -/
def lastValue? (entries : List (κ × α)) (key : κ) : Option α := entries.reverse.lookup key

theorem lastValue?_singleton (key other : κ) (value : α) :
    lastValue? [(key, value)] other = if key = other then some value else none := by
  by_cases h : key = other
  · subst h
    simp [lastValue?]
  · have hbeq : (other == key) = false := beq_eq_false_iff_ne.2 (Ne.symm h)
    rw [lastValue?, List.reverse_singleton, List.lookup_cons, hbeq, List.lookup_nil, if_neg h]

/-- An entry further right comes first. -/
theorem lastValue?_append (entries more : List (κ × α)) (key : κ) :
    lastValue? (entries ++ more) key = (lastValue? more key).or (lastValue? entries key) := by
  rw [lastValue?, List.reverse_append, List.lookup_append]
  rfl

theorem lastValue?_eq_none_iff {entries : List (κ × α)} {key : κ} :
    lastValue? entries key = none ↔ key ∉ entries.map Prod.fst := by
  rw [lastValue?, List.lookup_eq_none_iff]
  simp only [List.mem_reverse, List.mem_map, not_exists, not_and, bne_iff_ne]
  exact forall₂_congr fun _ _ => ne_comm

/-- The value of a key is that of one of its entries. -/
theorem mem_of_lastValue?_eq_some {entries : List (κ × α)} {key : κ} {value : α}
    (h : lastValue? entries key = some value) : (key, value) ∈ entries := by
  obtain ⟨before, after, heq, -⟩ := List.lookup_eq_some_iff.1 h
  rw [← List.mem_reverse, heq]
  simp

/-- A dictionary that has the last value of each key has as many keys as there are different ones
among the entries. -/
theorem Dictionary.size_eq_card {d : Dictionary α} {entries : List (Text × α)}
    (h : ∀ key, d.get? key = lastValue? entries key) :
    d.size = (entries.map Prod.fst).toFinset.card := by
  have hkeys : d.keys.toFinset = (entries.map Prod.fst).toFinset := by
    ext key
    rw [List.mem_toFinset, List.mem_toFinset, ← not_iff_not, ← Dictionary.get?_eq_none_iff, h,
      lastValue?_eq_none_iff]
  calc d.size = d.keys.length := (List.length_map _).symm
    _ = d.keys.toFinset.card := (List.toFinset_card_of_nodup d.keys_nodup).symm
    _ = (entries.map Prod.fst).toFinset.card := by rw [hkeys]

end LastValue

/-! ## What a definition says -/

namespace Definition

/-- The key and the template of a phrase. -/
def term? : Definition → Option (Text × Template)
  | .term key template => some (key, template)
  | _ => none

/-- The text of a pattern and the template of its rule. -/
def rule? : Definition → Option (Text × RuleTemplate)
  | .rule pattern template => some (pattern, template)
  | _ => none

/-- A word and its possessive form. -/
def wordForm? : Definition → Option (Text × Template)
  | .genitive (.word word) template => some (word, template)
  | _ => none

/-- The default possessive form. -/
def defaultForm? : Definition → Option Template
  | .genitive .default template => some template
  | _ => none

/-- The categories of ordinals with their suffixes. -/
def suffixes : Definition → List (OrdinalCategory × Text)
  | .ordinals entries => entries.map fun entry => (entry.category, entry.suffix)
  | _ => []

/-- The phrase for what is no code. -/
def unrelated? : Definition → Option Text
  | .unrelated phrase => some phrase
  | _ => none

section Members

variable {definitions : List Definition} {key word phrase suffix : Text} {template : Template}
  {category : OrdinalCategory}

/-- A value that only one definition gives is among the values of the definitions if that definition
is among them. -/
theorem mem_filterMap_iff_of_eq_some_iff {α : Type} {f : Definition → Option α} {value : α}
    {only : Definition} (honly : ∀ definition, f definition = some value ↔ definition = only) :
    value ∈ definitions.filterMap f ↔ only ∈ definitions := by
  simp only [List.mem_filterMap, honly, exists_eq_right]

theorem mem_filterMap_term?_iff :
    (key, template) ∈ definitions.filterMap term? ↔ .term key template ∈ definitions :=
  mem_filterMap_iff_of_eq_some_iff fun definition => by cases definition <;> simp [term?]

theorem mem_filterMap_wordForm?_iff :
    (word, template) ∈ definitions.filterMap wordForm? ↔
      .genitive (.word word) template ∈ definitions :=
  mem_filterMap_iff_of_eq_some_iff fun definition => by
    unfold wordForm?
    split <;> simp_all

theorem mem_filterMap_defaultForm?_iff :
    template ∈ definitions.filterMap defaultForm? ↔ .genitive .default template ∈ definitions :=
  mem_filterMap_iff_of_eq_some_iff fun definition => by
    unfold defaultForm?
    split <;> simp_all

theorem mem_flatMap_suffixes_iff :
    (category, suffix) ∈ definitions.flatMap suffixes ↔
      ∃ entries, .ordinals entries ∈ definitions ∧ ⟨category, suffix⟩ ∈ entries := by
  rw [List.mem_flatMap]
  constructor
  · rintro ⟨definition, hmem, hentry⟩
    cases definition with
    | ordinals entries =>
      obtain ⟨entry, hin, heq⟩ := List.mem_map.1 hentry
      obtain ⟨rfl, rfl⟩ := Prod.mk.inj heq
      exact ⟨entries, hmem, hin⟩
    | term key template => cases hentry
    | rule pattern template => cases hentry
    | genitive target template => cases hentry
    | unrelated phrase => cases hentry
  · rintro ⟨entries, hmem, hentry⟩
    exact ⟨_, hmem, List.mem_map.2 ⟨_, hentry, rfl⟩⟩

theorem mem_filterMap_unrelated?_iff :
    phrase ∈ definitions.filterMap unrelated? ↔ .unrelated phrase ∈ definitions :=
  mem_filterMap_iff_of_eq_some_iff fun definition => by cases definition <;> simp [unrelated?]

end Members

/-- All patterns of rules can be read. -/
def AllReadable (dialect : Pattern.Dialect) (definitions : List Definition) : Prop :=
  ∀ pattern template, .rule pattern template ∈ definitions → ∃ p, dialect.read pattern = .ok p

end Definition

/-- An error blames the first rule whose pattern cannot be read, and counts the rules before it. -/
def InvalidPattern.IsFirstIn (e : InvalidPattern) (dialect : Pattern.Dialect)
    (definitions : List Definition) : Prop :=
  ∃ before template later, definitions = before ++ .rule e.pattern template :: later ∧
    Definition.AllReadable dialect before ∧ dialect.read e.pattern = .error e.message ∧
      e.rule = 1 + (before.filterMap Definition.rule?).length

namespace Tables

/-- The patterns and the templates of the rules. -/
def readRules (tables : Tables) : List (Except Text Pattern × RuleTemplate) :=
  tables.rules.map fun rule => (.ok rule.pattern, rule.template)

/-- Tables after a run of definitions have what was defined last, and what the tables before the
run had where nothing was defined. -/
structure Follows (dialect : Pattern.Dialect) (before : Tables) (definitions : List Definition)
    (after : Tables) : Prop where
  term? : ∀ key, after.term? key =
    (lastValue? (definitions.filterMap Definition.term?) key).or (before.term? key)
  rules : after.readRules = before.readRules ++
    (definitions.filterMap Definition.rule?).map fun (pattern, template) =>
      (dialect.read pattern, template)
  word? : ∀ word, after.genitives.words.get? word =
    (lastValue? (definitions.filterMap Definition.wordForm?) word).or
      (before.genitives.words.get? word)
  default : after.genitives.default =
    (definitions.filterMap Definition.defaultForm?).getLast?.getD before.genitives.default
  suffix : ∀ category, after.ordinals.suffix category =
    (lastValue? (definitions.flatMap Definition.suffixes) category).getD
      (before.ordinals.suffix category)
  unrelated : after.unrelated =
    (definitions.filterMap Definition.unrelated?).getLast?.getD before.unrelated

variable {dialect : Pattern.Dialect} {tables after : Tables} {definition : Definition}
  {definitions : List Definition} {e : InvalidPattern}

/-! ## One definition -/

theorem define_rule (dialect : Pattern.Dialect) (tables : Tables) (pattern : Text)
    (template : RuleTemplate) :
    tables.define dialect (.rule pattern template) =
      match dialect.read pattern with
      | .ok p => .ok (tables.addRule ⟨p, template⟩)
      | .error message => .error ⟨tables.rules.length + 1, pattern, message⟩ := by
  cases hread : dialect.read pattern with
  | error message => simp only [define, Rule.ofText_of_error hread]
  | ok p => simp only [define, Rule.ofText_of_ok hread]

theorem define_rule_eq_ok {pattern : Text} {template : RuleTemplate}
    (h : tables.define dialect (.rule pattern template) = .ok after) :
    ∃ p, dialect.read pattern = .ok p ∧ after = tables.addRule ⟨p, template⟩ := by
  rw [define_rule] at h
  split at h
  · exact ⟨_, ‹_›, (Except.ok.inj h).symm⟩
  · cases h

/-- Only a rule cannot be added. -/
theorem define_eq_error (h : tables.define dialect definition = .error e) :
    ∃ template, definition = .rule e.pattern template ∧
      dialect.read e.pattern = .error e.message ∧ e.rule = tables.rules.length + 1 := by
  match definition, h with
  | .rule pattern template, h =>
    rw [define_rule] at h
    split at h
    · cases h
    · obtain rfl := Except.error.inj h
      exact ⟨template, rfl, ‹_›, rfl⟩
  | .genitive .default _, h => cases h
  | .genitive (.word _) _, h => cases h

/-- An entry that is inserted is the last one of its key. -/
theorem get?_insert_eq_or (d : Dictionary Template) (key other : Text) (template : Template) :
    (d.insert key template).get? other =
      (lastValue? [(key, template)] other).or (d.get? other) := by
  rw [Dictionary.get?_insert, lastValue?_singleton]
  split
  · rfl
  · rfl

/-- Of the entries of one block the last of each category counts. -/
theorem suffix_foldl_set (entries : List OrdinalEntry) (suffixes : OrdinalSuffixes)
    (category : OrdinalCategory) :
    (entries.foldl (fun suffixes entry => suffixes.set entry.category entry.suffix)
        suffixes).suffix category =
      (lastValue? (entries.map fun entry => (entry.category, entry.suffix)) category).getD
        (suffixes.suffix category) := by
  induction entries generalizing suffixes with
  | nil => rfl
  | cons entry entries ih =>
    rw [List.foldl_cons, ih, OrdinalSuffixes.suffix_set, List.map_cons, ← List.singleton_append,
      lastValue?_append, lastValue?_singleton]
    cases lastValue? (entries.map fun entry => (entry.category, entry.suffix)) category with
    | none => split <;> rfl
    | some text => rfl

theorem Follows.define (h : tables.define dialect definition = .ok after) :
    tables.Follows dialect [definition] after := by
  -- all components but the one that is defined are those of the tables before, by computation
  match definition, h with
  | .term key template, h =>
    obtain rfl := Except.ok.inj h
    refine ⟨fun other => ?_, (List.append_nil _).symm, fun _ => rfl, rfl, fun _ => rfl, rfl⟩
    exact get?_insert_eq_or tables.terms key other template
  | .rule pattern template, h =>
    obtain ⟨p, hread, rfl⟩ := define_rule_eq_ok h
    refine ⟨fun _ => rfl, ?_, fun _ => rfl, rfl, fun _ => rfl, rfl⟩
    simp [readRules, addRule, Definition.rule?, hread]
  | .genitive .default template, h =>
    obtain rfl := Except.ok.inj h
    exact ⟨fun _ => rfl, (List.append_nil _).symm, fun _ => rfl, rfl, fun _ => rfl, rfl⟩
  | .genitive (.word word) template, h =>
    obtain rfl := Except.ok.inj h
    refine ⟨fun _ => rfl, (List.append_nil _).symm, fun other => ?_, rfl, fun _ => rfl, rfl⟩
    exact get?_insert_eq_or tables.genitives.words word other template
  | .ordinals entries, h =>
    obtain rfl := Except.ok.inj h
    refine ⟨fun _ => rfl, (List.append_nil _).symm, fun _ => rfl, rfl, fun category => ?_, rfl⟩
    simpa [Definition.suffixes] using suffix_foldl_set entries tables.ordinals category
  | .unrelated phrase, h =>
    obtain rfl := Except.ok.inj h
    exact ⟨fun _ => rfl, (List.append_nil _).symm, fun _ => rfl, rfl, fun _ => rfl, rfl⟩

/-! ## Runs -/

theorem Follows.refl (dialect : Pattern.Dialect) (tables : Tables) :
    tables.Follows dialect [] tables :=
  ⟨fun _ => rfl, (List.append_nil _).symm, fun _ => rfl, rfl, fun _ => rfl, rfl⟩

theorem Follows.trans {middle : Tables} {more : List Definition}
    (h : tables.Follows dialect definitions middle) (hmore : middle.Follows dialect more after) :
    tables.Follows dialect (definitions ++ more) after where
  term? key := by
    rw [hmore.term?, h.term?, List.filterMap_append, lastValue?_append, Option.or_assoc]
  rules := by
    rw [hmore.rules, h.rules, List.filterMap_append, List.map_append, List.append_assoc]
  word? word := by
    rw [hmore.word?, h.word?, List.filterMap_append, lastValue?_append, Option.or_assoc]
  default := by
    rw [hmore.default, h.default, List.filterMap_append, List.getLast?_append, Option.getD_or]
  suffix category := by
    rw [hmore.suffix, h.suffix, List.flatMap_append, lastValue?_append, Option.getD_or]
  unrelated := by
    rw [hmore.unrelated, h.unrelated, List.filterMap_append, List.getLast?_append, Option.getD_or]

theorem defineAll_cons (dialect : Pattern.Dialect) (tables : Tables) (definition : Definition)
    (definitions : List Definition) :
    tables.defineAll dialect (definition :: definitions) =
      (tables.define dialect definition).bind fun tables =>
        tables.defineAll dialect definitions := by
  rw [defineAll, List.foldlM_cons]
  rfl

theorem follows_defineAll (h : tables.defineAll dialect definitions = .ok after) :
    tables.Follows dialect definitions after := by
  induction definitions generalizing tables with
  | nil =>
    obtain rfl := Except.ok.inj h
    exact .refl dialect tables
  | cons definition definitions ih =>
    rw [defineAll_cons] at h
    cases hdefine : tables.define dialect definition with
    | error e =>
      rw [hdefine] at h
      cases h
    | ok middle =>
      rw [hdefine] at h
      exact (Follows.define hdefine).trans (ih h)

namespace Follows

/-- The patterns of all rules that were added can be read. -/
theorem allReadable (h : tables.Follows dialect definitions after) :
    Definition.AllReadable dialect definitions := by
  intro pattern template hmem
  have hrule : (dialect.read pattern, template) ∈ after.readRules := by
    rw [h.rules]
    refine List.mem_append_right _ (List.mem_map.2 ⟨(pattern, template), ?_, rfl⟩)
    exact List.mem_filterMap.2 ⟨.rule pattern template, hmem, rfl⟩
  obtain ⟨rule, -, hrule⟩ := List.mem_map.1 hrule
  exact ⟨rule.pattern, (congrArg Prod.fst hrule).symm⟩

theorem length_rules (h : tables.Follows dialect definitions after) :
    after.rules.length =
      tables.rules.length + (definitions.filterMap Definition.rule?).length := by
  have hlength := congrArg List.length h.rules
  simpa only [readRules, List.length_append, List.length_map] using hlength

end Follows

/-- A run that stops blames the first rule that cannot be read. Its number counts the rules of the
tables before the run too. -/
theorem defineAll_eq_error (h : tables.defineAll dialect definitions = .error e) :
    ∃ before template later, definitions = before ++ .rule e.pattern template :: later ∧
      Definition.AllReadable dialect before ∧ dialect.read e.pattern = .error e.message ∧
        e.rule = tables.rules.length + (before.filterMap Definition.rule?).length + 1 := by
  induction definitions generalizing tables with
  | nil => cases h
  | cons definition definitions ih =>
    rw [defineAll_cons] at h
    cases hdefine : tables.define dialect definition with
    | error e' =>
      rw [hdefine] at h
      obtain rfl := Except.error.inj h
      obtain ⟨template, rfl, hread, hrule⟩ := define_eq_error hdefine
      exact ⟨[], template, definitions, rfl, fun _ _ hmem => absurd hmem List.not_mem_nil, hread,
        hrule⟩
    | ok middle =>
      rw [hdefine] at h
      have hfollows := Follows.define hdefine
      obtain ⟨before, template, later, rfl, hreadable, hread, hrule⟩ := ih h
      refine ⟨definition :: before, template, later, rfl, ?_, hread, ?_⟩
      · intro pattern template hmem
        obtain hhead | htail := List.mem_cons.1 hmem
        · exact hfollows.allReadable pattern template (List.mem_singleton.2 hhead)
        · exact hreadable pattern template htail
      · have hrules : ([definition] ++ before).filterMap Definition.rule? =
            [definition].filterMap Definition.rule? ++ before.filterMap Definition.rule? :=
          List.filterMap_append
        rw [List.singleton_append] at hrules
        rw [hrule, hfollows.length_rules, hrules, List.length_append]
        omega

/-! ## The tables of definitions -/

/-- Tables hold what a list of definitions says last, and the defaults of English where it says
nothing. -/
structure Records (dialect : Pattern.Dialect) (tables : Tables) (definitions : List Definition) :
    Prop where
  term? : ∀ key, tables.term? key = lastValue? (definitions.filterMap Definition.term?) key
  size_terms : tables.terms.size =
    ((definitions.filterMap Definition.term?).map Prod.fst).toFinset.card
  word? : ∀ word, tables.genitives.words.get? word =
    lastValue? (definitions.filterMap Definition.wordForm?) word
  size_words : tables.genitives.words.size =
    ((definitions.filterMap Definition.wordForm?).map Prod.fst).toFinset.card
  rules : tables.readRules = (definitions.filterMap Definition.rule?).map
    fun (pattern, template) => (dialect.read pattern, template)
  default : tables.genitives.default =
    (definitions.filterMap Definition.defaultForm?).getLast?.getD GenitiveTable.english.default
  suffix : ∀ category, tables.ordinals.suffix category =
    (lastValue? (definitions.flatMap Definition.suffixes) category).getD
      (OrdinalSuffixes.english.suffix category)
  unrelated : tables.unrelated =
    (definitions.filterMap Definition.unrelated?).getLast?.getD "unrelated".toList

theorem Follows.records (h : Tables.empty.Follows dialect definitions tables) :
    tables.Records dialect definitions := by
  have hterm (key : Text) :
      tables.term? key = lastValue? (definitions.filterMap Definition.term?) key :=
    (h.term? key).trans (Option.or_none ..)
  have hword (word : Text) : tables.genitives.words.get? word =
      lastValue? (definitions.filterMap Definition.wordForm?) word :=
    (h.word? word).trans (Option.or_none ..)
  exact ⟨hterm, Dictionary.size_eq_card hterm, hword, Dictionary.size_eq_card hword, h.rules,
    h.default, h.suffix, h.unrelated⟩

/-- **The last definition of a thing counts, and the first rule that cannot be read is blamed.**
Definitions have no tables if and only if the pattern of some rule cannot be read. -/
theorem ofDefinitions_spec (dialect : Pattern.Dialect) (definitions : List Definition) :
    ((∃ e, ofDefinitions dialect definitions = .error e) ↔
      ∃ pattern template message,
        .rule pattern template ∈ definitions ∧ dialect.read pattern = .error message) ∧
    (∀ e, ofDefinitions dialect definitions = .error e → e.IsFirstIn dialect definitions) ∧
    ∀ tables, ofDefinitions dialect definitions = .ok tables →
      tables.Records dialect definitions := by
  have hblamed : ∀ e, ofDefinitions dialect definitions = .error e →
      e.IsFirstIn dialect definitions := by
    intro e h
    obtain ⟨before, template, later, heq, hreadable, hread, hrule⟩ := defineAll_eq_error h
    refine ⟨before, template, later, heq, hreadable, hread, ?_⟩
    rw [hrule, empty, List.length_nil]
    omega
  refine ⟨⟨?_, ?_⟩, hblamed, fun tables h => (follows_defineAll h).records⟩
  · rintro ⟨e, h⟩
    obtain ⟨before, template, later, heq, -, hread, -⟩ := hblamed e h
    exact ⟨e.pattern, template, e.message, by simp [heq], hread⟩
  · rintro ⟨pattern, template, message, hmem, hread⟩
    cases h : ofDefinitions dialect definitions with
    | error e => exact ⟨e, rfl⟩
    | ok tables =>
      obtain ⟨p, hp⟩ := (follows_defineAll h).allReadable pattern template hmem
      rw [hread] at hp
      cases hp

end Tables

end Kindred
