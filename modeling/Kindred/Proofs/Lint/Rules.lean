import Kindred.Pattern.Reader
import Kindred.Proofs.Code.Hops
import Kindred.Proofs.Decomposition.Origins
import Kindred.Proofs.Lint.Warnings

/-!
# Warnings about rules and what rules do

A key without a term is reported from the definitions alone, and a rule looks its key up when it is
applied. **Both speak of the same key** (`Lint.warnings_agree_with_rules`): where a rule matches and
the replacement that is selected has a key in which no group has a part, the rule has a phrase
exactly if no missing term is reported for it. The base of a replacement is told from the text of a
code in the same way, and reported if it is no code.

The number of a rule means the same in warnings, in errors and in the origins of terms: it is that
of its definition (`Definition.IsRule`).
-/

namespace Kindred

/-! ## Applying a rule to a match -/

namespace RuleTemplate

/-- A replacement that is selected is one of the template. -/
theorem mem_replacements_of_select? {template : RuleTemplate} {balance : Int}
    {replacement : Replacement} (h : template.select? balance = some replacement) :
    replacement ∈ template.replacements := by
  cases template with
  | direct other =>
    obtain rfl := Option.some.inj h
    exact List.mem_singleton_self _
  | conditional branches ignored =>
    have hbranch : ∀ key, branch? branches key = some replacement →
        replacement ∈ branches.map Branch.replacement := by
      intro key hkey
      obtain ⟨branch, hfound, rfl⟩ := Option.map_eq_some_iff.1 hkey
      exact List.mem_map_of_mem (List.mem_of_find?_eq_some hfound)
    rw [select?] at h
    cases hexact : branch? branches (.exact balance) with
    | none =>
      rw [hexact] at h
      exact hbranch _ h
    | some found =>
      rw [hexact] at h
      exact hbranch _ (hexact.trans h)

end RuleTemplate

namespace Rule

variable {rule : Rule} {number : Nat} {tables : Tables} {code before after : Text} {term : Term}
  {m : Match} {replacement : Replacement}

theorem replacementText_of_select?
    (h : rule.template.select? (Legs.ofCode m.text).balance = some replacement) :
    rule.replacementText m = replacement.expand (rule.groupText m) := by
  rw [replacementText, h]

theorem groupText_subset (h : rule.pattern.search? code = some m) (ref : GroupRef) :
    rule.groupText m ref ⊆ code := by
  have hgroup : ∀ found : Option Text, (∀ text, found = some text → text ⊆ code) →
      found.getD [] ⊆ code := by
    intro found hfound
    cases found with
    | none => exact List.nil_subset code
    | some text => exact hfound text rfl
  cases ref with
  | index n => exact hgroup _ fun text htext => Pattern.group?_subset h htext
  | name name =>
    refine hgroup _ fun text htext => ?_
    obtain ⟨index, -, hindex⟩ := Option.bind_eq_some_iff.1 htext
    exact Pattern.group?_subset h hindex

theorem apply_eq_resolved_iff (h : rule.pattern.search? code = some m) :
    rule.apply number tables code = some (.resolved before term after) ↔
      rule.termOf? number tables m = some term ∧ before = m.before ∧ after = m.after := by
  rw [apply, h, Option.map_some, Option.some.injEq]
  cases rule.termOf? number tables m with
  | none => simp
  | some found => simp [eq_comm, and_left_comm]

theorem termOf?_eq_some_iff : rule.termOf? number tables m = some term ↔
    ∃ template, tables.term? (Replacement.splitKey (rule.replacementText m)).1 = some template ∧
      term = ⟨m.text, template.fillDegrees (.between m.text
        ((Replacement.splitKey (rule.replacementText m)).2.getD m.text)) tables.ordinals,
        .rule number (Replacement.splitKey (rule.replacementText m)).1⟩ := by
  rw [termOf?, Option.map_eq_some_iff]
  simp only [eq_comm]

/-- A rule that matches has a phrase exactly if its key has one. -/
theorem apply_resolved_iff (h : rule.pattern.search? code = some m) :
    (∃ before term after, rule.apply number tables code = some (.resolved before term after)) ↔
      (tables.term? (Replacement.splitKey (rule.replacementText m)).1).isSome := by
  simp only [apply_eq_resolved_iff h, termOf?_eq_some_iff, Option.isSome_iff_exists]
  constructor
  · rintro ⟨-, -, -, ⟨template, htemplate, -⟩, -⟩
    exact ⟨template, htemplate⟩
  · rintro ⟨template, htemplate⟩
    exact ⟨_, _, _, ⟨template, htemplate, rfl⟩, rfl, rfl⟩

end Rule

/-! ## Tables of definitions -/

namespace Tables.Records

variable {dialect : Pattern.Dialect} {tables : Tables} {definitions : List Definition} {n : Nat}
  {pattern : Text} {template : RuleTemplate} {rule : Rule}

/-- The keys that have terms are the keys of the definitions. -/
theorem term?_isSome_iff (h : tables.Records dialect definitions) (key : Text) :
    (tables.term? key).isSome ↔ key ∈ definitions.filterMap Lint.termKey? := by
  have hkeys : (definitions.filterMap Definition.term?).map Prod.fst =
      definitions.filterMap Lint.termKey? := by
    rw [List.map_filterMap]
    congr 1
    funext definition
    cases definition <;> rfl
  rw [h.term?, ← hkeys, Option.isSome_iff_ne_none, ne_eq, lastValue?_eq_none_iff, not_not]

/-- What the rule of a number is in the tables and among the definitions. -/
theorem getElem?_rules (h : tables.Records dialect definitions) (i : Nat) :
    (tables.rules[i]?).map (fun rule => (Except.ok rule.pattern, rule.template)) =
      ((definitions.filterMap Definition.rule?)[i]?).map fun (pattern, template) =>
        (dialect.read pattern, template) := by
  rw [← List.getElem?_map, ← List.getElem?_map, ← h.rules]
  rfl

theorem exists_rule_of_isRule (h : tables.Records dialect definitions)
    (hrule : Definition.IsRule definitions n pattern template) :
    ∃ p, dialect.read pattern = .ok p ∧ tables.rules[n - 1]? = some ⟨p, template⟩ := by
  obtain ⟨i, rfl⟩ := hrule.exists_eq_succ
  have hget := h.getElem?_rules i
  rw [Definition.isRule_succ_iff.1 hrule] at hget
  obtain ⟨rule, hfound, heq⟩ := Option.map_eq_some_iff.1 hget
  obtain ⟨hread, rfl⟩ := Prod.mk.inj heq
  exact ⟨rule.pattern, hread.symm, hfound⟩

theorem isRule_of_getElem? (h : tables.Records dialect definitions) {i : Nat}
    (hrule : tables.rules[i]? = some rule) :
    ∃ pattern, dialect.read pattern = .ok rule.pattern ∧
      Definition.IsRule definitions (i + 1) pattern rule.template := by
  have hget := h.getElem?_rules i
  rw [hrule] at hget
  obtain ⟨⟨pattern, template⟩, hdefinition, heq⟩ := Option.map_eq_some_iff.1 hget.symm
  obtain ⟨hread, rfl⟩ := Prod.mk.inj heq
  exact ⟨pattern, hread, Definition.isRule_succ_iff.2 hdefinition⟩

end Tables.Records

/-! ## Keys, bases and numbers -/

namespace Lint

/-- On a code, the rule of that number does what the warnings for the definitions say of the
replacement that is selected. -/
structure AgreesOn (dialect : Pattern.Dialect) (definitions : List Definition) (tables : Tables)
    (n : Nat) (rule : Rule) (code : Text) (replacement : Replacement) : Prop where
  /-- The rule has a phrase exactly if its key is not reported to be missing. -/
  resolved_iff : ∀ key, replacement.IsSection 0 key →
    ((∃ before term after, rule.apply n tables code = some (.resolved before term after)) ↔
      ∀ suggestion, .missingTerm n key suggestion ∉ warnings dialect definitions)
  /-- The degrees in the phrase are measured against the base. -/
  degrees : Code.isCode code = true → ∀ base, replacement.IsSection 1 base →
    ∀ before term after, rule.apply n tables code = some (.resolved before term after) →
      ∃ key template, term.origin = .rule n key ∧ tables.term? key = some template ∧
        term.phrase = template.fillDegrees (.between term.fragment base) tables.ordinals
  /-- The base is reported exactly if it is no code. -/
  base_iff : ∀ base, replacement.IsSection 1 base →
    (.baseTermNotCode n base ∈ warnings dialect definitions ↔ Code.isCode base = false)

variable {dialect : Pattern.Dialect} {definitions : List Definition} {tables : Tables} {n : Nat}
  {pattern code : Text} {template : RuleTemplate} {p : Pattern} {replacement : Replacement}
  {e : InvalidPattern}

section Rule

/-! A rule of the definitions, and one of its replacements. -/

variable (hrule : Definition.IsRule definitions n pattern template)
  (hread : dialect.read pattern = .ok p) (hreplacement : replacement ∈ template.replacements)

include hrule hread hreplacement

theorem missingTerm_notMem_iff {key : Text} (hkey : replacement.IsSection 0 key) :
    (∀ suggestion, .missingTerm n key suggestion ∉ warnings dialect definitions) ↔
      key ∈ definitions.filterMap termKey? := by
  have hmem : ∀ suggestion, .missingTerm n key suggestion ∈ warnings dialect definitions ↔
      key ∉ definitions.filterMap termKey? ∧
        suggestion = closestKey? key (definitions.filterMap termKey?) := by
    intro suggestion
    rw [mem_warnings_iff_of_rule? rfl]
    simp only [missingTerm_mem_ruleWarnings_iff]
    constructor
    · rintro ⟨-, -, -, -, -, -, -, -, hmissing⟩
      exact hmissing
    · intro hmissing
      exact ⟨pattern, template, hrule, p, hread, replacement, hreplacement, hkey, hmissing⟩
  constructor
  · intro hnone
    by_contra hmissing
    exact hnone _ ((hmem _).2 ⟨hmissing, rfl⟩)
  · intro hkeys suggestion h
    exact ((hmem suggestion).1 h).1 hkeys

theorem baseTermNotCode_mem_iff {base : Text} (hbase : replacement.IsSection 1 base) :
    .baseTermNotCode n base ∈ warnings dialect definitions ↔ Code.isCode base = false := by
  rw [mem_warnings_iff_of_rule? rfl]
  simp only [baseTermNotCode_mem_ruleWarnings_iff]
  constructor
  · rintro ⟨-, -, -, -, -, -, -, -, hcode⟩
    exact hcode
  · intro hcode
    exact ⟨pattern, template, hrule, p, hread, replacement, hreplacement, hbase, hcode⟩

end Rule

theorem agreesOn (h : tables.Records dialect definitions)
    (hrule : Definition.IsRule definitions n pattern template)
    (hread : dialect.read pattern = .ok p) {m : Match} (hmatch : p.search? code = some m)
    (hselect : template.select? (Legs.ofCode m.text).balance = some replacement) :
    AgreesOn dialect definitions tables n ⟨p, template⟩ code replacement := by
  have hmem := RuleTemplate.mem_replacements_of_select? hselect
  have htext : Rule.replacementText ⟨p, template⟩ m =
      replacement.expand (Rule.groupText ⟨p, template⟩ m) :=
    Rule.replacementText_of_select? hselect
  refine ⟨fun key hkey => ?_, fun hcode base hbase before term after happly => ?_,
    fun base hbase => baseTermNotCode_mem_iff hrule hread hmem hbase⟩
  · rw [Rule.apply_resolved_iff hmatch, htext, Replacement.key_of_isSection hkey,
      h.term?_isSome_iff, missingTerm_notMem_iff hrule hread hmem hkey]
  · obtain ⟨hterm, -⟩ := (Rule.apply_eq_resolved_iff hmatch).1 happly
    obtain ⟨found, hfound, rfl⟩ := Rule.termOf?_eq_some_iff.1 hterm
    have hgroups : ∀ ref, '#' ∉ Rule.groupText ⟨p, template⟩ m ref := fun ref hmark =>
      Code.notMem_of_isCode hcode (by decide) (Rule.groupText_subset hmatch ref hmark)
    refine ⟨_, found, rfl, hfound, ?_⟩
    rw [htext, Replacement.base_of_isSection hbase hgroups, Option.getD_some]

/-- An error names the rule whose pattern cannot be read by its number. -/
theorem isRule_of_ofDefinitions_eq_error (h : Tables.ofDefinitions dialect definitions = .error e) :
    ∃ template, Definition.IsRule definitions e.rule e.pattern template ∧
      dialect.read e.pattern = .error e.message := by
  obtain ⟨before, template, later, hsplit, -, hread, hnumber⟩ := Tables.defineAll_eq_error h
  refine ⟨template, ⟨before, later, hsplit, ?_⟩, hread⟩
  rw [hnumber, Tables.empty, List.length_nil, Nat.zero_add]

/-- The origin of a term names the rule that has the phrase by its number. -/
theorem isRule_of_mem_decompose (h : tables.Records dialect definitions) {bound : Nat}
    {useRules : Bool} {term : Term} {key : Text} (hterm : term ∈ tables.decompose bound useRules code)
    (horigin : term.origin = .rule n key) :
    ∃ pattern template p, Definition.IsRule definitions n pattern template ∧
      dialect.read pattern = .ok p ∧ ∃ text before after,
        Rule.apply ⟨p, template⟩ n tables text = some (.resolved before term after) := by
  obtain ⟨before, after, haccounts⟩ := Tables.accounts_of_mem_decompose hterm
  unfold Tables.Accounts at haccounts
  rw [horigin] at haccounts
  obtain ⟨_, front, behind, _, -, -, hfirst⟩ := haccounts
  obtain ⟨rule, hget, happly⟩ := hfirst.resolved
  obtain ⟨pattern, hread, hrule⟩ := h.isRule_of_getElem? hget
  rw [Nat.sub_add_cancel hfirst.one_le] at hrule
  exact ⟨pattern, rule.template, rule.pattern, hrule, hread, _, _, _, happly⟩

/-- **The warnings about rules say what the rules do.** Where a rule matches a code and a replacement
is selected, a key in which no group has a part is reported to be missing exactly if the rule has no
phrase, and a base in which no group has a part is what the degrees are measured against, and
reported exactly if it is no code. The number of a rule is that of its definition, in warnings, in
errors and in the origins of terms. -/
theorem warnings_agree_with_rules (dialect : Pattern.Dialect) (definitions : List Definition) :
    (∀ warning ∈ warnings dialect definitions, ∀ n, warning.rule? = some n →
      ∃ pattern template, Definition.IsRule definitions n pattern template ∧
        warning ∈ ruleWarnings dialect n pattern template (definitions.filterMap termKey?)) ∧
    (∀ e, Tables.ofDefinitions dialect definitions = .error e →
      ∃ template, Definition.IsRule definitions e.rule e.pattern template ∧
        dialect.read e.pattern = .error e.message) ∧
    ∀ tables, Tables.ofDefinitions dialect definitions = .ok tables →
      (∀ n pattern template, Definition.IsRule definitions n pattern template →
        ∃ p, dialect.read pattern = .ok p ∧ tables.rules[n - 1]? = some ⟨p, template⟩ ∧
          ∀ code m replacement, p.search? code = some m →
            template.select? (Legs.ofCode m.text).balance = some replacement →
              AgreesOn dialect definitions tables n ⟨p, template⟩ code replacement) ∧
      ∀ bound useRules code, ∀ term ∈ tables.decompose bound useRules code,
        ∀ n key, term.origin = .rule n key →
          ∃ pattern template p, Definition.IsRule definitions n pattern template ∧
            dialect.read pattern = .ok p ∧ ∃ text before after,
              Rule.apply ⟨p, template⟩ n tables text = some (.resolved before term after) := by
  refine ⟨fun warning hwarning n hn => (mem_warnings_iff_of_rule? hn).1 hwarning,
    fun e he => isRule_of_ofDefinitions_eq_error he, fun tables htables => ?_⟩
  have hrecords : tables.Records dialect definitions := (Tables.follows_defineAll htables).records
  refine ⟨fun n pattern template hrule => ?_,
    fun bound useRules code term hterm n key horigin =>
      isRule_of_mem_decompose hrecords hterm horigin⟩
  obtain ⟨p, hread, hget⟩ := hrecords.exists_rule_of_isRule hrule
  exact ⟨p, hread, hget, fun code m replacement hmatch hselect =>
    agreesOn hrecords hrule hread hmatch hselect⟩

/-- Two rules: one leads to a key that has a term, and one, for siblings, to a key that has none and
to a base that is no code. -/
def siblingDefinitions : List Definition :=
  [.rule "FS".toList (.read "brother#FS".toList),
    .term "brother".toList [.literal "brother".toList],
    .rule "M(S|D)".toList (.read "LT($1);EQ(sister#?#$1)".toList)]

/-- The key of the second rule is missed, and so the rule has no phrase. -/
theorem warnings_agree_with_rules_siblings :
    ∃ tables p m, Tables.ofDefinitions .builtIn siblingDefinitions = .ok tables ∧
      Pattern.Dialect.builtIn.read "M(S|D)".toList = .ok p ∧ p.search? "FMS".toList = some m ∧
      Replacement.IsSection [.literal "sister#?#".toList, .group (.index 1)] 0 "sister".toList ∧
      Replacement.IsSection [.literal "sister#?#".toList, .group (.index 1)] 1 ['?'] ∧
      .missingTerm 2 "sister".toList none ∈ warnings .builtIn siblingDefinitions ∧
      .baseTermNotCode 2 ['?'] ∈ warnings .builtIn siblingDefinitions ∧
      ¬ ∃ before term after, Rule.apply ⟨p, .read "LT($1);EQ(sister#?#$1)".toList⟩ 2 tables
        "FMS".toList = some (.resolved before term after) := by
  have hload : ∃ tables, Tables.ofDefinitions .builtIn siblingDefinitions = .ok tables := ⟨_, rfl⟩
  obtain ⟨tables, htables⟩ := hload
  have hmissing : .missingTerm 2 "sister".toList none ∈ warnings .builtIn siblingDefinitions := by
    decide +kernel
  have hkey : Replacement.IsSection [.literal "sister#?#".toList, .group (.index 1)] 0
      "sister".toList := rfl
  have hbase : Replacement.IsSection [.literal "sister#?#".toList, .group (.index 1)] 1
      ['?'] := rfl
  have hrule : Definition.IsRule siblingDefinitions 2 "M(S|D)".toList
      (.read "LT($1);EQ(sister#?#$1)".toList) :=
    ⟨[.rule "FS".toList (.read "brother#FS".toList),
      .term "brother".toList [.literal "brother".toList]], [], rfl, rfl⟩
  obtain ⟨p, hread, -, hagrees⟩ :=
    ((warnings_agree_with_rules .builtIn siblingDefinitions).2.2 tables htables).1 _ _ _ hrule
  have hmatch : ∃ m, p.search? "FMS".toList = some m ∧
      (RuleTemplate.read "LT($1);EQ(sister#?#$1)".toList).select? (Legs.ofCode m.text).balance =
        some [.literal "sister#?#".toList, .group (.index 1)] := by
    obtain rfl := Except.ok.inj hread
    exact ⟨_, rfl, rfl⟩
  obtain ⟨m, hmatch, hselect⟩ := hmatch
  have hagrees := hagrees _ m _ hmatch hselect
  exact ⟨tables, p, m, htables, hread, hmatch, hkey, hbase, hmissing,
    (hagrees.base_iff _ hbase).2 (by decide),
    fun hresolved => (hagrees.resolved_iff _ hkey).1 hresolved none hmissing⟩

end Lint

end Kindred
