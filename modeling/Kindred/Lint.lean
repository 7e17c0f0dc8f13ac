import Kindred.Code
import Kindred.Degrees
import Kindred.Pattern.Dialect
import Kindred.Text.Distance
import Kindred.Vocabulary.Definition

/-!
# Checks of a vocabulary

A vocabulary may be well formed and still not mean what its author meant. The checks find keys that
are defined twice, gaps that nothing fills, rules that never apply, and replacements that lead to
keys without phrases. They look at definitions only and refuse none.
-/

namespace Kindred

/-- A fault of a vocabulary that does not keep it from being used. Rules are counted from one. -/
inductive Warning
  /-- A key has several terms; the last one counts. -/
  | duplicateTerm (key : Text)
  /-- A word has several possessive forms; the last one counts. -/
  | duplicateGenitive (word : Text)
  /-- A rule leads to a key without a term; the closest key that has one may be meant. -/
  | missingTerm (rule : Nat) (key : Text) (suggestion : Option Text)
  /-- A replacement refers to a group that the pattern does not have. -/
  | unknownCaptureGroup (rule : Nat) (group : Text)
  /-- Two branches of a rule have the same key. -/
  | duplicateBranch (rule : Nat) (key : Text)
  /-- A template with branches has text outside them. -/
  | ignoredTemplateText (rule : Nat) (text : Text)
  /-- The base of a rule is no code. -/
  | baseTermNotCode (rule : Nat) (base : Text)
  /-- A pattern matches the empty text and no short code. -/
  | emptyMatchPattern (rule : Nat) (pattern : Text)
  /-- The phrase of a term has a gap for which there is no degree. -/
  | placeholderOutOfRange (key : Text) (index : Nat)
  /-- A possessive form has a gap for which there is no text. -/
  | genitiveSlotOutOfRange (word : Text) (index : Nat)
  deriving DecidableEq, Repr

namespace Warning

/-- The number of a rule as it is written in warnings. -/
def ruleText (rule : Nat) : Text := "rule #".toList ++ Text.numeral rule

/-- A text in single quotes. -/
def quote (text : Text) : Text := '\'' :: text ++ ['\'']

/-- The number of a gap in braces. -/
def gapText (index : Nat) : Text := '{' :: Text.numeral index ++ ['}']

/-- A warning as one line. -/
def message : Warning → Text
  | .duplicateTerm key => "term ".toList ++ quote key ++ " is defined more than once".toList
  | .duplicateGenitive word => "genitive ".toList ++ quote word ++ " is defined more than once".toList
  | .missingTerm rule key suggestion =>
    let hint := match suggestion with
      | some other => " (did you mean ".toList ++ quote other ++ "?)".toList
      | none => []
    ruleText rule ++ " looks up undefined term ".toList ++ quote key ++ hint
  | .unknownCaptureGroup rule group =>
    ruleText rule ++ " refers to unknown capture group ".toList ++ quote group
  | .duplicateBranch rule key =>
    ruleText rule ++ " has more than one ".toList ++ quote key ++ " branch".toList
  | .ignoredTemplateText rule text =>
    ruleText rule ++ " ignores ".toList ++ quote text ++ " outside its branches".toList
  | .baseTermNotCode rule base =>
    ruleText rule ++ " has base term ".toList ++ quote base ++ " which is not a kinship code".toList
  | .emptyMatchPattern rule pattern =>
    ruleText rule ++ " pattern ".toList ++ quote pattern ++ " can only match the empty string".toList
  | .placeholderOutOfRange key index =>
    "term ".toList ++ quote key ++ " uses placeholder ".toList ++ gapText index ++
      ", expected 0 to 4".toList
  | .genitiveSlotOutOfRange word index =>
    "genitive ".toList ++ quote word ++ " uses slot ".toList ++ gapText index ++
      ", expected 0 or 1".toList

end Warning

namespace Lint

/-! ## Duplicates -/

/-- The elements that occur for the second time, in the order in which they do. -/
def secondOccurrences {α : Type} [DecidableEq α] (seen : List α) : List α → List α
  | [] => []
  | x :: rest =>
    let more := secondOccurrences (x :: seen) rest
    if seen.count x = 1 then x :: more else more

/-- What a definition is for, if a second one for the same thing is a fault. -/
inductive Subject
  /-- The phrase of a key. -/
  | term (key : Text)
  /-- The possessive form of a word. -/
  | genitive (word : Text)
  deriving DecidableEq, Repr

/-- What a definition is for. -/
def Subject.ofDefinition? : Definition → Option Subject
  | .term key _ => some (.term key)
  | .genitive (.word word) _ => some (.genitive word)
  | _ => none

/-- The warning that something is defined more than once. -/
def Subject.duplicate : Subject → Warning
  | .term key => .duplicateTerm key
  | .genitive word => .duplicateGenitive word

/-- A warning for each key and word that is defined more than once, where the second definition
stands. -/
def duplicates (definitions : List Definition) : List Warning :=
  (secondOccurrences [] (definitions.filterMap Subject.ofDefinition?)).map Subject.duplicate

/-! ## Gaps -/

/-- A warning for each gap of a term for which there is no degree. -/
def placeholders (key : Text) (template : Template) : List Warning :=
  (template.indices.filter (Degrees.count ≤ ·)).map (.placeholderOutOfRange key)

/-- The word by which warnings name what a possessive form is for. -/
def targetText : GenitiveTarget → Text
  | .default => "default".toList
  | .word word => word

/-- A warning for each gap of a possessive form for which there is no text. -/
def slots (target : GenitiveTarget) (template : Template) : List Warning :=
  (template.indices.filter (1 < ·)).map (.genitiveSlotOutOfRange (targetText target))

/-! ## Rules -/

/-- All texts of so many letters, in alphabetical order. -/
def probes : (length : Nat) → List Text
  | 0 => [[]]
  | length + 1 => (probes length).flatMap fun code => Code.alphabet.map fun letter => code ++ [letter]

/-- The codes on which patterns are tried: those of up to three letters. -/
def allProbes : List Text := probes 1 ++ probes 2 ++ probes 3

/-- Whether a pattern matches the empty text and has no other match in a short code. -/
def matchesOnlyEmpty (pattern : Pattern) : Bool :=
  pattern.matchesEmpty && !allProbes.any fun code => (pattern.search? code).isSome

/-- Whether a pattern has the group that a replacement refers to. -/
def hasGroup (pattern : Pattern) : GroupRef → Bool
  | .index n => n < pattern.groupCount
  | .name name => (pattern.groupNamed? name).isSome

/-- The first of several texts with the least positive distance from a text, within a limit. -/
def closestWithin (limit : Nat) (text : Text) : List Text → Option (Nat × Text)
  | [] => none
  | other :: rest =>
    let d := Text.distance text other
    match closestWithin limit text rest with
    | some (best, found) => if 0 < d ∧ d ≤ best then some (d, other) else some (best, found)
    | none => if 0 < d ∧ d ≤ limit then some (d, other) else none

/-- The key that is closest to one without a term: at a distance of one from a key of up to three
bytes, and of two from a longer one. -/
def closestKey? (key : Text) (keys : List Text) : Option Text :=
  (closestWithin (if key.byteLength ≤ 3 then 1 else 2) key keys).map Prod.snd

/-- The warnings for a replacement, where `keys` are the keys that have terms. -/
def replacementWarnings (rule : Nat) (pattern : Pattern) (keys : List Text)
    (replacement : Replacement) : List Warning :=
  let unknown := replacement.groups.filter fun group => !hasGroup pattern group
  let missing := match replacement.fixedSection? 0 with
    | some key =>
      if keys.contains key then [] else [.missingTerm rule key (closestKey? key keys)]
    | none => []
  let badBase := match replacement.fixedSection? 1 with
    | some base => if Code.isCode base then [] else [.baseTermNotCode rule base]
    | none => []
  unknown.map (fun group => .unknownCaptureGroup rule group.label) ++ missing ++ badBase

/-- The warnings for the branches of a template and the text outside them. -/
def branchWarnings (rule : Nat) : RuleTemplate → List Warning
  | .direct _ => []
  | .conditional branches ignored =>
    (if ignored.isEmpty then [] else [.ignoredTemplateText rule ignored]) ++
      (secondOccurrences [] (branches.map Branch.key)).map fun key => .duplicateBranch rule key.label

/-- The warnings for a rule. A pattern that cannot be read is left to those who use the rule. -/
def ruleWarnings (dialect : Pattern.Dialect) (rule : Nat) (pattern : Text)
    (template : RuleTemplate) (keys : List Text) : List Warning :=
  match dialect.read pattern with
  | .error _ => []
  | .ok p =>
    (if matchesOnlyEmpty p then [.emptyMatchPattern rule pattern] else []) ++
      branchWarnings rule template ++
      template.replacements.flatMap (replacementWarnings rule p keys)

/-! ## Vocabularies -/

/-- The key of a term. -/
def termKey? : Definition → Option Text
  | .term key _ => some key
  | _ => none

/-- The warnings for the definitions one by one, where so many rules came before. -/
def definitionWarnings (dialect : Pattern.Dialect) (keys : List Text) :
    (rules : Nat) → List Definition → List Warning
  | _, [] => []
  | rules, .term key template :: rest =>
    placeholders key template ++ definitionWarnings dialect keys rules rest
  | rules, .rule pattern template :: rest =>
    ruleWarnings dialect (rules + 1) pattern template keys ++
      definitionWarnings dialect keys (rules + 1) rest
  | rules, .genitive target template :: rest =>
    slots target template ++ definitionWarnings dialect keys rules rest
  | rules, .ordinals _ :: rest => definitionWarnings dialect keys rules rest
  | rules, .unrelated _ :: rest => definitionWarnings dialect keys rules rest

/-- All warnings for a vocabulary: first the duplicates, then the others in the order of the
definitions. -/
def warnings (dialect : Pattern.Dialect) (definitions : List Definition) : List Warning :=
  duplicates definitions ++
    definitionWarnings dialect (definitions.filterMap termKey?) 0 definitions

end Lint

end Kindred
