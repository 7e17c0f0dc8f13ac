import Kindred.Dictionary
import Kindred.Pattern.Dialect
import Kindred.Template.Reader
import Kindred.Vocabulary.Definition

/-!
# Tables

What a vocabulary is looked up in: phrases by key, rules in order, possessive forms by word,
ordinal suffixes and the phrase for what is no code. Tables are made from definitions, taken one
after the other (`Tables.ofDefinitions`), or changed one entry at a time from texts
(`Tables.insertTerm` and its companions). Such a change is an action on the tables: it gives a
reason if a text cannot be read, and it leaves tables behind whether it does or not.
-/

namespace Kindred

/-- A rule: what it matches, and what a match is replaced by to give a key. -/
structure Rule where
  /-- What the rule matches. -/
  pattern : Pattern
  /-- What a match is replaced by. -/
  template : RuleTemplate
  deriving DecidableEq, Repr

/-- The rule with the pattern that a text denotes. -/
def Rule.ofText (dialect : Pattern.Dialect) (pattern : Text) (template : RuleTemplate) :
    Except Text Rule := do
  let pattern ← dialect.read pattern
  return ⟨pattern, template⟩

namespace Rule

variable {dialect : Pattern.Dialect} {pattern message : Text} {template : RuleTemplate}
  {p : Pattern}

theorem ofText_of_ok (h : dialect.read pattern = .ok p) :
    ofText dialect pattern template = .ok ⟨p, template⟩ := by
  rw [ofText, h]
  rfl

theorem ofText_of_error (h : dialect.read pattern = .error message) :
    ofText dialect pattern template = .error message := by
  rw [ofText, h]
  rfl

theorem isOk_ofText (template : RuleTemplate) :
    (ofText dialect pattern template).isOk = (dialect.read pattern).isOk := by
  cases hread : dialect.read pattern with
  | ok p => rw [ofText_of_ok hread]; rfl
  | error message => rw [ofText_of_error hread]; rfl

end Rule

/-- Possessive forms. The template of a word has the text before the word in gap 0 and the text
after it in gap 1; the default template has the whole phrase in gap 0 and nothing in gap 1. -/
structure GenitiveTable where
  /-- The templates of words that have one of their own. -/
  words : Dictionary Template
  /-- The template for phrases in which no word has one. -/
  default : Template

namespace GenitiveTable

/-- The possessive of English, an `'s` behind the phrase. -/
def english : GenitiveTable where
  words := .empty
  default := [.placeholder 0 none, .literal "'s ".toList, .placeholder 1 none]

end GenitiveTable

/-- Everything that is looked up to format a code. -/
structure Tables where
  /-- The templates of phrases by their keys. -/
  terms : Dictionary Template
  /-- The rules, in the order in which they are tried. -/
  rules : List Rule
  /-- The possessive forms. -/
  genitives : GenitiveTable
  /-- The suffixes of ordinals. -/
  ordinals : OrdinalSuffixes
  /-- The phrase for what is no code. -/
  unrelated : Text

/-- The pattern of a rule that cannot be read. -/
structure InvalidPattern where
  /-- The number of the rule among the rules, counted from one. -/
  rule : Nat
  /-- The text that is no pattern. -/
  pattern : Text
  /-- What is said of it. -/
  message : Text
  deriving DecidableEq, Repr

namespace Tables

/-- Tables without entries, with the English defaults. -/
def empty : Tables where
  terms := .empty
  rules := []
  genitives := .english
  ordinals := .english
  unrelated := "unrelated".toList

instance : EmptyCollection Tables := ⟨empty⟩

/-- The template of a key. -/
def term? (tables : Tables) (key : Text) : Option Template := tables.terms.get? key

/-! ## Definitions -/

/-- Tables with a rule behind their rules. -/
def addRule (tables : Tables) (rule : Rule) : Tables :=
  { tables with rules := tables.rules ++ [rule] }

/-- Tables with a definition added; it replaces what was defined for the same thing. -/
def define (dialect : Pattern.Dialect) (tables : Tables) :
    Definition → Except InvalidPattern Tables
  | .term key template => .ok { tables with terms := tables.terms.insert key template }
  | .rule pattern template =>
    match Rule.ofText dialect pattern template with
    | .ok rule => .ok (tables.addRule rule)
    | .error message => .error ⟨tables.rules.length + 1, pattern, message⟩
  | .genitive .default template =>
    .ok { tables with genitives := { tables.genitives with default := template } }
  | .genitive (.word word) template =>
    .ok { tables with
      genitives := { tables.genitives with words := tables.genitives.words.insert word template } }
  | .ordinals entries =>
    .ok { tables with
      ordinals := entries.foldl (fun suffixes entry => suffixes.set entry.category entry.suffix)
        tables.ordinals }
  | .unrelated phrase => .ok { tables with unrelated := phrase }

/-- Tables with definitions added in order, up to the first that cannot be. -/
def defineAll (dialect : Pattern.Dialect) (tables : Tables) (definitions : List Definition) :
    Except InvalidPattern Tables :=
  definitions.foldlM (define dialect) tables

/-- The tables of a vocabulary. -/
def ofDefinitions (dialect : Pattern.Dialect) (definitions : List Definition) :
    Except InvalidPattern Tables :=
  empty.defineAll dialect definitions

/-! ## Changes -/

/-- An action on tables. It may be refused with a reason, and the tables are there either way. -/
abbrev Action (ε : Type) : Type → Type := ExceptT ε (StateM Tables)

/-- Gives the phrase of a key by the text of its template. -/
def insertTerm (key template : Text) : Action SyntaxError Unit := do
  let template ← Template.parse template
  modify fun tables => { tables with terms := tables.terms.insert key template }

/-- Puts a rule, given by the texts of its pattern and template, behind the others. -/
def pushRule (dialect : Pattern.Dialect) (pattern template : Text) : Action Text Unit := do
  let rule ← Rule.ofText dialect pattern (.read template)
  modify fun tables => tables.addRule rule

/-- Gives the possessive form of a word by the text of its template. -/
def insertGenitive (word template : Text) : Action SyntaxError Unit := do
  let template ← Template.parse template
  modify fun tables => { tables with
    genitives := { tables.genitives with words := tables.genitives.words.insert word template } }

/-- Gives the default possessive form by the text of its template. -/
def setDefaultGenitive (template : Text) : Action SyntaxError Unit := do
  let template ← Template.parse template
  modify fun tables => { tables with genitives := { tables.genitives with default := template } }

/-- Gives all suffixes of ordinals. -/
def setOrdinals (ordinals : OrdinalSuffixes) : StateM Tables Unit :=
  modify fun tables => { tables with ordinals := ordinals }

/-- Gives the phrase for what is no code. -/
def setUnrelated (phrase : Text) : StateM Tables Unit :=
  modify fun tables => { tables with unrelated := phrase }

end Tables

end Kindred
