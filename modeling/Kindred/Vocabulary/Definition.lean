import Kindred.Ordinal
import Kindred.Rule.Template
import Kindred.Template.Basic

/-!
# Definitions of a vocabulary

A vocabulary is a list of definitions: phrases for lookup keys, rules that lead from codes to keys,
possessive forms, ordinal suffixes, and the phrase for what is no code.
-/

namespace Kindred

/-- What a possessive template is for. -/
inductive GenitiveTarget
  /-- Whole phrases in which no word has a form of its own. -/
  | default
  /-- A word. -/
  | word (word : Text)
  deriving DecidableEq, Repr

/-- The suffix of one category of ordinals. -/
structure OrdinalEntry where
  category : OrdinalCategory
  suffix : Text
  deriving DecidableEq, Repr

/-- A definition of a vocabulary. -/
inductive Definition
  /-- `term PGC = "{1} cousin";` -/
  | term (key : Text) (template : Template)
  /-- `rule "^[PMF]{3,}([PMF])$" = "P+$1#PPP";` -/
  | rule (pattern : Text) (template : RuleTemplate)
  /-- `genitive "brother" = "{0}brother's {1}";` -/
  | genitive (target : GenitiveTarget) (template : Template)
  /-- `ordinals = { one: "st", two: "nd" };` -/
  | ordinals (entries : List OrdinalEntry)
  /-- `unrelated = "unrelated";` -/
  | unrelated (phrase : Text)
  deriving DecidableEq, Repr

end Kindred
