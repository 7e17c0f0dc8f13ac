import Kindred.Tables
import Kindred.Template.Rendering
import Kindred.Term

/-!
# Applying rules

A rule is applied to the leftmost match of its pattern that is not empty. The balance of the
matched text selects a replacement, the replacement with the groups of the match in it gives a key
and perhaps a base, and the phrase of the key is filled with the degrees of the matched text
measured against the base. Where no replacement is selected the matched text is its own key, and
where the key has no phrase the match is passed over.
-/

namespace Kindred

/-- What a rule makes of a code. Both outcomes give the text before the match and after it. -/
inductive RuleOutcome
  /-- The key of the match has a phrase. -/
  | resolved (before : Text) (term : Term) (after : Text)
  /-- The key of the match has no phrase. -/
  | passedOver (before fragment after : Text)
  deriving DecidableEq, Repr

namespace Rule

/-- The text of a group of a match; a group that was not kept is empty. -/
def groupText (rule : Rule) (m : Match) : GroupRef → Text
  | .index n => (m.group? n).getD []
  | .name name => ((rule.pattern.groupNamed? name).bind m.group?).getD []

/-- The text that a match is replaced by. -/
def replacementText (rule : Rule) (m : Match) : Text :=
  match rule.template.select? (Legs.ofCode m.text).balance with
  | some replacement => replacement.expand (rule.groupText m)
  | none => m.text

/-- The term of a match, if its key has a phrase. -/
def termOf? (rule : Rule) (number : Nat) (tables : Tables) (m : Match) : Option Term :=
  let (key, base) := Replacement.splitKey (rule.replacementText m)
  (tables.term? key).map fun template =>
    let degrees := Degrees.between m.text (base.getD m.text)
    ⟨m.text, template.fillDegrees degrees tables.ordinals, .rule number key⟩

/-- What a rule makes of a code, if it matches. The number is that of the rule among the rules. -/
def apply (rule : Rule) (number : Nat) (tables : Tables) (code : Text) : Option RuleOutcome :=
  (rule.pattern.search? code).map fun m =>
    match rule.termOf? number tables m with
    | some term => .resolved m.before term m.after
    | none => .passedOver m.before m.text m.after

/-- The text before the match, the term and the text after it, if the rule has a phrase for a code. -/
def resolve? (rule : Rule) (number : Nat) (tables : Tables) (code : Text) :
    Option (Text × Term × Text) :=
  match rule.apply number tables code with
  | some (.resolved before term after) => some (before, term, after)
  | _ => none

end Rule

namespace Tables

/-- What the first rule that has a phrase for a code makes of it. -/
def firstResolved? (tables : Tables) (code : Text) : Option (Text × Term × Text) :=
  tables.rules.zipIdx.findSome? fun (rule, i) => rule.resolve? (i + 1) tables code

end Tables

end Kindred
