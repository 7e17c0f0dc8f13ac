import Kindred.Text.Alphanumeric

/-!
# Patterns

A pattern describes texts: characters of a set, tests of a place, sequences, choices, repetitions
and groups. This module has the type of pattern expressions and what can be said of an expression
without matching it: whether it can match the empty text alone, whether it can match the empty
text at all, which groups it has and how many choices.
-/

namespace Kindred

namespace Pattern

/-! ## Tests of a place -/

/-- How the word characters around a place may be. -/
inductive WordEdge
  /-- A word starts or ends here. -/
  | boundary
  /-- No word starts or ends here. -/
  | inner
  /-- A word starts here. -/
  | start
  /-- A word ends here. -/
  | finish
  /-- No word character stands before. -/
  | startHalf
  /-- No word character follows. -/
  | finishHalf
  deriving DecidableEq, Repr

/-- A test of the place between two characters. -/
inductive Look
  /-- The text starts here. -/
  | textStart
  /-- The text ends here. -/
  | textEnd
  /-- A line starts here; with `returns` a carriage return ends lines too. -/
  | lineStart (returns : Bool)
  /-- A line ends here; with `returns` a carriage return ends lines too. -/
  | lineEnd (returns : Bool)
  /-- The word characters around the place are as said, of all scripts or of ASCII alone. -/
  | word (edge : WordEdge) (allScripts : Bool)
  deriving DecidableEq, Repr

/-- Whether a character, if there is one, is a word character. -/
def besideWord (allScripts : Bool) : Option Char → Bool
  | none => false
  | some c => if allScripts then Text.isWordCharacter c else c.isAlphanum || c == '_'

/-- Whether a test holds between the character `previous` and the character `next`. -/
def Look.holds (look : Look) (previous next : Option Char) : Bool :=
  match look with
  | .textStart => previous.isNone
  | .textEnd => next.isNone
  | .lineStart false => previous.isNone || previous == some '\n'
  | .lineStart true =>
    previous.isNone || previous == some '\n' || (previous == some '\r' && next != some '\n')
  | .lineEnd false => next.isNone || next == some '\n'
  | .lineEnd true =>
    next.isNone || next == some '\r' || (next == some '\n' && previous != some '\r')
  | .word edge allScripts =>
    let before := besideWord allScripts previous
    let after := besideWord allScripts next
    match edge with
    | .boundary => before != after
    | .inner => before == after
    | .start => !before && after
    | .finish => before && !after
    | .startHalf => !before
    | .finishHalf => !after

/-! ## Expressions -/

/-- A pattern expression. -/
inductive Expr
  /-- The empty text. -/
  | empty
  /-- One character of a set. -/
  | one (set : Ranges)
  /-- The empty text at a place that passes a test. -/
  | look (test : Look)
  /-- A text of the first expression and then one of the second. -/
  | seq (first second : Expr)
  /-- A text of either expression; those of the first are preferred. -/
  | alt (first second : Expr)
  /-- So many texts of an expression, one after the other; as many as possible if `greedy`, and
  otherwise as few as possible. Without `most` there is no upper limit. -/
  | repeated (least : Nat) (most : Option Nat) (greedy : Bool) (body : Expr)
  /-- A text of an expression, kept as the group of that number. -/
  | group (index : Nat) (body : Expr)
  deriving DecidableEq, Repr

namespace Expr

/-- Whether an expression is the empty text. -/
def isEmpty : Expr → Bool
  | .empty => true
  | _ => false

/-- Two expressions one after the other. -/
def followedBy (a b : Expr) : Expr :=
  if a.isEmpty then b else if b.isEmpty then a else .seq a b

/-- Expressions one after the other. -/
def ofSequence (parts : List Expr) : Expr := parts.foldr followedBy .empty

/-- The set of an expression that is one character of a set, and whether the set has just one. -/
def set? : Expr → Option (Ranges × Bool)
  | .one [(low, high)] => some ([(low, high)], low == high)
  | .one set => some (set, false)
  | _ => none

/-- A choice between expressions, the first preferred. Single characters make one set together, and
so do sets. -/
def ofChoice (parts : List Expr) : Expr :=
  let sets := parts.filterMap set?
  if 2 ≤ parts.length ∧ sets.length = parts.length ∧ (sets.all Prod.snd ∨ !sets.any Prod.snd) then
    .one (.ofList (sets.flatMap Prod.fst))
  else orFold parts
where
  /-- The choice between expressions as it stands. -/
  orFold : List Expr → Expr
    | [] => .empty
    | [e] => e
    | e :: rest => .alt e (orFold rest)

/-- Whether an expression matches no character, wherever it matches. -/
def isZeroWidth : Expr → Bool
  | .empty => true
  | .one _ => false
  | .look _ => true
  | .seq a b => a.isZeroWidth && b.isZeroWidth
  | .alt a b => a.isZeroWidth && b.isZeroWidth
  | .repeated _ most _ body => most == some 0 || body.isZeroWidth
  | .group _ body => body.isZeroWidth

/-- Whether an expression may match no character somewhere. -/
def mayBeEmpty : Expr → Bool
  | .empty => true
  | .one _ => false
  | .look _ => true
  | .seq a b => a.mayBeEmpty && b.mayBeEmpty
  | .alt a b => a.mayBeEmpty || b.mayBeEmpty
  | .repeated least _ _ body => least == 0 || body.mayBeEmpty
  | .group _ body => body.mayBeEmpty

/-- A repetition in its simplest form: none at all is the empty text, exactly one is the body, and
of a body that matches no character one copy is as good as many. -/
def repetition (least : Nat) (most : Option Nat) (greedy : Bool) (body : Expr) : Expr :=
  let clip := body.isZeroWidth
  let least := if clip then min least 1 else least
  let most := if clip then some (min (most.getD 1) 1) else most
  if most == some 0 then .empty
  else if least == 1 && most == some 1 then body
  else .repeated least most greedy body

/-- The numbers of the groups of an expression. -/
def groups : Expr → List Nat
  | .empty => []
  | .one _ => []
  | .look _ => []
  | .seq a b => a.groups ++ b.groups
  | .alt a b => a.groups ++ b.groups
  | .repeated _ _ _ body => body.groups
  | .group index body => index :: body.groups

/-- How many choices an expression has with its repetitions written out, at most. -/
def choices : Expr → Nat
  | .empty => 0
  | .one _ => 0
  | .look _ => 0
  | .seq a b => a.choices + b.choices
  | .alt a b => a.choices + b.choices + 1
  | .repeated least most _ body => most.getD (least + 1) * (body.choices + 1) + 1
  | .group _ body => body.choices

end Expr

end Pattern

end Kindred
