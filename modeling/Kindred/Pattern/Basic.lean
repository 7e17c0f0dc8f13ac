import Kindred.Pattern.Matcher

/-!
# Searching with patterns

A pattern is an expression with names for some of its groups. It matches a text at the first place
from which it matches at all, and there its preferred match counts. `Pattern.search?` finds the
leftmost match that is not empty: at a place where the preferred match is empty the search goes on
one character further.

A match is a piece of the text searched, with the text before it and the text after it
(`Match.IsIn`).
-/

namespace Kindred

/-- A pattern: what it matches, and the names of its groups. -/
structure Pattern where
  /-- The text from which the pattern was read. -/
  source : Text
  /-- What the pattern matches. -/
  expr : Pattern.Expr
  /-- The names of groups, each with the number of its group. -/
  names : List (Text × Nat)
  deriving DecidableEq, Repr

/-- A match in a text. -/
structure Match where
  /-- The text before the match. -/
  before : Text
  /-- The text that is matched. -/
  text : Text
  /-- The text after the match. -/
  after : Text
  /-- The texts of the groups, each with its number; the last one kept comes first. -/
  groups : List (Nat × Text)
  deriving DecidableEq, Repr

namespace Match

/-- A match lies in a text if it is a piece of it. -/
def IsIn (m : Match) (text : Text) : Prop := text = m.before ++ m.text ++ m.after

/-- The text of a group; zero is the whole match. -/
def group? (m : Match) (index : Nat) : Option Text :=
  if index = 0 then some m.text
  else (m.groups.find? fun (i, _) => i == index).map Prod.snd

end Match

namespace Pattern

/-- One more than the greatest number of a group. -/
def groupCount (p : Pattern) : Nat := p.expr.groups.foldl max 0 + 1

/-- The number of the group of a name. -/
def groupNamed? (p : Pattern) (name : Text) : Option Nat :=
  (p.names.find? fun (n, i) => n == name && p.expr.groups.contains i).map Prod.snd

/-- The piece of a text from one place to another. -/
def piece (text : Text) (first last : Nat) : Text := (text.drop first).take (last - first)

/-- The match of `text` that leads from a position to a place. -/
def matchOf (text : Text) (first : Nat) (s : Place) : Match where
  before := text.take first
  text := piece text first s.position
  after := text.drop (max first s.position)
  groups := s.groups.map fun (index, i, j) => (index, piece text i j)

/-- Where the preferred match of a pattern from a place ends, and the choices met by then. -/
def matchFrom (p : Pattern) : Way := run p.expr 0 .stop

/-- Whether a pattern matches the empty text. -/
def matchesEmpty (p : Pattern) : Bool := (p.matchFrom ∅ (.start [])).2.isSome

/-- Where the leftmost match that is not empty starts and ends, from the place behind `position`
characters on. The choices met in attempts that led nowhere need not be tried again from further
right. -/
def searchFrom (p : Pattern) (met : Met) (position : Nat) (previous : Option Char) :
    Text → Option (Nat × Place)
  | [] => none
  | c :: rest =>
    match p.matchFrom met ⟨position, previous, c :: rest, []⟩ with
    | (_, some s) =>
      if s.position = position then searchFrom p ∅ (position + 1) (some c) rest
      else some (position, s)
    | (met, none) => searchFrom p met (position + 1) (some c) rest

/-- The leftmost match in a text that is not empty. -/
def search? (p : Pattern) (text : Text) : Option Match :=
  (searchFrom p ∅ 0 none text).map fun (first, s) => matchOf text first s

end Pattern

end Kindred
