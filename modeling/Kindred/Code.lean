import Kindred.Text.Basic

/-!
# Kinship codes

A code is a path through a family tree, one letter per hop. A letter goes up to a parent, down
to a child, across to a sibling or across to a spouse; it may name the sex of the person reached
or leave it open.

| Hop     | Letters   | Neutral letter |
|---------|-----------|----------------|
| parent  | `P F M`   | `P`            |
| child   | `C S D`   | `C`            |
| sibling | `G B Z`   | `G`            |
| spouse  | `E H W`   | `E`            |

The letter `I` is the person from whom the path starts. It belongs to the alphabet and makes no
hop.
-/

namespace Kindred

/-- A step of a path through a family tree. -/
inductive Hop
  /-- One generation up: parent, father, mother. -/
  | parent
  /-- One generation down: child, son, daughter. -/
  | child
  /-- The same generation through a shared parent: sibling, brother, sister. -/
  | sibling
  /-- The same generation through marriage: spouse, husband, wife. -/
  | spouse
  deriving DecidableEq, Repr

namespace Hop

/-- The hop that a letter makes; `I` and the characters outside the alphabet make none. -/
def ofLetter? (letter : Char) : Option Hop :=
  if letter = 'P' ∨ letter = 'F' ∨ letter = 'M' then some .parent
  else if letter = 'C' ∨ letter = 'S' ∨ letter = 'D' then some .child
  else if letter = 'G' ∨ letter = 'B' ∨ letter = 'Z' then some .sibling
  else if letter = 'E' ∨ letter = 'H' ∨ letter = 'W' then some .spouse
  else none

/-- The letter for a hop that leaves the sex of the person reached open. -/
def neutralLetter : Hop → Char
  | .parent => 'P'
  | .child => 'C'
  | .sibling => 'G'
  | .spouse => 'E'

@[simp] theorem ofLetter?_neutralLetter (hop : Hop) : ofLetter? hop.neutralLetter = some hop := by
  cases hop <;> decide

end Hop

namespace Code

/-- The letters that a code may hold, in alphabetical order. -/
def alphabet : Text := ['B', 'C', 'D', 'E', 'F', 'G', 'H', 'I', 'M', 'P', 'S', 'W', 'Z']

/-- A code is a non-empty text over the alphabet. -/
def isCode (text : Text) : Bool :=
  !text.isEmpty && text.all fun c => alphabet.contains c

/-- The neutral letter of the hop that `letter` makes, or `letter` itself if it makes none. -/
def neutral (letter : Char) : Char :=
  match Hop.ofLetter? letter with
  | some hop => hop.neutralLetter
  | none => letter

/-- A code with its first `n` letters made neutral and the others kept. -/
def neutralize : Text → Nat → Text
  | [], _ => []
  | code, 0 => code
  | letter :: code, n + 1 => neutral letter :: neutralize code n

/-- Whether a letter makes the given hop. -/
def makes (hop : Hop) (letter : Char) : Bool := Hop.ofLetter? letter == some hop

end Code

/-- How many generations a path climbs and how many it descends. -/
structure Legs where
  /-- The number of hops to a parent. -/
  up : Nat
  /-- The number of hops to a child. -/
  down : Nat
  deriving DecidableEq, Repr

namespace Legs

/-- The legs of a path. -/
def ofCode (code : Text) : Legs :=
  ⟨code.countP (Code.makes .parent), code.countP (Code.makes .child)⟩

/-- Generations up minus generations down. -/
def balance (legs : Legs) : Int := legs.up - legs.down

end Legs

end Kindred
