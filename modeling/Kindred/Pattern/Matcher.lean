import Std.Data.TreeSet
import Kindred.Pattern.Syntax

/-!
# Matching

Matching goes from place to place in a text. A `Way` is what can be done from a place on: it ends
at some place, or it leads nowhere. An expression turns the way on from behind it into the way on
from before it (`run`), so that the end of the whole is known when the first preferred choice is
made, and a choice is taken back if it leads nowhere.

Every choice of an expression, once its repetitions are written out, has a number. A choice that is
met again at the same place either led nowhere before or is being tried already, so it is given up
at once: this keeps loops over empty texts finite, and it bounds the work by the number of choices
times the number of places.

`run` is defined by recursion on the expression; a loop takes as many rounds as there are
characters left at most.
-/

namespace Kindred

namespace Pattern

/-- A place in a text, with the groups kept on the way to it. -/
structure Place where
  /-- The number of characters before the place. -/
  position : Nat
  /-- The character before the place. -/
  previous : Option Char
  /-- The text from the place on. -/
  rest : Text
  /-- The groups kept so far, each with its number, its start and its end; the last one first. -/
  groups : List (Nat × Nat × Nat)

namespace Place

/-- The start of a text. -/
def start (text : Text) : Place := ⟨0, none, text, []⟩

/-- The place behind the first character of a set, if the text goes on with one. -/
def step? (set : Ranges) (s : Place) : Option Place :=
  match s.rest with
  | [] => none
  | c :: rest => if set.contains c then some ⟨s.position + 1, some c, rest, s.groups⟩ else none

/-- The second place with the text from the first to it kept as a group. -/
def keep (index : Nat) (first last : Place) : Place :=
  { last with groups := (index, first.position, last.position) :: last.groups }

end Place

/-- The choices that were met, each with its number and the position where it was met. -/
abbrev Met := Std.TreeSet (Nat × Nat) (compareLex (compareOn Prod.fst) (compareOn Prod.snd))

/-- What can be done from a place on: the choices met by the end, and the end if there is one. -/
abbrev Way := Met → Place → Met × Option Place

namespace Way

/-- The way that ends where it starts. -/
def stop : Way := fun met s => (met, some s)

/-- The way that leads nowhere. -/
def blocked : Way := fun met _ => (met, none)

/-- The way across a character of a set. -/
def across (set : Ranges) (next : Way) : Way := fun met s =>
  match s.step? set with
  | some s => next met s
  | none => (met, none)

/-- The way past a test of the place. -/
def past (look : Look) (next : Way) : Way := fun met s =>
  if look.holds s.previous s.rest.head? then next met s else (met, none)

/-- The choice of a number between two ways: the first, or the second if the first leads nowhere. -/
def orElse (number : Nat) (first second : Way) : Way := fun met s =>
  if met.contains (number, s.position) then (met, none)
  else
    match first (met.insert (number, s.position)) s with
    | (met, some t) => (met, some t)
    | (met, none) => second met s

/-- The choice of a number between going through a body and going on; the body comes first if
`greedy`. -/
def prefer (number : Nat) (greedy : Bool) (body next : Way) : Way := fun met s =>
  if greedy then orElse number body next met s else orElse number next body met s

/-- The choice of a loop: once more through the body and back to the choice, or on. The number of
rounds is at most `rounds`. -/
def loop (number : Nat) (greedy : Bool) (body : Way → Way) (next : Way) : (rounds : Nat) → Way
  | 0, met, s => blocked met s
  | rounds + 1, met, s =>
    prefer number greedy (body (loop number greedy body next rounds)) next met s

/-- Through the body any number of times. -/
def anyNumber (number : Nat) (greedy : Bool) (body : Way → Way) (next : Way) : Way := fun met s =>
  loop number greedy body next (s.rest.length + 1) met s

/-- Through the body once or more. -/
def onceOrMore (number : Nat) (greedy : Bool) (body : Way → Way) (next : Way) : Way := fun met s =>
  body (loop number greedy body next (s.rest.length + 1)) met s

/-- Through so many copies of a body, from the copy `i` on. -/
def times (copy : Nat → Way → Way) (next : Way) : (i count : Nat) → Way
  | _, 0, met, s => next met s
  | i, count + 1, met, s => copy i (times copy next (i + 1) count) met s

/-- Through at most so many copies of a body, from the copy `i` on; `number` gives the number of
the choice before each. -/
def upTo (copy : Nat → Way → Way) (number : Nat → Nat) (greedy : Bool) (next : Way) :
    (i count : Nat) → Way
  | _, 0, met, s => next met s
  | i, count + 1, met, s =>
    prefer (number i) greedy (copy i (upTo copy number greedy next (i + 1) count)) next met s

end Way

/-- The way through an expression and then on. The choices of the expression are numbered from
`first` on. -/
def run : Expr → (first : Nat) → (next : Way) → Way
  | .empty, _, next => next
  | .one set, _, next => .across set next
  | .look test, _, next => .past test next
  | .seq a b, first, next => run a first (run b (first + a.choices) next)
  | .alt a b, first, next =>
    .orElse first (run a (first + 1) next) (run b (first + 1 + a.choices) next)
  | .repeated least most greedy body, first, next =>
    let number (i : Nat) : Nat := first + 1 + i * (body.choices + 1)
    let copy (i : Nat) : Way → Way := run body (number i + 1)
    match most with
    | some most => .times copy (.upTo copy number greedy next least (most - least)) 0 least
    | none =>
      if least = 0 then
        if body.mayBeEmpty then
          .prefer first greedy (.onceOrMore (number 0) greedy (copy 0) next) next
        else .anyNumber (number 0) greedy (copy 0) next
      else
        let last := least - 1
        .times copy (.onceOrMore (number last) greedy (copy last) next) 0 last
  | .group index body, first, next => fun met s =>
    run body first (fun met t => next met (s.keep index t)) met s

end Pattern

end Kindred
