import Kindred.Pattern.Syntax
import Kindred.Text.Utf8

/-!
# The size of patterns

A pattern can be made into an automaton that reads bytes, forwards or backwards. Its states take so
many bytes of memory each, and more for their transitions; repetitions are written out, so that a
short pattern may have a large automaton. Only the automaton that reads forwards keeps groups.
`Expr.size` is the size of the larger of the two.

A set of characters beyond ASCII is made into states for the bytes of its characters. Forwards, byte
sequences that go on alike share their states behind; backwards, those that start alike do.
-/

namespace Kindred

namespace Pattern

namespace Automaton

/-- The size of a state. -/
def state : Nat := 32

/-- The size of a transition over a range of bytes, for a state with any number of them. -/
def transition : Nat := 8

/-- The size of a transition over no byte, for a state with any number of them. -/
def link : Nat := 4

/-- The size of a state with two transitions over no byte. -/
def fork : Nat := state + 2 * link

/-! ## Sets -/

/-- Byte sequences by their first ranges, each with what follows it; sequences with equal first
ranges stand side by side. -/
def byHead : List Utf8.ByteSequence → List (Utf8.ByteRange × List Utf8.ByteSequence)
  | [] => []
  | [] :: rest => byHead rest
  | (head :: tail) :: rest =>
    match byHead rest with
    | (other, tails) :: more =>
      if other = head then (head, tail :: tails) :: more else (head, [tail]) :: (other, tails) :: more
    | [] => [(head, [tail])]

/-- What is still to be read at the states of a forward automaton, for byte sequences of at most
`depth` bytes. -/
def remainders : (depth : Nat) → List Utf8.ByteSequence → List (List Utf8.ByteSequence)
  | 0, _ => []
  | depth + 1, sequences =>
    if sequences = [[]] then []
    else sequences :: (byHead sequences).flatMap fun (_, tails) => remainders depth tails

/-- How many ways to start there are among byte sequences of at most `depth` bytes, of any length
but zero. -/
def startCount : (depth : Nat) → List Utf8.ByteSequence → Nat
  | 0, _ => 0
  | depth + 1, sequences =>
    (byHead sequences).foldl (fun count (_, tails) => count + 1 + startCount depth tails) 0

/-- The size of a set of characters. A single character is a state for each of its bytes. -/
def ofSet (backwards : Bool) (set : Ranges) : Nat :=
  let sequences := Utf8.sequences set
  match set with
  | [(low, high)] =>
    if low = high then state * (Utf8.bytes low).length else ofSequences sequences
  | _ => ofSequences sequences
where
  /-- The size for several characters with such byte sequences. -/
  ofSequences (sequences : List Utf8.ByteSequence) : Nat :=
    if sequences.all fun sequence => sequence.length = 1 then
      2 * state + transition * sequences.length
    else if backwards then
      (2 + startCount 4 sequences) * state + link * sequences.length
    else
      (remainders 4 sequences).eraseDups.foldl
        (fun size sequences => size + state + transition * (byHead sequences).length) state

/-! ## Words -/

/-- The bytes of an expression that matches a single text. -/
def word? : Expr → Option (List Nat)
  | .one [(low, high)] => if low = high then some (Utf8.bytes low) else none
  | .seq a b => do some ((← word? a) ++ (← word? b))
  | _ => none

/-- The alternatives of a choice, with those of choices among them. -/
def alternatives : Expr → List Expr
  | .alt a b => alternatives a ++ alternatives b
  | e => [e]

/-- Words up to the next one that is empty, for each that is, and the words behind the last. -/
def chunks : List (List Nat) → List (List (List Nat))
  | [] => [[]]
  | [] :: rest =>
    match chunks rest with
    | [] :: more@(_ :: _) => [] :: more
    | more => [] :: more
  | word :: rest =>
    match chunks rest with
    | chunk :: more => (word :: chunk) :: more
    | [] => [[word]]

/-- The size of a tree of words, without the state where all of them end; a word has at most
`depth` bytes. -/
def ofWords : (depth : Nat) → List (List Nat) → Nat
  | 0, _ => 0
  | depth + 1, words =>
    let chunks := chunks words
    let parts := chunks.map fun chunk =>
      let heads := (chunk.filterMap List.head?).eraseDups
      if heads.isEmpty then 0
      else
        link + state + (if heads.length = 1 then 0 else transition * heads.length) +
          heads.foldl (fun size head =>
            let tails := (chunk.filter fun word => word.head? == some head).map List.tail
            size + if tails.all List.isEmpty then 0 else ofWords depth tails) 0
    parts.foldl (· + ·) (state + link * (chunks.length - 1))

/-- The size of a choice between words. -/
def ofWordChoice (backwards : Bool) (words : List (List Nat)) : Nat :=
  let words := if backwards then words.map List.reverse else words
  state + ofWords ((words.map List.length).foldl max 0 + 1) words

/-! ## Expressions -/

/-- The size of a repetition of a body of a certain size; `nullable` tells whether the body may
match the empty text. -/
def ofRepetition (least : Nat) (most : Option Nat) (nullable : Bool) (body : Nat) : Nat :=
  match most with
  | none =>
    if least = 0 then if nullable then body + 2 * fork + state else body + fork
    else least * body + fork
  | some most =>
    if least = most then least * body
    else if least = 0 ∧ most = 1 then body + fork + state
    else (if least = 0 then state else least * body) + state + (most - least) * (body + fork)

/-- The size of an expression, and the size of it as one of several alternatives. -/
def ofExpr (backwards : Bool) : Expr → Nat × Nat
  | .empty => alone state
  | .one set => alone (ofSet backwards set)
  | .look _ => alone state
  | .seq a b => alone ((ofExpr backwards a).1 + (ofExpr backwards b).1)
  | .alt a b =>
    let arms := (ofExpr backwards a).2 + (ofExpr backwards b).2
    match (alternatives a ++ alternatives b).mapM word? with
    | some words => (ofWordChoice backwards words, arms)
    | none => (2 * state + arms, arms)
  | .repeated least most _ body =>
    alone (ofRepetition least most body.mayBeEmpty (ofExpr backwards body).1)
  | .group _ body => alone ((ofExpr backwards body).1 + if backwards then 0 else 2 * state)
where
  /-- An expression of such a size that is no choice. -/
  alone (size : Nat) : Nat × Nat := (size, size + link)

/-- The size of what an automaton has besides the expression: a loop over the bytes before the
match, the end, and forwards the group of the whole match. -/
def frame (backwards : Bool) : Nat :=
  fork + 2 * state + transition + state + if backwards then 0 else 2 * state

end Automaton

/-- The size of the automata of an expression, in bytes. -/
def Expr.size (e : Expr) : Nat :=
  max (Automaton.frame false + (Automaton.ofExpr false e).1)
    (Automaton.frame true + (Automaton.ofExpr true e).1)

/-- The greatest size of a pattern: ten mebibytes. -/
def Expr.sizeLimit : Nat := 10 * 1024 * 1024

end Pattern

end Kindred
