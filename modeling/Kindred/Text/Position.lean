import Kindred.Text.Basic

/-!
# Positions in a text

A reader that stops somewhere in a text is reported by line and column, both counted from one.
Lines end at line feeds; a column counts bytes of UTF-8, so that an editor that works on bytes
finds the place again. `Position.afterReading` gives the position behind what was read, and
`Position.byteOffset` goes back from a position to the number of bytes before it.
-/

namespace Kindred

/-- A place in a text: a line and a column, both counted from one. -/
structure Position where
  /-- One more than the number of line feeds before the place. -/
  line : Nat
  /-- One more than the number of bytes between the start of the line and the place. -/
  column : Nat
  deriving DecidableEq, Repr

namespace Position

/-- The first place of every text. -/
def start : Position := ⟨1, 1⟩

/-- The place behind the character `c`. -/
def advance (p : Position) (c : Char) : Position :=
  if c = '\n' then ⟨p.line + 1, 1⟩ else ⟨p.line, p.column + c.utf8Size⟩

/-- The place behind the text that was read. -/
def afterReading (read : Text) : Position := read.foldl advance start

/-- The place in `text` before its last part `rest`. -/
def before (text rest : Text) : Position :=
  afterReading (text.take (text.length - rest.length))

/-- The lines of a text, each with the line feed that ends it. -/
def lines : Text → List Text
  | [] => []
  | c :: rest =>
    if c = '\n' then [c] :: lines rest
    else
      match lines rest with
      | [] => [[c]]
      | line :: more => (c :: line) :: more

/-- The number of bytes before a position, never more than the text has. -/
def byteOffset (text : Text) (p : Position) : Nat :=
  let lineStart := Text.byteLength ((lines text).take (p.line - 1)).flatten
  min (lineStart + (p.column - 1)) text.byteLength

end Position

end Kindred
