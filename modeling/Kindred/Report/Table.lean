import Kindred.Formatter
import Kindred.Text.Quoted
import Kindred.Text.Width

/-!
# The table of an explanation

The steps by which a code was formatted, a term in each row: its fragment, where its phrase came
from, the phrase, and the phrase in the chain, in quotes. The table has a frame and a line below
its head. Every column is as wide as its widest line; a cell with several lines takes several lines
of the table.
-/

namespace Kindred

namespace Table

/-- The lines of a cell. -/
abbrev Cell := List Text

/-- The cell of a text, with the text parted at its line feeds. -/
def cell : Text → Cell
  | [] => [[]]
  | c :: rest =>
    if c = '\n' then [] :: cell rest
    else
      match cell rest with
      | line :: more => (c :: line) :: more
      | [] => [[c]]

/-- The width of the widest line of some cells. -/
def widest (cells : List Cell) : Nat := (cells.flatten.map Text.width).foldl max 0

/-- A line of a cell with blanks up to the width of its column, and one blank on each side. -/
def pad (width : Nat) (line : Text) : Text :=
  ' ' :: line ++ List.replicate (width - Text.width line) ' ' ++ [' ']

/-- Texts with a blank between each two. -/
def joinColumns : List Text → Text
  | [] => []
  | [last] => last
  | first :: rest => first ++ ' ' :: joinColumns rest

/-- The lines of a row. -/
def rowLines (widths : List Nat) (row : List Cell) : List Text :=
  let height := (row.map List.length).foldl max 0
  (List.range height).map fun i =>
    let columns := (widths.zip row).map fun (width, lines) => pad width (lines[i]?.getD [])
    '│' :: joinColumns columns ++ ['│']

/-- A line across the table. -/
def ruler (left fill right : Char) (length : Nat) : Text :=
  left :: List.replicate length fill ++ [right]

/-- The lines of a table with a head and rows; all rows are as long as the head. -/
def render (head : List Cell) (rows : List (List Cell)) : List Text :=
  let widths := (List.range head.length).map fun i =>
    widest ((head :: rows).filterMap fun row => row[i]?)
  let length := widths.foldl (fun length width => length + width + 3) 0 - 1
  ruler '┌' '─' '┐' length :: rowLines widths head ++ ruler '╞' '═' '╡' length ::
    rows.flatMap (rowLines widths) ++ [ruler '└' '─' '┘' length]

/-- Where a phrase came from, as the table says it. -/
def sourceText : Origin → Text
  | .direct key => "term ".toList ++ key
  | .rule number key => "rule #".toList ++ Text.numeral number ++ " -> ".toList ++ key
  | .literal => "literal".toList

/-- The head of the table of an explanation. -/
def head : List Cell := ["Fragment", "Source", "Phrase", "Chained"].map fun text => cell text.toList

/-- The row of a term and the same term in the chain. -/
def row (term chained : Term) : List Cell :=
  [term.fragment, sourceText term.origin, term.phrase, Text.showQuoted chained.phrase].map cell

/-- The lines of the table of an explanation. -/
def ofExplanation (explanation : Explanation) : List Text :=
  render head (explanation.terms.zipWith row explanation.chained)

end Table

end Kindred
