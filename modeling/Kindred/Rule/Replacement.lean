import Kindred.Text.Basic

/-!
# Replacements

A replacement is text with references to the groups of a pattern: `$1` and `${1}` by number,
`${name}` by name, and `$$` for a dollar sign. A `$` that starts no reference stands for itself,
so that every text is a replacement.

`Replacement.expand` puts the text of each group in its place. The result is a lookup key, and
after a `#` possibly a base: `Replacement.splitKey` takes the two apart, and
`Replacement.fixedSection?` says what a section is when no group has a part in it.
-/

namespace Kindred

/-- The name by which a replacement refers to a group. -/
inductive GroupRef
  /-- The group of that number, counted from one; zero is the whole match. -/
  | index (n : Nat)
  /-- The group of that name. -/
  | name (name : Text)
  deriving DecidableEq, Repr

namespace GroupRef

/-- A reference without its dollar sign and braces. -/
def label : GroupRef → Text
  | .index n => Text.numeral n
  | .name text => text

/-- The characters that a group may be called by. -/
def isNameCharacter (c : Char) : Bool := c.isAlphanum || c == '_'

/-- The group that a name in braces refers to: an index where the name is one. -/
def ofLabel (label : Text) : GroupRef :=
  if label.all Char.isDigit then
    match Text.index? label with
    | some n => .index n
    | none => .name label
  else .name label

end GroupRef

/-- A piece of a replacement. -/
inductive ReplacementPart
  /-- Text that stands for itself. -/
  | literal (text : Text)
  /-- A reference to a group. -/
  | group (ref : GroupRef)
  deriving DecidableEq, Repr

/-- Text with references to groups. -/
abbrev Replacement := List ReplacementPart

namespace Replacement

/-! ## Reading -/

/-- A replacement with one more character of text in front. -/
def consCharacter (c : Char) : Replacement → Replacement
  | .literal text :: rest => .literal (c :: text) :: rest
  | replacement => .literal [c] :: replacement

/-- Reads what follows the opening brace of a reference: a name and the closing brace. -/
def readBraced? (text : Text) : Option (GroupRef × Text) :=
  match text.takeWhile GroupRef.isNameCharacter, text.dropWhile GroupRef.isNameCharacter with
  | c :: name, '}' :: rest => some (.ofLabel (c :: name), rest)
  | _, _ => none

/-- Reads what follows the dollar sign of a reference, and leaves the rest. -/
def readReference? (text : Text) : Option (GroupRef × Text) :=
  match text with
  | '{' :: rest => readBraced? rest
  | _ =>
    (Text.index? (text.takeWhile Char.isDigit)).map fun n =>
      (.index n, text.dropWhile Char.isDigit)

/-- The replacement that a text of at most `limit` characters denotes. -/
def readUpTo : (limit : Nat) → Text → Replacement
  | 0, _ => []
  | _ + 1, [] => []
  | limit + 1, '$' :: '$' :: rest => consCharacter '$' (readUpTo limit rest)
  | limit + 1, '$' :: rest =>
    match readReference? rest with
    | some (ref, rest) => .group ref :: readUpTo limit rest
    | none => consCharacter '$' (readUpTo limit rest)
  | limit + 1, c :: rest => consCharacter c (readUpTo limit rest)

/-- The replacement that a text denotes. -/
def read (text : Text) : Replacement := readUpTo text.length text

/-! ## Writing -/

/-- Text as it is written in a replacement, with each dollar sign doubled. -/
def escape (text : Text) : Text :=
  text.flatMap fun c => if c = '$' then ['$', '$'] else [c]

/-- A replacement as it is written, with every reference in braces. -/
def render (replacement : Replacement) : Text :=
  replacement.flatMap fun
    | .literal text => escape text
    | .group ref => '$' :: '{' :: ref.label ++ ['}']

/-- No literal is empty and no two literals are neighbours. -/
def IsNormal : Replacement → Prop
  | [] => True
  | .literal text :: rest =>
    text ≠ [] ∧ (∀ other more, rest ≠ .literal other :: more) ∧ IsNormal rest
  | .group _ :: rest => IsNormal rest

/-! ## Use -/

/-- The text of a replacement when `groupText` gives the text of each group. -/
def expand (replacement : Replacement) (groupText : GroupRef → Text) : Text :=
  replacement.flatMap fun
    | .literal text => text
    | .group ref => groupText ref

/-- The lookup key of an expanded replacement, and the base if there is one: the text up to the
first `#` and from there up to the second. -/
def splitKey (expanded : Text) : Text × Option Text :=
  match Text.splitAtMark '#' expanded with
  | none => (expanded, none)
  | some (key, rest) =>
    match Text.splitAtMark '#' rest with
    | none => (key, some rest)
    | some (base, _) => (key, some base)

/-- The groups that a replacement refers to, from left to right. -/
def groups (replacement : Replacement) : List GroupRef :=
  replacement.filterMap fun
    | .literal _ => none
    | .group ref => some ref

/-- Puts text in front of a first section and the sections behind it; each `#` of the text ends a
section. A section that is unknown stays so. -/
def consSections (first : Option Text) (later : List (Option Text)) :
    Text → Option Text × List (Option Text)
  | [] => (first, later)
  | c :: text =>
    let (first, later) := consSections first later text
    if c = '#' then (some [], first :: later) else (first.map (c :: ·), later)

/-- The first section of a replacement and the sections behind it, where the marks `#` of its text
divide it. A section is known if no group has a part in it. -/
def sections : Replacement → Option Text × List (Option Text)
  | [] => (some [], [])
  | .literal text :: rest => consSections (sections rest).1 (sections rest).2 text
  | .group _ :: rest => (none, (sections rest).2)

/-- A section of a replacement, counted from zero, if there is one and no group has a part in
it. -/
def fixedSection? (replacement : Replacement) (n : Nat) : Option Text :=
  ((replacement.sections.1 :: replacement.sections.2)[n]?).join

end Replacement

end Kindred
