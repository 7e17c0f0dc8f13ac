import Kindred.SyntaxError
import Kindred.Template.Basic

/-!
# Reading templates

A template is a run of tokens: a doubled brace, which stands for one brace; a placeholder; or a
character that is no brace. `Template.scan` reads the longest such run and leaves the rest, and
`Template.parse` accepts the texts of which nothing is left. A text that is refused is blamed at
the brace where the longest run of tokens ends.
-/

namespace Kindred

namespace Template

/-- The style named at the front of a text, if one is named after a colon, and what follows. -/
def readStyle (text : Text) : Option NumberStyle × Text :=
  match text with
  | ':' :: 'O' :: 'N' :: rest => (some .ordinal, rest)
  | ':' :: 'C' :: 'N' :: rest => (some .cardinal, rest)
  | _ => (none, text)

/-- Reads what follows the opening brace of a placeholder: blanks, an index, perhaps a style,
blanks and the closing brace. -/
def readPlaceholder? (text : Text) : Option (Segment × Text) :=
  let text := Text.skipBlanks text
  match Text.index? (text.takeWhile Char.isDigit) with
  | none => none
  | some index =>
    let (style, rest) := readStyle (text.dropWhile Char.isDigit)
    match Text.skipBlanks rest with
    | '}' :: rest => some (.placeholder index style, rest)
    | _ => none

/-- A token of a template. -/
inductive Token
  /-- A character of text. -/
  | character (c : Char)
  /-- A placeholder. -/
  | gap (segment : Segment)

/-- The token at the front of a text, and what follows it. -/
def readToken? : Text → Option (Token × Text)
  | [] => none
  | '{' :: '{' :: rest => some (.character '{', rest)
  | '}' :: '}' :: rest => some (.character '}', rest)
  | '{' :: rest => (readPlaceholder? rest).map fun (segment, rest) => (.gap segment, rest)
  | '}' :: _ => none
  | c :: rest => some (.character c, rest)

/-- The longest run of at most `limit` tokens at the front of a text, and what follows it, where
`token?` tells the token at the front of a text. -/
def scanTokens (token? : Text → Option (Token × Text)) : (limit : Nat) → Text → Template × Text
  | 0, text => ([], text)
  | limit + 1, text =>
    match token? text with
    | none => ([], text)
    | some (token, rest) =>
      let (template, rest) := scanTokens token? limit rest
      match token with
      | .character c => (consCharacter c template, rest)
      | .gap segment => (segment :: template, rest)

/-- The longest run of tokens at the front of a text, and what follows it. A text has no more
tokens than characters. -/
def scan (text : Text) : Template × Text := scanTokens readToken? text.length text

/-- Reads a whole text as a template. -/
def parse (text : Text) : Except SyntaxError Template :=
  match scan text with
  | (template, []) => .ok template
  | (_, rest) => .error (.betweenItems text rest)

end Template

end Kindred
