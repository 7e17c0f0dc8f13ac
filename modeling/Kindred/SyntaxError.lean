import Kindred.Text.Position

/-!
# Syntax errors

Why and where a text is no template or no vocabulary. A reader stops at a place of the text; if
text is left there, the character found is to blame, and otherwise the text ends too early.
-/

namespace Kindred

/-- Why a text cannot be read, with the place where the reader stopped. -/
inductive SyntaxError
  /-- The character `found` starts nothing that may stand here. -/
  | unexpectedCharacter (place : Position) (found : Char)
  /-- A definition was begun and is not continued as it must be. -/
  | malformedDefinition (place : Position)
  /-- The text ends before what was begun is complete. -/
  | unexpectedEnd (place : Position)
  deriving DecidableEq, Repr

namespace SyntaxError

/-- The error of a reader that stopped between two items of `text`, before `rest`. -/
def betweenItems (text rest : Text) : SyntaxError :=
  match rest with
  | [] => .unexpectedEnd (.before text rest)
  | c :: _ => .unexpectedCharacter (.before text rest) c

/-- The error of a reader that stopped inside a definition of `text`, before `rest`. -/
def insideDefinition (text rest : Text) : SyntaxError :=
  match rest with
  | [] => .unexpectedEnd (.before text rest)
  | _ :: _ => .malformedDefinition (.before text rest)

/-- The place where the reader stopped. -/
def place : SyntaxError → Position
  | .unexpectedCharacter p _ => p
  | .malformedDefinition p => p
  | .unexpectedEnd p => p

/-- What is wrong, without the place; at the end of the text it is said of a file. -/
def reason : SyntaxError → Text
  | .unexpectedCharacter _ c => "unexpected character: '".toList ++ [c, '\'']
  | .malformedDefinition _ =>
    "parse error: Parsing Failure: ContextError \x7b context: [], cause: None \x7d".toList
  | .unexpectedEnd _ => "unexpected end of file".toList

/-- A position as it is written in messages, `LINE:COLUMN`. -/
def placeText (p : Position) : Text :=
  Text.numeral p.line ++ ':' :: Text.numeral p.column

/-- The error as one line, with its place. -/
def message (error : SyntaxError) : Text :=
  match error with
  | .unexpectedEnd p => "unexpected end of input at ".toList ++ placeText p
  | error => "syntax error at ".toList ++ placeText error.place ++ ": ".toList ++ error.reason

end SyntaxError

end Kindred
