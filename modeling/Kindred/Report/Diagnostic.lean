import Kindred.SyntaxError

/-!
# Diagnostics

A syntax error of a file as it is shown to the author of the file: what is wrong, a hint how to
mend it, and the byte where the reader stopped.
-/

namespace Kindred

/-- A syntax error of a file. -/
structure Diagnostic where
  /-- The file and what is wrong with it. -/
  message : Text
  /-- A hint, if there is one. -/
  help : Option Text
  /-- The number of bytes before the place where the reader stopped. -/
  offset : Nat
  deriving DecidableEq, Repr

namespace Diagnostic

/-- The hint for a kind of error. -/
def hint? : SyntaxError → Option Text
  | .unexpectedEnd _ => some "check for an unterminated string or a missing ';'".toList
  | .unexpectedCharacter _ _ =>
    some "definitions start with term, rule, genitive, ordinals or unrelated".toList
  | .malformedDefinition _ => none

/-- The diagnostic for an error in the text of a file. -/
def ofSyntaxError (path text : Text) (error : SyntaxError) : Diagnostic where
  message := path ++ ": ".toList ++ error.reason
  help := hint? error
  offset := error.place.byteOffset text

end Diagnostic

end Kindred
