import Kindred.Pattern.Reader
import Kindred.Tables
import Kindred.Vocabulary.English
import Kindred.Vocabulary.Reader

/-!
# Loading vocabularies

Tables are loaded from a text or from a file. A file may be missing or hold bytes that are no text,
a text may be no vocabulary, and a rule of a vocabulary may have no pattern; an error says which,
with the path of the file.
-/

namespace Kindred

/-- What is found under a path. -/
inductive FileContent
  /-- A text. -/
  | text (content : Text)
  /-- Bytes that are no text in UTF-8. -/
  | notText
  /-- Nothing that can be read, for the reason given. -/
  | unreadable (reason : Text)
  deriving DecidableEq, Repr

namespace FileContent

/-- There is no file under the path. -/
def missing : FileContent := .unreadable "No such file or directory (os error 2)".toList

/-- The content of a file with the given bytes. -/
def ofBytes (bytes : ByteArray) : FileContent :=
  match String.fromUTF8? bytes with
  | some s => .text s.toList
  | none => .notText

/-- The text of a file, or why there is none. -/
def read : FileContent → Except Text Text
  | .text content => .ok content
  | .notText => .error "stream did not contain valid UTF-8".toList
  | .unreadable reason => .error reason

end FileContent

/-- Why a vocabulary could not be loaded. -/
inductive LoadError
  /-- The file could not be read. -/
  | unreadable (path reason : Text)
  /-- The text is no vocabulary. -/
  | malformed (path : Text) (error : SyntaxError)
  /-- A rule has a pattern that cannot be read. -/
  | invalidPattern (path : Text) (error : InvalidPattern)
  deriving DecidableEq, Repr

namespace LoadError

/-- An error as one line, without what the dialect says of a pattern that cannot be read. -/
def summary : LoadError → Text
  | .unreadable path reason =>
    "failed to read '".toList ++ path ++ "': ".toList ++ reason
  | .malformed path error =>
    path ++ ':' :: SyntaxError.placeText error.place ++ ": ".toList ++ error.reason
  | .invalidPattern path error =>
    path ++ ": rule #".toList ++ Text.numeral error.rule ++ " has an invalid pattern '".toList ++
      error.pattern ++ "': ".toList

/-- An error with all that is said of it. -/
def message (error : LoadError) : Text :=
  match error with
  | .invalidPattern _ e => error.summary ++ e.message
  | _ => error.summary

end LoadError

namespace Vocabulary

/-- The tables of definitions, which are named as coming from `path`. -/
def loadDefinitions (dialect : Pattern.Dialect) (path : Text) (definitions : List Definition) :
    Except LoadError Tables :=
  match Tables.ofDefinitions dialect definitions with
  | .ok tables => .ok tables
  | .error e => .error (.invalidPattern path e)

/-- The tables of a text, which is named as coming from `path`. -/
def loadText (dialect : Pattern.Dialect) (path text : Text) : Except LoadError Tables :=
  match read text with
  | .ok definitions => loadDefinitions dialect path definitions
  | .error e => .error (.malformed path e)

/-- The tables of a file. -/
def loadFile (dialect : Pattern.Dialect) (path : Text) (content : FileContent) :
    Except LoadError Tables :=
  match content.read with
  | .ok text => loadText dialect path text
  | .error reason => .error (.unreadable path reason)

/-- The tables of a text that comes from no file. -/
def load (dialect : Pattern.Dialect) (text : Text) : Except LoadError Tables :=
  loadText dialect "<string>".toList text

/-- The tables of the English vocabulary in a dialect. -/
def English.tablesIn (dialect : Pattern.Dialect) : Tables :=
  (load dialect English.source).toOption.getD .empty

/-- The tables of the English vocabulary. -/
def English.tables : Tables := English.tablesIn .builtIn

end Vocabulary

end Kindred
