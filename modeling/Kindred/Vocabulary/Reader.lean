import Kindred.Template.Reader
import Kindred.Text.Alphanumeric
import Kindred.Vocabulary.Definition

/-!
# Reading vocabularies

A vocabulary is written as definitions with blanks and comments between them; a comment runs from
`//` to the end of its line. A definition starts with a word that says its kind. Once that word is
read the definition must be completed, and where it cannot be, the reader stops inside it; a text
at whose front no definition starts makes the reader stop between definitions.

A reader takes a text and gives what it read with the rest, or the rest at which it stopped. Where
one thing of several may stand, or something may be missing, reading starts again from the same
place, so that the place of an error is where the last attempt started.
-/

namespace Kindred

namespace Vocabulary

/-- Reads something from the front of a text; it stops with the text it could not go on from. -/
abbrev Reader (α : Type) := StateT Text (Except Text) α

/-! ## Blanks, signs and words -/

/-- A text without the blanks and comments at its front; `inComment` holds inside a comment. -/
def skipTriviaFrom (inComment : Bool) : Text → Text
  | [] => []
  | c :: rest =>
    if inComment then skipTriviaFrom (c != '\n') rest
    else if Text.isBlank c then skipTriviaFrom false rest
    else
      match c, rest with
      | '/', '/' :: _ => skipTriviaFrom true rest
      | _, _ => c :: rest

/-- A text without the blanks and comments at its front. -/
def skipTrivia (text : Text) : Text := skipTriviaFrom false text

/-- Leaves out blanks and comments. -/
def trivia : Reader Unit := fun text => .ok ((), skipTrivia text)

/-- Reads one given character. -/
def sign (c : Char) : Reader Unit := fun text =>
  match text with
  | d :: rest => if d = c then .ok ((), rest) else .error text
  | [] => .error text

/-- Reads an equals sign with the blanks and comments around it. -/
def equals : Reader Unit := do
  trivia
  sign '='
  trivia

/-- Reads a semicolon with the blanks and comments before it. -/
def semicolon : Reader Unit := do
  trivia
  sign ';'

/-- Reads the rest of a text in quotes behind the opening one. -/
def unquote : Reader Text := fun text =>
  match text.dropWhile (· != '"') with
  | '"' :: rest => .ok (text.takeWhile (· != '"'), rest)
  | rest => .error rest

/-- Reads a text in quotes. It holds no quote, and nothing in it means anything else. -/
def quoted : Reader Text := do
  sign '"'
  unquote

/-- Reads a non-empty run of characters of a kind. -/
def run (kind : Char → Bool) : Reader Text := fun text =>
  match text.takeWhile kind with
  | [] => .error text
  | word => .ok (word, text.dropWhile kind)

/-- Reads by the first reader, or from the same place by the second. -/
def either {α : Type} (first second : Reader α) : Reader α := fun text =>
  match first text with
  | .ok result => .ok result
  | .error _ =>
    match second text with
    | .ok result => .ok result
    | .error _ => .error text

/-- The characters of a key without quotes. -/
def isKeyCharacter (c : Char) : Bool := c.isAlphanum || c == '+'

/-- The characters of a word without quotes. -/
def isWordCharacter (c : Char) : Bool := Text.isAlphanumeric c || c == '_'

/-- Reads the key of a term, in quotes or without. -/
def termKey : Reader Text := either quoted (run isKeyCharacter)

/-- What a genitive's word without quotes stands for. -/
def bareTarget (word : Text) : GenitiveTarget :=
  if word = "default".toList then .default else .word word

/-- Reads what a genitive is for: a word in quotes, or one without, of which `default` is none. -/
def genitiveTarget : Reader GenitiveTarget :=
  either (GenitiveTarget.word <$> quoted) (bareTarget <$> run isWordCharacter)

/-- The token at the front of a text in quotes. A quote is no token: the text ends there. -/
def quotedToken? : Text → Option (Template.Token × Text)
  | '"' :: _ => none
  | text => Template.readToken? text

/-- Reads a run of tokens, as far as it goes. -/
def tokens : Reader Template := fun text =>
  .ok (Template.scanTokens quotedToken? text.length text)

/-- Reads a template in quotes. The reader stops where the template does. -/
def template : Reader Template := do
  sign '"'
  let template ← tokens
  sign '"'
  return template

/-! ## The kinds of definitions -/

/-- Reads a term behind its first word. -/
def termBody : Reader Definition := do
  let key ← termKey
  equals
  let template ← template
  semicolon
  return .term key template

/-- Reads a rule behind its first word. -/
def ruleBody : Reader Definition := do
  let pattern ← quoted
  equals
  let template ← quoted
  semicolon
  return .rule pattern (.read template)

/-- Reads a genitive behind its first word. -/
def genitiveBody : Reader Definition := do
  let target ← genitiveTarget
  equals
  let template ← template
  semicolon
  return .genitive target template

/-- Reads an entry of an ordinals block: a category, a colon and a suffix in quotes. -/
def ordinalEntry : Reader OrdinalEntry := do
  let name ← run isWordCharacter
  match OrdinalCategory.ofName? name with
  | none => fun text => .error text
  | some category =>
    trivia
    sign ':'
    trivia
    let suffix ← quoted
    return ⟨category, suffix⟩

/-- Reads a comma with the blanks and comments before it. -/
def comma : Reader Unit := do
  trivia
  sign ','

/-- Reads a comma and an entry behind it. -/
def nextEntry : Reader OrdinalEntry := do
  comma
  trivia
  ordinalEntry

/-- Reads further entries, at most `limit` of them, as far as they go. -/
def moreEntries : (limit : Nat) → Text → List OrdinalEntry × Text
  | 0, text => ([], text)
  | limit + 1, text =>
    match nextEntry text with
    | .error _ => ([], text)
    | .ok (entry, rest) =>
      let (entries, rest) := moreEntries limit rest
      (entry :: entries, rest)

/-- Reads the entries of an ordinals block, if there are any, and a comma behind them, if there is
one. -/
def ordinalEntries : Reader (List OrdinalEntry) := fun text =>
  let (entries, rest) := match ordinalEntry text with
    | .error _ => ([], text)
    | .ok (entry, rest) =>
      let (entries, rest) := moreEntries rest.length rest
      (entry :: entries, rest)
  match comma rest with
  | .error _ => .ok (entries, rest)
  | .ok ((), rest) => .ok (entries, rest)

/-- Reads an ordinals block behind its first word. -/
def ordinalsBody : Reader Definition := do
  equals
  sign '{'
  trivia
  let entries ← ordinalEntries
  trivia
  sign '}'
  semicolon
  return .ordinals entries

/-- Reads the phrase for what is no code behind its first word. -/
def unrelatedBody : Reader Definition := do
  equals
  let phrase ← quoted
  semicolon
  return .unrelated phrase

/-! ## Definitions -/

/-- What follows a word and at least one blank, without the blanks. -/
def afterWord? (word : String) (text : Text) : Option Text :=
  match Text.afterMark? word.toList text with
  | some (c :: rest) => if Text.isBlank c then some (Text.skipBlanks rest) else none
  | _ => none

/-- The reader for the definition that starts at the front of a text, with the text behind the
word that starts it; `none` if no definition starts there. -/
def head? (text : Text) : Option (Reader Definition × Text) :=
  match afterWord? "term" text with
  | some rest => some (termBody, rest)
  | none =>
  match afterWord? "rule" text with
  | some rest => some (ruleBody, rest)
  | none =>
  match afterWord? "genitive" text with
  | some rest => some (genitiveBody, rest)
  | none =>
  match Text.afterMark? "ordinals".toList text with
  | some rest => some (ordinalsBody, rest)
  | none =>
  match Text.afterMark? "unrelated".toList text with
  | some rest => some (unrelatedBody, rest)
  | none => none

/-- Reads at most `limit` definitions and the blanks and comments behind each, up to where no
further definition starts. -/
def definitionsUpTo : (limit : Nat) → Reader (List Definition)
  | 0 => fun text => .ok ([], text)
  | limit + 1 => fun text =>
    match head? text with
    | none => .ok ([], text)
    | some (body, rest) =>
      match body rest with
      | .error stop => .error stop
      | .ok (definition, rest) =>
        match definitionsUpTo limit (skipTrivia rest) with
        | .error stop => .error stop
        | .ok (definitions, rest) => .ok (definition :: definitions, rest)

/-- The definitions of a vocabulary. -/
def read (text : Text) : Except SyntaxError (List Definition) :=
  match definitionsUpTo text.length (skipTrivia text) with
  | .error stop => .error (.insideDefinition text stop)
  | .ok (definitions, []) => .ok definitions
  | .ok (_, rest) => .error (.betweenItems text rest)

end Vocabulary

end Kindred
