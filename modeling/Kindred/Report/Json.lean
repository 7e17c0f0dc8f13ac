import Kindred.Formatter

/-!
# JSON

Results as JSON, laid out with two blanks for each level and one member or element on a line. The
members of an object stand in the order in which they are given. All characters stand for
themselves but quotes, backslashes and the controls below the blank.
-/

namespace Kindred

/-- A value of JSON, as far as results need one. -/
inductive Json
  | null
  | bool (value : Bool)
  | number (value : Nat)
  | string (text : Text)
  | array (elements : List Json)
  | object (members : List (String × Json))

namespace Json

/-- A hexadecimal digit in lower case. -/
def hexDigit (n : Nat) : Char := Nat.digitChar n

/-- A character inside a string. -/
def escapeCharacter (c : Char) : Text :=
  if c = '"' ∨ c = '\\' then ['\\', c]
  else if c = '\n' then ['\\', 'n']
  else if c = '\r' then ['\\', 'r']
  else if c = '\t' then ['\\', 't']
  else if c = '\x08' then ['\\', 'b']
  else if c = '\x0c' then ['\\', 'f']
  else if c < ' ' then ['\\', 'u', '0', '0', hexDigit (c.toNat / 16), hexDigit (c.toNat % 16)]
  else [c]

/-- A string in quotes. -/
def quote (text : Text) : Text := '"' :: text.flatMap escapeCharacter ++ ['"']

/-- The start of a line at a level. -/
def indent (level : Nat) : Text := '\n' :: List.replicate (2 * level) ' '

mutual

/-- A value as it is written at a level. -/
def render (level : Nat) : Json → Text
  | .null => "null".toList
  | .bool true => "true".toList
  | .bool false => "false".toList
  | .number n => Text.numeral n
  | .string text => quote text
  | .array [] => ['[', ']']
  | .array (first :: rest) =>
    '[' :: indent (level + 1) ++ first.render (level + 1) ++ renderElements (level + 1) rest ++
      indent level ++ [']']
  | .object [] => ['{', '}']
  | .object (first :: rest) =>
    '{' :: indent (level + 1) ++ renderMember (level + 1) first ++ renderMembers (level + 1) rest ++
      indent level ++ ['}']

/-- Further elements of an array, each on a line of its own. -/
def renderElements (level : Nat) : List Json → Text
  | [] => []
  | first :: rest => ',' :: indent level ++ first.render level ++ renderElements level rest

/-- A member of an object. -/
def renderMember (level : Nat) : String × Json → Text
  | (name, value) => quote name.toList ++ ':' :: ' ' :: value.render level

/-- Further members of an object, each on a line of its own. -/
def renderMembers (level : Nat) : List (String × Json) → Text
  | [] => []
  | first :: rest => ',' :: indent level ++ renderMember level first ++ renderMembers level rest

end

/-! ## Results -/

/-- Where a phrase came from. -/
def ofOrigin : Origin → Json
  | .direct key => .object [("kind", .string "direct".toList), ("key", .string key)]
  | .rule n key =>
    .object [("kind", .string "rule".toList), ("rule", .number n), ("key", .string key)]
  | .literal => .object [("kind", .string "literal".toList)]

/-- A term. -/
def ofTerm (term : Term) : Json :=
  .object [("fragment", .string term.fragment), ("phrase", .string term.phrase),
    ("origin", ofOrigin term.origin)]

/-- The steps by which a code was formatted. -/
def ofExplanation (explanation : Explanation) : Json :=
  .object [("code", match explanation.code with
      | some code => .string code
      | none => .null),
    ("valid", .bool explanation.valid), ("terms", .array (explanation.terms.map ofTerm)),
    ("chained", .array (explanation.chained.map ofTerm)), ("output", .string explanation.output)]

end Json

end Kindred
