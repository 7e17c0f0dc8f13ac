import Kindred.Pattern.Dialect
import Kindred.Pattern.Size
import Kindred.Text.CaseFolding

/-!
# Reading patterns

A pattern is written with the usual signs: `.` and `[...]` for a character of a set, `\d`, `\s` and
`\w` for digits, spaces and word characters, `^`, `$`, `\A`, `\z`, `\b` and `\B` for places, `|`
for a choice, `?`, `*`, `+` and `{m,n}` for repetition with a further `?` for the short ones first,
and `(...)`, `(?<name>...)` and `(?:...)` for groups. Flags such as `(?i)` hold to the end of the
group they stand in. There is no looking around and no back reference.

`Pattern.read` goes over the text once, with a stack of the groups that are open. It says why a
text is no pattern. This is the dialect of patterns that the library has of its own
(`Pattern.Dialect.builtIn`). Its properties of characters, as in `\p{...}`, are a few only: any
character, ASCII, letters, white space, decimal digits, numbers, marks, connectors and joiners. A
dialect with a full table of properties has patterns that are none here.
-/

namespace Kindred

/-- Why a text is no pattern. -/
inductive PatternError
  /-- A group is closed that was not opened. -/
  | groupUnopened
  /-- A group is not closed. -/
  | groupUnclosed
  /-- The name of a group is missing, unfinished, ill formed or used twice. -/
  | groupName
  /-- The flags of a group are missing, unknown, repeated or unfinished. -/
  | flags
  /-- A set of characters is not closed. -/
  | setUnclosed
  /-- A range of a set has no characters or a bound that is no character. -/
  | setRange
  /-- Something stands in a set that is no character and no set. -/
  | setItem
  /-- A sign of repetition has nothing to repeat. -/
  | nothingToRepeat
  /-- The counts of a repetition are missing, unfinished or out of order. -/
  | counts
  /-- A backslash is followed by nothing that it could stand before. -/
  | escape
  /-- A property of characters is not known. -/
  | property
  /-- A text around the match is asked for. -/
  | lookAround
  /-- A set would hold parts of characters. -/
  | partialCharacters
  /-- The pattern is nested too deeply. -/
  | tooDeep
  /-- The pattern is too large with its repetitions written out. -/
  | tooLarge
  deriving DecidableEq, Repr

/-- What the built-in dialect says of a text that is no pattern. Every dialect has words of its
own. -/
def PatternError.message : PatternError → Text
  | .groupUnopened => "unopened group".toList
  | .groupUnclosed => "unclosed group".toList
  | .groupName => "invalid capture group name".toList
  | .flags => "invalid flags".toList
  | .setUnclosed => "unclosed character class".toList
  | .setRange => "invalid character class range".toList
  | .setItem => "invalid item in character class".toList
  | .nothingToRepeat => "repetition operator missing expression".toList
  | .counts => "invalid repetition count range".toList
  | .escape => "invalid escape sequence".toList
  | .property => "character property not found".toList
  | .lookAround => "look-around is not supported".toList
  | .partialCharacters => "pattern can match parts of characters".toList
  | .tooDeep => "pattern is nested too deeply".toList
  | .tooLarge => "pattern is too large".toList

namespace Pattern

namespace Reader

/-! ## Flags -/

/-- The flags of a pattern, or of a part of it. -/
structure Flags where
  /-- `i`: characters that differ in case alone are the same. -/
  ignoreCase : Bool := false
  /-- `m`: `^` and `$` hold at lines. -/
  multiLine : Bool := false
  /-- `s`: `.` is any character. -/
  dotAll : Bool := false
  /-- `U`: repetitions try the short ones first, and those with a further `?` the long ones. -/
  swapGreed : Bool := false
  /-- `u`: classes are those of all scripts. -/
  allScripts : Bool := true
  /-- `R`: a carriage return ends a line too. -/
  returns : Bool := false
  /-- `x`: white space and comments in the pattern mean nothing. -/
  verbose : Bool := false

/-- Flags with the one of a letter set. -/
def Flags.set? (flags : Flags) (letter : Char) (value : Bool) : Option Flags :=
  if letter = 'i' then some { flags with ignoreCase := value }
  else if letter = 'm' then some { flags with multiLine := value }
  else if letter = 's' then some { flags with dotAll := value }
  else if letter = 'U' then some { flags with swapGreed := value }
  else if letter = 'u' then some { flags with allScripts := value }
  else if letter = 'R' then some { flags with returns := value }
  else if letter = 'x' then some { flags with verbose := value }
  else none

/-- Leaves out what means nothing in a verbose pattern: white space, and comments from `#` to the
end of the line. -/
def skipVerbose (inComment : Bool) : Text → Text
  | [] => []
  | c :: rest =>
    if inComment then skipVerbose (c != '\n') rest
    else if Text.isSpace c then skipVerbose false rest
    else if c = '#' then skipVerbose true rest
    else c :: rest

/-- Leaves out what means nothing at the front of a text. -/
def skip (flags : Flags) (text : Text) : Text :=
  if flags.verbose then skipVerbose false text else text

/-- Reads flags up to a colon or a closing parenthesis. `seen` are the letters read so far, and
`value` is what the next letters are set to; `dangling` is set right after a dash. The closing
character is given with the rest. -/
def readFlags (flags : Flags) (seen : List Char) (value dangling : Bool) :
    Text → Except PatternError (Flags × List Char × Char × Text)
  | [] => .error .flags
  | c :: rest =>
    if c = ':' ∨ c = ')' then
      if dangling then .error .flags else .ok (flags, seen, c, rest)
    else if seen.contains c then .error .flags
    else if c = '-' then readFlags flags (c :: seen) false true rest
    else
      match flags.set? c value with
      | none => .error .flags
      | some flags => readFlags flags (c :: seen) value false rest

/-! ## Sets of characters -/

/-- The line ends that `.` does not match. -/
def lineEnds (flags : Flags) : Ranges :=
  if flags.returns then [(10, 10), (13, 13)] else [(10, 10)]

/-- The set of `.`. -/
def dot (flags : Flags) : Except PatternError Expr :=
  if !flags.allScripts then .error .partialCharacters
  else if flags.dotAll then .ok (.one [(0, Ranges.greatest)])
  else .ok (.one (Ranges.complement (lineEnds flags)))

/-- A set with the characters added that differ in case alone, where case is ignored. -/
def closeUnder (flags : Flags) (set : Ranges) : Ranges :=
  if !flags.ignoreCase then set
  else if flags.allScripts then set.closeUnderCase
  else .ofList (set ++ Ranges.intersection set.closeUnderCase [(0, 127)])

/-- A single character, in both cases where case is ignored. -/
def character (flags : Flags) (c : Char) : Expr := .one (closeUnder flags (.single c))

/-- The set of a class letter such as `d`; an upper letter gives the complement. -/
def classSet (flags : Flags) (letter : Char) : Ranges :=
  let lower := letter.toLower
  let set :=
    if lower = 'd' then if flags.allScripts then Text.patternDigits else [(0x30, 0x39)]
    else if lower = 's' then
      if flags.allScripts then Text.spaces else [(9, 13), (0x20, 0x20)]
    else if flags.allScripts then Text.wordCharacters
    else .ofList ((0x30, 0x39) :: (0x5F, 0x5F) :: Text.asciiLetters)
  if letter = lower then set else Ranges.complement set

/-- The set of a class name such as `alpha`, as in `[[:alpha:]]`. -/
def namedSet? (name : Text) : Option Ranges :=
  let digit := (0x30, 0x39)
  let upper := (0x41, 0x5A)
  let lower := (0x61, 0x7A)
  [("alnum", [digit, upper, lower]), ("alpha", [upper, lower]), ("ascii", [(0, 0x7F)]),
    ("blank", [(9, 9), (0x20, 0x20)]), ("cntrl", [(0, 0x1F), (0x7F, 0x7F)]), ("digit", [digit]),
    ("graph", [(0x21, 0x7E)]), ("lower", [lower]), ("print", [(0x20, 0x7E)]),
    ("punct", [(0x21, 0x2F), (0x3A, 0x40), (0x5B, 0x60), (0x7B, 0x7E)]),
    ("space", [(9, 13), (0x20, 0x20)]), ("upper", [upper]),
    ("word", [digit, upper, (0x5F, 0x5F), lower]),
    ("xdigit", [digit, (0x41, 0x46), (0x61, 0x66)])].findSome? fun (n, set) =>
      if n.toList = name then some set else none

/-- The set of a property of characters, if it is one of those that this dialect has. -/
def propertySet? (name : Text) : Option Ranges :=
  let plain := name.filterMap fun c => if c = '_' ∨ c = '-' ∨ Text.isSpace c then none else some c.toLower
  [("any", [(0, Ranges.greatest)]), ("ascii", [(0, 0x7F)]),
    ("alphabetic", Text.patternLetters),
    ("alpha", Text.patternLetters),
    ("whitespace", Text.spaces), ("space", Text.spaces), ("wspace", Text.spaces),
    ("nd", Text.patternDigits), ("decimalnumber", Text.patternDigits), ("digit", Text.patternDigits),
    ("n", Text.patternNumbers), ("number", Text.patternNumbers),
    ("m", Text.mark), ("mark", Text.mark), ("combiningmark", Text.mark),
    ("pc", Text.connector), ("connectorpunctuation", Text.connector),
    ("joincontrol", Text.joinControl), ("joinc", Text.joinControl)].findSome? fun (n, set) =>
      if n.toList = plain then some (.ofList set) else none

/-! ## Escapes -/

/-- What a backslash and the text after it stand for. -/
inductive Escaped
  /-- A character. -/
  | character (c : Char)
  /-- A character of a set. -/
  | set (set : Ranges)
  /-- A test of a place. -/
  | look (test : Look)

/-- The characters that mean something in a pattern. -/
def isMeta (c : Char) : Bool :=
  ['\\', '.', '+', '*', '?', '(', ')', '|', '[', ']', '{', '}', '^', '$', '#', '&', '-', '~'].contains c

/-- The characters that may stand behind a backslash for themselves. -/
def isEscapable (c : Char) : Bool :=
  isMeta c || (c.toNat < 128 && !c.isAlphanum && c != '<' && c != '>')

/-- The character of a code point. -/
def characterAt? (n : Nat) : Option Char :=
  if n.isValidChar then some (Char.ofNat n) else none

/-- The value of a run of hexadecimal digits. -/
def hexValue (digits : List Nat) : Nat := digits.foldl (fun n d => 16 * n + d) 0

/-- Reads so many hexadecimal digits. -/
def readHexDigits (flags : Flags) : (count : Nat) → Text → Except PatternError (List Nat × Text)
  | 0, text => .ok ([], text)
  | _ + 1, [] => .error .escape
  | count + 1, c :: rest =>
    match Ranges.hexValue? c with
    | none => .error .escape
    | some d => do
      let (digits, rest) ← readHexDigits flags count (skip flags rest)
      .ok (d :: digits, rest)

/-- Reads hexadecimal digits up to a closing brace. -/
def readHexBraced (flags : Flags) : (limit : Nat) → Text → Except PatternError (List Nat × Text)
  | 0, _ => .error .escape
  | limit + 1, text =>
    match skip flags text with
    | [] => .error .escape
    | '}' :: rest => .ok ([], skip flags rest)
    | c :: rest =>
      match Ranges.hexValue? c with
      | none => .error .escape
      | some d => do
        let (digits, rest) ← readHexBraced flags limit rest
        .ok (d :: digits, rest)

/-- Reads a code point behind `\x`, `\u` or `\U`: so many digits, or any number in braces. -/
def readHex (flags : Flags) (count : Nat) (text : Text) : Except PatternError (Escaped × Text) := do
  let (digits, rest) ← match skip flags text with
    | '{' :: rest => readHexBraced flags (rest.length + 1) rest
    | text => readHexDigits flags count text
  if digits.isEmpty then .error .escape
  else
    match characterAt? (hexValue digits) with
    | none => .error .escape
    | some c => .ok (.character c, rest)

/-- Reads the name of a property behind `\p` or `\P`. -/
def readProperty (flags : Flags) (negated : Bool) (text : Text) :
    Except PatternError (Escaped × Text) := do
  if !flags.allScripts then .error .property
  let (name, rest) ← match skip flags text with
    | [] => .error .escape
    | '{' :: rest =>
      match rest.dropWhile (· != '}') with
      | '}' :: after => .ok (rest.takeWhile (· != '}'), after)
      | _ => .error .escape
    | c :: rest => .ok ([c], rest)
  match propertySet? name with
  | none => .error .property
  | some set =>
    let set := closeUnder flags set
    .ok (.set (if negated then Ranges.complement set else set), rest)

/-- The kind of word edge that is named in braces behind `\b`. -/
def edgeNamed? (name : Text) : Option WordEdge :=
  if name = "start".toList then some .start
  else if name = "end".toList then some .finish
  else if name = "start-half".toList then some .startHalf
  else if name = "end-half".toList then some .finishHalf
  else none

/-- Reads what may follow `\b`: the kind of word edge in braces. A brace behind which no name
starts is left to be read as a repetition. -/
def readEdge (flags : Flags) (text : Text) : Except PatternError (Escaped × Text) :=
  let isNameCharacter (c : Char) : Bool := c.isAlpha || c == '-'
  match text with
  | '{' :: rest =>
    match skip flags rest with
    | [] => .error .escape
    | c :: rest =>
      if !isNameCharacter c then .ok (.look (.word .boundary flags.allScripts), text)
      else
        match edgeNamed? ((c :: rest).takeWhile isNameCharacter), rest.dropWhile isNameCharacter with
        | some edge, '}' :: rest => .ok (.look (.word edge flags.allScripts), rest)
        | _, _ => .error .escape
  | _ => .ok (.look (.word .boundary flags.allScripts), text)

/-- The control characters with a letter of their own. -/
def controlCharacter? (c : Char) : Option Char :=
  if c = 'a' then some '\x07'
  else if c = 'f' then some '\x0c'
  else if c = 't' then some '\t'
  else if c = 'n' then some '\n'
  else if c = 'r' then some '\r'
  else if c = 'v' then some '\x0b'
  else none

/-- Reads what follows a backslash. -/
def readEscape (flags : Flags) : Text → Except PatternError (Escaped × Text)
  | [] => .error .escape
  | c :: rest =>
    if c = 'x' then readHex flags 2 rest
    else if c = 'u' then readHex flags 4 rest
    else if c = 'U' then readHex flags 8 rest
    else if c = 'p' then readProperty flags false rest
    else if c = 'P' then readProperty flags true rest
    else if ['d', 's', 'w', 'D', 'S', 'W'].contains c then .ok (.set (classSet flags c), rest)
    else if isEscapable c then .ok (.character c, rest)
    else
      match controlCharacter? c with
      | some control => .ok (.character control, rest)
      | none =>
        if c = 'A' then .ok (.look .textStart, rest)
        else if c = 'z' then .ok (.look .textEnd, rest)
        else if c = 'b' then readEdge flags rest
        else if c = 'B' then .ok (.look (.word .inner flags.allScripts), rest)
        else if c = '<' then .ok (.look (.word .start flags.allScripts), rest)
        else if c = '>' then .ok (.look (.word .finish flags.allScripts), rest)
        else .error .escape

/-! ## Bracketed sets -/

/-- The operations on the sets inside brackets. -/
inductive SetOperation
  /-- `&&` -/
  | intersection
  /-- `--` -/
  | difference
  /-- `~~` -/
  | symmetricDifference

/-- The set that an operation makes of two. -/
def SetOperation.apply (operation : SetOperation) (a b : Ranges) : Ranges :=
  match operation with
  | .intersection => .intersection a b
  | .difference => .difference a b
  | .symmetricDifference => .symmetricDifference a b

/-- What has been read of a bracketed set. -/
structure OpenSet where
  /-- Whether the set is the complement of what is in brackets. -/
  negated : Bool
  /-- The operand to the left of the last operation, with that operation and its nesting. -/
  left : Option (Ranges × SetOperation × Nat)
  /-- The items since the last operation. -/
  items : Ranges
  /-- How many items there are. -/
  count : Nat
  /-- The greatest nesting of an item. -/
  height : Nat

namespace OpenSet

/-- A set with an item added. -/
def add (s : OpenSet) (set : Ranges) (height : Nat) : OpenSet :=
  { s with items := s.items ++ set, count := s.count + 1, height := max s.height height }

/-- The items taken together with the operation before them, and their nesting. -/
def total (flags : Flags) (s : OpenSet) : Ranges × Nat :=
  let height := if s.count ≤ 1 then s.height else s.height + 1
  match s.left with
  | none => (s.items, height)
  | some (left, operation, leftHeight) =>
    (operation.apply (closeUnder flags left) (closeUnder flags s.items),
      max leftHeight height + 1)

/-- A set before whose next items an operation stands. -/
def operate (flags : Flags) (s : OpenSet) (operation : SetOperation) : OpenSet :=
  let (left, height) := s.total flags
  { s with left := some (left, operation, height), items := [], count := 0, height := 0 }

/-- The set that is closed, and its nesting. -/
def close (flags : Flags) (s : OpenSet) : Except PatternError (Ranges × Nat) :=
  let (set, height) := s.total flags
  let set := closeUnder flags set
  let set := if s.negated then Ranges.complement set else Ranges.ofList set
  if !flags.allScripts && set.any fun (_, high) => high ≥ 128 then .error .partialCharacters
  else .ok (set, height + 1)

end OpenSet

/-- Reads dashes at the front of a bracketed set as characters. -/
def readDashes (flags : Flags) (s : OpenSet) : (limit : Nat) → Text → OpenSet × Text
  | 0, text => (s, text)
  | limit + 1, text =>
    match text with
    | '-' :: rest => readDashes flags (s.add (.single '-') 0) limit (skip flags rest)
    | _ => (s, text)

/-- Reads the front of a bracketed set behind its bracket: the sign of a complement, and the dashes
or the closing bracket that stand for themselves there. -/
def openSet (flags : Flags) (text : Text) : OpenSet × Text :=
  let text := skip flags text
  let (negated, text) := match text with
    | '^' :: rest => (true, skip flags rest)
    | _ => (false, text)
  let (s, text) := readDashes flags ⟨negated, none, [], 0, 0⟩ text.length text
  match text with
  | ']' :: rest =>
    if s.count = 0 then (s.add (.single ']') 0, skip flags rest) else (s, text)
  | _ => (s, text)

/-- Reads a class name behind its opening bracket, as in `[:alpha:]` or `[:^alpha:]`. Where case is
ignored a complement leaves out both cases of the characters of the class. -/
def readNamedSet? (flags : Flags) (text : Text) : Option (Ranges × Text) :=
  match text with
  | ':' :: rest =>
    let (negated, rest) := match rest with
      | '^' :: rest => (true, rest)
      | _ => (false, rest)
    match rest.dropWhile (· != ':') with
    | ':' :: ']' :: after =>
      (namedSet? (rest.takeWhile (· != ':'))).map fun set =>
        let set := closeUnder flags set
        (if negated then Ranges.complement set else set, after)
    | _ => none
  | _ => none

/-- Reads a character or a class of a bracketed set. -/
def readSetItem (flags : Flags) : Text → Except PatternError (Escaped × Text)
  | [] => .error .setUnclosed
  | '\\' :: rest => readEscape flags rest
  | c :: rest => .ok (.character c, rest)

/-- Reads a character, a class or a range of a bracketed set. -/
def readSetRange (flags : Flags) (text : Text) : Except PatternError (Ranges × Text) := do
  let (first, rest) ← readSetItem flags text
  let rest := skip flags rest
  let alone : Except PatternError (Ranges × Text) :=
    match first with
    | .character c => .ok (.single c, rest)
    | .set set => .ok (set, rest)
    | .look _ => .error .setItem
  match rest with
  | [] => .error .setUnclosed
  | '-' :: after =>
    match skip flags after with
    | [] => .error .setUnclosed
    | ']' :: _ => alone
    | '-' :: _ => alone
    | after => do
      let (last, rest) ← readSetItem flags after
      match first, last with
      | .character low, .character high =>
        if low ≤ high then .ok (.between low high, rest) else .error .setRange
      | _, _ => .error .setRange
  | _ => alone

/-- Reads the rest of a bracketed set; `outer` are the sets around it, the innermost first. The
number of steps is at most `limit`. -/
def readSet (flags : Flags) :
    (limit : Nat) → OpenSet → (outer : List OpenSet) → Text →
      Except PatternError ((Ranges × Nat) × Text)
  | 0, _, _, _ => .error .setUnclosed
  | limit + 1, s, outer, text =>
    match skip flags text with
    | [] => .error .setUnclosed
    | '[' :: rest =>
      match readNamedSet? flags rest with
      | some (set, rest) => readSet flags limit (s.add set 0) outer rest
      | none =>
        let (inner, rest) := openSet flags rest
        readSet flags limit inner (s :: outer) rest
    | ']' :: rest => do
      let closed ← s.close flags
      match outer with
      | [] => .ok (closed, rest)
      | s :: outer => readSet flags limit (s.add closed.1 closed.2) outer rest
    | '&' :: '&' :: rest => readSet flags limit (s.operate flags .intersection) outer rest
    | '-' :: '-' :: rest => readSet flags limit (s.operate flags .difference) outer rest
    | '~' :: '~' :: rest => readSet flags limit (s.operate flags .symmetricDifference) outer rest
    | text => do
      let (set, rest) ← readSetRange flags text
      readSet flags limit (s.add set 0) outer rest

/-! ## Expressions -/

/-- A part of a sequence that has been read. -/
structure Part where
  /-- What the part matches. -/
  expr : Expr
  /-- How deeply the part is nested. -/
  height : Nat
  /-- Whether the part can be repeated; a setting of flags cannot. -/
  repeatable : Bool

/-- The parts of a sequence as one part. -/
def sequence (parts : List Part) : Part where
  expr := .ofSequence (parts.map Part.expr)
  height :=
    match parts with
    | [] => 0
    | [part] => part.height
    | parts => (parts.map Part.height).foldl max 0 + 1
  repeatable := true

/-- The alternatives of a choice as one part. -/
def choice (parts : List Part) : Part where
  expr := .ofChoice (parts.map Part.expr)
  height :=
    match parts with
    | [] => 0
    | [part] => part.height
    | parts => (parts.map Part.height).foldl max 0 + 1
  repeatable := true

/-- What has been read since a group was opened. -/
structure Scope where
  /-- The flags that hold where the reader is. -/
  flags : Flags
  /-- The complete alternatives, the last one first. -/
  alternatives : List Part
  /-- The parts of the alternative being read, the last one first. -/
  parts : List Part

namespace Scope

/-- A scope with a part added. -/
def add (scope : Scope) (part : Part) : Scope := { scope with parts := part :: scope.parts }

/-- A scope in which a new alternative starts. -/
def alternate (scope : Scope) : Scope :=
  { scope with alternatives := sequence scope.parts.reverse :: scope.alternatives, parts := [] }

/-- A scope as one part. -/
def close (scope : Scope) : Part := choice scope.alternate.alternatives.reverse

end Scope

/-- A group that is open: its number if it keeps its text, and what was read before it. -/
structure OpenGroup where
  /-- The number of the group. -/
  index : Option Nat
  /-- The scope in which the group stands. -/
  outer : Scope

/-- What a reader of patterns knows. -/
structure State where
  /-- What has been read since the innermost open group. -/
  scope : Scope
  /-- The open groups, the innermost first. -/
  groups : List OpenGroup
  /-- The number of groups so far that keep their texts. -/
  count : Nat
  /-- The names of groups so far, the last one first. -/
  names : List (Text × Nat)

/-- A state in which a group is opened. -/
def State.enter (s : State) (index : Option Nat) (flags : Flags) : State :=
  { s with
    scope := ⟨flags, [], []⟩
    groups := ⟨index, s.scope⟩ :: s.groups
    count := match index with
      | some n => n
      | none => s.count }

/-- Whether a character may stand in the name of a group. -/
def isGroupNameCharacter (isFirst : Bool) (c : Char) : Bool :=
  c == '_' || if isFirst then Text.isLetter c
    else Text.isAlphanumeric c || c == '.' || c == '[' || c == ']'

/-- Reads the name of a group and the bracket behind it. -/
def readGroupName (s : State) (text : Text) : Except PatternError (State × Text) :=
  let name := text.takeWhile (· != '>')
  match name, text.dropWhile (· != '>') with
  | c :: more, '>' :: rest =>
    if isGroupNameCharacter true c && more.all (isGroupNameCharacter false)
        && !(s.names.any fun (n, _) => n == name) then
      let index := s.count + 1
      .ok ({ s with names := (name, index) :: s.names }.enter (some index) s.scope.flags, rest)
    else .error .groupName
  | _, _ => .error .groupName

/-- Reads what follows an opening parenthesis: the kind of the group, or a setting of flags. -/
def readOpening (s : State) (text : Text) : Except PatternError (State × Text) :=
  match skip s.scope.flags text with
  | '?' :: '=' :: _ => .error .lookAround
  | '?' :: '!' :: _ => .error .lookAround
  | '?' :: '<' :: '=' :: _ => .error .lookAround
  | '?' :: '<' :: '!' :: _ => .error .lookAround
  | '?' :: 'P' :: '<' :: rest => readGroupName s rest
  | '?' :: '<' :: rest => readGroupName s rest
  | '?' :: rest => do
    let (flags, seen, closing, rest) ← readFlags s.scope.flags [] true false rest
    if closing = ':' then .ok (s.enter none flags, rest)
    else if seen.isEmpty then .error .nothingToRepeat
    else
      let scope := { s.scope with flags := flags }
      .ok ({ s with scope := scope.add ⟨.empty, 0, false⟩ }, rest)
  | text => .ok (s.enter (some (s.count + 1)) s.scope.flags, text)

/-- Closes the innermost group. -/
def readClosing (s : State) : Except PatternError State :=
  match s.groups with
  | [] => .error .groupUnopened
  | g :: groups =>
    let inner := s.scope.close
    let expr := match g.index with
      | some index => .group index inner.expr
      | none => inner.expr
    .ok { s with scope := g.outer.add ⟨expr, inner.height + 1, true⟩, groups := groups }

/-- The greatest count of a repetition. -/
def greatestCount : Nat := 0xFFFFFFFF

/-- Reads a count with the white space around it; `none` if there are no digits. -/
def readCount (text : Text) : Except PatternError (Option Nat × Text) :=
  let text := text.dropWhile Text.isSpace
  let digits := text.takeWhile Char.isDigit
  let rest := (text.dropWhile Char.isDigit).dropWhile Text.isSpace
  if digits.isEmpty then .ok (none, rest)
  else
    let n := Text.decimalValue digits
    if n ≤ greatestCount then .ok (some n, rest) else .error .counts

/-- Reads the counts of a repetition behind the opening brace. -/
def readCounts (flags : Flags) (text : Text) :
    Except PatternError ((Nat × Option Nat) × Text) := do
  let (least, rest) ← readCount (skip flags text)
  match least, rest with
  | some least, '}' :: rest => .ok ((least, some least), rest)
  | some least, ',' :: rest =>
    match skip flags rest with
    | '}' :: rest => .ok ((least, none), rest)
    | rest => do
      let (most, rest) ← readCount rest
      match most, rest with
      | some most, '}' :: rest =>
        if least ≤ most then .ok ((least, some most), rest) else .error .counts
      | _, _ => .error .counts
  | _, _ => .error .counts

/-- Repeats the last part of the sequence, with the short ones first if a `?` follows. -/
def repeatLast (s : State) (least : Nat) (most : Option Nat) (text : Text) :
    Except PatternError (State × Text) :=
  match s.scope.parts with
  | [] => .error .nothingToRepeat
  | part :: parts =>
    if !part.repeatable then .error .nothingToRepeat
    else
      let (lazy, rest) := match text with
        | '?' :: rest => (true, rest)
        | _ => (false, text)
      let greedy := lazy == s.scope.flags.swapGreed
      let expr := Expr.repetition least most greedy part.expr
      .ok ({ s with scope := { s.scope with parts := ⟨expr, part.height + 1, true⟩ :: parts } }, rest)

/-- Adds a part that nothing is nested in. -/
def State.addExpr (s : State) (expr : Expr) : State :=
  { s with scope := s.scope.add ⟨expr, 0, true⟩ }

/-- Reads the next part of a pattern, which starts with the character given. -/
def readPart (s : State) (c : Char) (rest : Text) : Except PatternError (State × Text) :=
  let flags := s.scope.flags
  match c with
  | '(' => readOpening s rest
  | ')' => do .ok (← readClosing s, rest)
  | '|' => .ok ({ s with scope := s.scope.alternate }, rest)
  | '?' => repeatLast s 0 (some 1) rest
  | '*' => repeatLast s 0 none rest
  | '+' => repeatLast s 1 none rest
  | '{' => do
    let ((least, most), rest) ← readCounts flags rest
    repeatLast s least most (skip flags rest)
  | '[' => do
    let (opened, rest) := openSet flags rest
    let ((set, height), rest) ← readSet flags (rest.length + 1) opened [] rest
    .ok ({ s with scope := s.scope.add ⟨.one set, height, true⟩ }, rest)
  | '.' => do .ok (s.addExpr (← dot flags), rest)
  | '^' => .ok (s.addExpr (.look (if flags.multiLine then .lineStart flags.returns else .textStart)), rest)
  | '$' => .ok (s.addExpr (.look (if flags.multiLine then .lineEnd flags.returns else .textEnd)), rest)
  | '\\' => do
    let (escaped, rest) ← readEscape flags rest
    match escaped with
    | .character c => .ok (s.addExpr (character flags c), rest)
    | .look test => .ok (s.addExpr (.look test), rest)
    | .set set =>
      if !flags.allScripts && set.any fun (_, high) => high ≥ 128 then .error .partialCharacters
      else .ok (s.addExpr (.one set), rest)
  | c => .ok (s.addExpr (character flags c), rest)

/-- Reads a pattern to its end. Every step takes a character at least, so that `limit` may be the
length of the text. -/
def readAll : (limit : Nat) → State → Text → Except PatternError State
  | 0, s, _ => .ok s
  | limit + 1, s, text =>
    match skip s.scope.flags text with
    | [] => .ok s
    | c :: rest => do
      let (s, rest) ← readPart s c rest
      readAll limit s rest

/-- How deeply a pattern may be nested. -/
def heightLimit : Nat := 250

end Reader

/-- The pattern that a text denotes. -/
def read (source : Text) : Except PatternError Pattern := do
  let s ← Reader.readAll source.length ⟨⟨{}, [], []⟩, [], 0, []⟩ source
  if !s.groups.isEmpty then .error .groupUnclosed
  let whole := s.scope.close
  if whole.height > Reader.heightLimit then .error .tooDeep
  if whole.expr.size > Expr.sizeLimit then .error .tooLarge
  .ok ⟨source, whole.expr, s.names.reverse⟩

/-- The dialect of `Pattern.read`. -/
def Dialect.builtIn : Dialect where
  read text := (Pattern.read text).mapError PatternError.message

end Pattern

end Kindred
