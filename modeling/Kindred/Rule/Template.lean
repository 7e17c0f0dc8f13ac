import Kindred.Rule.Replacement

/-!
# Rule templates

A rule's template says what a match of its pattern is replaced by. It is either one replacement,
as in `P+$1#PPP`, or a choice of branches `KEY(replacement)` by the balance of the matched text,
as in `EQ(PGC#PGC);GT(P+GC#PGC);-1(PGCC#PGC)`. Any such marker makes a choice of the template;
the text around the markers is kept and plays no part in matching. Every text is a rule template.
-/

namespace Kindred

/-- When a branch applies, said of generations up minus generations down. -/
inductive BranchKey
  /-- The balance is exactly this number. -/
  | exact (balance : Int)
  /-- The balance is zero. -/
  | equal
  /-- The balance is negative. -/
  | less
  /-- The balance is positive. -/
  | greater
  deriving DecidableEq, Repr

namespace BranchKey

/-- A key as it is written before its replacement. -/
def label : BranchKey → Text
  | .exact n => Text.integerNumeral n
  | .equal => ['E', 'Q']
  | .less => ['L', 'T']
  | .greater => ['G', 'T']

/-- The key that asks for the sign of a balance. -/
def ofSign (balance : Int) : BranchKey :=
  if balance = 0 then .equal else if balance < 0 then .less else .greater

/-- The smallest balance that a key can name. -/
def leastBalance : Int := -0x8000000000000000

/-- The greatest balance that a key can name. -/
def greatestBalance : Int := 0x7FFFFFFFFFFFFFFF

/-- The key of a balance, if a key can name it. -/
def ofBalance? (balance : Int) : Option BranchKey :=
  if leastBalance ≤ balance ∧ balance ≤ greatestBalance then some (.exact balance) else none

/-- The key of the balance that digits denote, below zero if `negative`. -/
def ofDigits? (negative : Bool) (digits : Text) : Option BranchKey :=
  if digits.isEmpty || !digits.all Char.isDigit then none
  else
    let n : Int := Text.decimalValue digits
    ofBalance? (if negative then -n else n)

/-- The key that a text denotes. -/
def ofLabel? : Text → Option BranchKey
  | ['E', 'Q'] => some .equal
  | ['L', 'T'] => some .less
  | ['G', 'T'] => some .greater
  | '-' :: digits => ofDigits? true digits
  | digits => ofDigits? false digits

/-- The characters that keys are made of. -/
def isCharacter (c : Char) : Bool := c.isDigit || ['-', 'E', 'Q', 'L', 'T', 'G'].contains c

end BranchKey

/-- A branch of a rule template. -/
structure Branch where
  /-- When the branch applies. -/
  key : BranchKey
  /-- What a match is then replaced by. -/
  replacement : Replacement
  deriving DecidableEq, Repr

/-- What a match of a rule's pattern is replaced by. -/
inductive RuleTemplate
  /-- The same replacement for every match. -/
  | direct (replacement : Replacement)
  /-- A replacement chosen by balance, with the trimmed text around the branches. -/
  | conditional (branches : List Branch) (ignored : Text)
  deriving DecidableEq, Repr

namespace RuleTemplate

/-! ## Reading -/

/-- The branch at the front of a text, without blanks around it, and what follows it: a key and,
in parentheses, all up to the first closing one. -/
def readBranch? (text : Text) : Option (Branch × Text) :=
  match text.dropWhile BranchKey.isCharacter with
  | '(' :: rest =>
    match BranchKey.ofLabel? (text.takeWhile BranchKey.isCharacter), rest.dropWhile (· != ')') with
    | some key, ')' :: after => some (⟨key, .read (rest.takeWhile (· != ')'))⟩, after)
    | _, _ => none
  | _ => none

/-- The branch at the front of a text, with the blanks before it, and what follows the blanks, at
most one semicolon and the blanks behind it. -/
def readSpacedBranch? (text : Text) : Option (Branch × Text) :=
  (readBranch? (Text.skipBlanks text)).map fun (branch, rest) =>
    match Text.skipBlanks rest with
    | ';' :: rest => (branch, Text.skipBlanks rest)
    | rest => (branch, rest)

/-- The branches of a text of at most `limit` characters, and the characters outside them. -/
def readUpTo : (limit : Nat) → Text → List Branch × Text
  | 0, _ => ([], [])
  | _ + 1, [] => ([], [])
  | limit + 1, c :: text =>
    match readSpacedBranch? (c :: text) with
    | some (branch, rest) =>
      let (branches, outside) := readUpTo limit rest
      (branch :: branches, outside)
    | none =>
      let (branches, outside) := readUpTo limit text
      (branches, c :: outside)

/-- The rule template that a text denotes. -/
def read (text : Text) : RuleTemplate :=
  match readUpTo text.length text with
  | ([], _) => .direct (.read text)
  | (branches, outside) => .conditional branches (Text.trim outside)

/-! ## Use -/

/-- The replacement of the first branch with a key. -/
def branch? (branches : List Branch) (key : BranchKey) : Option Replacement :=
  (branches.find? fun branch => branch.key == key).map Branch.replacement

/-- The replacement for a match of a given balance. Among branches one that names the balance
comes before one that asks for its sign. -/
def select? (template : RuleTemplate) (balance : Int) : Option Replacement :=
  match template with
  | .direct replacement => some replacement
  | .conditional branches _ =>
    (branch? branches (.exact balance)).orElse fun _ => branch? branches (.ofSign balance)

/-- The replacements of a template, in order. -/
def replacements : RuleTemplate → List Replacement
  | .direct replacement => [replacement]
  | .conditional branches _ => branches.map Branch.replacement

end RuleTemplate

end Kindred
