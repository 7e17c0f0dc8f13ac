import Kindred.Text.Basic

/-!
# Terms

A code is broken down into fragments, and each fragment with the phrase found for it is a term. A
term keeps where its phrase came from.
-/

namespace Kindred

/-- Where the phrase of a term came from. -/
inductive Origin
  /-- The fragment was looked up under `key`, itself or one of its neutral forms. -/
  | direct (key : Text)
  /-- The rule of that number, counted from one, led to `key`. -/
  | rule (number : Nat) (key : Text)
  /-- Nothing was found, and the phrase is the fragment itself. -/
  | literal
  deriving DecidableEq, Repr

/-- A fragment of a code with its phrase. -/
structure Term where
  /-- The piece of the code. -/
  fragment : Text
  /-- The phrase for it. -/
  phrase : Text
  /-- Where the phrase came from. -/
  origin : Origin
  deriving DecidableEq, Repr

namespace Term

/-- The term of a fragment for which nothing is found. -/
def literal (fragment : Text) : Term := ⟨fragment, fragment, .literal⟩

end Term

end Kindred
