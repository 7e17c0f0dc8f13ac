import Kindred.Pattern.Basic

/-!
# Dialects of patterns

What patterns look like is not for a vocabulary to say: its rules have texts, and a dialect tells
which of them are patterns, and which patterns those are. Tables, checks and commands take the
dialect as an argument and ask no more of it than to read a text.
-/

namespace Kindred

namespace Pattern

/-- What texts of patterns mean. -/
structure Dialect where
  /-- The pattern that a text denotes, or what is said of a text that denotes none. -/
  read : Text → Except Text Pattern

end Pattern

end Kindred
