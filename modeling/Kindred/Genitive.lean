import Kindred.Tables
import Kindred.Template.Rendering
import Kindred.Term
import Kindred.Text.Words

/-!
# Possessive forms

In a chain of terms each phrase but the last is put into its possessive form. The words of the
phrase are looked at from its end: the first one with a possessive form of its own is replaced by
that form, with the text before and after it in the gaps; if there is none the whole phrase takes
the default form.
-/

namespace Kindred

namespace GenitiveTable

/-- The last of the segments that is a word with a possessive form of its own: the text before it,
the form and the text after it. -/
def lastForm? (table : GenitiveTable) : List Text → Option (Text × Template × Text)
  | [] => none
  | segment :: rest =>
    match lastForm? table rest with
    | some (before, form, after) => some (segment ++ before, form, after)
    | none =>
      if Text.isWord segment then
        (table.words.get? segment).map fun form => ([], form, rest.flatten)
      else none

/-- The possessive form of a phrase. -/
def possessive (table : GenitiveTable) (phrase : Text) : Text :=
  match table.lastForm? (Text.segments phrase) with
  | some (before, form, after) => form.fillTexts [before, after]
  | none => table.default.fillTexts [phrase, []]

/-- Terms with the phrases of all but the last put into their possessive forms. -/
def chain (table : GenitiveTable) : List Term → List Term
  | [] => []
  | [last] => [last]
  | term :: rest => { term with phrase := table.possessive term.phrase } :: chain table rest

end GenitiveTable

end Kindred
