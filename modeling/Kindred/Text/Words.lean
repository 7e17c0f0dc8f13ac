import Kindred.Text.Alphanumeric
import Kindred.Text.WordBreak

/-!
# Words

A text is divided into segments: words, numbers, spaces and single marks. Between two characters
there is no boundary where one of the rules below joins them, and a boundary otherwise. A character
that extends the one before it is passed over by the rules for letters and digits. A pictograph
behind a joiner counts as a pictograph alone, and a mark behind a letter or a digit is joined to it
also where such a pictograph comes next. A segment that holds a letter or a digit is a word.

The segments of a text, put together, are the text (`segments_flatten`).
-/

namespace Kindred

namespace Text

namespace WordBreak

/-- Letters, of Hebrew or not. -/
def isLetter : WordBreak → Bool
  | .letter | .hebrewLetter => true
  | _ => false

/-- Marks that join letters on both sides. -/
def joinsLetters : WordBreak → Bool
  | .midLetter | .midNumLet | .singleQuote => true
  | _ => false

/-- Marks that join digits on both sides. -/
def joinsDigits : WordBreak → Bool
  | .midNum | .midNumLet | .singleQuote => true
  | _ => false

/-- Characters that the rules for letters and digits pass over. -/
def isPassedOver : WordBreak → Bool
  | .extend | .format | .joiner => true
  | _ => false

/-- Characters that end a line. -/
def endsLine : WordBreak → Bool
  | .carriageReturn | .lineFeed | .newline => true
  | _ => false

end WordBreak

/-- What the rules know of the text before a place. -/
structure WordContext where
  /-- The class of the character right before the place. -/
  previous : WordBreak
  /-- The class of the last character that is not passed over. -/
  last : WordBreak
  /-- The class of the one before that. -/
  beforeLast : WordBreak
  /-- Whether an odd number of halves of signs of regions stands before the place. -/
  oddRegions : Bool

namespace WordContext

/-- The context behind a first character. -/
def start (cls : WordBreak) : WordContext := ⟨cls, cls, .other, cls == .regionalIndicator⟩

/-- The context behind a further character. -/
def advance (context : WordContext) (cls : WordBreak) : WordContext :=
  if cls.isPassedOver && !context.previous.endsLine then { context with previous := cls }
  else ⟨cls, cls, context.last, cls == .regionalIndicator && !context.oddRegions⟩

/-- The class of the first character of a text that is not passed over. -/
def nextClass : Text → WordBreak
  | [] => .other
  | c :: rest =>
    let cls := WordBreak.ofChar c
    if cls.isPassedOver then nextClass rest else cls

/-- Whether the first character of a text that is not passed over is a pictograph behind a joiner;
the text stands behind a character of class `previous`. -/
def leadsToPictograph (previous : WordBreak) : Text → Bool
  | [] => false
  | c :: rest =>
    let cls := WordBreak.ofChar c
    (previous == .joiner && isPictograph c) || (cls.isPassedOver && leadsToPictograph cls rest)

/-- Whether a mark of class `cls` behind the last character is joined to it because of the text that
follows. -/
def joinsMark (context : WordContext) (cls : WordBreak) (rest : Text) : Bool :=
  let next := nextClass rest
  let pictograph := leadsToPictograph cls rest
  (context.last.isLetter && cls.joinsLetters && (next.isLetter || pictograph)) ||
  (context.last == .hebrewLetter && cls == .singleQuote) ||
  (context.last == .hebrewLetter && cls == .doubleQuote && (next == .hebrewLetter || pictograph)) ||
  (context.last == .numeric && cls.joinsDigits && (next == .numeric || pictograph))

/-- Whether the last character and one of class `cls` are joined by the rules for letters, digits
and regions. -/
def joinsSolid (context : WordContext) (cls : WordBreak) : Bool :=
  let last := context.last
  let before := context.beforeLast
  (last.isLetter && cls.isLetter) ||
  (before.isLetter && last.joinsLetters && cls.isLetter) ||
  (before == .hebrewLetter && last == .doubleQuote && cls == .hebrewLetter) ||
  ((last == .numeric || last.isLetter) && cls == .numeric) ||
  (last == .numeric && cls.isLetter) ||
  (before == .numeric && last.joinsDigits && cls == .numeric) ||
  (last == .katakana && cls == .katakana) ||
  ((last.isLetter || last == .numeric || last == .katakana || last == .extendNumLet)
    && cls == .extendNumLet) ||
  (last == .extendNumLet && (cls.isLetter || cls == .numeric || cls == .katakana)) ||
  (context.oddRegions && last == .regionalIndicator && cls == .regionalIndicator)

/-- Whether a character is a pictograph behind a joiner. -/
def isJoinedPictograph (context : WordContext) (c : Char) : Bool :=
  context.previous == .joiner && isPictograph c

/-- Whether there is no boundary before the character `c`, which the text `rest` follows. -/
def joins (context : WordContext) (c : Char) (rest : Text) : Bool :=
  let cls := WordBreak.ofChar c
  if context.previous == .carriageReturn && cls == .lineFeed then true
  else if context.previous.endsLine || cls.endsLine then false
  else if context.isJoinedPictograph c then true
  else if context.previous == .space && cls == .space then true
  else if cls.isPassedOver then true
  else context.joinsSolid cls || context.joinsMark cls rest

/-- The class that a character counts as. -/
def classOf (context : WordContext) (c : Char) : WordBreak :=
  if context.isJoinedPictograph c then .other else .ofChar c

end WordContext

/-- Puts a character into the first of some segments. -/
def intoFirst (c : Char) : List Text → List Text
  | [] => [[c]]
  | segment :: rest => (c :: segment) :: rest

/-- The segments of a text behind a place with a certain context. The first of them goes on with the
segment before the place; it is empty if there is a boundary. -/
def segmentsFrom (context : WordContext) : Text → List Text
  | [] => [[]]
  | c :: rest =>
    let behind := intoFirst c (segmentsFrom (context.advance (context.classOf c)) rest)
    if context.joins c rest then behind else [] :: behind

/-- The segments of a text. -/
def segments : Text → List Text
  | [] => []
  | c :: rest => intoFirst c (segmentsFrom (.start (.ofChar c)) rest)

/-- Whether a segment is a word. -/
def isWord (segment : Text) : Bool := segment.any isAlphanumeric

theorem flatten_intoFirst (c : Char) (segments : List Text) :
    (intoFirst c segments).flatten = c :: segments.flatten := by
  cases segments <;> rfl

theorem segmentsFrom_flatten (context : WordContext) (text : Text) :
    (segmentsFrom context text).flatten = text := by
  induction text generalizing context with
  | nil => rfl
  | cons c rest ih =>
    by_cases h : context.joins c rest = true <;> simp [segmentsFrom, h, flatten_intoFirst, ih]

theorem segments_flatten (text : Text) : (segments text).flatten = text := by
  cases text with
  | nil => rfl
  | cons c rest => simp [segments, flatten_intoFirst, segmentsFrom_flatten]

end Text

end Kindred
