import Kindred.Degrees
import Kindred.Ordinal
import Kindred.Template.Basic

/-!
# Filling templates

The gaps of a term's template are filled with degrees and those of a genitive's template with
texts. A gap for which there is nothing stays as it is written.
-/

namespace Kindred

namespace Template

/-- How a degree is written where the template fixes no style: the first two as ordinals. -/
def defaultStyle (index : Nat) : NumberStyle :=
  if index < 2 then .ordinal else .cardinal

/-- A number in a given style. -/
def writeNumber (ordinals : OrdinalSuffixes) (style : NumberStyle) (n : Int) : Text :=
  match style with
  | .ordinal => ordinals.format n
  | .cardinal => Text.integerNumeral n

/-- A term's template with its gaps filled by degrees. -/
def fillDegrees (template : Template) (degrees : Degrees) (ordinals : OrdinalSuffixes) : Text :=
  template.flatMap fun
    | .literal text => text
    | .placeholder index style =>
      match degrees.get? index with
      | some n => writeNumber ordinals (style.getD (defaultStyle index)) n
      | none => Segment.placeholderText index style

/-- A genitive's template with its gaps filled by texts, whatever their styles. -/
def fillTexts (template : Template) (texts : List Text) : Text :=
  template.flatMap fun
    | .literal text => text
    | .placeholder index style => texts[index]?.getD (Segment.placeholderText index style)

end Template

end Kindred
