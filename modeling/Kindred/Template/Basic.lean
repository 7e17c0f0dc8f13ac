import Kindred.Text.Basic

/-!
# Templates

A template is a phrase with numbered gaps. In a term's template the gaps hold degrees, as in
`{1} cousin {4} times removed`; in a genitive's template they hold the text around a word, as in
`{0}'s {1}`. A gap may fix how its number is written: `{0:ON}` as an ordinal, `{0:CN}` as a
cardinal.

`Template.render` writes a template so that reading it gives the template back, provided it is
in normal form (`Template.IsNormal`): no literal is empty and no two literals are neighbours.
-/

namespace Kindred

/-- How a number in a gap is written. -/
inductive NumberStyle
  /-- As a numeral with a suffix: 1st, 2nd. -/
  | ordinal
  /-- As a plain numeral: 1, 2. -/
  | cardinal
  deriving DecidableEq, Repr

namespace NumberStyle

/-- The two letters that name a style inside a placeholder. -/
def mark : NumberStyle → Text
  | .ordinal => ['O', 'N']
  | .cardinal => ['C', 'N']

end NumberStyle

/-- A piece of a template. -/
inductive Segment
  /-- Text that stands for itself. -/
  | literal (text : Text)
  /-- A numbered gap, with the style of its number if the template fixes one. -/
  | placeholder (index : Nat) (style : Option NumberStyle)
  deriving DecidableEq, Repr

/-- A phrase with numbered gaps. -/
abbrev Template := List Segment

namespace Segment

/-- The number of a gap; `none` for text. -/
def index? : Segment → Option Nat
  | .literal _ => none
  | .placeholder index _ => some index

/-- A gap as it is written in a template, such as `{4}` or `{0:ON}`. -/
def placeholderText (index : Nat) (style : Option NumberStyle) : Text :=
  let styleText := match style with
    | some style => ':' :: style.mark
    | none => []
  '{' :: Text.numeral index ++ styleText ++ ['}']

/-- Text as it is written in a template, with each brace doubled. -/
def escape (text : Text) : Text :=
  text.flatMap fun c => if c = '{' ∨ c = '}' then [c, c] else [c]

/-- A segment as it is written in a template. -/
def render : Segment → Text
  | .literal text => escape text
  | .placeholder index style => placeholderText index style

end Segment

namespace Template

/-- The numbers of the gaps, from left to right. -/
def indices (template : Template) : List Nat := template.filterMap Segment.index?

/-- A template as it is written. -/
def render (template : Template) : Text := template.flatMap Segment.render

/-- A template with one more character of text in front. -/
def consCharacter (c : Char) : Template → Template
  | .literal text :: rest => .literal (c :: text) :: rest
  | template => .literal [c] :: template

/-- No literal is empty and no two literals are neighbours. -/
def IsNormal : Template → Prop
  | [] => True
  | .literal text :: rest =>
    text ≠ [] ∧ (∀ other more, rest ≠ .literal other :: more) ∧ IsNormal rest
  | .placeholder _ _ :: rest => IsNormal rest

theorem IsNormal.consCharacter {template : Template} (h : IsNormal template) (c : Char) :
    IsNormal (consCharacter c template) := by
  cases template with
  | nil => simp [Template.consCharacter, IsNormal]
  | cons segment rest =>
    cases segment with
    | literal text => exact ⟨by simp, h.2.1, h.2.2⟩
    | placeholder index style => exact ⟨by simp, by simp, h⟩

end Template

end Kindred
