import Kindred.Proofs.Formatter.Possessives
import Kindred.Proofs.Text.Runs

/-!
# Filled templates have no braces

A gap for which there is nothing stays as it is written, with its braces. **Where no text of a
template has a brace and all gaps are filled, the phrase has no braces**
(`Template.IsFillable.fillDegrees`, `Template.IsFillable.fillTexts`), and so the possessive form of a
phrase without braces has none (`GenitiveTable.IsFillable.possessive`).
-/

namespace Kindred

/-! ## Texts without braces -/

namespace Text

/-- No gap of a template stands in the text. -/
def BraceFree (text : Text) : Prop := ∀ c ∈ text, c ≠ '{' ∧ c ≠ '}'

instance (text : Text) : Decidable text.BraceFree :=
  List.decidableBAll (fun c => c ≠ '{' ∧ c ≠ '}') text

variable {text other : Text}

@[simp] theorem braceFree_nil : BraceFree [] := fun _ h => nomatch h

@[simp] theorem braceFree_append_iff :
    BraceFree (text ++ other) ↔ text.BraceFree ∧ other.BraceFree :=
  List.forall_mem_append

theorem BraceFree.subset (h : other.BraceFree) (hsubset : text ⊆ other) : text.BraceFree :=
  fun c hc => h c (hsubset hc)

theorem braceFree_flatMap {α : Type} {values : List α} {f : α → Text}
    (h : ∀ a ∈ values, (f a).BraceFree) : BraceFree (values.flatMap f) := by
  intro c hc
  obtain ⟨a, ha, hca⟩ := List.mem_flatMap.1 hc
  exact h a ha c hca

/-- The characters of a numeral are digits and a sign. -/
theorem forall_mem_integerNumeral {P : Char → Prop} (hdigit : ∀ c, c.isDigit = true → P c)
    (hsign : P '-') (n : Int) : ∀ c ∈ integerNumeral n, P c := by
  cases n with
  | ofNat n => exact fun c hc => hdigit c (isDigit_of_mem_numeral hc)
  | negSucc n =>
    exact List.forall_mem_cons.2 ⟨hsign, fun c hc => hdigit c (isDigit_of_mem_numeral hc)⟩

end Text

/-! ## Templates -/

/-- There is a degree for each of the first gaps. -/
theorem Degrees.exists_get?_eq_some (degrees : Degrees) {index : Nat} (h : index < count) :
    ∃ n, degrees.get? index = some n := by
  match index, h with
  | 0, _ => exact ⟨_, rfl⟩
  | 1, _ => exact ⟨_, rfl⟩
  | 2, _ => exact ⟨_, rfl⟩
  | 3, _ => exact ⟨_, rfl⟩
  | 4, _ => exact ⟨_, rfl⟩

/-- No suffix has a brace. -/
def OrdinalSuffixes.BraceFree (ordinals : OrdinalSuffixes) : Prop :=
  ∀ category, (ordinals.suffix category).BraceFree

/-- A text without braces, or a gap. -/
def Segment.BraceFree : Segment → Prop
  | .literal text => text.BraceFree
  | .placeholder _ _ => True

instance (segment : Segment) : Decidable segment.BraceFree :=
  match segment with
  | .literal text => inferInstanceAs (Decidable text.BraceFree)
  | .placeholder _ _ => instDecidableTrue

namespace Template

/-- No text of the template has a brace. -/
def BraceFree (template : Template) : Prop := ∀ segment ∈ template, segment.BraceFree

instance (template : Template) : Decidable template.BraceFree :=
  inferInstanceAs (Decidable (∀ segment ∈ template, segment.BraceFree))

/-- No text of the template has a brace, and its gaps are among the first so many. -/
structure IsFillable (template : Template) (count : Nat) : Prop where
  braceFree : template.BraceFree
  lt_count : ∀ index ∈ template.indices, index < count

variable {ordinals : OrdinalSuffixes} {texts : List Text} {template : Template} {count : Nat}

theorem lt_of_mem_placeholder {index : Nat} {style : Option NumberStyle}
    (h : ∀ index ∈ template.indices, index < count) (hmem : .placeholder index style ∈ template) :
    index < count :=
  h index (List.mem_filterMap.2 ⟨_, hmem, rfl⟩)

/-- The characters of a template outside its gaps. -/
def literals (template : Template) : Text :=
  template.flatMap fun
    | .literal text => text
    | .placeholder _ _ => []

theorem mem_literals_iff {c : Char} :
    c ∈ template.literals ↔ ∃ text, .literal text ∈ template ∧ c ∈ text := by
  rw [literals, List.mem_flatMap]
  constructor
  · rintro ⟨segment, hmem, hc⟩
    cases segment with
    | literal text => exact ⟨text, hmem, hc⟩
    | placeholder index style => cases hc
  · rintro ⟨text, hmem, hc⟩
    exact ⟨.literal text, hmem, hc⟩

/-- Where all gaps have degrees, the characters of a phrase are those of its template outside the gaps
and those of numbers. -/
theorem forall_mem_fillDegrees {P : Char → Prop} (hdigit : ∀ c, c.isDigit = true → P c)
    (hsign : P '-') (hordinals : ∀ category, ∀ c ∈ ordinals.suffix category, P c)
    (hliterals : ∀ c ∈ template.literals, P c)
    (hgaps : ∀ index ∈ template.indices, index < Degrees.count) (degrees : Degrees) :
    ∀ c ∈ template.fillDegrees degrees ordinals, P c := by
  intro c hc
  obtain ⟨segment, hmem, hsegment⟩ := List.mem_flatMap.1 hc
  cases segment with
  | literal text => exact hliterals c (mem_literals_iff.2 ⟨text, hmem, hsegment⟩)
  | placeholder index style =>
    obtain ⟨n, hn⟩ := degrees.exists_get?_eq_some (lt_of_mem_placeholder hgaps hmem)
    simp only [hn] at hsegment
    cases hstyle : style.getD (defaultStyle index) with
    | ordinal =>
      rw [hstyle] at hsegment
      rcases List.mem_append.1 hsegment with hnumeral | hsuffix
      · exact Text.forall_mem_integerNumeral hdigit hsign n c hnumeral
      · exact hordinals _ c hsuffix
    | cardinal =>
      rw [hstyle] at hsegment
      exact Text.forall_mem_integerNumeral hdigit hsign n c hsegment

namespace IsFillable

/-- A template whose gaps all have degrees gives a phrase without braces. -/
theorem fillDegrees (h : template.IsFillable Degrees.count) (hordinals : ordinals.BraceFree)
    (degrees : Degrees) : (template.fillDegrees degrees ordinals).BraceFree := by
  have hliterals : ∀ c ∈ template.literals, c ≠ '{' ∧ c ≠ '}' := by
    intro c hc
    obtain ⟨text, hmem, hctext⟩ := mem_literals_iff.1 hc
    exact h.braceFree _ hmem c hctext
  refine forall_mem_fillDegrees (fun c hdigit => ?_) (by decide) hordinals hliterals h.lt_count
    degrees
  constructor
  · rintro rfl
    exact absurd hdigit (by decide)
  · rintro rfl
    exact absurd hdigit (by decide)

/-- A template whose gaps all have texts gives a phrase without braces, if the texts have none. -/
theorem fillTexts (h : template.IsFillable texts.length) (htexts : ∀ text ∈ texts, text.BraceFree) :
    (template.fillTexts texts).BraceFree := by
  refine Text.braceFree_flatMap fun segment hmem => ?_
  cases segment with
  | literal text => exact h.braceFree _ hmem
  | placeholder index style =>
    have hlt : index < texts.length := lt_of_mem_placeholder h.lt_count hmem
    simpa only [List.getElem?_eq_getElem hlt, Option.getD_some] using
      htexts _ (List.getElem_mem hlt)

end IsFillable

end Template

/-! ## Possessive forms -/

namespace GenitiveTable

variable {table : GenitiveTable} {phrase : Text}

/-- All forms can be filled with the text before a word and the text after it. -/
structure IsFillable (table : GenitiveTable) : Prop where
  words : ∀ word form, table.words.get? word = some form → form.IsFillable 2
  default : table.default.IsFillable 2

/-- The possessive form of a phrase without braces has none. -/
theorem IsFillable.possessive (h : table.IsFillable) (hphrase : phrase.BraceFree) :
    (table.possessive phrase).BraceFree := by
  rw [GenitiveTable.possessive]
  split
  · rename_i before form after hform
    obtain ⟨earlier, word, later, hsegments, hword, -, rfl, rfl⟩ := lastForm?_eq_some hform
    rw [← Text.segments_flatten phrase, hsegments, List.flatten_append, List.flatten_cons,
      Text.braceFree_append_iff, Text.braceFree_append_iff] at hphrase
    obtain ⟨hbefore, -, hafter⟩ := hphrase
    refine (h.words word form hword.get?).fillTexts (List.forall_mem_cons.2 ⟨hbefore, ?_⟩)
    exact List.forall_mem_singleton.2 hafter
  · refine h.default.fillTexts (List.forall_mem_cons.2 ⟨hphrase, ?_⟩)
    exact List.forall_mem_singleton.2 Text.braceFree_nil

end GenitiveTable

end Kindred
