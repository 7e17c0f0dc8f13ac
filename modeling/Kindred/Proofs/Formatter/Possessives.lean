import Kindred.Genitive

/-!
# Possessive forms of phrases

The possessive form of a phrase is the template of its last word that has one, with the text before the
word and the text after it in its gaps; the text of the word itself is all that is lost of the phrase.
Where no word has a template the whole phrase goes into the default one. **`possessive_eq` is the main
statement.** A word is looked for from the end of the phrase (`lastForm?_eq_some`), and which text goes
into a gap depends on the number of the gap alone (`Template.splice`).
-/

namespace Kindred

/-! ## Gaps for two texts -/

namespace Template

/-- A template with a text in each gap 0 and another in each gap 1, of whatever style. The other gaps
stay as they are written. -/
def splice (before after : Text) : Template → Text
  | [] => []
  | .literal text :: rest => text ++ splice before after rest
  | .placeholder 0 _ :: rest => before ++ splice before after rest
  | .placeholder 1 _ :: rest => after ++ splice before after rest
  | .placeholder (index + 2) style :: rest =>
    Segment.placeholderText (index + 2) style ++ splice before after rest

theorem fillTexts_pair (template : Template) (before after : Text) :
    template.fillTexts [before, after] = template.splice before after := by
  induction template with
  | nil => rfl
  | cons segment rest ih =>
    rw [fillTexts] at ih ⊢
    rw [List.flatMap_cons, ih]
    rcases segment with text | ⟨index, style⟩
    · rfl
    · rcases index with _ | _ | index
      · rfl
      · rfl
      · rfl

end Template

/-! ## The last word with a form -/

namespace GenitiveTable

variable {table : GenitiveTable} {segments : List Text} {segment before after phrase : Text}
  {form : Template}

/-- The segment is a word, and it has a possessive form of its own. -/
structure HasForm (table : GenitiveTable) (segment : Text) (form : Template) : Prop where
  isWord : Text.isWord segment = true
  get? : table.words.get? segment = some form

theorem lastForm?_eq_none_iff :
    table.lastForm? segments = none ↔ ∀ segment ∈ segments, ∀ form, ¬ table.HasForm segment form := by
  induction segments with
  | nil => simp [lastForm?]
  | cons segment rest ih =>
    rw [lastForm?, List.forall_mem_cons, ← ih]
    cases hrest : table.lastForm? rest with
    | some found => simp
    | none =>
      simp only [and_true]
      constructor
      · intro hnone form h
        rw [if_pos h.isWord, h.get?] at hnone
        cases hnone
      · intro h
        by_cases hword : Text.isWord segment = true
        · rw [if_pos hword, Option.map_eq_none_iff, Option.eq_none_iff_forall_ne_some]
          exact fun form hget => h form ⟨hword, hget⟩
        · exact if_neg hword

/-- The form is that of the last segment that has one, and the texts are those around the segment. -/
theorem lastForm?_eq_some (h : table.lastForm? segments = some (before, form, after)) :
    ∃ earlier word later, segments = earlier ++ word :: later ∧ table.HasForm word form ∧
      (∀ other ∈ later, ∀ form, ¬ table.HasForm other form) ∧
      before = earlier.flatten ∧ after = later.flatten := by
  induction segments generalizing before with
  | nil => cases h
  | cons segment rest ih =>
    rw [lastForm?] at h
    cases hrest : table.lastForm? rest with
    | some found =>
      obtain ⟨front, form', behind⟩ := found
      simp only [hrest, Option.some.injEq, Prod.mk.injEq] at h
      obtain ⟨rfl, rfl, rfl⟩ := h
      obtain ⟨earlier, word, later, rfl, hword, hlater, rfl, rfl⟩ := ih hrest
      exact ⟨segment :: earlier, word, later, rfl, hword, hlater, rfl, rfl⟩
    | none =>
      by_cases hword : Text.isWord segment = true
      · simp only [hrest, hword, if_true, Option.map_eq_some_iff, Prod.mk.injEq] at h
        obtain ⟨form', hform, rfl, rfl, rfl⟩ := h
        exact ⟨[], segment, rest, rfl, ⟨hword, hform⟩, lastForm?_eq_none_iff.1 hrest, rfl, rfl⟩
      · simp [hrest, hword] at h

/-! ## The possessive form -/

theorem possessive_of_no_form
    (h : ∀ segment ∈ Text.segments phrase, ∀ form, ¬ table.HasForm segment form) :
    table.possessive phrase = table.default.splice phrase [] := by
  rw [possessive, lastForm?_eq_none_iff.2 h]
  exact Template.fillTexts_pair table.default phrase []

/-- **Which template the possessive form of a phrase has, and what goes into its gaps.** If no word of
the phrase has a form, the default form has the whole phrase in the gap 0 and nothing in the gap 1. If
words have forms, that of the last one counts, and it has the text before this word in the gap 0 and the
text after it in the gap 1; the three make up the phrase. -/
theorem possessive_eq (table : GenitiveTable) (phrase : Text) :
    ((∀ word ∈ Text.segments phrase, ∀ form, ¬ table.HasForm word form) →
      table.possessive phrase = table.default.splice phrase []) ∧
    ((∃ word ∈ Text.segments phrase, ∃ form, table.HasForm word form) →
      ∃ earlier word later form, Text.segments phrase = earlier ++ word :: later ∧
        table.HasForm word form ∧ (∀ other ∈ later, ∀ form, ¬ table.HasForm other form) ∧
          phrase = earlier.flatten ++ word ++ later.flatten ∧
            table.possessive phrase = form.splice earlier.flatten later.flatten) := by
  refine ⟨possessive_of_no_form, fun ⟨word, hmem, form, hform⟩ => ?_⟩
  cases hlast : table.lastForm? (Text.segments phrase) with
  | none => exact absurd hform (lastForm?_eq_none_iff.1 hlast word hmem form)
  | some found =>
    obtain ⟨before, form, after⟩ := found
    obtain ⟨earlier, word, later, hsegments, hword, hlater, rfl, rfl⟩ := lastForm?_eq_some hlast
    have hphrase : phrase = earlier.flatten ++ word ++ later.flatten := by
      have hflatten := Text.segments_flatten phrase
      rw [hsegments, List.flatten_append, List.flatten_cons, ← List.append_assoc] at hflatten
      exact hflatten.symm
    refine ⟨earlier, word, later, form, hsegments, hword, hlater, hphrase, ?_⟩
    rw [possessive, hlast]
    exact Template.fillTexts_pair form earlier.flatten later.flatten

/-- A form for the person from whom a path starts, with a gap in a style that texts do not have. -/
def selfTable : GenitiveTable where
  words := Dictionary.empty.insert ['I']
    [.placeholder 0 (some .ordinal), .literal "my".toList, .placeholder 1 none, .literal " ".toList]
  default := english.default

/-- Of a word that occurs twice the last occurrence is replaced. -/
theorem possessive_eq_self :
    (∃ word ∈ Text.segments "I and I, too".toList, ∃ form, selfTable.HasForm word form) ∧
      (∃ earlier word later form, Text.segments "I and I, too".toList = earlier ++ word :: later ∧
        selfTable.HasForm word form ∧ (∀ other ∈ later, ∀ form, ¬ selfTable.HasForm other form) ∧
          selfTable.possessive "I and I, too".toList = form.splice earlier.flatten later.flatten) ∧
      selfTable.possessive "I and I, too".toList = "I and my, too ".toList ∧
      (∀ word ∈ Text.segments "Élise's wife".toList, ∀ form, ¬ selfTable.HasForm word form) ∧
      selfTable.possessive "Élise's wife".toList = "Élise's wife's ".toList := by
  have hself : ∃ word ∈ Text.segments "I and I, too".toList, ∃ form, selfTable.HasForm word form :=
    ⟨['I'], by decide +kernel, _, by decide +kernel, rfl⟩
  have hnone : ∀ word ∈ Text.segments "Élise's wife".toList, ∀ form,
      ¬ selfTable.HasForm word form := by
    have hwords : ∀ word ∈ Text.segments "Élise's wife".toList, selfTable.words.get? word = none := by
      decide +kernel
    intro word hword form hform
    have hget := hform.get?
    rw [hwords word hword] at hget
    cases hget
  obtain ⟨earlier, word, later, form, hsegments, hform, hlater, -, hpossessive⟩ :=
    (possessive_eq selfTable "I and I, too".toList).2 hself
  refine ⟨hself, ⟨earlier, word, later, form, hsegments, hform, hlater, hpossessive⟩,
    by decide +kernel, hnone, ?_⟩
  rw [(possessive_eq selfTable _).1 hnone]
  decide +kernel

end GenitiveTable

end Kindred
