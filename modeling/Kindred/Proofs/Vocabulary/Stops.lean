import Kindred.Proofs.Vocabulary.Locality
import Kindred.Proofs.Vocabulary.Reading

/-!
# Where readers stop

A reader that goes on leaves an end of the text, and so does one that stops: the place at which it
stops is a place of the text (`LeavesEnd`). Alternatives start again where they began, and what is
read as far as it goes never stops (`leavesEnd_ordinalEntries`); sequences stop where one of their
parts does (`LeavesEnd.bind`). **Every definition stops behind the word that starts it**
(`Starts.leavesEnd`).
-/

namespace Kindred

namespace Vocabulary

open Grammar

/-- Whether it goes on or stops, the reader leaves an end of the text. -/
structure LeavesEnd {α : Type} (reader : Reader α) : Prop where
  ok : ∀ ⦃text a rest⦄, reader text = .ok (a, rest) → rest <:+ text
  error : ∀ ⦃text stop⦄, reader text = .error stop → stop <:+ text

variable {α β : Type} {text rest stop : Text}

/-! ## Readers one after the other -/

theorem bind_eq_error_iff {first : Reader α} {next : α → Reader β} :
    (first >>= next) text = .error stop ↔
      first text = .error stop ∨
        ∃ a after, first text = .ok (a, after) ∧ next a after = .error stop := by
  change (first text >>= fun read => next read.1 read.2) = _ ↔ _
  cases first text with
  | error stop => simp [bind, Except.bind]
  | ok read => simp [bind, Except.bind, Prod.ext_iff, and_assoc]

namespace LeavesEnd

theorem fail : LeavesEnd fun text => (.error text : Except Text (α × Text)) where
  ok _ _ _ h := nomatch h
  error text stop h := by
    obtain rfl := Except.error.inj h
    exact List.suffix_rfl

theorem pure (a : α) : LeavesEnd (pure a : Reader α) where
  ok text b rest h := by
    obtain ⟨-, rfl⟩ := pure_eq_ok_iff.1 h
    exact List.suffix_rfl
  error _ _ h := nomatch h

theorem bind {first : Reader α} {next : α → Reader β} (hfirst : LeavesEnd first)
    (hnext : ∀ a, LeavesEnd (next a)) : LeavesEnd (first >>= next) where
  ok text b rest h := by
    obtain ⟨a, after, ha, hb⟩ := bind_eq_ok_iff.1 h
    exact ((hnext a).ok hb).trans (hfirst.ok ha)
  error text stop h := by
    obtain h | ⟨a, after, ha, hb⟩ := bind_eq_error_iff.1 h
    · exact hfirst.error h
    · exact ((hnext a).error hb).trans (hfirst.ok ha)

theorem map {reader : Reader α} (h : LeavesEnd reader) (f : α → β) : LeavesEnd (f <$> reader) := by
  rw [← bind_pure_comp]
  exact h.bind fun a => .pure (f a)

theorem either {first second : Reader α} (hfirst : LeavesEnd first) (hsecond : LeavesEnd second) :
    LeavesEnd (either first second) where
  ok text a rest h := by
    obtain h | ⟨-, h⟩ := either_eq_ok_iff.1 h
    · exact hfirst.ok h
    · exact hsecond.ok h
  error text stop h := by
    unfold Vocabulary.either at h
    split at h
    · cases h
    split at h
    · cases h
    · obtain rfl := Except.error.inj h
      exact List.suffix_rfl

end LeavesEnd

/-! ## Phrases -/

theorem leavesEnd_trivia : LeavesEnd trivia where
  ok text u rest h := by
    obtain ⟨read, htext, -⟩ := isLocal_trivia (trivia_eq_ok_iff.1 h).1
    exact ⟨read, htext.symm⟩
  error _ _ h := nomatch h

theorem leavesEnd_sign (c : Char) : LeavesEnd (sign c) where
  ok text u rest h := ⟨[c], (sign_eq_ok_iff.1 h).symm⟩
  error text stop h := by
    unfold sign at h
    split at h
    · split at h
      · cases h
      · obtain rfl := Except.error.inj h
        exact List.suffix_rfl
    · obtain rfl := Except.error.inj h
      exact List.suffix_rfl

theorem leavesEnd_run (kind : Char → Bool) : LeavesEnd (run kind) where
  ok text word rest h := ⟨word, (run_eq_ok_iff.1 h).1.1.symm⟩
  error text stop h := by
    unfold run at h
    split at h
    · obtain rfl := Except.error.inj h
      exact List.suffix_rfl
    · cases h

/-- Behind an opening quote without a closing one, the reader stops at the end of the text. -/
theorem leavesEnd_unquote : LeavesEnd unquote where
  ok text content rest h := by
    obtain ⟨rfl, -⟩ := unquote_eq_ok_iff.1 h
    exact ⟨content ++ ['"'], (List.append_cons ..).symm⟩
  error text stop h := by
    unfold unquote at h
    split at h
    · cases h
    · obtain rfl := Except.error.inj h
      exact List.dropWhile_suffix _

theorem leavesEnd_tokens : LeavesEnd tokens where
  ok text template rest h := by
    have hsuffix := suffix_of_scanTokens (fun _ _ => readToken?_of_quotedToken?) text.length text
    rwa [Except.ok.inj h] at hsuffix
  error _ _ h := nomatch h

theorem leavesEnd_equals : LeavesEnd equals :=
  leavesEnd_trivia.bind fun _ => (leavesEnd_sign '=').bind fun _ => leavesEnd_trivia

theorem leavesEnd_semicolon : LeavesEnd semicolon :=
  leavesEnd_trivia.bind fun _ => leavesEnd_sign ';'

theorem leavesEnd_comma : LeavesEnd comma :=
  leavesEnd_trivia.bind fun _ => leavesEnd_sign ','

theorem leavesEnd_quoted : LeavesEnd quoted :=
  (leavesEnd_sign '"').bind fun _ => leavesEnd_unquote

theorem leavesEnd_template : LeavesEnd template :=
  (leavesEnd_sign '"').bind fun _ => leavesEnd_tokens.bind fun template =>
    (leavesEnd_sign '"').bind fun _ => .pure template

theorem leavesEnd_termKey : LeavesEnd termKey := leavesEnd_quoted.either (leavesEnd_run _)

theorem leavesEnd_genitiveTarget : LeavesEnd genitiveTarget :=
  (leavesEnd_quoted.map _).either ((leavesEnd_run _).map _)

/-! ## Blocks of ordinals -/

theorem leavesEnd_ordinalEntry : LeavesEnd ordinalEntry := by
  refine (leavesEnd_run _).bind fun name => ?_
  cases OrdinalCategory.ofName? name with
  | none => exact .fail
  | some category =>
    exact leavesEnd_trivia.bind fun _ => (leavesEnd_sign ':').bind fun _ =>
      leavesEnd_trivia.bind fun _ => leavesEnd_quoted.bind fun _ => .pure _

theorem leavesEnd_lastComma (entries : List OrdinalEntry) : LeavesEnd (lastComma entries) :=
  (leavesEnd_comma.bind fun _ => .pure entries).either (.pure entries)

theorem leavesEnd_ordinalEntries : LeavesEnd ordinalEntries := by
  -- the entries are read as far as they go, and then a comma or none
  have hlast : ∀ text, ∃ entries behind, behind <:+ text ∧
      ordinalEntries text = lastComma entries behind := by
    intro text
    cases hentry : ordinalEntry text with
    | error stop => exact ⟨[], text, List.suffix_rfl, ordinalEntries_of_error hentry⟩
    | ok read =>
      obtain ⟨entry, after⟩ := read
      obtain ⟨front, hafter, -⟩ := isLocal_further _ (further_moreEntries after.length after)
      exact ⟨_, _, (List.IsSuffix.trans ⟨front, hafter.symm⟩ (leavesEnd_ordinalEntry.ok hentry)),
        ordinalEntries_of_ok hentry⟩
  constructor
  · intro text entries rest h
    obtain ⟨entries, behind, hbehind, heq⟩ := hlast text
    exact ((leavesEnd_lastComma entries).ok (heq ▸ h)).trans hbehind
  · intro text stop h
    obtain ⟨entries, behind, hbehind, heq⟩ := hlast text
    exact ((leavesEnd_lastComma entries).error (heq ▸ h)).trans hbehind

/-! ## Definitions -/

/-- What stands on the two sides of an equals sign, with the semicolon behind it. -/
theorem leavesEnd_sides {left : Reader α} {right : Reader β} (hleft : LeavesEnd left)
    (hright : LeavesEnd right) (f : α → β → Definition) :
    LeavesEnd (do
      let a ← left
      equals
      let b ← right
      semicolon
      return f a b) :=
  hleft.bind fun a => leavesEnd_equals.bind fun _ => hright.bind fun b =>
    leavesEnd_semicolon.bind fun _ => .pure (f a b)

theorem leavesEnd_ordinalsBody : LeavesEnd ordinalsBody :=
  leavesEnd_equals.bind fun _ => (leavesEnd_sign '{').bind fun _ => leavesEnd_trivia.bind fun _ =>
    leavesEnd_ordinalEntries.bind fun entries => leavesEnd_trivia.bind fun _ =>
      (leavesEnd_sign '}').bind fun _ => leavesEnd_semicolon.bind fun _ => .pure (Definition.ordinals entries)

theorem leavesEnd_unrelatedBody : LeavesEnd unrelatedBody :=
  leavesEnd_equals.bind fun _ => leavesEnd_quoted.bind fun phrase =>
    leavesEnd_semicolon.bind fun _ => .pure (Definition.unrelated phrase)

/-- **What is read behind the start of a definition stops behind it.** -/
theorem Starts.leavesEnd {body : Reader Definition} (h : Starts text body rest) :
    LeavesEnd body := by
  cases h with
  | term => exact leavesEnd_sides leavesEnd_termKey leavesEnd_template .term
  | rule =>
    exact leavesEnd_sides leavesEnd_quoted leavesEnd_quoted fun pattern template =>
      .rule pattern (.read template)
  | genitive => exact leavesEnd_sides leavesEnd_genitiveTarget leavesEnd_template .genitive
  | ordinals => exact leavesEnd_ordinalsBody
  | unrelated => exact leavesEnd_unrelatedBody

end Vocabulary

end Kindred
