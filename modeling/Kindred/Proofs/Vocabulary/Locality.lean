import Kindred.Proofs.Vocabulary.Grammar
import Mathlib.Logic.Relation

/-!
# Phrases with other texts behind them

What makes a text start with a phrase stands in front of what is left of it. So the text that is left
can be taken away or replaced, and the phrase stays the same (`IsLocal`, `IsClosed`): only a comment
and a word without quotes need to be told where they end, and for that the first character behind
them is enough (`MayFollow`). Both properties are kept where phrases are put one after the other
(`IsLocal.comp`, `IsLocal.comp_isClosed`).

**A definition is what it is whatever stands behind it** (`isClosed_item`), and definitions in front of
a rest are definitions without it (`isLocal_itemsUpTo`).
-/

namespace Kindred

namespace Vocabulary

namespace Grammar

/-! ## Local and closed phrases -/

/-- Behind a phrase, the text `other` ends comments and words where `rest` does: it is empty, starts
a new line or starts with the same character. -/
def MayFollow (rest other : Text) : Prop := other.head? = rest.head? ∨ ∀ c ∈ other.head?, c = '\n'

/-- In front of a text that may follow in place of the rest, the phrase stays. -/
def LocalAt (phrase : Text → Text → Prop) (text rest : Text) : Prop :=
  ∃ read, text = read ++ rest ∧ ∀ other, MayFollow rest other → phrase (read ++ other) other

/-- The phrase is not empty, and it stays in front of any text at all. -/
def ClosedAt (phrase : Text → Text → Prop) (text rest : Text) : Prop :=
  ∃ read, read ≠ [] ∧ text = read ++ rest ∧ ∀ other, phrase (read ++ other) other

/-- Wherever the phrase stands, its end is told by the first character behind it. -/
def IsLocal (phrase : Text → Text → Prop) : Prop :=
  ∀ ⦃text rest⦄, phrase text rest → LocalAt phrase text rest

/-- Wherever the phrase stands, what is behind it does not matter. -/
def IsClosed (phrase : Text → Text → Prop) : Prop :=
  ∀ ⦃text rest⦄, phrase text rest → ClosedAt phrase text rest

variable {text rest other read : Text} {first next phrase : Text → Text → Prop}
  {kind : Char → Bool} {c : Char}

theorem mayFollow_nil : MayFollow rest [] := .inr fun _ h => nomatch h

theorem MayFollow.append (h : MayFollow rest other) (read : Text) :
    MayFollow (read ++ rest) (read ++ other) := by
  cases read with
  | nil => exact h
  | cons c read => exact .inl rfl

theorem mayFollow_of_ne_nil (h : read ≠ []) : MayFollow (read ++ rest) (read ++ other) := by
  obtain ⟨c, read, rfl⟩ := List.exists_cons_of_ne_nil h
  exact .inl rfl

theorem EndsRun.of_mayFollow (h : EndsRun kind rest) (hother : MayFollow rest other)
    (hkind : kind '\n' = false) : EndsRun kind other := by
  intro c hc
  obtain hsame | hline := hother
  · exact h c (hsame ▸ hc)
  · rw [hline c hc, hkind]

theorem IsClosed.isLocal (h : IsClosed phrase) : IsLocal phrase := by
  intro text rest hphrase
  obtain ⟨read, -, htext, hread⟩ := h hphrase
  exact ⟨read, htext, fun other _ => hread other⟩

/-- What makes up a phrase may be local in its place. -/
theorem IsLocal.lift (h : IsLocal first) (hphrase : ∀ ⦃text rest⦄, first text rest → phrase text rest)
    (hfirst : first text rest) : LocalAt phrase text rest := by
  obtain ⟨read, htext, hread⟩ := h hfirst
  exact ⟨read, htext, fun other hother => hphrase (hread other hother)⟩

/-- What makes up a phrase may be closed in its place. -/
theorem IsClosed.lift (h : IsClosed first)
    (hphrase : ∀ ⦃text rest⦄, first text rest → phrase text rest) (hfirst : first text rest) :
    ClosedAt phrase text rest := by
  obtain ⟨read, hne, htext, hread⟩ := h hfirst
  exact ⟨read, hne, htext, fun other => hphrase (hread other)⟩

theorem IsLocal.comp (hfirst : IsLocal first) (hnext : IsLocal next) :
    IsLocal (Relation.Comp first next) := by
  rintro text rest ⟨middle, h, hrest⟩
  obtain ⟨behind, rfl, hbehind⟩ := hnext hrest
  obtain ⟨read, rfl, hread⟩ := hfirst h
  refine ⟨read ++ behind, (List.append_assoc ..).symm, fun other hother => ?_⟩
  rw [List.append_assoc]
  exact ⟨_, hread _ (hother.append behind), hbehind other hother⟩

/-- A phrase is closed if its last part is. -/
theorem IsLocal.comp_isClosed (hfirst : IsLocal first) (hnext : IsClosed next) :
    IsClosed (Relation.Comp first next) := by
  rintro text rest ⟨middle, h, hrest⟩
  obtain ⟨behind, hne, rfl, hbehind⟩ := hnext hrest
  obtain ⟨read, rfl, hread⟩ := hfirst h
  refine ⟨read ++ behind, fun hnil => hne (List.append_eq_nil_iff.1 hnil).2,
    (List.append_assoc ..).symm, fun other => ?_⟩
  rw [List.append_assoc]
  exact ⟨_, hread _ (mayFollow_of_ne_nil hne), hbehind other⟩

/-- A phrase and a sign behind it are closed. -/
theorem IsLocal.sign (h : IsLocal phrase) (c : Char) :
    IsClosed fun text rest => phrase text (c :: rest) := by
  intro text rest hphrase
  obtain ⟨read, rfl, hread⟩ := h hphrase
  refine ⟨read ++ [c], List.append_ne_nil_of_right_ne_nil _ (List.cons_ne_nil c []),
    List.append_cons .., fun other => ?_⟩
  rw [← List.append_cons]
  exact hread (c :: other) (.inl rfl)

/-! ## Blanks, comments and words -/

theorem isClosed_word {word : Text} (h : word ≠ []) :
    IsClosed fun text rest => text = word ++ rest :=
  fun _ _ htext => ⟨word, h, htext, fun _ => rfl⟩

theorem isLocal_trivia : IsLocal Trivia := by
  intro text rest h
  induction h with
  | none => exact ⟨[], rfl, fun other _ => .none⟩
  | blank hblank h ih =>
    obtain ⟨read, rfl, hread⟩ := ih
    exact ⟨_ :: read, rfl, fun other hother => .blank hblank (hread other hother)⟩
  | @comment content text rest hcontent hend h ih =>
    obtain ⟨read, rfl, hread⟩ := ih
    refine ⟨'/' :: '/' :: (content ++ read), by simp, fun other hother => ?_⟩
    have hline : ∀ c ∈ (read ++ other).head?, c = '\n' := by
      intro c hc
      obtain hsame | hline := hother.append read
      · exact hend c (hsame ▸ hc)
      · exact hline c hc
    have hcomment := Trivia.comment hcontent hline (hread other hother)
    rwa [← List.append_assoc] at hcomment

theorem isClosed_run (kind : Char → Bool) (word : Text) :
    IsClosed fun text rest => Run kind text word rest := by
  rintro _ rest ⟨rfl, hne, hword⟩
  exact ⟨word, hne, rfl, fun other => ⟨rfl, hne, hword⟩⟩

theorem isClosed_blanks : IsClosed Blanks := by
  rintro text rest ⟨blanks, hblanks⟩
  exact (isClosed_run Text.isBlank blanks).lift (fun _ _ h => ⟨blanks, h⟩) hblanks

theorem isLocal_equals : IsLocal Equals := (isLocal_trivia.sign '=').isLocal.comp isLocal_trivia

theorem isClosed_semicolon : IsClosed Semicolon := isLocal_trivia.sign ';'

theorem isClosed_quoted (content : Text) : IsClosed fun text rest => Quoted text content rest := by
  rintro _ rest ⟨rfl, hcontent⟩
  refine ⟨'"' :: (content ++ ['"']), List.cons_ne_nil _ _, by simp, fun other => ⟨?_, hcontent⟩⟩
  simp

theorem isClosed_quotedTemplate (template : Template) :
    IsClosed fun text rest => QuotedTemplate text template rest := by
  rintro text rest ⟨content, hquoted, hparse⟩
  exact (isClosed_quoted content).lift (fun _ _ h => ⟨content, h, hparse⟩) hquoted

theorem isClosed_key (key : Text) : IsClosed fun text rest => Key text key rest := by
  intro text rest h
  cases h with
  | quoted h => exact (isClosed_quoted key).lift (fun _ _ h => .quoted h) h
  | bare h => exact (isClosed_run isKeyCharacter key).lift (fun _ _ h => .bare h) h

theorem isLocal_bareWord (word : Text) : IsLocal fun text rest => BareWord text word rest := by
  rintro text rest ⟨hrun, hends⟩
  obtain ⟨read, -, htext, hread⟩ := isClosed_run isWordCharacter word hrun
  exact ⟨read, htext, fun other hother =>
    ⟨hread other, hends.of_mayFollow hother (by decide)⟩⟩

theorem isLocal_target (target : GenitiveTarget) :
    IsLocal fun text rest => Target text target rest := by
  intro text rest h
  cases h with
  | quoted h => exact (isClosed_quoted _).isLocal.lift (fun _ _ h => .quoted h) h
  | default h => exact (isLocal_bareWord _).lift (fun _ _ h => .default h) h
  | bare h hword => exact (isLocal_bareWord _).lift (fun _ _ h => .bare h hword) h

/-! ## Blocks -/

theorem isClosed_entry (entry : OrdinalEntry) : IsClosed fun text rest => Entry text entry rest := by
  rintro text rest ⟨named, colon, suffix, hname, hcolon, hsuffix, hquoted⟩
  have hne : entry.category.name ≠ [] := by cases entry.category <;> decide
  have hbehind := (isLocal_trivia.sign ':').isLocal.comp_isClosed
    (isLocal_trivia.comp_isClosed (isClosed_quoted entry.suffix))
  exact ((isClosed_word hne).isLocal.comp_isClosed hbehind).lift
    (fun _ _ ⟨named, hname, colon, hcolon, suffix, hsuffix, hquoted⟩ =>
      ⟨named, colon, suffix, hname, hcolon, hsuffix, hquoted⟩)
    ⟨named, hname, colon, hcolon, suffix, hsuffix, hquoted⟩

theorem isLocal_further (entries : List OrdinalEntry) :
    IsLocal fun text rest => Further text entries rest := by
  induction entries with
  | nil =>
    intro text rest h
    cases h with
    | none => exact ⟨[], rfl, fun other _ => .none⟩
  | cons entry entries ih =>
    intro text rest h
    cases h with
    | more hcomma hnext hentry h =>
      have hbehind := isLocal_trivia.comp ((isClosed_entry entry).isLocal.comp ih)
      exact ((isLocal_trivia.sign ',').isLocal.comp hbehind).lift
        (fun _ _ ⟨_, hcomma, _, hnext, _, hentry, h⟩ => .more hcomma hnext hentry h)
        ⟨_, hcomma, _, hnext, _, hentry, h⟩

theorem isLocal_entries (entries : List OrdinalEntry) :
    IsLocal fun text rest => Entries text entries rest := by
  intro text rest h
  cases h with
  | none => exact ⟨[], rfl, fun other _ => .none⟩
  | some hentry h =>
    exact ((isClosed_entry _).isLocal.comp (isLocal_further _)).lift
      (fun _ _ ⟨_, hentry, h⟩ => .some hentry h) ⟨_, hentry, h⟩

/-- A comma with blanks and comments before it, or nothing. -/
theorem isLocal_lastComma :
    IsLocal fun text rest => rest = text ∨ Trivia text (',' :: rest) := by
  rintro text rest (rfl | h)
  · exact ⟨[], rfl, fun other _ => .inl rfl⟩
  · exact (isLocal_trivia.sign ',').isLocal.lift (fun _ _ h => .inr h) h

theorem isClosed_block (entries : List OrdinalEntry) :
    IsClosed fun text rest => Block text entries rest := by
  rintro text rest ⟨after, last, hentries, hcomma, hclosed⟩
  exact ((isLocal_entries entries).comp_isClosed
    (isLocal_lastComma.comp_isClosed (isLocal_trivia.sign '}'))).lift
      (fun _ _ ⟨after, hentries, last, hcomma, hclosed⟩ =>
        ⟨after, last, hentries, hcomma, hclosed⟩)
      ⟨after, hentries, last, hcomma, hclosed⟩

/-! ## Definitions -/

/-- What stands on the two sides of an equals sign, with the semicolon behind it. -/
theorem isClosed_sides {left right : Text → Text → Prop} (hleft : IsLocal left)
    (hright : IsLocal right) :
    IsClosed (Relation.Comp left (Relation.Comp Equals (Relation.Comp right Semicolon))) :=
  hleft.comp_isClosed (isLocal_equals.comp_isClosed (hright.comp_isClosed isClosed_semicolon))

/-- A word that is not empty, and blanks behind it. -/
theorem isClosed_head {word : Text} (hword : word ≠ []) (hnext : IsClosed next) :
    IsClosed (Relation.Comp (fun text rest => text = word ++ rest) (Relation.Comp Blanks next)) :=
  (isClosed_word hword).isLocal.comp_isClosed (isClosed_blanks.isLocal.comp_isClosed hnext)

/-- **A definition stays what it is in front of any text.** -/
theorem isClosed_item (definition : Definition) :
    IsClosed fun text rest => Item text definition rest := by
  intro text rest h
  cases h with
  | @term _ _ _ _ _ _ key template hword hblanks hkey hequals htemplate hsemicolon =>
    have hsides :=
      isClosed_sides (isClosed_key key).isLocal (isClosed_quotedTemplate template).isLocal
    exact (isClosed_head (by decide) hsides).lift
      (fun _ _ ⟨_, hword, _, hblanks, _, hkey, _, hequals, _, htemplate, hsemicolon⟩ =>
        .term hword hblanks hkey hequals htemplate hsemicolon)
      ⟨_, hword, _, hblanks, _, hkey, _, hequals, _, htemplate, hsemicolon⟩
  | @rule _ _ _ _ _ _ pattern template hword hblanks hpattern hequals htemplate hsemicolon =>
    have hsides := isClosed_sides (isClosed_quoted pattern).isLocal (isClosed_quoted template).isLocal
    exact (isClosed_head (by decide) hsides).lift
      (fun _ _ ⟨_, hword, _, hblanks, _, hpattern, _, hequals, _, htemplate, hsemicolon⟩ =>
        .rule hword hblanks hpattern hequals htemplate hsemicolon)
      ⟨_, hword, _, hblanks, _, hpattern, _, hequals, _, htemplate, hsemicolon⟩
  | @genitive _ _ _ _ _ _ target template hword hblanks htarget hequals htemplate hsemicolon =>
    have hsides := isClosed_sides (isLocal_target target) (isClosed_quotedTemplate template).isLocal
    exact (isClosed_head (by decide) hsides).lift
      (fun _ _ ⟨_, hword, _, hblanks, _, htarget, _, hequals, _, htemplate, hsemicolon⟩ =>
        .genitive hword hblanks htarget hequals htemplate hsemicolon)
      ⟨_, hword, _, hblanks, _, htarget, _, hequals, _, htemplate, hsemicolon⟩
  | @ordinals _ _ _ _ _ entries hword hequals htrivia hblock hsemicolon =>
    have hbehind := isLocal_trivia.comp_isClosed
      ((isClosed_block entries).isLocal.comp_isClosed isClosed_semicolon)
    exact ((isClosed_word (by decide)).isLocal.comp_isClosed
      ((isLocal_equals.sign '{').isLocal.comp_isClosed hbehind)).lift
        (fun _ _ ⟨_, hword, _, hequals, _, htrivia, _, hblock, hsemicolon⟩ =>
          .ordinals hword hequals htrivia hblock hsemicolon)
        ⟨_, hword, _, hequals, _, htrivia, _, hblock, hsemicolon⟩
  | unrelated hword hequals hphrase hsemicolon =>
    exact (isClosed_sides (isClosed_word (by decide)).isLocal (isClosed_quoted _).isLocal).lift
      (fun _ _ ⟨_, hword, _, hequals, _, hphrase, hsemicolon⟩ =>
        .unrelated hword hequals hphrase hsemicolon)
      ⟨_, hword, _, hequals, _, hphrase, hsemicolon⟩

/-- Definitions up to a rest, `(ITEM T)*`. -/
inductive ItemsUpTo : Text → List Definition → Text → Prop
  | nil {rest : Text} : ItemsUpTo rest [] rest
  | cons {text after next rest : Text} {definition : Definition} {definitions : List Definition}
      (hitem : Item text definition after) (htrivia : Trivia after next)
      (h : ItemsUpTo next definitions rest) : ItemsUpTo text (definition :: definitions) rest

theorem ItemsUpTo.items {definitions : List Definition} (h : ItemsUpTo text definitions rest)
    (hrest : rest = []) : Items text definitions := by
  induction h with
  | nil =>
    subst hrest
    exact .nil
  | cons hitem htrivia h ih => exact .cons hitem htrivia (ih hrest)

theorem isLocal_itemsUpTo (definitions : List Definition) :
    IsLocal fun text rest => ItemsUpTo text definitions rest := by
  induction definitions with
  | nil =>
    intro text rest h
    cases h with
    | nil => exact ⟨[], rfl, fun other _ => .nil⟩
  | cons definition definitions ih =>
    intro text rest h
    cases h with
    | cons hitem htrivia h =>
      exact ((isClosed_item definition).isLocal.comp (isLocal_trivia.comp ih)).lift
        (fun _ _ ⟨_, hitem, _, htrivia, h⟩ => .cons hitem htrivia h) ⟨_, hitem, _, htrivia, h⟩

end Grammar

end Vocabulary

end Kindred
