import Kindred.Proofs.Text.Position
import Kindred.Proofs.Vocabulary.Stops

/-!
# What syntax errors blame

A text that is no vocabulary is blamed behind the definitions that it starts with:
**`exists_split_of_read_eq_error` is the main statement.** What is in front is a vocabulary by itself.
Either no definition is begun behind it, and the first character there is blamed
(`SyntaxError.IsBetween`), or one is begun and not completed, and the error lies behind its first word
(`SyntaxError.IsInside`).
-/

namespace Kindred

namespace Vocabulary

open Grammar

variable {text rest pre stop after word : Text} {definitions : List Definition}

/-! ## Definitions that are begun -/

/-- The words that start definitions, and whether a blank has to follow. -/
def heads : List (Text × Bool) :=
  [("term".toList, true), ("rule".toList, true), ("genitive".toList, true),
    ("ordinals".toList, false), ("unrelated".toList, false)]

/-- A definition is begun with the word at the front of the text. -/
def Begins (text word : Text) : Prop :=
  ∃ blank behind, (word, blank) ∈ heads ∧ text = word ++ behind ∧
    (blank = true → ∃ c ∈ behind.head?, Text.isBlank c = true)

theorem Starts.begins {body : Reader Definition} (h : Starts text body after) :
    ∃ word blanks, Begins text word ∧ text = word ++ (blanks ++ after) := by
  have hblank : ∀ {behind : Text}, Blanks behind after →
      ∃ blanks, behind = blanks ++ after ∧ ∃ c ∈ behind.head?, Text.isBlank c = true := by
    rintro _ ⟨blanks, rfl, hne, hblanks⟩
    obtain ⟨c, blanks, rfl⟩ := List.exists_cons_of_ne_nil hne
    exact ⟨_, rfl, c, rfl, hblanks c List.mem_cons_self⟩
  cases h with
  | term hword hblanks hends =>
    obtain ⟨blanks, rfl, hfirst⟩ := hblank hblanks
    exact ⟨_, blanks, ⟨true, _, by decide, hword, fun _ => hfirst⟩, hword⟩
  | rule hword hblanks hends =>
    obtain ⟨blanks, rfl, hfirst⟩ := hblank hblanks
    exact ⟨_, blanks, ⟨true, _, by decide, hword, fun _ => hfirst⟩, hword⟩
  | genitive hword hblanks hends =>
    obtain ⟨blanks, rfl, hfirst⟩ := hblank hblanks
    exact ⟨_, blanks, ⟨true, _, by decide, hword, fun _ => hfirst⟩, hword⟩
  | ordinals hword => exact ⟨_, [], ⟨false, _, by decide, hword, fun h => nomatch h⟩, hword⟩
  | unrelated hword => exact ⟨_, [], ⟨false, _, by decide, hword, fun h => nomatch h⟩, hword⟩

/-- Where a definition is begun, a reader for it is found. -/
theorem Begins.head?_ne_none (h : Begins text word) : head? text ≠ none := by
  obtain ⟨blank, behind, hmem, htext, hblank⟩ := h
  have hblanks : blank = true → Blanks behind (behind.dropWhile Text.isBlank) ∧
      EndsRun Text.isBlank (behind.dropWhile Text.isBlank) := by
    intro htrue
    obtain ⟨c, hc, hfirst⟩ := hblank htrue
    obtain ⟨behind, rfl⟩ := List.head?_eq_some_iff.1 hc
    have htake : (c :: behind).takeWhile Text.isBlank ≠ [] := by simp [hfirst]
    exact ⟨⟨_, (run_takeWhile htake).1⟩, (run_takeWhile htake).2⟩
  suffices hstarts : ∃ body after, Starts text body after by
    obtain ⟨body, after, hstarts⟩ := hstarts
    rw [head?_eq_some_iff.2 hstarts]
    exact Option.some_ne_none _
  simp only [heads, List.mem_cons, Prod.mk.injEq, List.not_mem_nil, or_false] at hmem
  obtain ⟨rfl, rfl⟩ | ⟨rfl, rfl⟩ | ⟨rfl, rfl⟩ | ⟨rfl, rfl⟩ | ⟨rfl, rfl⟩ := hmem
  · exact ⟨_, _, .term htext (hblanks rfl).1 (hblanks rfl).2⟩
  · exact ⟨_, _, .rule htext (hblanks rfl).1 (hblanks rfl).2⟩
  · exact ⟨_, _, .genitive htext (hblanks rfl).1 (hblanks rfl).2⟩
  · exact ⟨_, _, .ordinals htext⟩
  · exact ⟨_, _, .unrelated htext⟩

/-! ## Runs of definitions -/

/-- The reader stops inside the first definition that is begun and not completed. -/
theorem definitionsUpTo_eq_error {limit : Nat} (h : definitionsUpTo limit text = .error stop) :
    ∃ definitions rest body after, ItemsUpTo text definitions rest ∧
      head? rest = some (body, after) ∧ body after = .error stop := by
  induction limit generalizing text with
  | zero => cases h
  | succ limit ih =>
    unfold definitionsUpTo at h
    split at h
    · cases h
    · rename_i body after hhead
      split at h
      · rename_i stop' hbody
        obtain rfl := Except.error.inj h
        exact ⟨[], text, body, after, .nil, hhead, hbody⟩
      · rename_i definition behind hbody
        split at h
        · rename_i stop' hstop
          obtain rfl := Except.error.inj h
          obtain ⟨definitions, rest, next, last, hitems, hnext, herror⟩ := ih hstop
          exact ⟨definition :: definitions, rest, next, last,
            .cons (definition_iff.1 ⟨body, after, hhead, hbody⟩) (trivia_skipTrivia behind) hitems,
            hnext, herror⟩
        · cases h

/-- Otherwise it goes on to where no definition is begun. -/
theorem itemsUpTo_of_definitionsUpTo {limit : Nat} (hlimit : text.length ≤ limit)
    (h : definitionsUpTo limit text = .ok (definitions, rest)) :
    ItemsUpTo text definitions rest ∧ head? rest = none := by
  induction limit generalizing text definitions with
  | zero =>
    obtain rfl := List.length_eq_zero_iff.1 (Nat.le_zero.1 hlimit)
    obtain ⟨rfl, rfl⟩ : [] = definitions ∧ [] = rest := by simpa [definitionsUpTo] using h
    exact ⟨.nil, rfl⟩
  | succ limit ih =>
    unfold definitionsUpTo at h
    split at h
    · rename_i hhead
      obtain ⟨rfl, rfl⟩ : [] = definitions ∧ text = rest := by simpa using h
      exact ⟨.nil, hhead⟩
    · rename_i body after hhead
      split at h
      · cases h
      · rename_i definition behind hbody
        split at h
        · cases h
        · rename_i others last hothers
          obtain ⟨rfl, rfl⟩ : definition :: others = definitions ∧ last = rest := by simpa using h
          have hitem := definition_iff.1 ⟨body, after, hhead, hbody⟩
          have htrivia := trivia_skipTrivia behind
          have hshorter := hitem.length_lt
          have hskipped := htrivia.length_le
          obtain ⟨hitems, hend⟩ := ih (by omega) hothers
          exact ⟨.cons hitem htrivia hitems, hend⟩

theorem read_eq_ok_of_items {items : Text} (htrivia : Trivia text items)
    (h : Items items definitions) : read text = .ok definitions := by
  have hskip : skipTrivia text = items := htrivia.skipTrivia_eq.trans h.skipTrivia_eq
  rw [read, hskip, (definitionsUpTo_eq_ok_iff htrivia.length_le).2 h]

/-- What is in front of the rest is a vocabulary without it. -/
theorem exists_read_of_itemsUpTo (h : ItemsUpTo (skipTrivia text) definitions rest) :
    ∃ pre, text = pre ++ rest ∧ read pre = .ok definitions := by
  obtain ⟨pre, htext, hpre⟩ := (isLocal_trivia.comp (isLocal_itemsUpTo definitions))
    ⟨skipTrivia text, trivia_skipTrivia text, h⟩
  obtain ⟨items, htrivia, hitems⟩ := hpre [] mayFollow_nil
  rw [List.append_nil] at htrivia
  exact ⟨pre, htext, read_eq_ok_of_items htrivia (hitems.items rfl)⟩

/-- No definition stands at the front of a text if the reader stops inside the one that is begun. -/
theorem not_item_of_error {body : Reader Definition} {front : Text} {definition : Definition}
    (hhead : head? text = some (body, after)) (hbody : body after = .error stop)
    (hfront : front <+: text) : ¬ Item front definition [] := by
  intro hitem
  obtain ⟨behind, rfl⟩ := hfront
  obtain ⟨read, -, hread, hclosed⟩ := isClosed_item definition hitem
  rw [List.append_nil] at hread
  subst hread
  obtain ⟨body', after', hhead', hbody'⟩ := definition_iff.2 (hclosed behind)
  obtain ⟨rfl, rfl⟩ := Prod.mk.inj (Option.some.inj (hhead.symm.trans hhead'))
  rw [hbody] at hbody'
  cases hbody'

end Vocabulary

/-! ## Errors -/

namespace SyntaxError

open Vocabulary Vocabulary.Grammar

/-- The number of bytes of the text before the place of the error. -/
def offset (error : SyntaxError) (text : Text) : Nat := Position.byteOffset text error.place

/-- The error blames the first character of the rest, where no definition is begun. -/
structure IsBetween (error : SyntaxError) (text pre rest : Text) : Prop where
  place : error.place = .before text rest
  offset : error.offset text = pre.byteLength
  notBegun : ∀ word, ¬ Begins rest word
  character : ∃ c behind, rest = c :: behind ∧ error = .unexpectedCharacter error.place c ∧
    error.reason = "unexpected character: '".toList ++ [c, '\'']

/-- The error lies behind the word that begins a definition at the front of the rest, and no
definition is complete there. -/
structure IsInside (error : SyntaxError) (text pre rest word : Text) : Prop where
  place : ∃ stop, stop <:+ rest ∧ error.place = .before text stop
  begun : Begins rest word
  incomplete : ∀ front definition, front <+: rest → ¬ Item front definition []
  offset : pre.byteLength + word.byteLength ≤ error.offset text
  atEnd : error.offset text = text.byteLength → error = .unexpectedEnd error.place
  beforeEnd : error.offset text ≠ text.byteLength →
    error = .malformedDefinition error.place ∧ "parse error".toList <+: error.reason

variable {pre rest read stop after : Text}

theorem place_betweenItems (text rest : Text) :
    (betweenItems text rest).place = .before text rest := by
  cases rest <;> rfl

theorem place_insideDefinition (text stop : Text) :
    (insideDefinition text stop).place = .before text stop := by
  cases stop <;> rfl

theorem offset_of_place {error : SyntaxError} (h : error.place = .before (read ++ rest) rest) :
    error.offset (read ++ rest) = read.byteLength := by
  rw [SyntaxError.offset, h, Position.byteOffset_before]

theorem parse_error_of_malformedDefinition (place : Position) :
    "parse error".toList <+: (malformedDefinition place).reason := by
  have hprefix : "parse error".toList <+:
      "parse error: Parsing Failure: ContextError \x7b context: [], cause: None \x7d".toList := by
    decide
  exact hprefix

theorem isBetween_betweenItems (hrest : rest ≠ []) (hhead : head? rest = none) :
    (betweenItems (pre ++ rest) rest).IsBetween (pre ++ rest) pre rest := by
  obtain ⟨c, behind, rfl⟩ := List.exists_cons_of_ne_nil hrest
  have hplace := place_betweenItems (pre ++ c :: behind) (c :: behind)
  exact ⟨hplace, offset_of_place hplace, fun word hbegins => hbegins.head?_ne_none hhead, c, behind,
    rfl, rfl, rfl⟩

theorem isInside_insideDefinition {body : Reader Definition}
    (hhead : head? rest = some (body, after)) (hbody : body after = .error stop) :
    ∃ word, (insideDefinition (pre ++ rest) stop).IsInside (pre ++ rest) pre rest word := by
  have hstarts := head?_eq_some_iff.1 hhead
  obtain ⟨word, blanks, hbegins, hrest⟩ := hstarts.begins
  obtain ⟨passed, rfl⟩ := hstarts.leavesEnd.error hbody
  -- everything in front of the place at which the reader stops
  have htext : pre ++ rest = pre ++ word ++ (blanks ++ passed) ++ stop := by
    rw [hrest]
    simp only [List.append_assoc]
  have hplace := place_insideDefinition (pre ++ rest) stop
  have hoffset : (insideDefinition (pre ++ rest) stop).offset (pre ++ rest) =
      Text.byteLength (pre ++ word ++ (blanks ++ passed)) := by
    rw [htext] at hplace ⊢
    exact offset_of_place hplace
  have hsuffix : stop <:+ rest := ⟨word ++ (blanks ++ passed), by rw [hrest]; simp⟩
  have hlength : Text.byteLength (pre ++ rest) =
      (insideDefinition (pre ++ rest) stop).offset (pre ++ rest) + stop.byteLength := by
    rw [hoffset, htext, Text.byteLength_append]
  refine ⟨word, ⟨stop, hsuffix, hplace⟩, hbegins,
    fun front definition hfront => not_item_of_error hhead hbody hfront, ?_, fun hend => ?_,
    fun hend => ?_⟩
  · rw [hoffset, Text.byteLength_append, Text.byteLength_append]
    exact Nat.le_add_right _ _
  · cases stop with
    | nil => rfl
    | cons c stop =>
      have hpositive := Char.utf8Size_pos c
      rw [Text.byteLength_cons] at hlength
      omega
  · cases stop with
    | nil =>
      rw [Text.byteLength_nil] at hlength
      omega
    | cons c stop => exact ⟨rfl, parse_error_of_malformedDefinition _⟩

/-- **A syntax error blames no definition in front of it.** The text has a split into a vocabulary and
a rest, and the error lies at the split, where no definition is begun, or behind it in a definition
that is begun and not complete. -/
theorem exists_split_of_read_eq_error {text : Text} {error : SyntaxError}
    (h : Vocabulary.read text = .error error) :
    ∃ pre rest definitions, text = pre ++ rest ∧ Vocabulary.read pre = .ok definitions ∧
      pre.byteLength ≤ error.offset text ∧
        (error.IsBetween text pre rest ∨ ∃ word, error.IsInside text pre rest word) := by
  unfold Vocabulary.read at h
  split at h
  · rename_i stop hstop
    obtain rfl := Except.error.inj h
    obtain ⟨definitions, rest, body, after, hitems, hhead, hbody⟩ := definitionsUpTo_eq_error hstop
    obtain ⟨pre, rfl, hpre⟩ := exists_read_of_itemsUpTo hitems
    obtain ⟨word, hinside⟩ := isInside_insideDefinition hhead hbody
    exact ⟨pre, rest, definitions, rfl, hpre,
      Nat.le_trans (Nat.le_add_right _ _) hinside.offset, .inr ⟨word, hinside⟩⟩
  · cases h
  · rename_i definitions rest hrest hread
    obtain rfl := Except.error.inj h
    obtain ⟨hitems, hhead⟩ :=
      itemsUpTo_of_definitionsUpTo (trivia_skipTrivia text).length_le hread
    obtain ⟨pre, rfl, hpre⟩ := exists_read_of_itemsUpTo hitems
    have hbetween : (betweenItems (pre ++ rest) rest).IsBetween (pre ++ rest) pre rest :=
      isBetween_betweenItems (fun hnil => hrest hnil) hhead
    exact ⟨pre, rest, definitions, rfl, hpre, Nat.le_of_eq hbetween.offset.symm, .inl hbetween⟩

/-- A term, a comment and a rule whose pattern has no quotes. -/
def unquotedRule : Text := "term F = \"father\"; // né\nrule x = \"y\";".toList

/-- The error lies behind the word `rule`, and the term in front of it reads. -/
theorem exists_split_of_read_eq_error_unquotedRule :
    Vocabulary.read unquotedRule = .error (.malformedDefinition ⟨2, 6⟩) ∧
      offset (.malformedDefinition ⟨2, 6⟩) unquotedRule = 31 ∧
      ∃ pre rest definitions, unquotedRule = pre ++ rest ∧
        Vocabulary.read pre = .ok definitions ∧ pre.byteLength ≤ 31 ∧
          ∃ word, IsInside (.malformedDefinition ⟨2, 6⟩) unquotedRule pre rest word := by
  have hread : Vocabulary.read unquotedRule = .error (.malformedDefinition ⟨2, 6⟩) := by
    have herror : (match Vocabulary.read unquotedRule with
        | .ok _ => none
        | .error error => some error) = some (.malformedDefinition ⟨2, 6⟩) := by decide +kernel
    split at herror
    · cases herror
    · rename_i error hread
      rw [hread, Option.some.inj herror]
  have hoffset : offset (.malformedDefinition ⟨2, 6⟩) unquotedRule = 31 := by decide +kernel
  obtain ⟨pre, rest, definitions, htext, hpre, hle, hbetween | hinside⟩ :=
    exists_split_of_read_eq_error hread
  · obtain ⟨c, behind, -, herror, -⟩ := hbetween.character
    cases herror
  · exact ⟨hread, hoffset, pre, rest, definitions, htext, hpre, hoffset ▸ hle, hinside⟩

end SyntaxError

end Kindred
