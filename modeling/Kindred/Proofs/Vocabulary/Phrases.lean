import Kindred.Proofs.Template.Scanning
import Kindred.Proofs.Vocabulary.Grammar

/-!
# Reading phrases

Each reader of a phrase reads exactly what the grammar says of the phrase, in one statement of the
form `reader text = .ok (result, rest) ↔ …`. A reader takes the longest run of blanks and comments,
where the grammar takes any (`trivia_eq_ok_iff`); `skipTrivia` tells two ends of such runs to be
the same (`Trivia.skipTrivia_eq`), and a text whose front is neither blank nor comment is its own
end. **`sides_eq_ok_iff` is the main statement**, on what stands on the two sides of an equals sign.
-/

namespace Kindred

namespace Vocabulary

open Grammar

variable {α β γ : Type} {text rest : Text} {u : Unit}

/-! ## Readers one after the other -/

theorem bind_eq_ok_iff {first : Reader α} {next : α → Reader β} {b : β} :
    (first >>= next) text = .ok (b, rest) ↔
      ∃ a after, first text = .ok (a, after) ∧ next a after = .ok (b, rest) := by
  change (first text >>= fun read => next read.1 read.2) = _ ↔ _
  cases first text with
  | error stop => simp [bind, Except.bind]
  | ok read => simp [bind, Except.bind, Prod.ext_iff, and_assoc]

theorem pure_eq_ok_iff {a b : α} :
    (pure a : Reader α) text = .ok (b, rest) ↔ a = b ∧ text = rest := by
  change Except.ok (a, text) = _ ↔ _
  simp

theorem map_eq_ok_iff {f : α → β} {reader : Reader α} {b : β} :
    (f <$> reader) text = .ok (b, rest) ↔ ∃ a, reader text = .ok (a, rest) ∧ f a = b := by
  rw [← bind_pure_comp, bind_eq_ok_iff]
  simp only [pure_eq_ok_iff]
  constructor
  · rintro ⟨a, after, hread, rfl, rfl⟩
    exact ⟨a, hread, rfl⟩
  · rintro ⟨a, hread, rfl⟩
    exact ⟨a, rest, hread, rfl, rfl⟩

theorem either_eq_ok_iff {first second : Reader α} {read : α × Text} :
    either first second text = .ok read ↔
      first text = .ok read ∨ (∀ other, first text ≠ .ok other) ∧ second text = .ok read := by
  unfold either
  cases first text with
  | error stop =>
    cases second text with
    | error stop => simp
    | ok read => simp
  | ok read => simp

theorem either_eq_ok_iff_or {first second : Reader α} {read : α × Text}
    (hdisjoint : ∀ r s, first text = .ok r → second text ≠ .ok s) :
    either first second text = .ok read ↔ first text = .ok read ∨ second text = .ok read := by
  rw [either_eq_ok_iff]
  exact or_congr_right ⟨And.right, fun h => ⟨fun other hother => hdisjoint other read hother h, h⟩⟩

/-! ## Blanks and comments -/

theorem skipTriviaFrom_true_cons (c : Char) (text : Text) :
    skipTriviaFrom true (c :: text) = skipTriviaFrom (c != '\n') text := rfl

theorem skipTrivia_blank {c : Char} (hc : Text.isBlank c = true) :
    skipTrivia (c :: text) = skipTrivia text := by
  unfold skipTrivia
  rw [skipTriviaFrom.eq_def]
  simp [hc]

theorem skipTrivia_eq_self {c : Char} (hc : Text.isBlank c = false)
    (hcomment : ∀ after, c = '/' → text ≠ '/' :: after) : skipTrivia (c :: text) = c :: text := by
  unfold skipTrivia
  rw [skipTriviaFrom.eq_def]
  simp [hc]

/-- Where a character stands that is no blank and begins no comment, nothing is skipped. -/
theorem skipTrivia_cons {c : Char} (hc : Text.isBlank c = false) (hslash : c ≠ '/') :
    skipTrivia (c :: text) = c :: text :=
  skipTrivia_eq_self hc fun _ h => (hslash h).elim

theorem skipTriviaFrom_true_append {content : Text} (hcontent : '\n' ∉ content)
    (hend : ∀ c ∈ text.head?, c = '\n') :
    skipTriviaFrom true (content ++ text) = skipTrivia text := by
  induction content with
  | nil =>
    cases text with
    | nil => rfl
    | cons c text =>
      obtain rfl := hend c rfl
      rfl
  | cons c content ih =>
    obtain ⟨hc, hcontent⟩ := not_or.1 (mt List.mem_cons.2 hcontent)
    rw [List.cons_append, skipTriviaFrom_true_cons, bne_iff_ne.2 (Ne.symm hc), ih hcontent]

theorem Grammar.Trivia.skipTrivia_eq (h : Trivia text rest) :
    skipTrivia text = skipTrivia rest := by
  induction h with
  | none => rfl
  | blank hblank h ih => rw [skipTrivia_blank hblank, ih]
  | comment hcontent hend h ih =>
    rw [← ih, ← skipTriviaFrom_true_append hcontent hend]
    rfl

/-- What is skipped is blanks and comments. Inside a comment, the rest of the comment comes
first. -/
theorem trivia_skipTriviaFrom (text : Text) :
    Trivia text (skipTriviaFrom false text) ∧
      ∃ content line, text = content ++ line ∧ '\n' ∉ content ∧ (∀ c ∈ line.head?, c = '\n') ∧
        Trivia line (skipTriviaFrom true text) := by
  induction text with
  | nil => exact ⟨.none, [], [], rfl, by simp, by simp, .none⟩
  | cons c text ih =>
    obtain ⟨houtside, content, line, htext, hcontent, hend, hline⟩ := ih
    constructor
    · by_cases hblank : Text.isBlank c = true
      · rw [← skipTrivia, skipTrivia_blank hblank]
        exact .blank hblank houtside
      · by_cases hcomment : ∃ after, c = '/' ∧ text = '/' :: after
        · obtain ⟨after, rfl, rfl⟩ := hcomment
          -- the second slash is no line feed and so a character of the comment
          cases content with
          | nil => cases hend '/' (by rw [← List.nil_append line, ← htext]; rfl)
          | cons d content =>
            obtain ⟨rfl, rfl⟩ := List.cons.inj htext
            exact .comment (fun h => hcontent (List.mem_cons_of_mem _ h)) hend hline
        · rw [← skipTrivia, skipTrivia_eq_self (Bool.not_eq_true _ ▸ hblank)
            fun after hc htext => hcomment ⟨after, hc, htext⟩]
          exact .none
    · rw [skipTriviaFrom_true_cons]
      by_cases hc : c = '\n'
      · subst hc
        exact ⟨[], '\n' :: text, rfl, by simp, by simp, .blank rfl houtside⟩
      · rw [bne_iff_ne.2 hc]
        exact ⟨c :: content, line, by rw [htext]; rfl, by simp [Ne.symm hc, hcontent], hend, hline⟩

theorem trivia_skipTrivia (text : Text) : Trivia text (skipTrivia text) :=
  (trivia_skipTriviaFrom text).1

theorem skipTrivia_skipTrivia (text : Text) : skipTrivia (skipTrivia text) = skipTrivia text :=
  (trivia_skipTrivia text).skipTrivia_eq.symm

theorem trivia_eq_ok_iff :
    trivia text = .ok (u, rest) ↔ Trivia text rest ∧ skipTrivia rest = rest := by
  have hread : trivia text = .ok (u, rest) ↔ skipTrivia text = rest := by simp [trivia]
  rw [hread]
  constructor
  · rintro rfl
    exact ⟨trivia_skipTrivia text, skipTrivia_skipTrivia text⟩
  · rintro ⟨htrivia, hrest⟩
    rw [htrivia.skipTrivia_eq, hrest]

/-! ## Signs -/

theorem sign_eq_ok_iff {c : Char} : sign c text = .ok (u, rest) ↔ text = c :: rest := by
  unfold sign
  cases text with
  | nil => simp
  | cons d text =>
    by_cases h : d = c
    · simp [h]
    · simp [h]

/-- Two runs of blanks and comments that end where neither follows end at the same place. -/
theorem Grammar.Trivia.unique {other : Text} (h : Trivia text rest) (hother : Trivia text other)
    (hrest : skipTrivia rest = rest) (hskip : skipTrivia other = other) : rest = other := by
  rw [← hrest, ← hskip, ← h.skipTrivia_eq, hother.skipTrivia_eq]

theorem trivia_sign_eq_ok_iff {c : Char} (hblank : Text.isBlank c = false) (hslash : c ≠ '/') :
    (do trivia; sign c : Reader Unit) text = .ok (u, rest) ↔ Trivia text (c :: rest) := by
  simp only [bind_eq_ok_iff, trivia_eq_ok_iff, sign_eq_ok_iff]
  constructor
  · rintro ⟨-, after, ⟨htrivia, -⟩, rfl⟩
    exact htrivia
  · intro htrivia
    exact ⟨(), c :: rest, ⟨htrivia, skipTrivia_cons hblank hslash⟩, rfl⟩

theorem semicolon_eq_ok_iff : semicolon text = .ok (u, rest) ↔ Semicolon text rest :=
  trivia_sign_eq_ok_iff rfl (by decide)

theorem comma_eq_ok_iff : comma text = .ok (u, rest) ↔ Trivia text (',' :: rest) :=
  trivia_sign_eq_ok_iff rfl (by decide)

theorem equals_eq_ok_iff :
    equals text = .ok (u, rest) ↔ Equals text rest ∧ skipTrivia rest = rest := by
  have hequals : equals = (do trivia; sign '=' : Reader Unit) >>= fun _ => trivia := by
    simp [equals]
  rw [hequals, bind_eq_ok_iff]
  simp only [trivia_sign_eq_ok_iff rfl (show '=' ≠ '/' by decide), trivia_eq_ok_iff]
  constructor
  · rintro ⟨-, after, hbefore, hafter, hrest⟩
    exact ⟨⟨after, hbefore, hafter⟩, hrest⟩
  · rintro ⟨⟨after, hbefore, hafter⟩, hrest⟩
    exact ⟨(), after, hbefore, hafter, hrest⟩

/-! ## Runs and texts in quotes -/

theorem Grammar.Run.takeWhile_eq {kind : Char → Bool} {word : Text} (h : Run kind text word rest)
    (hrest : EndsRun kind rest) : text.takeWhile kind = word ∧ text.dropWhile kind = rest := by
  obtain ⟨rfl, -, hword⟩ := h
  exact ⟨Text.takeWhile_append_of_ends hword hrest, Text.dropWhile_append_of_ends hword hrest⟩

theorem run_takeWhile {kind : Char → Bool} (h : text.takeWhile kind ≠ []) :
    Run kind text (text.takeWhile kind) (text.dropWhile kind) ∧
      EndsRun kind (text.dropWhile kind) := by
  obtain ⟨hword, hends, htext⟩ := Text.exists_run kind text
  exact ⟨⟨htext, h, hword⟩, hends⟩

theorem run_eq_ok_iff {kind : Char → Bool} {word : Text} :
    run kind text = .ok (word, rest) ↔ Run kind text word rest ∧ EndsRun kind rest := by
  unfold run
  constructor
  · intro h
    split at h
    · cases h
    · rename_i hne
      obtain ⟨rfl, rfl⟩ : _ ∧ _ := by simpa using h
      exact run_takeWhile hne
  · rintro ⟨hrun, hrest⟩
    obtain ⟨htake, hdrop⟩ := hrun.takeWhile_eq hrest
    rw [htake, hdrop]
    split
    · exact (hrun.2.1 rfl).elim
    · rfl

theorem unquote_eq_ok_iff {content : Text} :
    unquote text = .ok (content, rest) ↔ text = content ++ '"' :: rest ∧ '"' ∉ content := by
  constructor
  · intro h
    unfold unquote at h
    split at h
    · rename_i after hdrop
      obtain ⟨rfl, rfl⟩ : _ ∧ _ := by simpa using h
      refine ⟨?_, fun hquote => ?_⟩
      · rw [← hdrop, List.takeWhile_append_dropWhile]
      · have hall := List.all_eq_true.1 (List.all_takeWhile (p := (· != '"')) (l := text)) _ hquote
        simp at hall
    · cases h
  · rintro ⟨rfl, hcontent⟩
    have hall : ∀ c ∈ content, (c != '"') = true := fun c hc =>
      bne_iff_ne.2 fun heq => hcontent (heq ▸ hc)
    simp [unquote, List.takeWhile_append_of_pos hall, List.dropWhile_append_of_pos hall]

theorem quoted_eq_ok_iff {content : Text} :
    quoted text = .ok (content, rest) ↔ Quoted text content rest := by
  simp only [quoted, bind_eq_ok_iff, sign_eq_ok_iff, unquote_eq_ok_iff]
  constructor
  · rintro ⟨-, after, rfl, rfl, hcontent⟩
    exact ⟨rfl, hcontent⟩
  · rintro ⟨rfl, hcontent⟩
    exact ⟨(), _, rfl, rfl, hcontent⟩

/-- A template in quotes is read as the text in quotes, and as that text reads by itself. -/
theorem template_eq_ok_iff {read : Template} :
    template text = .ok (read, rest) ↔ QuotedTemplate text read rest := by
  have htokens : ∀ {text rest : Text} {read : Template}, tokens text = .ok (read, rest) ↔
      Template.scanTokens quotedToken? text.length text = (read, rest) := by
    simp [tokens]
  simp only [template, bind_eq_ok_iff, sign_eq_ok_iff, htokens, pure_eq_ok_iff]
  constructor
  · rintro ⟨-, opened, rfl, read, closed, hread, -, after, rfl, rfl, rfl⟩
    obtain ⟨content, hcontent, rfl, hparse⟩ := scanTokens_quotedToken?_eq_iff.1 hread
    exact ⟨content, ⟨rfl, hcontent⟩, hparse⟩
  · rintro ⟨content, ⟨rfl, hcontent⟩, hparse⟩
    exact ⟨(), _, rfl, read, '"' :: rest,
      scanTokens_quotedToken?_eq_iff.2 ⟨content, hcontent, rfl, hparse⟩, (), rest, rfl, rfl, rfl⟩

/-! ## Keys and targets -/

theorem isKeyCharacter_of_isBlank (c : Char) (hc : Text.isBlank c = true) :
    isKeyCharacter c = false :=
  Text.eq_false_of_isBlank rfl hc

theorem isWordCharacter_of_isBlank (c : Char) (hc : Text.isBlank c = true) :
    isWordCharacter c = false :=
  Text.eq_false_of_isBlank rfl hc

theorem termKey_eq_ok_iff {key : Text} :
    termKey text = .ok (key, rest) ↔
      Quoted text key rest ∨ Run isKeyCharacter text key rest ∧ EndsRun isKeyCharacter rest := by
  unfold termKey
  rw [either_eq_ok_iff_or, quoted_eq_ok_iff, run_eq_ok_iff]
  intro (_, _) (_, _) hquoted hrun
  exact ((quoted_eq_ok_iff.1 hquoted).endsRun (by decide)).not_run (run_eq_ok_iff.1 hrun).1

/-- In front of an equals sign, a key in the sense of the grammar is what the reader takes. -/
theorem termKey_eq_ok_iff_key {key after : Text} (hequals : Equals rest after) :
    termKey text = .ok (key, rest) ↔ Key text key rest := by
  rw [termKey_eq_ok_iff]
  have hends : EndsRun isKeyCharacter rest :=
    hequals.endsRun (by decide) isKeyCharacter_of_isBlank (by decide)
  constructor
  · rintro (h | ⟨h, -⟩)
    · exact .quoted h
    · exact .bare h
  · rintro (h | h)
    · exact .inl h
    · exact .inr ⟨h, hends⟩

theorem genitiveTarget_eq_ok_iff {target : GenitiveTarget} :
    genitiveTarget text = .ok (target, rest) ↔ Target text target rest := by
  unfold genitiveTarget
  rw [either_eq_ok_iff_or]
  · simp only [map_eq_ok_iff, quoted_eq_ok_iff, run_eq_ok_iff]
    constructor
    · rintro (⟨word, h, rfl⟩ | ⟨word, h, rfl⟩)
      · exact .quoted h
      · by_cases hword : word = "default".toList
        · rw [bareTarget, if_pos hword]
          exact .default (hword ▸ h)
        · rw [bareTarget, if_neg hword]
          exact .bare h hword
    · rintro (h | h | ⟨h, hword⟩)
      · exact .inl ⟨_, h, rfl⟩
      · exact .inr ⟨_, h, if_pos rfl⟩
      · exact .inr ⟨_, h, if_neg hword⟩
  · intro (_, _) (_, _) hquoted hrun
    obtain ⟨_, hquoted, -⟩ := map_eq_ok_iff.1 hquoted
    obtain ⟨_, hrun, -⟩ := map_eq_ok_iff.1 hrun
    exact ((quoted_eq_ok_iff.1 hquoted).endsRun (by decide)).not_run (run_eq_ok_iff.1 hrun).1

/-! ## The two sides of an equals sign -/

theorem Grammar.Quoted.skipTrivia_eq {content : Text} (h : Quoted text content rest) :
    skipTrivia text = text := by
  obtain ⟨rfl, -⟩ := h
  exact skipTrivia_cons (by decide) (by decide)

theorem Grammar.QuotedTemplate.skipTrivia_eq {template : Template}
    (h : QuotedTemplate text template rest) : skipTrivia text = text :=
  h.elim fun _ h => h.1.skipTrivia_eq

/-- What stands on both sides of an equals sign and before a semicolon, where the right side starts
with neither a blank nor a comment. -/
theorem sides_eq_ok_iff {left : Reader α} {right : Reader β} {f : α → β → γ} {c : γ}
    (hright : ∀ {text rest b}, right text = .ok (b, rest) → skipTrivia text = text) :
    (do
      let a ← left
      equals
      let b ← right
      semicolon
      return f a b : Reader γ) text = .ok (c, rest) ↔
      ∃ a b middle signed closed, f a b = c ∧ left text = .ok (a, middle) ∧ Equals middle signed ∧
        right signed = .ok (b, closed) ∧ Semicolon closed rest := by
  simp only [bind_eq_ok_iff, equals_eq_ok_iff, semicolon_eq_ok_iff, pure_eq_ok_iff]
  constructor
  · rintro ⟨a, middle, hleft, -, signed, ⟨hequals, -⟩, b, closed, hb, -, after, hsemicolon, rfl,
      rfl⟩
    exact ⟨a, b, middle, signed, closed, rfl, hleft, hequals, hb, hsemicolon⟩
  · rintro ⟨a, b, middle, signed, closed, rfl, hleft, hequals, hb, hsemicolon⟩
    exact ⟨a, middle, hleft, (), signed, ⟨hequals, hright hb⟩, b, closed, hb, (), rest, hsemicolon,
      rfl, rfl⟩

end Vocabulary

end Kindred
