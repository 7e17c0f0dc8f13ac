import Kindred.Proofs.Vocabulary.Phrases

/-!
# Reading whole vocabularies

The reader accepts exactly the vocabularies of the grammar, and gives the definitions that they
denote: **`read_eq_ok_iff` is the main statement**. A definition is read as the grammar says
(`definition_iff`), one kind after the other. The entries of ordinals and the definitions of a
vocabulary are read as far as they go, so that beside what is read it matters that nothing more
could be: behind the last entry stands a closing brace, perhaps after a comma, and behind the last
definition nothing.
-/

namespace Kindred

namespace Vocabulary

open Grammar

variable {text rest : Text}

/-! ## Entries -/

theorem Grammar.Run.skipTrivia_eq {word : Text} (h : Run isWordCharacter text word rest) :
    skipTrivia text = text := by
  have hblank : EndsRun Text.isBlank text := h.endsRun isWordCharacter_of_isBlank
  obtain ⟨rfl, hne, hword⟩ := h
  cases word with
  | nil => exact (hne rfl).elim
  | cons c word =>
    refine skipTrivia_cons (hblank c rfl) ?_
    rintro rfl
    exact Bool.false_ne_true (hword '/' List.mem_cons_self)

theorem run_name (category : OrdinalCategory) (rest : Text) :
    Run isWordCharacter (category.name ++ rest) category.name rest := by
  cases category <;> exact ⟨rfl, by decide, List.all_eq_true.1 (by decide)⟩

theorem Grammar.Entry.run {entry : OrdinalEntry} (h : Entry text entry rest) :
    ∃ after, Run isWordCharacter text entry.category.name after := by
  obtain ⟨after, -, -, rfl, -⟩ := h
  exact ⟨after, run_name _ after⟩

theorem ordinalEntry_eq_ok_iff {entry : OrdinalEntry} :
    ordinalEntry text = .ok (entry, rest) ↔ Entry text entry rest := by
  have hbehind : ∀ {category : OrdinalCategory} {named : Text},
      (do
        trivia
        sign ':'
        trivia
        let suffix ← quoted
        return ⟨category, suffix⟩ : Reader OrdinalEntry) named = .ok (entry, rest) ↔
        entry.category = category ∧ ∃ colon suffix, Trivia named (':' :: colon) ∧
          Trivia colon suffix ∧ Quoted suffix entry.suffix rest := by
    intro category named
    simp only [bind_eq_ok_iff, trivia_eq_ok_iff, sign_eq_ok_iff, quoted_eq_ok_iff, pure_eq_ok_iff]
    constructor
    · rintro ⟨-, _, ⟨hcolon, -⟩, -, colon, rfl, -, suffix, ⟨hsuffix, -⟩, content, _, hquoted, rfl,
        rfl⟩
      exact ⟨rfl, colon, suffix, hcolon, hsuffix, hquoted⟩
    · rintro ⟨rfl, colon, suffix, hcolon, hsuffix, hquoted⟩
      exact ⟨(), _, ⟨hcolon, skipTrivia_cons (by decide) (by decide)⟩, (), colon, rfl, (), suffix,
        ⟨hsuffix, hquoted.skipTrivia_eq⟩, _, rest, hquoted, rfl, rfl⟩
  simp only [ordinalEntry, bind_eq_ok_iff, run_eq_ok_iff]
  constructor
  · rintro ⟨name, named, ⟨hname, -⟩, hentry⟩
    cases hcategory : OrdinalCategory.ofName? name with
    | none =>
      rw [hcategory] at hentry
      cases hentry
    | some category =>
      rw [hcategory] at hentry
      obtain ⟨rfl, colon, suffix, hbehind⟩ := hbehind.1 hentry
      exact ⟨named, colon, suffix, OrdinalCategory.ofName?_eq_some_iff.1 hcategory ▸ hname.1,
        hbehind⟩
  · rintro ⟨named, colon, suffix, rfl, hcolon, hsuffix⟩
    refine ⟨_, named, ⟨run_name _ named, hcolon.endsRun (by decide) isWordCharacter_of_isBlank
      (by decide)⟩, ?_⟩
    rw [OrdinalCategory.ofName?_name]
    exact hbehind.2 ⟨rfl, colon, suffix, hcolon, hsuffix⟩

theorem nextEntry_eq_ok_iff {entry : OrdinalEntry} :
    nextEntry text = .ok (entry, rest) ↔
      ∃ comma next, Trivia text (',' :: comma) ∧ Trivia comma next ∧ Entry next entry rest := by
  simp only [nextEntry, bind_eq_ok_iff, comma_eq_ok_iff, trivia_eq_ok_iff, ordinalEntry_eq_ok_iff]
  constructor
  · rintro ⟨-, comma, hcomma, -, next, ⟨hnext, -⟩, hentry⟩
    exact ⟨comma, next, hcomma, hnext, hentry⟩
  · rintro ⟨comma, next, hcomma, hnext, hentry⟩
    obtain ⟨after, hrun⟩ := hentry.run
    exact ⟨(), comma, hcomma, (), next, ⟨hnext, hrun.skipTrivia_eq⟩, hentry⟩

theorem further_moreEntries (limit : Nat) (text : Text) :
    Further text (moreEntries limit text).1 (moreEntries limit text).2 := by
  induction limit generalizing text with
  | zero => exact .none
  | succ limit ih =>
    unfold moreEntries
    split
    · exact .none
    · rename_i entry after hread
      obtain ⟨comma, next, hcomma, hnext, hentry⟩ := nextEntry_eq_ok_iff.1 hread
      exact .more hcomma hnext hentry (ih after)

/-- Further entries are all read where no entry follows the last one. -/
theorem moreEntries_eq {entries : List OrdinalEntry} {limit : Nat}
    (h : Further text entries rest) (hstop : ∀ read, nextEntry rest ≠ .ok read)
    (hlimit : text.length ≤ limit) : moreEntries limit text = (entries, rest) := by
  induction h generalizing limit with
  | none =>
    cases limit with
    | zero => rfl
    | succ limit =>
      unfold moreEntries
      split
      · rfl
      · rename_i hread
        exact (hstop _ hread).elim
  | more hcomma hnext hentry h ih =>
    have hlength : _ < _ :=
      calc _ < _ := hentry.length_lt
        _ ≤ _ := hnext.length_le
        _ ≤ _ := Nat.le_of_succ_le hcomma.length_le
    cases limit with
    | zero => exact (Nat.not_lt_zero _ (Nat.lt_of_lt_of_le hlength hlimit)).elim
    | succ limit =>
      have hrest := ih hstop (Nat.le_of_lt_succ (Nat.lt_of_lt_of_le hlength hlimit))
      rw [moreEntries, nextEntry_eq_ok_iff.2 ⟨_, _, hcomma, hnext, hentry⟩]
      simp only [hrest]

/-- Where blanks and comments end at a sign, no entry starts. -/
theorem ordinalEntry_ne_ok {c : Char} (h : Trivia text (c :: rest)) (hc : isWordCharacter c = false)
    (read : OrdinalEntry × Text) : ordinalEntry text ≠ .ok read := by
  intro hread
  obtain ⟨after, hrun⟩ := (ordinalEntry_eq_ok_iff.1 hread).run
  exact (h.endsRun hc isWordCharacter_of_isBlank (by decide)).not_run hrun

/-! ## Blocks of ordinals -/

/-- Reads a comma behind entries, if there is one. -/
def lastComma (entries : List OrdinalEntry) : Reader (List OrdinalEntry) :=
  either (do comma; return entries) (pure entries)

theorem lastComma_eq_ok_iff {entries read : List OrdinalEntry} :
    lastComma entries text = .ok (read, rest) ↔
      entries = read ∧ (Trivia text (',' :: rest) ∨
        rest = text ∧ ∀ after, ¬ Trivia text (',' :: after)) := by
  have hcomma : ∀ {other : List OrdinalEntry × Text},
      (do comma; return entries : Reader _) text = .ok other ↔
        entries = other.1 ∧ Trivia text (',' :: other.2) := by
    intro (others, after)
    simp only [bind_eq_ok_iff, comma_eq_ok_iff, pure_eq_ok_iff]
    constructor
    · rintro ⟨-, _, htext, rfl, rfl⟩
      exact ⟨rfl, htext⟩
    · rintro ⟨rfl, htext⟩
      exact ⟨(), after, htext, rfl, rfl⟩
  simp only [lastComma, either_eq_ok_iff, ne_eq, hcomma, pure_eq_ok_iff]
  constructor
  · rintro (⟨rfl, htext⟩ | ⟨hnone, rfl, rfl⟩)
    · exact ⟨rfl, .inl htext⟩
    · exact ⟨rfl, .inr ⟨rfl, fun after htext => hnone (entries, after) ⟨rfl, htext⟩⟩⟩
  · rintro ⟨rfl, htext | ⟨rfl, hnone⟩⟩
    · exact .inl ⟨rfl, htext⟩
    · exact .inr ⟨fun other htext => hnone other.2 htext.2, rfl, rfl⟩

theorem ordinalEntries_of_error {stop : Text} (h : ordinalEntry text = .error stop) :
    ordinalEntries text = lastComma [] text := by
  unfold ordinalEntries lastComma either
  rw [h]
  simp only [bind, StateT.bind]
  cases comma text with
  | error stop => rfl
  | ok read => rfl

theorem ordinalEntries_of_ok {entry : OrdinalEntry} (h : ordinalEntry text = .ok (entry, rest)) :
    ordinalEntries text =
      lastComma (entry :: (moreEntries rest.length rest).1) (moreEntries rest.length rest).2 := by
  unfold ordinalEntries lastComma either
  rw [h]
  simp only [bind, StateT.bind]
  cases comma (moreEntries rest.length rest).2 with
  | error stop => rfl
  | ok read => rfl

theorem skipTrivia_comma (text : Text) : skipTrivia (',' :: text) = ',' :: text :=
  skipTrivia_cons (by decide) (by decide)

theorem skipTrivia_brace (text : Text) : skipTrivia ('}' :: text) = '}' :: text :=
  skipTrivia_cons (by decide) (by decide)

section Closed

/-! Behind its entries, a block is closed by a brace, with a comma before it or none. -/

variable {last : Text} (hcomma : last = text ∨ Trivia text (',' :: last))
  (hclosed : Trivia last ('}' :: rest))

include hcomma hclosed

theorem trivia_comma_or :
    Trivia text (',' :: last) ∨ last = text ∧ ∀ after, ¬ Trivia text (',' :: after) := by
  rcases hcomma with rfl | hcomma
  · refine .inr ⟨rfl, fun after hafter => ?_⟩
    cases hafter.unique hclosed (skipTrivia_comma after) (skipTrivia_brace rest)
  · exact .inl hcomma

theorem nextEntry_ne_ok (read : OrdinalEntry × Text) : nextEntry text ≠ .ok read := by
  intro hread
  obtain ⟨behind, next, hbehind, hnext, hentry⟩ := nextEntry_eq_ok_iff.1 hread
  rcases trivia_comma_or hcomma hclosed with hlast | ⟨-, hnone⟩
  · cases hbehind.unique hlast (skipTrivia_comma behind) (skipTrivia_comma last)
    obtain ⟨after, hrun⟩ := hentry.run
    cases hnext.unique hclosed hrun.skipTrivia_eq (skipTrivia_brace rest)
    exact ordinalEntry_ne_ok .none (by decide) read (ordinalEntry_eq_ok_iff.2 hentry)
  · exact hnone behind hbehind

theorem ordinalEntries_of_entries {entries : List OrdinalEntry} {start : Text}
    (hentries : Entries start entries text) : ordinalEntries start = .ok (entries, last) := by
  have hread : lastComma entries text = .ok (entries, last) :=
    lastComma_eq_ok_iff.2 ⟨rfl, trivia_comma_or hcomma hclosed⟩
  cases hentries with
  | none =>
    cases hfirst : ordinalEntry text with
    | error stop => rw [ordinalEntries_of_error hfirst, hread]
    | ok read =>
      rcases hcomma with rfl | hcomma
      · exact (ordinalEntry_ne_ok hclosed (by decide) read hfirst).elim
      · exact (ordinalEntry_ne_ok hcomma (by decide) read hfirst).elim
  | some hentry h =>
    rw [ordinalEntries_of_ok (ordinalEntry_eq_ok_iff.2 hentry),
      moreEntries_eq h (nextEntry_ne_ok hcomma hclosed) (Nat.le_refl _), hread]

end Closed

/-- What is read as entries up to a closing brace is a block. -/
theorem ordinalEntries_eq_ok_iff {entries : List OrdinalEntry} :
    (∃ last, ordinalEntries text = .ok (entries, last) ∧ Trivia last ('}' :: rest)) ↔
      Block text entries rest := by
  constructor
  · rintro ⟨last, hread, hclosed⟩
    cases hfirst : ordinalEntry text with
    | error stop =>
      rw [ordinalEntries_of_error hfirst] at hread
      obtain ⟨rfl, hlast⟩ := lastComma_eq_ok_iff.1 hread
      exact ⟨text, last, .none, hlast.symm.imp_left And.left, hclosed⟩
    | ok read =>
      obtain ⟨entry, after⟩ := read
      rw [ordinalEntries_of_ok hfirst] at hread
      obtain ⟨rfl, hlast⟩ := lastComma_eq_ok_iff.1 hread
      exact ⟨_, last, .some (ordinalEntry_eq_ok_iff.1 hfirst) (further_moreEntries _ after),
        hlast.symm.imp_left And.left, hclosed⟩
  · rintro ⟨after, last, hentries, hcomma, hclosed⟩
    exact ⟨last, ordinalEntries_of_entries hcomma hclosed hentries, hclosed⟩

/-- Blanks and comments in front of a block may be skipped. -/
theorem Grammar.Block.skipTrivia {entries : List OrdinalEntry} (h : Block text entries rest) :
    Block (skipTrivia text) entries rest := by
  have hskip : ∀ {c : Char} {after : Text}, Vocabulary.skipTrivia (c :: after) = c :: after →
      Trivia text (c :: after) → Trivia (Vocabulary.skipTrivia text) (c :: after) := by
    intro c after hsign htext
    rw [htext.skipTrivia_eq, hsign]
    exact .none
  obtain ⟨after, last, hentries, hcomma, hclosed⟩ := h
  cases hentries with
  | none =>
    rcases hcomma with rfl | hcomma
    · exact ⟨_, _, .none, .inl rfl, hskip (skipTrivia_brace _) hclosed⟩
    · exact ⟨_, last, .none, .inr (hskip (skipTrivia_comma _) hcomma), hclosed⟩
  | some hentry h =>
    obtain ⟨_, hrun⟩ := hentry.run
    rw [hrun.skipTrivia_eq]
    exact ⟨after, last, .some hentry h, hcomma, hclosed⟩

/-! ## Definitions behind their first word -/

theorem ordinalsBody_eq_ok_iff {definition : Definition} :
    ordinalsBody text = .ok (definition, rest) ↔
      ∃ entries opened block closed, Definition.ordinals entries = definition ∧
        Equals text ('{' :: opened) ∧ Trivia opened block ∧ Block block entries closed ∧
        Semicolon closed rest := by
  simp only [ordinalsBody, bind_eq_ok_iff, equals_eq_ok_iff, sign_eq_ok_iff, trivia_eq_ok_iff,
    semicolon_eq_ok_iff, pure_eq_ok_iff]
  constructor
  · rintro ⟨-, _, ⟨hequals, -⟩, -, opened, rfl, -, block, ⟨hblock, -⟩, entries, last, hread, -, _,
      ⟨hlast, -⟩, -, closed, rfl, -, _, hsemicolon, rfl, rfl⟩
    exact ⟨entries, opened, block, closed, rfl, hequals, hblock,
      ordinalEntries_eq_ok_iff.1 ⟨last, hread, hlast⟩, hsemicolon⟩
  · rintro ⟨entries, opened, block, closed, rfl, hequals, htrivia, hblock, hsemicolon⟩
    obtain ⟨last, hread, hlast⟩ := ordinalEntries_eq_ok_iff.2 hblock.skipTrivia
    have hskip : trivia opened = .ok ((), skipTrivia block) := by
      rw [trivia, htrivia.skipTrivia_eq]
    exact ⟨(), _, ⟨hequals, skipTrivia_cons (by decide) (by decide)⟩, (), opened, rfl, (), _,
      trivia_eq_ok_iff.1 hskip, entries, last, hread, (), _, ⟨hlast, skipTrivia_brace closed⟩, (),
      closed, rfl, (), rest, hsemicolon, rfl, rfl⟩

theorem termBody_eq_ok_iff {definition : Definition} :
    termBody text = .ok (definition, rest) ↔
      ∃ key template keyed signed quoted, Definition.term key template = definition ∧
        Key text key keyed ∧ Equals keyed signed ∧ QuotedTemplate signed template quoted ∧
        Semicolon quoted rest := by
  unfold termBody
  rw [sides_eq_ok_iff fun h => (template_eq_ok_iff.1 h).skipTrivia_eq]
  simp only [template_eq_ok_iff]
  constructor
  · rintro ⟨key, template, keyed, signed, quoted, rfl, hkey, hequals, htemplate, hsemicolon⟩
    exact ⟨key, template, keyed, signed, quoted, rfl, (termKey_eq_ok_iff_key hequals).1 hkey,
      hequals, htemplate, hsemicolon⟩
  · rintro ⟨key, template, keyed, signed, quoted, rfl, hkey, hequals, htemplate, hsemicolon⟩
    exact ⟨key, template, keyed, signed, quoted, rfl, (termKey_eq_ok_iff_key hequals).2 hkey,
      hequals, htemplate, hsemicolon⟩

theorem ruleBody_eq_ok_iff {definition : Definition} :
    ruleBody text = .ok (definition, rest) ↔
      ∃ pattern template matched signed quoted,
        Definition.rule pattern (.read template) = definition ∧ Quoted text pattern matched ∧
        Equals matched signed ∧ Quoted signed template quoted ∧ Semicolon quoted rest := by
  unfold ruleBody
  rw [sides_eq_ok_iff fun h => (quoted_eq_ok_iff.1 h).skipTrivia_eq]
  simp only [quoted_eq_ok_iff]

theorem genitiveBody_eq_ok_iff {definition : Definition} :
    genitiveBody text = .ok (definition, rest) ↔
      ∃ target template targeted signed quoted,
        Definition.genitive target template = definition ∧ Target text target targeted ∧
        Equals targeted signed ∧ QuotedTemplate signed template quoted ∧ Semicolon quoted rest := by
  unfold genitiveBody
  rw [sides_eq_ok_iff fun h => (template_eq_ok_iff.1 h).skipTrivia_eq]
  simp only [template_eq_ok_iff, genitiveTarget_eq_ok_iff]

theorem unrelatedBody_eq_ok_iff {definition : Definition} :
    unrelatedBody text = .ok (definition, rest) ↔
      ∃ phrase signed quoted, Definition.unrelated phrase = definition ∧ Equals text signed ∧
        Quoted signed phrase quoted ∧ Semicolon quoted rest := by
  simp only [unrelatedBody, bind_eq_ok_iff, equals_eq_ok_iff, quoted_eq_ok_iff,
    semicolon_eq_ok_iff, pure_eq_ok_iff]
  constructor
  · rintro ⟨-, signed, ⟨hequals, -⟩, phrase, quoted, hphrase, -, _, hsemicolon, rfl, rfl⟩
    exact ⟨phrase, signed, quoted, rfl, hequals, hphrase, hsemicolon⟩
  · rintro ⟨phrase, signed, quoted, rfl, hequals, hphrase, hsemicolon⟩
    exact ⟨(), signed, ⟨hequals, hphrase.skipTrivia_eq⟩, phrase, quoted, hphrase, (), rest,
      hsemicolon, rfl, rfl⟩

/-! ## The first word of a definition -/

theorem afterWord?_eq_some_iff {word : String} :
    afterWord? word text = some rest ↔
      ∃ after, text = word.toList ++ after ∧ Blanks after rest ∧ EndsRun Text.isBlank rest := by
  unfold afterWord?
  constructor
  · intro h
    split at h
    · rename_i c after hmark
      split at h
      · rename_i hc
        cases h
        have htake : (c :: after).takeWhile Text.isBlank ≠ [] := by simp [hc]
        have hdrop : (c :: after).dropWhile Text.isBlank = Text.skipBlanks after := by
          simp [hc, Text.skipBlanks]
        obtain ⟨hrun, hends⟩ := run_takeWhile htake
        rw [hdrop] at hrun hends
        exact ⟨_, Text.afterMark?_eq_some_iff.1 hmark, ⟨_, hrun⟩, hends⟩
      · cases h
    · cases h
  · rintro ⟨after, htext, ⟨blanks, hblanks⟩, hends⟩
    obtain ⟨htake, hdrop⟩ := hblanks.takeWhile_eq hends
    rw [Text.afterMark?_eq_some_iff.2 htext]
    cases after with
    | nil => exact (hblanks.2.1 htake.symm).elim
    | cons c after =>
      by_cases hc : Text.isBlank c = true
      · rw [List.dropWhile_cons_of_pos hc] at hdrop
        simp [hc, Text.skipBlanks, hdrop]
      · rw [List.takeWhile_cons_of_neg hc] at htake
        exact (hblanks.2.1 htake.symm).elim

theorem Grammar.Key.endsRun_isBlank {key : Text} (h : Key text key rest) :
    EndsRun Text.isBlank text := by
  cases h with
  | quoted h => exact h.endsRun rfl
  | bare h => exact h.endsRun isKeyCharacter_of_isBlank

theorem Grammar.Target.endsRun_isBlank {target : GenitiveTarget} (h : Target text target rest) :
    EndsRun Text.isBlank text := by
  cases h with
  | quoted h => exact h.endsRun rfl
  | default h => exact h.1.endsRun isWordCharacter_of_isBlank
  | bare h hword => exact h.1.endsRun isWordCharacter_of_isBlank

/-- How a definition starts, with the reader for what follows. -/
inductive Starts (text : Text) : Reader Definition → (rest : Text) → Prop
  | term {word rest : Text} (hword : text = "term".toList ++ word) (hblanks : Blanks word rest)
      (hends : EndsRun Text.isBlank rest) : Starts text termBody rest
  | rule {word rest : Text} (hword : text = "rule".toList ++ word) (hblanks : Blanks word rest)
      (hends : EndsRun Text.isBlank rest) : Starts text ruleBody rest
  | genitive {word rest : Text} (hword : text = "genitive".toList ++ word)
      (hblanks : Blanks word rest) (hends : EndsRun Text.isBlank rest) :
      Starts text genitiveBody rest
  | ordinals {rest : Text} (hword : text = "ordinals".toList ++ rest) :
      Starts text ordinalsBody rest
  | unrelated {rest : Text} (hword : text = "unrelated".toList ++ rest) :
      Starts text unrelatedBody rest

theorem head?_eq_some_iff {body : Reader Definition} :
    head? text = some (body, rest) ↔ Starts text body rest := by
  constructor
  · intro h
    unfold head? at h
    split at h
    · rename_i hterm
      obtain ⟨word, hword, hblanks, hends⟩ := afterWord?_eq_some_iff.1 hterm
      cases h
      exact .term hword hblanks hends
    split at h
    · rename_i hrule
      obtain ⟨word, hword, hblanks, hends⟩ := afterWord?_eq_some_iff.1 hrule
      cases h
      exact .rule hword hblanks hends
    split at h
    · rename_i hgenitive
      obtain ⟨word, hword, hblanks, hends⟩ := afterWord?_eq_some_iff.1 hgenitive
      cases h
      exact .genitive hword hblanks hends
    split at h
    · rename_i hordinals
      cases h
      exact .ordinals (Text.afterMark?_eq_some_iff.1 hordinals)
    split at h
    · rename_i hunrelated
      cases h
      exact .unrelated (Text.afterMark?_eq_some_iff.1 hunrelated)
    · cases h
  · intro h
    -- no two of the words start with the same letter, so that none is taken for another
    cases h with
    | term hword hblanks hends =>
      have hterm := afterWord?_eq_some_iff.2 ⟨_, hword, hblanks, hends⟩
      rw [head?, hterm]
    | rule hword hblanks hends =>
      have hrule := afterWord?_eq_some_iff.2 ⟨_, hword, hblanks, hends⟩
      have hterm : afterWord? "term" text = none := by rw [hword]; rfl
      rw [head?, hterm, hrule]
    | genitive hword hblanks hends =>
      have hgenitive := afterWord?_eq_some_iff.2 ⟨_, hword, hblanks, hends⟩
      have hterm : afterWord? "term" text = none := by rw [hword]; rfl
      have hrule : afterWord? "rule" text = none := by rw [hword]; rfl
      rw [head?, hterm, hrule, hgenitive]
    | ordinals hword =>
      subst hword
      rfl
    | unrelated hword =>
      subst hword
      rfl

/-- What is read behind the start of a definition is the definition. -/
theorem definition_iff {definition : Definition} :
    (∃ body after, head? text = some (body, after) ∧ body after = .ok (definition, rest)) ↔
      Item text definition rest := by
  constructor
  · rintro ⟨body, after, hhead, hbody⟩
    cases head?_eq_some_iff.1 hhead with
    | term hword hblanks hends =>
      obtain ⟨key, template, keyed, signed, quoted, rfl, hkey, hequals, htemplate, hsemicolon⟩ :=
        termBody_eq_ok_iff.1 hbody
      exact .term hword hblanks hkey hequals htemplate hsemicolon
    | rule hword hblanks hends =>
      obtain ⟨pattern, template, matched, signed, quoted, rfl, hpattern, hequals, htemplate,
        hsemicolon⟩ := ruleBody_eq_ok_iff.1 hbody
      exact .rule hword hblanks hpattern hequals htemplate hsemicolon
    | genitive hword hblanks hends =>
      obtain ⟨target, template, targeted, signed, quoted, rfl, htarget, hequals, htemplate,
        hsemicolon⟩ := genitiveBody_eq_ok_iff.1 hbody
      exact .genitive hword hblanks htarget hequals htemplate hsemicolon
    | ordinals hword =>
      obtain ⟨entries, opened, block, closed, rfl, hequals, htrivia, hblock, hsemicolon⟩ :=
        ordinalsBody_eq_ok_iff.1 hbody
      exact .ordinals hword hequals htrivia hblock hsemicolon
    | unrelated hword =>
      obtain ⟨phrase, signed, quoted, rfl, hequals, hphrase, hsemicolon⟩ :=
        unrelatedBody_eq_ok_iff.1 hbody
      exact .unrelated hword hequals hphrase hsemicolon
  · intro h
    suffices hstarts : ∃ body after, Starts text body after ∧ body after = .ok (definition, rest) by
      obtain ⟨body, after, hhead, hbody⟩ := hstarts
      exact ⟨body, after, head?_eq_some_iff.2 hhead, hbody⟩
    cases h with
    | term hword hblanks hkey hequals htemplate hsemicolon =>
      exact ⟨termBody, _, .term hword hblanks hkey.endsRun_isBlank, termBody_eq_ok_iff.2
        ⟨_, _, _, _, _, rfl, hkey, hequals, htemplate, hsemicolon⟩⟩
    | rule hword hblanks hpattern hequals htemplate hsemicolon =>
      exact ⟨ruleBody, _, .rule hword hblanks (hpattern.endsRun rfl), ruleBody_eq_ok_iff.2
        ⟨_, _, _, _, _, rfl, hpattern, hequals, htemplate, hsemicolon⟩⟩
    | genitive hword hblanks htarget hequals htemplate hsemicolon =>
      exact ⟨genitiveBody, _, .genitive hword hblanks htarget.endsRun_isBlank,
        genitiveBody_eq_ok_iff.2 ⟨_, _, _, _, _, rfl, htarget, hequals, htemplate, hsemicolon⟩⟩
    | ordinals hword hequals htrivia hblock hsemicolon =>
      exact ⟨ordinalsBody, _, .ordinals hword, ordinalsBody_eq_ok_iff.2
        ⟨_, _, _, _, rfl, hequals, htrivia, hblock, hsemicolon⟩⟩
    | unrelated hword hequals hphrase hsemicolon =>
      exact ⟨unrelatedBody, _, .unrelated hword, unrelatedBody_eq_ok_iff.2
        ⟨_, _, _, rfl, hequals, hphrase, hsemicolon⟩⟩

/-! ## Vocabularies -/

/-- A definition starts with a word. -/
theorem Grammar.Item.run {definition : Definition} (h : Item text definition rest) :
    ∃ head after, Run isWordCharacter text head after := by
  cases h with
  | term hword => exact ⟨_, _, hword, by decide, List.all_eq_true.1 (by decide)⟩
  | rule hword => exact ⟨_, _, hword, by decide, List.all_eq_true.1 (by decide)⟩
  | genitive hword => exact ⟨_, _, hword, by decide, List.all_eq_true.1 (by decide)⟩
  | ordinals hword => exact ⟨_, _, hword, by decide, List.all_eq_true.1 (by decide)⟩
  | unrelated hword => exact ⟨_, _, hword, by decide, List.all_eq_true.1 (by decide)⟩

theorem Grammar.Items.skipTrivia_eq {definitions : List Definition} (h : Items text definitions) :
    skipTrivia text = text := by
  cases h with
  | nil => rfl
  | cons hitem htrivia h =>
    obtain ⟨head, after, hrun⟩ := hitem.run
    exact hrun.skipTrivia_eq

/-- The reader of definitions comes to the end of a text exactly where the text is definitions. -/
theorem definitionsUpTo_eq_ok_iff {limit : Nat} {definitions : List Definition}
    (hlimit : text.length ≤ limit) :
    definitionsUpTo limit text = .ok (definitions, []) ↔ Items text definitions := by
  constructor
  · clear hlimit
    intro h
    induction limit generalizing text definitions with
    | zero =>
      obtain ⟨rfl, rfl⟩ : [] = definitions ∧ text = [] := by simpa [definitionsUpTo] using h
      exact .nil
    | succ limit ih =>
      unfold definitionsUpTo at h
      split at h
      · obtain ⟨rfl, rfl⟩ : [] = definitions ∧ text = [] := by simpa using h
        exact .nil
      · rename_i body after hhead
        split at h
        · cases h
        · rename_i definition behind hbody
          split at h
          · cases h
          · rename_i others last hothers
            obtain ⟨rfl, rfl⟩ : definition :: others = definitions ∧ last = [] := by simpa using h
            exact .cons (definition_iff.1 ⟨body, after, hhead, hbody⟩) (trivia_skipTrivia behind)
              (ih hothers)
  · intro h
    induction h generalizing limit with
    | nil => cases limit <;> rfl
    | @cons text after next definition definitions hitem htrivia h ih =>
      obtain ⟨body, behind, hhead, hbody⟩ := definition_iff.2 hitem
      have hnext : skipTrivia after = next := htrivia.skipTrivia_eq.trans h.skipTrivia_eq
      have hlength : next.length < text.length :=
        Nat.lt_of_le_of_lt htrivia.length_le hitem.length_lt
      cases limit with
      | zero => omega
      | succ limit =>
        simp only [definitionsUpTo, hhead, hbody, hnext, ih (by omega : next.length ≤ limit)]

/-- **A text is read as definitions exactly if the grammar makes it a vocabulary of them.** -/
theorem read_eq_ok_iff (text : Text) (definitions : List Definition) :
    read text = .ok definitions ↔ IsVocabulary text definitions := by
  have hlength : (skipTrivia text).length ≤ text.length := (trivia_skipTrivia text).length_le
  have hread : read text = .ok definitions ↔
      definitionsUpTo text.length (skipTrivia text) = .ok (definitions, []) := by
    unfold read
    split
    · rename_i stop hstop
      simp [hstop]
    · rename_i read hread
      simp [hread]
    · rename_i read last hlast hread
      rw [hread]
      simp only [reduceCtorEq, Except.ok.injEq, Prod.mk.injEq, false_iff, not_and]
      exact fun _ hnil => hlast hnil
  rw [hread, definitionsUpTo_eq_ok_iff hlength]
  constructor
  · intro h
    exact ⟨skipTrivia text, trivia_skipTrivia text, h⟩
  · rintro ⟨items, htrivia, h⟩
    rwa [htrivia.skipTrivia_eq, h.skipTrivia_eq]

-- a block without entries may hold a comma, and the last comment may end with the text
example : (read "ordinals={,};unrelated = \"no\" ; //".toList).toOption =
    some [.ordinals [], .unrelated "no".toList] := by decide +kernel

end Vocabulary

end Kindred
