import Kindred.Vocabulary.Reader

/-!
# The grammar of vocabularies

What a vocabulary is, said without a reader. A phrase of the grammar is a relation of a text that
starts with the phrase and the text behind it, with what the phrase denotes between the two; a
sequence of phrases names the texts between them. In the comments that quote the grammar, `T`
stands for `Trivia`, `W` for `Blanks`, `E` for `Equals` and `S` for `Semicolon`.

A relation admits every way to part a text. Where a phrase may end at several places, what has to
follow it decides: the word of a key, say, ends at a blank, a comment or an equals sign, none of
which holds a character of a word (`Trivia.endsRun`). **`IsVocabulary` is the whole grammar**, and
every definition shortens the text (`Item.length_lt`), so that no text has more definitions than
characters.
-/

namespace Kindred

namespace Vocabulary

namespace Grammar

/-! ## Blanks, comments and signs -/

/-- Blanks and comments. A comment runs from `//` to the end of its line or of the text. -/
inductive Trivia : Text → Text → Prop
  | none {rest : Text} : Trivia rest rest
  | blank {c : Char} {text rest : Text} (hblank : Text.isBlank c = true) (h : Trivia text rest) :
      Trivia (c :: text) rest
  | comment {content text rest : Text} (hcontent : '\n' ∉ content)
      (hend : ∀ c ∈ text.head?, c = '\n') (h : Trivia text rest) :
      Trivia ('/' :: '/' :: (content ++ text)) rest

/-- A non-empty run of characters of a kind. -/
def Run (kind : Char → Bool) (text word rest : Text) : Prop :=
  text = word ++ rest ∧ word ≠ [] ∧ ∀ c ∈ word, kind c = true

/-- No character of a kind is at the front of a text. -/
def EndsRun (kind : Char → Bool) (rest : Text) : Prop := ∀ c ∈ rest.head?, kind c = false

/-- One blank or more. -/
def Blanks (text rest : Text) : Prop := ∃ blanks, Run Text.isBlank text blanks rest

/-- An equals sign, `T "=" T`. -/
def Equals (text rest : Text) : Prop := ∃ after, Trivia text ('=' :: after) ∧ Trivia after rest

/-- A semicolon, `T ";"`. -/
def Semicolon (text rest : Text) : Prop := Trivia text (';' :: rest)

/-! ## Words and templates -/

/-- A text in quotes. It holds no quote, and nothing in it means anything else. -/
def Quoted (text content rest : Text) : Prop :=
  text = '"' :: (content ++ '"' :: rest) ∧ '"' ∉ content

/-- A text in quotes that is a template. -/
def QuotedTemplate (text : Text) (template : Template) (rest : Text) : Prop :=
  ∃ content, Quoted text content rest ∧ Template.parse content = .ok template

/-- The key of a term. -/
inductive Key (text key rest : Text) : Prop
  | quoted (h : Quoted text key rest)
  | bare (h : Run isKeyCharacter text key rest)

/-- A word without quotes, to its end. -/
def BareWord (text word rest : Text) : Prop :=
  Run isWordCharacter text word rest ∧ EndsRun isWordCharacter rest

/-- What a genitive is for. Only without quotes is `default` no word. -/
inductive Target (text : Text) : GenitiveTarget → (rest : Text) → Prop
  | quoted {word rest : Text} (h : Quoted text word rest) : Target text (.word word) rest
  | default {rest : Text} (h : BareWord text "default".toList rest) : Target text .default rest
  | bare {word rest : Text} (h : BareWord text word rest) (hword : word ≠ "default".toList) :
      Target text (.word word) rest

/-! ## Ordinals -/

/-- An entry, `NAME T ":" T "suffix"`. -/
def Entry (text : Text) (entry : OrdinalEntry) (rest : Text) : Prop :=
  ∃ named colon suffix, text = entry.category.name ++ named ∧ Trivia named (':' :: colon) ∧
    Trivia colon suffix ∧ Quoted suffix entry.suffix rest

/-- Any number of further entries, each behind a comma: `(T "," T ENTRY)*`. -/
inductive Further : Text → List OrdinalEntry → Text → Prop
  | none {rest : Text} : Further rest [] rest
  | more {text comma next after rest : Text} {entry : OrdinalEntry} {entries : List OrdinalEntry}
      (hcomma : Trivia text (',' :: comma)) (hnext : Trivia comma next)
      (hentry : Entry next entry after) (h : Further after entries rest) :
      Further text (entry :: entries) rest

/-- Entries with commas between them, possibly none. -/
inductive Entries (text : Text) : List OrdinalEntry → (rest : Text) → Prop
  | none : Entries text [] text
  | some {after rest : Text} {entry : OrdinalEntry} {entries : List OrdinalEntry}
      (hentry : Entry text entry after) (h : Further after entries rest) :
      Entries text (entry :: entries) rest

/-- Entries with a comma behind them or none, and a closing brace: `ENTRIES (T ",")? T "}"`. -/
def Block (text : Text) (entries : List OrdinalEntry) (rest : Text) : Prop :=
  ∃ after last, Entries text entries after ∧ (last = after ∨ Trivia after (',' :: last)) ∧
    Trivia last ('}' :: rest)

/-! ## Definitions -/

/-- A definition. -/
inductive Item (text : Text) : Definition → (rest : Text) → Prop
  /-- A phrase, `"term" W KEY E "template" S`. -/
  | term {word head keyed signed quoted rest key : Text} {template : Template}
      (hword : text = "term".toList ++ word) (hblanks : Blanks word head)
      (hkey : Key head key keyed) (hequals : Equals keyed signed)
      (htemplate : QuotedTemplate signed template quoted) (hsemicolon : Semicolon quoted rest) :
      Item text (.term key template) rest
  /-- A rule, `"rule" W "pattern" E "template" S`. -/
  | rule {word head matched signed quoted rest pattern template : Text}
      (hword : text = "rule".toList ++ word) (hblanks : Blanks word head)
      (hpattern : Quoted head pattern matched) (hequals : Equals matched signed)
      (htemplate : Quoted signed template quoted) (hsemicolon : Semicolon quoted rest) :
      Item text (.rule pattern (.read template)) rest
  /-- A possessive, `"genitive" W TARGET E "template" S`. -/
  | genitive {word head targeted signed quoted rest : Text} {target : GenitiveTarget}
      {template : Template}
      (hword : text = "genitive".toList ++ word) (hblanks : Blanks word head)
      (htarget : Target head target targeted) (hequals : Equals targeted signed)
      (htemplate : QuotedTemplate signed template quoted) (hsemicolon : Semicolon quoted rest) :
      Item text (.genitive target template) rest
  /-- A block of ordinals, `"ordinals" E "{" T BLOCK S`. -/
  | ordinals {word opened block closed rest : Text} {entries : List OrdinalEntry}
      (hword : text = "ordinals".toList ++ word) (hequals : Equals word ('{' :: opened))
      (htrivia : Trivia opened block) (hblock : Block block entries closed)
      (hsemicolon : Semicolon closed rest) :
      Item text (.ordinals entries) rest
  /-- The phrase for what is no code, `"unrelated" E "phrase" S`. -/
  | unrelated {word signed quoted rest phrase : Text}
      (hword : text = "unrelated".toList ++ word) (hequals : Equals word signed)
      (hphrase : Quoted signed phrase quoted) (hsemicolon : Semicolon quoted rest) :
      Item text (.unrelated phrase) rest

/-- Definitions to the end of the text, `(ITEM T)*`. -/
inductive Items : Text → List Definition → Prop
  | nil : Items [] []
  | cons {text after next : Text} {definition : Definition} {definitions : List Definition}
      (hitem : Item text definition after) (htrivia : Trivia after next)
      (h : Items next definitions) : Items text (definition :: definitions)

/-- A vocabulary, `T (ITEM T)*`. -/
def IsVocabulary (text : Text) (definitions : List Definition) : Prop :=
  ∃ items, Trivia text items ∧ Items items definitions

/-! ## What phrases start and end with -/

variable {kind : Char → Bool} {c : Char} {text word after rest : Text}

theorem EndsRun.cons (hc : kind c = false) : EndsRun kind (c :: rest) := by
  simpa [EndsRun] using hc

/-- A run ends where blanks, comments and a sign follow that have no character of its kind. -/
theorem Trivia.endsRun (h : Trivia text (c :: rest)) (hc : kind c = false)
    (hblank : ∀ d, Text.isBlank d = true → kind d = false) (hslash : kind '/' = false) :
    EndsRun kind text := by
  cases h with
  | none => exact .cons hc
  | blank hd h => exact .cons (hblank _ hd)
  | comment hcontent hend h => exact .cons hslash

theorem Equals.endsRun (h : Equals text rest) (hequals : kind '=' = false)
    (hblank : ∀ d, Text.isBlank d = true → kind d = false) (hslash : kind '/' = false) :
    EndsRun kind text :=
  h.elim fun _ h => h.1.endsRun hequals hblank hslash

/-- No run of a kind starts where a run of another kind does that shares no character with it. -/
theorem Run.endsRun {other : Char → Bool} (h : Run kind text word rest)
    (hother : ∀ c, other c = true → kind c = false) : EndsRun other text := by
  obtain ⟨rfl, hne, hword⟩ := h
  cases word with
  | nil => exact (hne rfl).elim
  | cons c word =>
    have hc : kind c = true := hword c List.mem_cons_self
    exact .cons (Bool.eq_false_iff.2 fun h => Bool.false_ne_true ((hother c h).symm.trans hc))

theorem EndsRun.not_run (h : EndsRun kind text) : ¬ Run kind text word rest := by
  rintro ⟨rfl, hne, hword⟩
  cases word with
  | nil => exact hne rfl
  | cons c word =>
    exact Bool.false_ne_true ((h c rfl).symm.trans (hword c List.mem_cons_self))

theorem Quoted.endsRun {content : Text} (h : Quoted text content rest) (hkind : kind '"' = false) :
    EndsRun kind text := by
  obtain ⟨rfl, -⟩ := h
  exact .cons hkind

/-! ## Lengths -/

theorem Trivia.length_le (h : Trivia text rest) : rest.length ≤ text.length := by
  induction h with
  | none => exact Nat.le_refl _
  | blank hblank h ih => exact Nat.le_succ_of_le ih
  | comment hcontent hend h ih => simp only [List.length_cons, List.length_append]; omega

theorem Run.length_lt (h : Run kind text word rest) : rest.length < text.length := by
  obtain ⟨rfl, hne, -⟩ := h
  have hpositive := List.length_pos_iff.2 hne
  simp only [List.length_append]
  omega

theorem Blanks.length_lt (h : Blanks text rest) : rest.length < text.length :=
  h.elim fun _ h => h.length_lt

theorem Equals.length_lt (h : Equals text rest) : rest.length < text.length := by
  obtain ⟨after, hbefore, hafter⟩ := h
  have hbefore := hbefore.length_le
  have hafter := hafter.length_le
  simp only [List.length_cons] at hbefore
  omega

theorem Semicolon.length_lt (h : Semicolon text rest) : rest.length < text.length :=
  Trivia.length_le h

theorem Quoted.length_lt {content : Text} (h : Quoted text content rest) :
    rest.length < text.length := by
  obtain ⟨rfl, -⟩ := h
  simp only [List.length_cons, List.length_append]
  omega

theorem QuotedTemplate.length_lt {template : Template} (h : QuotedTemplate text template rest) :
    rest.length < text.length :=
  h.elim fun _ h => h.1.length_lt

theorem Key.length_lt {key : Text} (h : Key text key rest) : rest.length < text.length := by
  cases h with
  | quoted h => exact h.length_lt
  | bare h => exact h.length_lt

theorem Target.length_lt {target : GenitiveTarget} (h : Target text target rest) :
    rest.length < text.length := by
  cases h with
  | quoted h => exact h.length_lt
  | default h => exact h.1.length_lt
  | bare h hword => exact h.1.length_lt

theorem Entry.length_lt {entry : OrdinalEntry} (h : Entry text entry rest) :
    rest.length < text.length := by
  obtain ⟨named, colon, suffix, rfl, hnamed, hcolon, hsuffix⟩ := h
  have hnamed := hnamed.length_le
  have hcolon := hcolon.length_le
  have hsuffix := hsuffix.length_lt
  simp only [List.length_cons, List.length_append] at hnamed ⊢
  omega

theorem Further.length_le {entries : List OrdinalEntry} (h : Further text entries rest) :
    rest.length ≤ text.length := by
  induction h with
  | none => exact Nat.le_refl _
  | more hcomma hnext hentry h ih =>
    have hcomma := hcomma.length_le
    have hnext := hnext.length_le
    have hentry := hentry.length_lt
    simp only [List.length_cons] at hcomma
    omega

theorem Entries.length_le {entries : List OrdinalEntry} (h : Entries text entries rest) :
    rest.length ≤ text.length := by
  cases h with
  | none => exact Nat.le_refl _
  | some hentry h => exact Nat.le_of_lt (Nat.lt_of_le_of_lt h.length_le hentry.length_lt)

theorem Block.length_lt {entries : List OrdinalEntry} (h : Block text entries rest) :
    rest.length < text.length := by
  obtain ⟨after, last, hentries, hcomma, hclosed⟩ := h
  have hentries := hentries.length_le
  have hlast : last.length ≤ after.length := by
    rcases hcomma with rfl | hcomma
    · exact Nat.le_refl _
    · exact Nat.le_of_lt hcomma.length_le
  exact Nat.lt_of_lt_of_le hclosed.length_le (Nat.le_trans hlast hentries)

theorem Item.length_lt {definition : Definition} (h : Item text definition rest) :
    rest.length < text.length := by
  have hword : ∀ head word : Text, text = head ++ word → word.length ≤ text.length := by
    rintro head word rfl
    simp
  cases h with
  | term hterm hblanks hkey hequals htemplate hsemicolon =>
    calc rest.length
      _ < _ := hsemicolon.length_lt
      _ < _ := htemplate.length_lt
      _ < _ := hequals.length_lt
      _ < _ := hkey.length_lt
      _ < _ := hblanks.length_lt
      _ ≤ text.length := hword _ _ hterm
  | rule hrule hblanks hpattern hequals htemplate hsemicolon =>
    calc rest.length
      _ < _ := hsemicolon.length_lt
      _ < _ := htemplate.length_lt
      _ < _ := hequals.length_lt
      _ < _ := hpattern.length_lt
      _ < _ := hblanks.length_lt
      _ ≤ text.length := hword _ _ hrule
  | genitive hgenitive hblanks htarget hequals htemplate hsemicolon =>
    calc rest.length
      _ < _ := hsemicolon.length_lt
      _ < _ := htemplate.length_lt
      _ < _ := hequals.length_lt
      _ < _ := htarget.length_lt
      _ < _ := hblanks.length_lt
      _ ≤ text.length := hword _ _ hgenitive
  | @ordinals word opened _ _ _ _ hordinals hequals htrivia hblock hsemicolon =>
    calc rest.length
      _ < _ := hsemicolon.length_lt
      _ < _ := hblock.length_lt
      _ ≤ opened.length := htrivia.length_le
      _ < ('{' :: opened).length := Nat.lt_succ_self _
      _ < word.length := hequals.length_lt
      _ ≤ text.length := hword _ _ hordinals
  | unrelated hunrelated hequals hphrase hsemicolon =>
    calc rest.length
      _ < _ := hsemicolon.length_lt
      _ < _ := hphrase.length_lt
      _ < _ := hequals.length_lt
      _ ≤ text.length := hword _ _ hunrelated

end Grammar

end Vocabulary

end Kindred
