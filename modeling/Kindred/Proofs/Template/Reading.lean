import Kindred.Proofs.Template.Scanning
import Kindred.Proofs.Text.Position

/-!
# Reading templates

A text is read as a template exactly if it is a concatenation of written tokens, and the template is
the one in normal form that stands for them. Otherwise the brace is blamed at which the longest
concatenation at the front of the text ends. **`parse_reads_tokens` is the main statement**; it says
too that a template in normal form is read back from what is written for it.
-/

namespace Kindred

/-! ## The tokens of a template -/

/-- What a segment stands for, character by character. -/
def Segment.tokens : Segment → List Template.Token
  | .literal text => text.map .character
  | .placeholder index style => [.gap (.placeholder index style)]

namespace Template

/-- What a template stands for, character by character. -/
def tokens (template : Template) : List Token := template.flatMap Segment.tokens

/-- The template of tokens, in which characters that are neighbours make one text. -/
def ofTokens : List Token → Template
  | [] => []
  | .character c :: tokens => consCharacter c (ofTokens tokens)
  | .gap segment :: tokens => segment :: ofTokens tokens

variable {text read rest : Text} {template other : Template} {written : List Token}

theorem tokens_consCharacter (c : Char) (template : Template) :
    (consCharacter c template).tokens = .character c :: template.tokens := by
  cases template with
  | nil => rfl
  | cons segment template => cases segment <;> rfl

/-- Tokens that are written somewhere give a template in normal form that stands for them. -/
theorem tokens_ofTokens (h : Written written text) :
    (ofTokens written).IsNormal ∧ (ofTokens written).tokens = written := by
  induction h with
  | nil => exact ⟨trivial, rfl⟩
  | @cons token _ _ _ hfirst _ ih =>
    obtain ⟨hnormal, htokens⟩ := ih
    cases token with
    | character c =>
      refine ⟨hnormal.consCharacter c, ?_⟩
      rw [ofTokens, tokens_consCharacter, htokens]
    | gap segment =>
      cases hfirst with
      | gap => exact ⟨hnormal, congrArg (Token.gap _ :: ·) htokens⟩

theorem ofTokens_characters (hne : text ≠ []) (hother : ∀ text more, other ≠ .literal text :: more)
    (h : ofTokens written = other) :
    ofTokens (text.map .character ++ written) = .literal text :: other := by
  induction text with
  | nil => exact (hne rfl).elim
  | cons c text ih =>
    rw [List.map_cons, List.cons_append, ofTokens]
    cases text with
    | nil =>
      rw [List.map_nil, List.nil_append, h]
      unfold consCharacter
      split
      · exact (hother _ _ rfl).elim
      · rfl
    | cons d text => rw [ih (List.cons_ne_nil d text), consCharacter]

/-- A template in normal form is told by its tokens. -/
theorem IsNormal.ofTokens_tokens (h : template.IsNormal) : ofTokens template.tokens = template := by
  induction template with
  | nil => rfl
  | cons segment template ih =>
    cases segment with
    | literal text => exact ofTokens_characters h.1 h.2.1 (ih h.2.2)
    | placeholder index style => exact congrArg (Segment.placeholder index style :: ·) (ih h)

/-! ## Reading -/

/-- The reader takes a run of tokens, behind which no further token stands. -/
theorem exists_scanTokens {limit : Nat} (hlimit : text.length ≤ limit) :
    ∃ written read rest, scanTokens readToken? limit text = (ofTokens written, rest) ∧
      text = read ++ rest ∧ Written written read ∧ readToken? rest = none := by
  induction limit generalizing text with
  | zero =>
    obtain rfl := List.length_eq_zero_iff.1 (Nat.le_zero.1 hlimit)
    exact ⟨[], [], [], rfl, rfl, .nil, rfl⟩
  | succ limit ih =>
    unfold scanTokens
    cases htoken : readToken? text with
    | none => exact ⟨[], [], text, rfl, rfl, .nil, htoken⟩
    | some result =>
      obtain ⟨token, behind⟩ := result
      obtain ⟨front, rfl, hfirst⟩ := readToken?_eq_some_iff.1 htoken
      have hpositive : 0 < front.length := List.length_pos_iff.2 hfirst.ne_nil
      rw [List.length_append] at hlimit
      obtain ⟨written, read, rest, hscan, rfl, hwritten, hstop⟩ := ih (by omega : behind.length ≤ limit)
      refine ⟨token :: written, front ++ read, rest, ?_, (List.append_assoc ..).symm,
        .cons hfirst hwritten, hstop⟩
      simp only [hscan]
      cases token <;> rfl

theorem exists_scan (text : Text) :
    ∃ written read rest, scan text = (ofTokens written, rest) ∧
      text = read ++ rest ∧ Written written read ∧ readToken? rest = none :=
  exists_scanTokens (Nat.le_refl _)

theorem parse_of_written (h : Written written text) : parse text = .ok (ofTokens written) := by
  obtain ⟨others, read, rest, hscan, htext, hread, hstop⟩ := exists_scan text
  have hboth : read ++ rest = text ++ [] := by rw [← htext, List.append_nil]
  obtain ⟨left, further, rfl, rfl, hleft⟩ := hread.split hstop h hboth
  rw [List.append_assoc, List.append_cancel_left_eq, List.append_eq_nil_iff] at hboth
  obtain ⟨rfl, rfl⟩ := hboth
  rw [hleft.eq_nil_of_nil, List.append_nil] at hscan
  exact Vocabulary.parse_eq_ok_iff.2 hscan

theorem exists_written_of_parse (h : parse text = .ok template) :
    ∃ written, Written written text ∧ ofTokens written = template := by
  obtain ⟨written, read, rest, hscan, htext, hread, -⟩ := exists_scan text
  obtain ⟨rfl, rfl⟩ := Prod.mk.inj (hscan.symm.trans (Vocabulary.parse_eq_ok_iff.1 h))
  rw [List.append_nil] at htext
  exact ⟨written, htext ▸ hread, rfl⟩

theorem parse_eq_ok_iff_tokens :
    parse text = .ok template ↔ template.IsNormal ∧ Written template.tokens text := by
  constructor
  · intro h
    obtain ⟨written, hwritten, rfl⟩ := exists_written_of_parse h
    obtain ⟨hnormal, htokens⟩ := tokens_ofTokens hwritten
    exact ⟨hnormal, htokens.symm ▸ hwritten⟩
  · rintro ⟨hnormal, hwritten⟩
    rw [parse_of_written hwritten, hnormal.ofTokens_tokens]

/-! ## What is blamed -/

/-- At the front of the text stands a concatenation of tokens, and no longer one. -/
structure IsLongestRun (read text : Text) : Prop where
  isPrefix : read <+: text
  written : ∃ tokens, Written tokens read
  longest : ∀ more, more <+: text → (∃ tokens, Written tokens more) → more.length ≤ read.length

theorem isLongestRun_of_stop (h : Written written read) (hstop : readToken? rest = none) :
    IsLongestRun read (read ++ rest) := by
  refine ⟨List.prefix_append read rest, ⟨written, h⟩, ?_⟩
  rintro more ⟨behind, htext⟩ ⟨others, hmore⟩
  obtain ⟨left, -, rfl, -⟩ := h.split hstop hmore htext.symm
  rw [List.length_append]
  exact Nat.le_add_right _ _

/-- Where no token stands, the text ends or starts with a brace. -/
theorem brace_of_readToken?_eq_none {c : Char} (h : readToken? (c :: rest) = none) :
    c = '{' ∨ c = '}' := by
  by_contra hbrace
  rw [not_or] at hbrace
  have htoken : readToken? (c :: rest) = some (.character c, rest) :=
    readToken?_eq_some_iff.2 ⟨[c], rfl, .character hbrace.1 hbrace.2⟩
  rw [h] at htoken
  cases htoken

/-- A text that is no concatenation of tokens is blamed at the brace behind the longest one. -/
theorem exists_parse_eq_error (h : ¬ ∃ tokens, Written tokens text) :
    ∃ read c rest, text = read ++ c :: rest ∧ IsLongestRun read text ∧ (c = '{' ∨ c = '}') ∧
      parse text = .error (.unexpectedCharacter (.afterReading read) c) := by
  obtain ⟨written, read, rest, hscan, htext, hread, hstop⟩ := exists_scan text
  cases rest with
  | nil =>
    rw [List.append_nil] at htext
    exact (h ⟨written, htext ▸ hread⟩).elim
  | cons c rest =>
    have hplace : Position.before text (c :: rest) = .afterReading read := by
      rw [htext, Position.before_append]
    refine ⟨read, c, rest, htext, htext ▸ isLongestRun_of_stop hread hstop,
      brace_of_readToken?_eq_none hstop, ?_⟩
    rw [parse, hscan, ← hplace]
    rfl

theorem IsLongestRun.unique {left right : Text} (hleft : IsLongestRun left text)
    (hright : IsLongestRun right text) : left = right := by
  have hle := hleft.longest right hright.isPrefix hright.written
  have hge := hright.longest left hleft.isPrefix hleft.written
  exact (List.prefix_of_prefix_length_le hleft.isPrefix hright.isPrefix hge).eq_of_length_le hle

theorem parse_eq_error_iff {error : SyntaxError} :
    parse text = .error error ↔
      ∃ read c rest, text = read ++ c :: rest ∧ IsLongestRun read text ∧ (c = '{' ∨ c = '}') ∧
        error = .unexpectedCharacter (.afterReading read) c := by
  constructor
  · intro h
    have hnone : ¬ ∃ tokens, Written tokens text := by
      rintro ⟨written, hwritten⟩
      rw [parse_of_written hwritten] at h
      cases h
    obtain ⟨read, c, rest, htext, hlongest, hbrace, hparse⟩ := exists_parse_eq_error hnone
    exact ⟨read, c, rest, htext, hlongest, hbrace, Except.error.inj (h.symm.trans hparse)⟩
  · rintro ⟨read, c, rest, htext, hlongest, -, rfl⟩
    have hnone : ¬ ∃ tokens, Written tokens text := by
      intro hwritten
      have hlength := hlongest.longest text List.prefix_rfl hwritten
      rw [htext, List.length_append, List.length_cons] at hlength
      omega
    obtain ⟨found, d, behind, hfound, hother, -, hparse⟩ := exists_parse_eq_error hnone
    obtain rfl := hlongest.unique hother
    obtain ⟨rfl, -⟩ := List.cons.inj (List.append_cancel_left (htext.symm.trans hfound))
    exact hparse

/-! ## Writing -/

theorem written_escape (text : Text) : Written (text.map .character) (Segment.escape text) := by
  induction text with
  | nil => exact .nil
  | cons c text ih =>
    rw [Segment.escape, List.flatMap_cons]
    by_cases hopening : c = '{'
    · subst hopening
      exact .cons .opening ih
    · by_cases hclosing : c = '}'
      · subst hclosing
        exact .cons .closing ih
      · rw [if_neg (not_or.2 ⟨hopening, hclosing⟩)]
        exact .cons (.character hopening hclosing) ih

theorem written_placeholderText {index : Nat} {style : Option NumberStyle}
    (h : index < Text.indexBound) :
    (Token.gap (.placeholder index style)).Written (Segment.placeholderText index style) := by
  have hvalue : Text.decimalValue (Text.numeral index) = index := Text.decimalValue_numeral index
  have hnone : ∀ c ∈ ([] : Text), Text.isBlank c = true := fun _ h => nomatch h
  have hgap : (Token.gap (.placeholder (Text.decimalValue (Text.numeral index)) style)).Written _ :=
    .gap hnone (fun _ => Text.isDigit_of_mem_numeral) (Text.numeral_ne_nil index) (hvalue.symm ▸ h)
      hnone
  rw [hvalue] at hgap
  cases style <;> simpa [Segment.placeholderText, styleText] using hgap

/-- What is written for a template is its tokens. -/
theorem written_render (h : ∀ index ∈ template.indices, index < Text.indexBound) :
    Written template.tokens template.render := by
  induction template with
  | nil => exact .nil
  | cons segment template ih =>
    have hrest : Written (tokens template) (render template) :=
      ih fun index hindex => h index (by
        obtain ⟨segment, hmem, hindex⟩ := List.mem_filterMap.1 hindex
        exact List.mem_filterMap.2 ⟨segment, List.mem_cons_of_mem _ hmem, hindex⟩)
    cases segment with
    | literal text => exact (written_escape text).append hrest
    | placeholder index style =>
      exact .cons (written_placeholderText (h index List.mem_cons_self)) hrest

/-- **A text is a template exactly if it is a concatenation of tokens.** The template stands for the
tokens and has no empty and no neighbouring texts. A text that is none is blamed at the brace behind
the longest concatenation of tokens at its front, and what is written for a template is read as the
template. -/
theorem parse_reads_tokens :
    (∀ text, (∃ template, parse text = .ok template) ↔ ∃ tokens, Written tokens text) ∧
    (∀ text template, parse text = .ok template ↔
      template.IsNormal ∧ Written template.tokens text) ∧
    (∀ text error, parse text = .error error ↔
      ∃ read c rest, text = read ++ c :: rest ∧ IsLongestRun read text ∧ (c = '{' ∨ c = '}') ∧
        error = .unexpectedCharacter (.afterReading read) c) ∧
    ∀ template : Template, template.IsNormal →
      (∀ index ∈ template.indices, index < Text.indexBound) →
      parse template.render = .ok template := by
  refine ⟨fun text => ⟨?_, ?_⟩, fun _ _ => parse_eq_ok_iff_tokens, fun _ _ => parse_eq_error_iff,
    fun template hnormal hindices => parse_eq_ok_iff_tokens.2 ⟨hnormal, written_render hindices⟩⟩
  · rintro ⟨template, hparse⟩
    obtain ⟨written, hwritten, -⟩ := exists_written_of_parse hparse
    exact ⟨written, hwritten⟩
  · rintro ⟨written, hwritten⟩
    exact ⟨_, parse_of_written hwritten⟩

/-- Braces next to a gap, on both sides. -/
def braced : Template :=
  [.literal ['{', 'n', 'é'], .placeholder 7 (some .ordinal), .literal ['}']]

/-- Of the three braces behind the style, the first closes the gap. -/
theorem parse_reads_tokens_braced :
    braced.IsNormal ∧ (∀ index ∈ braced.indices, index < Text.indexBound) ∧
      braced.render = "{{né{7:ON}}}".toList ∧ parse "{{né{7:ON}}}".toList = .ok braced ∧
      ∃ tokens, Written tokens "{{né{7:ON}}}".toList := by
  have hnormal : braced.IsNormal := by simp [braced, IsNormal]
  have hindices : ∀ index ∈ braced.indices, index < Text.indexBound := by decide
  have hrender : braced.render = "{{né{7:ON}}}".toList := by decide +kernel
  have hparse : parse "{{né{7:ON}}}".toList = .ok braced := by
    rw [← hrender]
    exact parse_reads_tokens.2.2.2 braced hnormal hindices
  exact ⟨hnormal, hindices, hrender, hparse, (parse_reads_tokens.1 _).1 ⟨braced, hparse⟩⟩

end Template

end Kindred
