import Kindred.Proofs.Text.Runs
import Kindred.Template.Reader

/-!
# Tokens as they are written

What the tokens of a template look like, said without a reader: a brace is doubled, a gap is a number
in braces with blanks around it, and every other character is written as it is (`Token.Written`). No
token is the start of another, so that a text has at most one token at its front, and the reader takes
that one (`readToken?_eq_some_iff`).

Where a text starts with tokens behind which no further one stands, every run of tokens at its front is
a part of them (**`Written.split`**): a text is tokens in one way only, and the longest run is found
from left to right.
-/

namespace Kindred

namespace Template

/-! ## Tokens -/

/-- A style as it stands behind the number of a gap. -/
def styleText : Option NumberStyle → Text
  | some style => ':' :: style.mark
  | none => []

/-- A token as it is written. -/
inductive Token.Written : Token → Text → Prop
  /-- A character that is no brace is written as it is. -/
  | character {c : Char} (hopening : c ≠ '{') (hclosing : c ≠ '}') : Written (.character c) [c]
  /-- An opening brace is doubled. -/
  | opening : Written (.character '{') ['{', '{']
  /-- A closing brace is doubled. -/
  | closing : Written (.character '}') ['}', '}']
  /-- A gap: its number within bounds, perhaps a style, and blanks next to the braces. -/
  | gap {before digits after : Text} {style : Option NumberStyle}
      (hbefore : ∀ c ∈ before, Text.isBlank c = true) (hdigits : ∀ c ∈ digits, c.isDigit = true)
      (hne : digits ≠ []) (hbound : Text.decimalValue digits < Text.indexBound)
      (hafter : ∀ c ∈ after, Text.isBlank c = true) :
      Written (.gap (.placeholder (Text.decimalValue digits) style))
        ('{' :: (before ++ (digits ++ (styleText style ++ (after ++ ['}'])))))

variable {text rest front after : Text} {token : Token} {segment : Segment}

theorem readStyle_styleText (style : Option NumberStyle) (h : ∀ c ∈ rest.head?, c ≠ ':') :
    readStyle (styleText style ++ rest) = (style, rest) := by
  cases style with
  | none =>
    show readStyle rest = (none, rest)
    fun_cases readStyle rest with
    | case1 rest => exact (h ':' rfl rfl).elim
    | case2 rest => exact (h ':' rfl rfl).elim
    | case3 hordinal hcardinal => rfl
  | some style => cases style <;> rfl

theorem styleText_readStyle (text : Text) :
    text = styleText (readStyle text).1 ++ (readStyle text).2 := by
  fun_cases readStyle text <;> rfl

/-- The number of a gap ends where its style starts, or the blanks behind it, or where it closes. -/
theorem isDigit_head?_behind {style : Option NumberStyle}
    (hafter : ∀ c ∈ after, Text.isBlank c = true) :
    ∀ c ∈ (styleText style ++ (after ++ '}' :: rest)).head?, c.isDigit = false := by
  cases style with
  | some style => exact Text.forall_mem_head?_cons (by decide) _
  | none =>
    cases after with
    | nil => exact Text.forall_mem_head?_cons (by decide) _
    | cons d after =>
      exact Text.forall_mem_head?_cons (Text.isDigit_of_isBlank (hafter d List.mem_cons_self)) _

theorem readPlaceholder?_eq_some_iff :
    readPlaceholder? text = some (segment, rest) ↔
      ∃ front, text = front ++ rest ∧ (Token.gap segment).Written ('{' :: front) := by
  constructor
  · intro h
    obtain ⟨hbefore, -, htext⟩ := Text.exists_run Text.isBlank text
    obtain ⟨hdigits, -, hnumber⟩ := Text.exists_run Char.isDigit (Text.skipBlanks text)
    unfold readPlaceholder? at h
    simp only at h
    split at h
    · cases h
    rename_i index hindex
    obtain ⟨hne, rfl, hbound⟩ := Text.index?_eq_some_iff.1 hindex
    split at h
    · rename_i closed hclosed
      obtain ⟨rfl, rfl⟩ := Prod.mk.inj (Option.some.inj h)
      set number := (Text.skipBlanks text).takeWhile Char.isDigit
      set styled := (Text.skipBlanks text).dropWhile Char.isDigit
      obtain ⟨hafter, -, hbehind⟩ := Text.exists_run Text.isBlank (readStyle styled).2
      rw [← Text.skipBlanks, hclosed] at hbehind
      refine ⟨_, ?_, .gap hbefore hdigits hne hbound hafter⟩
      calc text
        _ = text.takeWhile Text.isBlank ++ Text.skipBlanks text := htext
        _ = text.takeWhile Text.isBlank ++ (number ++ styled) := by rw [← hnumber]
        _ = text.takeWhile Text.isBlank ++ (number ++ (styleText (readStyle styled).1 ++
              ((readStyle styled).2.takeWhile Text.isBlank ++ '}' :: closed))) := by
            rw [← hbehind, ← styleText_readStyle]
        _ = _ := by simp
    · cases h
  · rintro ⟨front, rfl, hgap⟩
    cases hgap with
    | @gap before digits after style hbefore hdigits hne hbound hafter =>
      have hstart : ∀ c ∈ (digits ++ (styleText style ++ (after ++ '}' :: rest))).head?,
          Text.isBlank c = false := by
        obtain ⟨d, digits, rfl⟩ := List.exists_cons_of_ne_nil hne
        exact Text.forall_mem_head?_cons (Text.isBlank_of_isDigit (hdigits d List.mem_cons_self)) _
      have hend : ∀ c ∈ (after ++ '}' :: rest).head?, c ≠ ':' := by
        cases after with
        | nil => exact Text.forall_mem_head?_cons (by decide) rest
        | cons d after =>
          have hblank := hafter d List.mem_cons_self
          exact Text.forall_mem_head?_cons (fun h => by rw [h] at hblank; cases hblank) _
      have hclose : ∀ c ∈ ('}' :: rest).head?, Text.isBlank c = false :=
        Text.forall_mem_head?_cons (by decide) rest
      have hbehind : ∀ c ∈ (styleText style ++ (after ++ '}' :: rest)).head?, c.isDigit = false :=
        isDigit_head?_behind hafter
      have hindex := Text.index?_eq_some_iff.2 ⟨hne, rfl, hbound⟩
      have htext : before ++ (digits ++ (styleText style ++ (after ++ ['}']))) ++ rest =
          before ++ (digits ++ (styleText style ++ (after ++ '}' :: rest))) := by simp
      rw [htext]
      simp only [readPlaceholder?, Text.skipBlanks, Text.dropWhile_append_of_ends hbefore hstart,
        Text.takeWhile_append_of_ends hdigits hbehind, Text.dropWhile_append_of_ends hdigits hbehind,
        hindex, readStyle_styleText style hend, Text.dropWhile_append_of_ends hafter hclose]

theorem readPlaceholder?_brace (text : Text) : readPlaceholder? ('{' :: text) = none := by
  have hblank : Text.isBlank '{' = false := by decide
  have hdigit : Char.isDigit '{' = false := by decide
  simp [readPlaceholder?, Text.skipBlanks, hblank, hdigit, Text.index?]

/-- The token at the front of a text is the one that is written there. -/
theorem readToken?_eq_some_iff :
    readToken? text = some (token, rest) ↔ ∃ front, text = front ++ rest ∧ token.Written front := by
  constructor
  · intro h
    fun_cases readToken? text with
    | case1 => simp [readToken?] at h
    | case2 after =>
      obtain ⟨rfl, rfl⟩ : Token.character '{' = token ∧ after = rest := by simpa [readToken?] using h
      exact ⟨['{', '{'], rfl, .opening⟩
    | case3 after =>
      obtain ⟨rfl, rfl⟩ : Token.character '}' = token ∧ after = rest := by simpa [readToken?] using h
      exact ⟨['}', '}'], rfl, .closing⟩
    | case4 after hdoubled =>
      rw [readToken?.eq_4 _ hdoubled, Option.map_eq_some_iff] at h
      obtain ⟨⟨segment, rest⟩, hread, hrest⟩ := h
      obtain ⟨rfl, rfl⟩ := Prod.mk.inj hrest
      obtain ⟨front, rfl, hgap⟩ := readPlaceholder?_eq_some_iff.1 hread
      exact ⟨'{' :: front, rfl, hgap⟩
    | case5 after hdoubled => simp [readToken?.eq_5 _ hdoubled] at h
    | case6 c after hopen hclose hopening hclosing =>
      rw [readToken?.eq_6 c after hopen hclose hopening hclosing] at h
      obtain ⟨rfl, rfl⟩ := Prod.mk.inj (Option.some.inj h)
      exact ⟨[c], rfl, .character hopening hclosing⟩
  · rintro ⟨front, rfl, htoken⟩
    cases htoken with
    | @character c hopening hclosing =>
      exact readToken?.eq_6 c rest (fun _ hc => (hopening hc).elim) (fun _ hc => (hclosing hc).elim)
        hopening hclosing
    | opening => rfl
    | closing => rfl
    | @gap before digits after style hbefore hdigits hne hbound hafter =>
      have hwritten : (Token.gap (.placeholder (Text.decimalValue digits) style)).Written _ :=
        .gap hbefore hdigits hne hbound hafter
      have hread := readPlaceholder?_eq_some_iff.2 ⟨_, (rfl : _ ++ rest = _), hwritten⟩
      rw [List.cons_append, readToken?.eq_4, hread]
      · rfl
      · intro other hother
        rw [hother, readPlaceholder?_brace] at hread
        cases hread

theorem Token.Written.ne_nil (h : token.Written front) : front ≠ [] := by
  cases h <;> simp

/-! ## Runs of tokens -/

/-- A text that is a concatenation of written tokens. -/
inductive Written : List Token → Text → Prop
  | nil : Written [] []
  | cons {token : Token} {tokens : List Token} {front rest : Text} (hfirst : token.Written front)
      (h : Written tokens rest) : Written (token :: tokens) (front ++ rest)

variable {tokens others : List Token} {read more behind : Text}

theorem Written.append (h : Written tokens read) (hmore : Written others more) :
    Written (tokens ++ others) (read ++ more) := by
  induction h with
  | nil => exact hmore
  | cons hfirst _ ih =>
    rw [List.append_assoc]
    exact .cons hfirst ih

/-- **What runs of tokens at the front of a text have in common.** If no token stands behind the first
run, the second one is a part of it. -/
theorem Written.split (hread : Written tokens read) (hstop : readToken? rest = none)
    (hmore : Written others more) (htext : read ++ rest = more ++ behind) :
    ∃ left further, read = more ++ left ∧ tokens = others ++ further ∧ Written further left := by
  induction hmore generalizing tokens read with
  | nil => exact ⟨read, tokens, rfl, rfl, hread⟩
  | @cons token others front more hfirst _ ih =>
    have htoken : readToken? (read ++ rest) = some (token, more ++ behind) :=
      readToken?_eq_some_iff.2 ⟨front, by rw [htext, List.append_assoc], hfirst⟩
    cases hread with
    | nil =>
      rw [List.nil_append, hstop] at htoken
      cases htoken
    | @cons first tokens start read hstart hread =>
      have hsame : readToken? (start ++ read ++ rest) = some (first, read ++ rest) :=
        readToken?_eq_some_iff.2 ⟨start, List.append_assoc .., hstart⟩
      obtain ⟨rfl, hrest⟩ := Prod.mk.inj (Option.some.inj (hsame.symm.trans htoken))
      have hfront : start = front := by
        rw [List.append_assoc, hrest, List.append_assoc] at htext
        exact List.append_cancel_right htext
      obtain ⟨left, further, rfl, rfl, hleft⟩ := ih hread hrest
      exact ⟨left, further, by rw [hfront, List.append_assoc], rfl, hleft⟩

theorem Written.eq_nil_of_nil (h : Written tokens []) : tokens = [] := by
  generalize hempty : ([] : Text) = empty at h
  cases h with
  | nil => rfl
  | cons hfirst _ => exact (hfirst.ne_nil (List.append_eq_nil_iff.1 hempty.symm).1).elim

/-- A text is tokens in one way only. -/
theorem Written.unique (h : Written tokens text) (hother : Written others text) :
    tokens = others := by
  have hstop : readToken? [] = none := rfl
  obtain ⟨left, further, htext, rfl, hleft⟩ := h.split hstop hother (rfl : text ++ [] = text ++ [])
  obtain rfl : left = [] := by simpa using htext
  rw [hleft.eq_nil_of_nil, List.append_nil]

end Template

end Kindred
