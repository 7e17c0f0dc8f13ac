import Kindred.Proofs.Template.Tokens
import Kindred.Vocabulary.Reader

/-!
# Templates in quotes

A template in a vocabulary stands in quotes, and its tokens are those of a template by itself but
for the quote, which ends it. A quote behind a text changes none of its tokens
(`readPlaceholder?_append_quote`, `quotedToken?_append_quote`), so that what stands between two
quotes is read as it is by itself. **`scanTokens_quotedToken?_eq_iff` is the main statement.**
-/

namespace Kindred

/-! ## What tokens leave -/

namespace Template

/-- A token takes a character at least, and leaves an end of the text. -/
theorem suffix_of_readToken? {text rest : Text} {token : Token}
    (h : readToken? text = some (token, rest)) : ∃ c front, text = c :: (front ++ rest) := by
  obtain ⟨front, rfl, htoken⟩ := readToken?_eq_some_iff.1 h
  obtain ⟨c, front, rfl⟩ := List.exists_cons_of_ne_nil htoken.ne_nil
  exact ⟨c, front, rfl⟩

end Template

namespace Vocabulary

open Template

/-! ## A quote behind a text -/

variable (text after : Text)

theorem readStyle_append_quote :
    readStyle (text ++ '"' :: after) =
      ((readStyle text).1, (readStyle text).2 ++ '"' :: after) := by
  fun_cases readStyle text with
  | case1 rest => rfl
  | case2 rest => rfl
  | case3 hordinal hcardinal =>
    -- a style in front of the quote and what follows is one in front of the quote
    unfold readStyle
    split
    · rename_i rest heq
      rcases text with _ | ⟨a, _ | ⟨b, _ | ⟨c, text⟩⟩⟩ <;> simp_all
    · rename_i rest heq
      rcases text with _ | ⟨a, _ | ⟨b, _ | ⟨c, text⟩⟩⟩ <;> simp_all
    · rfl

/-- What is read behind the opening brace of a placeholder ends before a quote. -/
theorem readPlaceholder?_append_quote :
    readPlaceholder? (text ++ '"' :: after) =
      (readPlaceholder? text).map fun (segment, rest) => (segment, rest ++ '"' :: after) := by
  have hblank : ∀ c ∈ ('"' :: after).head?, Text.isBlank c = false :=
    Text.forall_mem_head?_cons (by decide) after
  have hdigit : ∀ c ∈ ('"' :: after).head?, c.isDigit = false := Text.forall_mem_head?_cons (by decide) after
  unfold readPlaceholder?
  simp only [Text.skipBlanks, Text.dropWhile_append_of_head _ hblank,
    Text.dropWhile_append_of_head _ hdigit, Text.takeWhile_append_of_head _ hdigit,
    readStyle_append_quote]
  cases Text.index? ((text.dropWhile Text.isBlank).takeWhile Char.isDigit) with
  | none => rfl
  | some index =>
    simp only
    cases (readStyle ((text.dropWhile Text.isBlank).dropWhile Char.isDigit)).2.dropWhile
        Text.isBlank with
    | nil => simp
    | cons c rest =>
      by_cases hc : c = '}'
      · simp [hc]
      · simp [hc]

/-- A text without quotes has in quotes the tokens that it has by itself. -/
theorem quotedToken?_append_quote (htext : '"' ∉ text) :
    quotedToken? (text ++ '"' :: after) =
      (readToken? text).map fun (token, rest) => (token, rest ++ '"' :: after) := by
  have hquoted : quotedToken? (text ++ '"' :: after) =
      if text = [] then none else readToken? (text ++ '"' :: after) := by
    cases text with
    | nil => rfl
    | cons c text =>
      have hc : c ≠ '"' := fun hc => htext (hc ▸ List.mem_cons_self)
      simp [quotedToken?, hc]
  rw [hquoted]
  fun_cases readToken? text with
  | case1 => rfl
  | case2 rest => rfl
  | case3 rest => rfl
  | case4 rest hdoubled =>
    have hrest : ∀ other, rest ++ '"' :: after = '{' :: other → False := by
      cases rest with
      | nil => simp
      | cons c rest => simpa using hdoubled rest
    simp [readToken?.eq_4 _ hrest, readPlaceholder?_append_quote, Function.comp_def]
  | case5 rest hdoubled =>
    have hrest : ∀ other, rest ++ '"' :: after = '}' :: other → False := by
      cases rest with
      | nil => simp
      | cons c rest => simpa using hdoubled rest
    simp [readToken?.eq_5 _ hrest]
  | case6 c rest hopen hclose hopening hclosing =>
    rw [if_neg (List.cons_ne_nil c rest), List.cons_append,
      readToken?.eq_6 c _ (fun _ hc => (hopening hc).elim) (fun _ hc => (hclosing hc).elim)
        hopening hclosing]
    rfl

/-! ## Runs of tokens -/

variable {text after}

theorem readToken?_of_quotedToken? {read : Token × Text} (h : quotedToken? text = some read) :
    readToken? text = some read := by
  unfold quotedToken? at h
  split at h
  · cases h
  · exact h

theorem suffix_of_scanTokens {token? : Text → Option (Token × Text)}
    (htoken : ∀ text read, token? text = some read → readToken? text = some read) (limit : Nat)
    (text : Text) : (scanTokens token? limit text).2 <:+ text := by
  induction limit generalizing text with
  | zero => exact List.suffix_rfl
  | succ limit ih =>
    unfold scanTokens
    split
    · exact List.suffix_rfl
    · rename_i token rest hread
      obtain ⟨c, front, rfl⟩ := suffix_of_readToken? (htoken text _ hread)
      have hrest := (ih rest).trans ⟨c :: front, rfl⟩
      cases token <;> exact hrest

/-- A text in front of a quote has the tokens that it has by itself, under any two limits that
reach its length. -/
theorem scanTokens_append_quote {m n : Nat} (htext : '"' ∉ text) (hm : text.length ≤ m)
    (hn : text.length ≤ n) :
    scanTokens quotedToken? n (text ++ '"' :: after) =
      ((scanTokens readToken? m text).1, (scanTokens readToken? m text).2 ++ '"' :: after) := by
  induction m generalizing text n with
  | zero =>
    obtain rfl := List.length_eq_zero_iff.1 (Nat.le_zero.1 hm)
    cases n <;> rfl
  | succ m ih =>
    cases n with
    | zero =>
      obtain rfl := List.length_eq_zero_iff.1 (Nat.le_zero.1 hn)
      rfl
    | succ n =>
      simp only [scanTokens, quotedToken?_append_quote text after htext]
      cases hread : readToken? text with
      | none => rfl
      | some read =>
        obtain ⟨token, rest⟩ := read
        obtain ⟨c, front, rfl⟩ := suffix_of_readToken? hread
        have hrest : '"' ∉ rest := fun h => htext (by simp [h])
        simp only [List.length_cons, List.length_append] at hm hn
        simp only [Option.map_some, ih hrest (by omega : rest.length ≤ m) (by omega : _ ≤ n)]
        cases token <;> rfl

theorem parse_eq_ok_iff {template : Template} :
    Template.parse text = .ok template ↔ scan text = (template, []) := by
  unfold Template.parse
  split
  · rename_i read hscan
    simp [hscan]
  · rename_i read rest hrest hscan
    simp only [hscan, reduceCtorEq, Prod.mk.injEq, false_iff, not_and]
    exact fun _ hnil => hrest hnil

/-- **A run of tokens that is closed by a quote is a template without quotes, which reads by
itself as it does in quotes.** -/
theorem scanTokens_quotedToken?_eq_iff {template : Template} {rest : Text} :
    scanTokens quotedToken? text.length text = (template, '"' :: rest) ↔
      ∃ content, '"' ∉ content ∧ text = content ++ '"' :: rest ∧
        Template.parse content = .ok template := by
  -- up to its first quote, the text is read as it is by itself
  have hread : ∀ content after : Text, '"' ∉ content →
      scanTokens quotedToken? (content ++ '"' :: after).length (content ++ '"' :: after) =
        ((scan content).1, (scan content).2 ++ '"' :: after) :=
    fun content after hcontent =>
      scanTokens_append_quote hcontent (Nat.le_refl _) (by simp)
  constructor
  · intro h
    by_cases hquote : '"' ∈ text
    · obtain ⟨content, after, rfl, hcontent⟩ := List.eq_append_cons_of_mem hquote
      rw [hread content after hcontent, Prod.mk.injEq] at h
      obtain ⟨htemplate, hleft⟩ := h
      have hsuffix : (scan content).2 <:+ content := suffix_of_scanTokens (fun _ _ h => h) _ content
      -- what is left of the content has no quote, so that the quote behind the run is the first
      have hnil : (scan content).2 = [] := by
        cases hcase : (scan content).2 with
        | nil => rfl
        | cons c left =>
          rw [hcase] at hleft hsuffix
          obtain ⟨rfl, -⟩ := List.cons.inj hleft
          exact (hcontent (hsuffix.subset List.mem_cons_self)).elim
      rw [hnil, List.nil_append, List.cons.injEq] at hleft
      exact ⟨content, hcontent, by rw [hleft.2], parse_eq_ok_iff.2 (Prod.ext htemplate hnil)⟩
    · have hsuffix := suffix_of_scanTokens (fun _ _ => readToken?_of_quotedToken?) text.length text
      rw [h] at hsuffix
      exact (hquote (hsuffix.subset List.mem_cons_self)).elim
  · rintro ⟨content, hcontent, rfl, hparse⟩
    rw [hread content rest hcontent, parse_eq_ok_iff.1 hparse]
    rfl

end Vocabulary

end Kindred
