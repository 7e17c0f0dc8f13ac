import Kindred.Proofs.Vocabulary.Errors

/-!
# Vocabularies one below the other

A text below a vocabulary is read as it is by itself: its definitions follow those of the vocabulary,
and its error stands as many lines further down as there are lines above it.
**`read_below` is the main statement.** The reader of definitions carries nothing from one definition
to the next (`definitionsFrom_of_itemsUpTo`), and the line feed between the two texts ends a comment
that the first one may end with.
-/

namespace Kindred

/-! ## Errors in lower lines -/

namespace SyntaxError

/-- The same error, `count` lines further down. -/
def down (count : Nat) : SyntaxError → SyntaxError
  | .unexpectedCharacter place found => .unexpectedCharacter (place.down count) found
  | .malformedDefinition place => .malformedDefinition (place.down count)
  | .unexpectedEnd place => .unexpectedEnd (place.down count)

variable {text rest : Text}

theorem place_down (count : Nat) (error : SyntaxError) :
    (error.down count).place = ⟨error.place.line + count, error.place.column⟩ := by
  cases error <;> rfl

theorem reason_down (count : Nat) (error : SyntaxError) :
    (error.down count).reason = error.reason := by
  cases error <;> rfl

theorem betweenItems_below (front : Text) (h : rest <:+ text) :
    betweenItems (front ++ '\n' :: text) rest =
      (betweenItems text rest).down (front.count '\n' + 1) := by
  cases rest with
  | nil => simp only [betweenItems, down, Position.before_below front h]
  | cons c rest => simp only [betweenItems, down, Position.before_below front h]

theorem insideDefinition_below (front : Text) (h : rest <:+ text) :
    insideDefinition (front ++ '\n' :: text) rest =
      (insideDefinition text rest).down (front.count '\n' + 1) := by
  cases rest with
  | nil => simp only [insideDefinition, down, Position.before_below front h]
  | cons c rest => simp only [insideDefinition, down, Position.before_below front h]

end SyntaxError

namespace Vocabulary

open Grammar

variable {text rest stop first : Text} {definition : Definition} {definitions : List Definition}

/-! ## Definitions from a place on -/

/-- The limit of the reader does not matter if it reaches the length of the text. -/
theorem definitionsUpTo_of_length_le {m n : Nat} (hm : text.length ≤ m) (hn : text.length ≤ n) :
    definitionsUpTo m text = definitionsUpTo n text := by
  induction m generalizing n text with
  | zero =>
    obtain rfl := List.length_eq_zero_iff.1 (Nat.le_zero.1 hm)
    cases n <;> rfl
  | succ m ih =>
    cases n with
    | zero =>
      obtain rfl := List.length_eq_zero_iff.1 (Nat.le_zero.1 hn)
      rfl
    | succ n =>
      unfold definitionsUpTo
      cases hhead : head? text with
      | none => rfl
      | some start =>
        obtain ⟨body, after⟩ := start
        cases hbody : body after with
        | error stop => simp only [hbody]
        | ok read =>
          obtain ⟨definition, behind⟩ := read
          have hshorter := (definition_iff.1 ⟨body, after, hhead, hbody⟩).length_lt
          have hskipped := (trivia_skipTrivia behind).length_le
          have hrest : definitionsUpTo m (skipTrivia behind) =
              definitionsUpTo n (skipTrivia behind) := ih (by omega) (by omega)
          simp only [hbody, hrest]

/-- Reads the definitions of a text as far as they go, with the blanks and comments around them. -/
def definitionsFrom : Reader (List Definition) := fun text =>
  definitionsUpTo text.length (skipTrivia text)

theorem definitionsFrom_eq {limit : Nat} (hlimit : text.length ≤ limit)
    (hskip : skipTrivia text = text) : definitionsFrom text = definitionsUpTo limit text := by
  rw [definitionsFrom, hskip]
  exact definitionsUpTo_of_length_le (Nat.le_refl _) hlimit

theorem definitionsFrom_of_trivia (h : Trivia text rest) :
    definitionsFrom text = definitionsFrom rest := by
  have hskipped : (skipTrivia rest).length ≤ rest.length := (trivia_skipTrivia rest).length_le
  have hlength := h.length_le
  rw [definitionsFrom, definitionsFrom, h.skipTrivia_eq]
  exact definitionsUpTo_of_length_le (by omega) hskipped

theorem definitionsFrom_of_item (h : Item text definition rest) :
    definitionsFrom text =
      (definitionsFrom rest).map (Prod.map ([definition] ++ ·) id) := by
  obtain ⟨body, after, hhead, hbody⟩ := definition_iff.2 h
  obtain ⟨head, behind, hrun⟩ := h.run
  have hskipped : (skipTrivia rest).length ≤ rest.length := (trivia_skipTrivia rest).length_le
  have hlength : text.length ≤ rest.length + text.length := Nat.le_add_left _ _
  obtain ⟨limit, hlimit⟩ : ∃ limit, text.length = limit + 1 :=
    Nat.exists_eq_succ_of_ne_zero (by have := h.length_lt; omega)
  have hrest : definitionsUpTo limit (skipTrivia rest) = definitionsFrom rest :=
    definitionsUpTo_of_length_le (by have := h.length_lt; omega) hskipped
  rw [definitionsFrom_eq (Nat.le_refl _) hrun.skipTrivia_eq, hlimit, definitionsUpTo]
  simp only [hhead, hbody, hrest]
  cases definitionsFrom rest <;> rfl

/-- **The reader carries nothing over**: behind definitions it goes on as if they were not there. -/
theorem definitionsFrom_of_itemsUpTo (h : ItemsUpTo text definitions rest) :
    definitionsFrom text = (definitionsFrom rest).map (Prod.map (definitions ++ ·) id) := by
  induction h with
  | @nil rest => cases definitionsFrom rest <;> rfl
  | @cons _ _ _ rest _ _ hitem htrivia _ ih =>
    rw [definitionsFrom_of_item hitem, definitionsFrom_of_trivia htrivia, ih]
    cases definitionsFrom rest <;> rfl

theorem suffix_of_itemsUpTo (h : ItemsUpTo text definitions rest) : rest <:+ text := by
  obtain ⟨read, htext, -⟩ := isLocal_itemsUpTo definitions h
  exact ⟨read, htext.symm⟩

theorem leavesEnd_definitionsFrom : LeavesEnd definitionsFrom where
  ok text definitions rest h := by
    have hskip := leavesEnd_trivia.ok (rfl : trivia text = .ok ((), skipTrivia text))
    obtain ⟨hitems, -⟩ := itemsUpTo_of_definitionsUpTo (trivia_skipTrivia text).length_le h
    exact (suffix_of_itemsUpTo hitems).trans hskip
  error text stop h := by
    have hskip := leavesEnd_trivia.ok (rfl : trivia text = .ok ((), skipTrivia text))
    obtain ⟨definitions, rest, body, after, hitems, hhead, hbody⟩ := definitionsUpTo_eq_error h
    have hstarts := head?_eq_some_iff.1 hhead
    obtain ⟨word, blanks, -, hrest⟩ := hstarts.begins
    have hafter : after <:+ rest := ⟨word ++ blanks, by rw [hrest, List.append_assoc]⟩
    exact (((hstarts.leavesEnd.error hbody).trans hafter).trans (suffix_of_itemsUpTo hitems)).trans
      hskip

/-! ## One text below the other -/

theorem Grammar.Items.itemsUpTo (h : Items text definitions) : ItemsUpTo text definitions [] := by
  induction h with
  | nil => exact .nil
  | cons hitem htrivia _ ih => exact .cons hitem htrivia ih

theorem definitionsFrom_of_read (h : read text = .ok definitions) :
    definitionsFrom text = .ok (definitions, []) := by
  unfold read at h
  unfold definitionsFrom
  split at h
  · cases h
  · rename_i read hread
    rw [hread, Except.ok.inj h]
  · cases h

theorem items_of_read (h : read text = .ok definitions) :
    ∃ items, Trivia text items ∧ Items items definitions := by
  have htrivia := trivia_skipTrivia text
  exact ⟨skipTrivia text, htrivia,
    (definitionsUpTo_eq_ok_iff htrivia.length_le).1 (definitionsFrom_of_read h)⟩

/-- In front of a line feed, a vocabulary is definitions up to it. -/
theorem definitionsFrom_below (h : read first = .ok definitions) (second : Text) :
    definitionsFrom (first ++ '\n' :: second) =
      (definitionsFrom second).map (Prod.map (definitions ++ ·) id) := by
  obtain ⟨items, htrivia, hitems⟩ := items_of_read h
  obtain ⟨front, hfirst, hfront⟩ := (isLocal_trivia.comp (isLocal_itemsUpTo definitions))
    ⟨items, htrivia, hitems.itemsUpTo⟩
  rw [List.append_nil] at hfirst
  subst hfirst
  obtain ⟨text, htrivia, hitems⟩ := hfront ('\n' :: second)
    (.inr fun c hc => (Option.some.inj hc).symm)
  rw [definitionsFrom_of_trivia htrivia, definitionsFrom_of_itemsUpTo hitems,
    definitionsFrom_of_trivia (Trivia.blank rfl Trivia.none : Trivia ('\n' :: second) second)]

/-- What a text is read as, from what it is read as by itself. -/
theorem read_append_lineFeed (h : read first = .ok definitions) (second : Text) :
    read (first ++ '\n' :: second) =
      ((read second).map (definitions ++ ·)).mapError (SyntaxError.down (first.count '\n' + 1)) := by
  have hbelow := definitionsFrom_below h second
  unfold definitionsFrom at hbelow
  rw [read, read, hbelow]
  cases hsecond : definitionsUpTo second.length (skipTrivia second) with
  | error stop =>
    have hstop := leavesEnd_definitionsFrom.error hsecond
    exact congrArg Except.error (SyntaxError.insideDefinition_below first hstop)
  | ok result =>
    obtain ⟨others, rest⟩ := result
    cases rest with
    | nil => rfl
    | cons c rest =>
      have hrest := leavesEnd_definitionsFrom.ok hsecond
      exact congrArg Except.error (SyntaxError.betweenItems_below first hrest)

/-- **A text below a vocabulary is read as it is by itself.** Its definitions follow those of the
vocabulary, and its error is of the same kind, in the same column and for the same reason, but as many
lines further down as the vocabulary has. -/
theorem read_below (h : read first = .ok definitions) (second : Text) :
    (∀ others, read second = .ok others →
      read (first ++ '\n' :: second) = .ok (definitions ++ others)) ∧
    ∀ error, read second = .error error → ∃ lower,
      read (first ++ '\n' :: second) = .error lower ∧
        lower = error.down (first.count '\n' + 1) ∧ lower.reason = error.reason ∧
        lower.place = ⟨error.place.line + (first.count '\n' + 1), error.place.column⟩ := by
  rw [read_append_lineFeed h second]
  constructor
  · intro others hothers
    rw [hothers]
    rfl
  · intro error herror
    rw [herror]
    exact ⟨_, rfl, rfl, SyntaxError.reason_down _ error, SyntaxError.place_down _ error⟩

/-- The error of a text that is no vocabulary. -/
def error? (text : Text) : Option SyntaxError :=
  match read text with
  | .ok _ => none
  | .error error => some error

theorem read_eq_error_of_error? {error : SyntaxError} (h : error? text = some error) :
    read text = .error error := by
  unfold error? at h
  split at h
  · cases h
  · rename_i found hread
    rw [hread, Option.some.inj h]

/-- A vocabulary of two lines that ends with a comment. -/
def commented : Text := "// né\nunrelated = \"né\"; // end".toList

/-- The comment ends before the term of the text below, whose second line is the fourth. -/
theorem read_below_commented :
    read commented = .ok [.unrelated "né".toList] ∧
      read SyntaxError.unquotedRule = .error (.malformedDefinition ⟨2, 6⟩) ∧
      read (commented ++ '\n' :: SyntaxError.unquotedRule) = .error (.malformedDefinition ⟨4, 6⟩) := by
  have hcommented : read commented = .ok [.unrelated "né".toList] := by
    have hread : (read commented).toOption = some [.unrelated "né".toList] := by decide +kernel
    cases h : read commented with
    | error error => rw [h] at hread; cases hread
    | ok definitions => rw [h] at hread; rw [Option.some.inj hread]
  have hrule : read SyntaxError.unquotedRule = .error (.malformedDefinition ⟨2, 6⟩) :=
    read_eq_error_of_error? (by decide +kernel)
  obtain ⟨lower, hread, hlower, -⟩ :=
    (read_below hcommented SyntaxError.unquotedRule).2 _ hrule
  have hcount : commented.count '\n' = 1 := by decide +kernel
  rw [hlower, hcount] at hread
  exact ⟨hcommented, hrule, hread⟩

end Vocabulary

end Kindred
