import Kindred.Proofs.Rule.Replacements
import Kindred.Proofs.Rule.Sections

/-!
# How replacements are spelled

Every text is a replacement. It falls into pieces: doubled dollar signs, references in braces and by
number, and single characters, among them each dollar sign at which none of the others starts
(`Replacement.Piece.Stands`). Every text has such a spelling (`exists_spells`), and it is read
piece by piece (`symbols_read`), where neighbouring characters make one text (`isNormal_read`).

**`Replacement.read_spec` is the main statement**: with the spelling of a text it says that what is
written for a replacement is read back, and that a text whose dollar signs are doubled stands for
itself.
-/

namespace Kindred

namespace Replacement

/-! ## Pieces -/

/-- A piece of the text of a replacement. -/
inductive Piece
  /-- A doubled dollar sign. -/
  | dollar
  /-- A reference in braces, such as `${name}` and `${1}`. -/
  | braced (label : Text)
  /-- A reference by number, such as `$1`. -/
  | numbered (digits : Text)
  /-- A character that stands for itself. -/
  | character (c : Char)
  deriving DecidableEq

namespace Piece

/-- A piece as it is written. -/
def text : Piece → Text
  | .dollar => ['$', '$']
  | .braced label => '$' :: '{' :: (label ++ ['}'])
  | .numbered digits => '$' :: digits
  | .character c => [c]

/-- What a piece stands for. -/
def symbol : Piece → Symbol
  | .dollar => .character '$'
  | .braced label => .group (.ofLabel label)
  | .numbered digits => .group (.index (Text.decimalValue digits))
  | .character c => .character c

/-- In front of this text the piece is more than a character that stands for itself: a number within
bounds ends where its digits end, and a name in braces is not empty. -/
def IsMark (behind : Text) : Piece → Prop
  | .dollar => True
  | .braced label => label ≠ [] ∧ ∀ c ∈ label, GroupRef.isNameCharacter c = true
  | .numbered digits => digits ≠ [] ∧ (∀ c ∈ digits, c.isDigit = true) ∧
      Text.decimalValue digits < Text.indexBound ∧ ∀ c ∈ behind.head?, c.isDigit = false
  | .character _ => False

/-- In front of this text the piece stands as it is read: a mark, or a character at which no mark
starts. -/
def Stands (behind : Text) (piece : Piece) : Prop :=
  piece.IsMark behind ∨ ∃ c, piece = .character c ∧
    ∀ mark rest, IsMark rest mark → mark.text ++ rest ≠ c :: behind

variable {piece other : Piece} {rest behind more : Text} {ref : GroupRef}

theorem text_ne_nil (piece : Piece) : piece.text ≠ [] := by
  cases piece <;> simp [text]

/-- A reference is read from what stands behind its dollar sign. -/
theorem readReference?_eq_some_iff : readReference? behind = some (ref, rest) ↔
    ∃ piece : Piece, piece.IsMark rest ∧ piece.symbol = .group ref ∧
      '$' :: behind = piece.text ++ rest := by
  constructor
  · intro h
    unfold readReference? at h
    split at h
    · next braced =>
      obtain ⟨hlabel, -, hsplit⟩ := Text.exists_run GroupRef.isNameCharacter braced
      unfold readBraced? at h
      split at h
      · next c name rest' hname hrest =>
        obtain ⟨rfl, rfl⟩ := Prod.mk.inj (Option.some.inj h)
        rw [hname] at hlabel hsplit
        rw [hrest] at hsplit
        exact ⟨.braced (c :: name), ⟨List.cons_ne_nil c name, hlabel⟩, rfl, by simp [text, hsplit]⟩
      · cases h
    · obtain ⟨n, hindex, hpair⟩ := Option.map_eq_some_iff.1 h
      obtain ⟨rfl, rfl⟩ := Prod.mk.inj hpair
      obtain ⟨hne, rfl, hbound⟩ := Text.index?_eq_some_iff.1 hindex
      obtain ⟨hdigits, hrest, hsplit⟩ := Text.exists_run Char.isDigit behind
      exact ⟨.numbered _, ⟨hne, hdigits, hbound, hrest⟩, rfl, congrArg ('$' :: ·) hsplit⟩
  · rintro ⟨piece, hmark, hsymbol, htext⟩
    cases piece with
    | dollar => cases hsymbol
    | braced label =>
      obtain rfl := Symbol.group.inj hsymbol
      obtain rfl : behind = '{' :: (label ++ '}' :: rest) := by simpa [text] using htext
      exact readReference?_braced hmark.1 hmark.2 rest
    | numbered digits =>
      obtain rfl := Symbol.group.inj hsymbol
      obtain rfl : behind = digits ++ rest := (List.cons.inj htext).2
      exact readReference?_numbered hmark.1 hmark.2.1 hmark.2.2.1 hmark.2.2.2
    | character c => cases hsymbol

end Piece

/-! ## Spellings -/

/-- The pieces make up the text, and each is the one that stands in front of what follows it. -/
inductive Spells : List Piece → Text → Prop
  | nil : Spells [] []
  | cons {piece : Piece} {pieces : List Piece} {rest : Text} (hfirst : piece.Stands rest)
      (h : Spells pieces rest) : Spells (piece :: pieces) (piece.text ++ rest)

/-- Every text has a spelling. -/
theorem exists_spells (text : Text) : ∃ pieces, Spells pieces text := by
  induction hn : text.length using Nat.strongRecOn generalizing text with
  | ind n ih =>
    cases text with
    | nil => exact ⟨[], .nil⟩
    | cons c behind =>
      by_cases hmark : ∃ mark rest, Piece.IsMark rest mark ∧ mark.text ++ rest = c :: behind
      · obtain ⟨mark, rest, hmark, htext⟩ := hmark
        have hpositive := List.length_pos_iff.2 mark.text_ne_nil
        have hlength := congrArg List.length htext
        rw [List.length_append, hn] at hlength
        obtain ⟨pieces, hpieces⟩ := ih rest.length (by omega) rest rfl
        exact ⟨mark :: pieces, htext ▸ .cons (.inl hmark) hpieces⟩
      · obtain ⟨pieces, hpieces⟩ := ih behind.length (by simp [← hn]) behind rfl
        have hstands : (Piece.character c).Stands behind :=
          .inr ⟨c, rfl, fun mark rest h htext => hmark ⟨mark, rest, h, htext⟩⟩
        exact ⟨.character c :: pieces, .cons hstands hpieces⟩

/-! ## Reading -/

/-- A replacement with one more symbol in front; a character joins the text that it meets. -/
def consSymbol : Symbol → Replacement → Replacement
  | .character c, replacement => consCharacter c replacement
  | .group ref, replacement => .group ref :: replacement

variable {text rest : Text} {piece : Piece} {pieces : List Piece} {replacement : Replacement}

theorem symbols_consSymbol (symbol : Symbol) (replacement : Replacement) :
    (consSymbol symbol replacement).symbols = symbol :: replacement.symbols := by
  cases symbol with
  | group ref => rfl
  | character c =>
    cases replacement with
    | nil => rfl
    | cons part rest => cases part <;> rfl

theorem IsNormal.consSymbol (h : replacement.IsNormal) (symbol : Symbol) :
    (consSymbol symbol replacement).IsNormal := by
  cases symbol with
  | group ref => exact h
  | character c =>
    cases replacement with
    | nil => simp [Replacement.consSymbol, consCharacter, IsNormal]
    | cons part rest =>
      cases part with
      | literal text => exact ⟨List.cons_ne_nil c text, h.2.1, h.2.2⟩
      | group ref => exact ⟨List.cons_ne_nil c [], by simp, h⟩

/-- The piece at the front of a text is read as what it stands for. -/
theorem read_of_stands (h : piece.Stands rest) :
    read (piece.text ++ rest) = consSymbol piece.symbol (read rest) := by
  obtain hmark | ⟨c, rfl, hnone⟩ := h
  · have hreference {ref : GroupRef} {behind : Text} (hsymbol : piece.symbol = .group ref)
        (htext : piece.text ++ rest = '$' :: behind) :
        read (piece.text ++ rest) = consSymbol piece.symbol (read rest) := by
      rw [hsymbol, htext]
      exact read_reference (Piece.readReference?_eq_some_iff.2 ⟨piece, hmark, hsymbol, htext.symm⟩)
    cases piece with
    | dollar => exact read_dollars rest
    | braced label => exact hreference rfl rfl
    | numbered digits => exact hreference rfl rfl
    | character c => exact hmark.elim
  · by_cases hc : c = '$'
    · subst hc
      refine read_stray (fun behind hbehind => hnone .dollar behind trivial ?_) ?_
      · exact congrArg ('$' :: ·) hbehind.symm
      · refine Option.eq_none_iff_forall_ne_some.2 fun (ref, more) hread => ?_
        obtain ⟨mark, hmark, -, htext⟩ := Piece.readReference?_eq_some_iff.1 hread
        exact hnone mark more hmark htext.symm
    · exact read_character hc rest

/-- A text is read piece by piece. -/
theorem read_of_spells (h : Spells pieces text) :
    read text = pieces.foldr (fun piece => consSymbol piece.symbol) [] := by
  induction h with
  | nil => rfl
  | cons hfirst _ ih => rw [read_of_stands hfirst, List.foldr_cons, ih]

theorem isNormal_foldr_consSymbol (pieces : List Piece) :
    IsNormal (pieces.foldr (fun piece => consSymbol piece.symbol) []) := by
  induction pieces with
  | nil => trivial
  | cons piece pieces ih => exact ih.consSymbol piece.symbol

theorem symbols_foldr_consSymbol (pieces : List Piece) :
    symbols (pieces.foldr (fun piece => consSymbol piece.symbol) []) = pieces.map Piece.symbol := by
  induction pieces with
  | nil => rfl
  | cons piece pieces ih => rw [List.foldr_cons, symbols_consSymbol, ih, List.map_cons]

/-- What is read has no empty and no neighbouring texts. -/
theorem isNormal_read (text : Text) : (read text).IsNormal := by
  obtain ⟨pieces, hpieces⟩ := exists_spells text
  rw [read_of_spells hpieces]
  exact isNormal_foldr_consSymbol pieces

/-- What is read has the symbols of the pieces, one for each. -/
theorem symbols_read (h : Spells pieces text) : (read text).symbols = pieces.map Piece.symbol := by
  rw [read_of_spells h, symbols_foldr_consSymbol]

/-! ## Texts that stand for themselves -/

theorem symbols_read_escape (text : Text) :
    (read (escape text)).symbols = text.map Symbol.character := by
  rw [← List.append_nil (escape text), read_escape_append]
  induction text with
  | nil => rfl
  | cons c text ih =>
    rw [List.foldr_cons, List.map_cons, ← ih]
    exact symbols_consSymbol (.character c) _

/-- A text with its dollar signs doubled stands for itself, whatever the groups are. -/
theorem expand_read_escape (text : Text) (groupText : GroupRef → Text) :
    (read (escape text)).expand groupText = text := by
  rw [expand_eq, symbols_read_escape, flatMap_symbolText_map]

/-- **Every text is a replacement, and none of its characters is lost.** The text falls into pieces,
and what is read has their symbols, with no empty and no neighbouring texts. What is written for
such a replacement is read as the replacement, as long as its groups can be written, and a text with
its dollar signs doubled stands for itself. -/
theorem read_spec :
    (∀ text, (read text).IsNormal ∧ (∃ pieces, Spells pieces text) ∧
      ∀ pieces, Spells pieces text → (read text).symbols = pieces.map Piece.symbol) ∧
    (∀ replacement : Replacement, replacement.IsNormal →
      (∀ ref ∈ replacement.groups, ref.IsWritable) → read replacement.render = replacement) ∧
    ∀ text groupText, (read (escape text)).expand groupText = text :=
  ⟨fun text => ⟨isNormal_read text, exists_spells text, fun _ => symbols_read⟩,
    fun _ => read_render, expand_read_escape⟩

/-- Text that looks like a reference, a group by number in front of a digit, and a group by a name
of digits that is no index. -/
def lookalikes : Replacement :=
  [.literal "$1".toList, .group (.index 1), .literal ['2'],
    .group (.name "18446744073709551616".toList)]

theorem read_spec_lookalikes :
    lookalikes.IsNormal ∧ (∀ ref ∈ lookalikes.groups, ref.IsWritable) ∧
      lookalikes.render = "$$1${1}2${18446744073709551616}".toList ∧
      read "$$1${1}2${18446744073709551616}".toList = lookalikes ∧
      ∃ pieces, Spells pieces "$$1${1}2${18446744073709551616}".toList ∧
        lookalikes.symbols = pieces.map Piece.symbol := by
  have hnormal : lookalikes.IsNormal := by simp [lookalikes, IsNormal]
  have hindex : (GroupRef.index 1).IsWritable := by
    show 1 < Text.indexBound
    decide
  have hname : (GroupRef.name "18446744073709551616".toList).IsWritable :=
    ⟨by decide, List.all_eq_true.1 rfl, fun h => absurd h.2 (by decide +kernel)⟩
  have hgroups : ∀ ref ∈ lookalikes.groups, ref.IsWritable :=
    List.forall_mem_cons.2 ⟨hindex, List.forall_mem_singleton.2 hname⟩
  have hrender : lookalikes.render = "$$1${1}2${18446744073709551616}".toList := by decide +kernel
  have hread : read "$$1${1}2${18446744073709551616}".toList = lookalikes := by
    rw [← hrender]
    exact read_spec.2.1 lookalikes hnormal hgroups
  obtain ⟨-, ⟨pieces, hpieces⟩, hsymbols⟩ := read_spec.1 "$$1${1}2${18446744073709551616}".toList
  exact ⟨hnormal, hgroups, hrender, hread, pieces, hpieces, hread ▸ hsymbols pieces hpieces⟩

end Replacement

end Kindred
