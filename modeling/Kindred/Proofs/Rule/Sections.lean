import Kindred.Rule.Replacement

/-!
# Sections of replacements

The marks `#` of a replacement divide it into sections: the key comes first and the base second. A
section can be told from the replacement alone if no group has a part in it. Here that is said
without a scan: a replacement is taken apart into characters and references (`symbols`), and a
section is known if all of it is characters (`IsSection`).

**`fixedSection?_eq_some_iff` is the main statement on sections.** What is known of a section is what
becomes of it once the groups have their texts: a known first section is the key (`key_of_isSection`),
and a known second one the base, as long as no group that has a part in the first one brings a mark
with it (`base_of_isSection`).
-/

namespace Kindred

namespace Replacement

/-! ## Symbols -/

/-- A character of a replacement, or one of its references. -/
inductive Symbol
  | character (c : Char)
  | group (ref : GroupRef)
  deriving DecidableEq

/-- The mark between two sections. -/
def mark : Symbol := .character '#'

/-- A replacement taken apart into its symbols. -/
def symbols (replacement : Replacement) : List Symbol :=
  replacement.flatMap fun
    | .literal text => text.map Symbol.character
    | .group ref => [.group ref]

/-- The text is the section of that number, counted from zero, and no group has a part in it. -/
def IsSection (replacement : Replacement) (n : Nat) (text : Text) : Prop :=
  (replacement.symbols.splitOn mark)[n]? = some (text.map Symbol.character)

theorem symbols_literal (text : Text) (rest : Replacement) :
    symbols (.literal text :: rest) = text.map Symbol.character ++ symbols rest := rfl

theorem symbols_group (ref : GroupRef) (rest : Replacement) :
    symbols (.group ref :: rest) = .group ref :: symbols rest := rfl

/-- The text of symbols that are all characters. -/
def characters? : List Symbol → Option Text
  | [] => some []
  | .character c :: rest => (characters? rest).map (c :: ·)
  | .group _ :: _ => none

theorem characters?_eq_some_iff {symbols : List Symbol} {text : Text} :
    characters? symbols = some text ↔ symbols = text.map Symbol.character := by
  induction symbols generalizing text with
  | nil =>
    cases text with
    | nil => simp [characters?]
    | cons c text => simp [characters?]
  | cons symbol rest ih =>
    cases symbol with
    | character c =>
      cases text with
      | nil => simp [characters?]
      | cons d text =>
        rw [characters?, Option.map_eq_some_iff]
        simp only [ih]
        constructor
        · rintro ⟨_, rfl, heq⟩
          obtain ⟨rfl, rfl⟩ := List.cons.inj heq
          rfl
        · intro heq
          obtain ⟨hc, rfl⟩ := List.cons.inj heq
          exact ⟨text, rfl, congrArg (· :: text) (Symbol.character.inj hc)⟩
    | group ref =>
      cases text with
      | nil => simp [characters?]
      | cons d text => simp [characters?]

/-! ## The sections that are known -/

theorem splitOn_mark_cons (symbols : List Symbol) :
    (mark :: symbols).splitOn mark = [] :: symbols.splitOn mark :=
  List.splitOn_append_cons_self_of_not_mem (List.not_mem_nil (a := mark)) symbols

theorem splitOn_cons {symbol : Symbol} (h : symbol ≠ mark) (symbols : List Symbol) :
    (symbol :: symbols).splitOn mark = (symbols.splitOn mark).modifyHead (symbol :: ·) := by
  have hbeq : (symbol == mark) = false := beq_eq_false_iff_ne.2 h
  rw [List.splitOn_eq_splitOnP, List.splitOnP_cons_eq_if_modifyHead, hbeq, if_neg Bool.false_ne_true,
    ← List.splitOn_eq_splitOnP]

/-- Text in front of the first of some sections. -/
theorem consSections_eq {symbols : List Symbol} {first : Option Text} {later : List (Option Text)}
    (h : first :: later = (symbols.splitOn mark).map characters?) (text : Text) :
    (consSections first later text).1 :: (consSections first later text).2 =
      ((text.map Symbol.character ++ symbols).splitOn mark).map characters? := by
  induction text with
  | nil => exact h
  | cons c text ih =>
    rw [List.map_cons, List.cons_append]
    by_cases hc : c = '#'
    · subst hc
      rw [show (.character '#' : Symbol) = mark from rfl, splitOn_mark_cons, List.map_cons, ← ih]
      rfl
    · have hmark : (.character c : Symbol) ≠ mark := fun heq => hc (Symbol.character.inj heq)
      rw [splitOn_cons hmark]
      cases hsplit : (text.map Symbol.character ++ symbols).splitOn mark with
      | nil => exact absurd hsplit (List.splitOn_ne_nil _ _)
      | cons front behind =>
        rw [hsplit, List.map_cons] at ih
        obtain ⟨hfirst, hlater⟩ := List.cons.inj ih
        simp [consSections, hc, hfirst, hlater, characters?]

theorem sections_eq (replacement : Replacement) :
    replacement.sections.1 :: replacement.sections.2 =
      (replacement.symbols.splitOn mark).map characters? := by
  induction replacement with
  | nil => rfl
  | cons part rest ih =>
    cases part with
    | literal text => exact consSections_eq ih text
    | group ref =>
      rw [symbols_group, splitOn_cons (show (.group ref : Symbol) ≠ mark from nofun)]
      cases hsplit : (symbols rest).splitOn mark with
      | nil => exact absurd hsplit (List.splitOn_ne_nil _ _)
      | cons front behind =>
        rw [hsplit, List.map_cons] at ih
        obtain ⟨-, hlater⟩ := List.cons.inj ih
        simp [sections, hlater, characters?]

/-- **The sections that are told from a replacement alone are those in which no group has a
part.** -/
theorem fixedSection?_eq_some_iff {replacement : Replacement} {n : Nat} {text : Text} :
    replacement.fixedSection? n = some text ↔ replacement.IsSection n text := by
  rw [fixedSection?, sections_eq, List.getElem?_map, IsSection]
  cases (replacement.symbols.splitOn mark)[n]? with
  | none => simp
  | some symbols => simp [characters?_eq_some_iff]

/-! ## What becomes of known sections -/

/-- The text of a symbol when `groupText` gives the text of each group. -/
def symbolText (groupText : GroupRef → Text) : Symbol → Text
  | .character c => [c]
  | .group ref => groupText ref

variable {groupText : GroupRef → Text} {replacement : Replacement} {key base : Text}
  {symbols : List Symbol}

theorem flatMap_symbolText_map (text : Text) :
    (text.map Symbol.character).flatMap (symbolText groupText) = text := by
  rw [List.flatMap_map]
  exact List.flatMap_singleton' text

theorem expand_eq (replacement : Replacement) (groupText : GroupRef → Text) :
    replacement.expand groupText = replacement.symbols.flatMap (symbolText groupText) := by
  induction replacement with
  | nil => rfl
  | cons part rest ih =>
    cases part with
    | literal text =>
      rw [symbols_literal, List.flatMap_append, flatMap_symbolText_map, ← ih]
      rfl
    | group ref =>
      rw [symbols_group, List.flatMap_cons, ← ih]
      rfl

theorem mark_notMem_map_iff {text : Text} : mark ∉ text.map Symbol.character ↔ '#' ∉ text := by
  simp [mark]

/-- Behind the first mark, the base is what the first section of the rest is. -/
theorem splitKey_append_mark (hkey : '#' ∉ key) (rest : Text) :
    splitKey (key ++ '#' :: rest) = (key, some (splitKey rest).1) := by
  rw [splitKey, Text.splitAtMark_append_mark hkey]
  simp only [splitKey]
  cases Text.splitAtMark '#' rest with
  | none => rfl
  | some sides =>
    simp only
    cases Text.splitAtMark '#' sides.2 with
    | none => rfl
    | some _ => rfl

/-- A first section that is all characters is the key of the text that the symbols stand for. -/
theorem splitKey_flatMap_fst (h : (symbols.splitOn mark)[0]? = some (key.map Symbol.character)) :
    (splitKey (symbols.flatMap (symbolText groupText))).1 = key := by
  by_cases hmark : mark ∈ symbols
  · obtain ⟨front, behind, rfl, hfront⟩ := List.eq_append_cons_of_mem hmark
    rw [List.splitOn_append_cons_self_of_not_mem hfront, List.getElem?_cons_zero,
      Option.some.injEq] at h
    subst h
    have hkey : '#' ∉ key := mark_notMem_map_iff.1 hfront
    rw [List.flatMap_append, flatMap_symbolText_map, List.flatMap_cons]
    exact congrArg Prod.fst (splitKey_append_mark hkey _)
  · rw [List.splitOn_eq_singleton hmark, List.getElem?_cons_zero, Option.some.injEq] at h
    subst h
    have hkey : '#' ∉ key := mark_notMem_map_iff.1 hmark
    rw [flatMap_symbolText_map, splitKey, Text.splitAtMark_eq_none hkey]

/-- **A known first section is the key**, whatever the texts of the groups are. -/
theorem key_of_isSection (h : replacement.IsSection 0 key) :
    (splitKey (replacement.expand groupText)).1 = key := by
  rw [expand_eq]
  exact splitKey_flatMap_fst h

/-- **A known second section is the base**, where no group has a mark in its text. -/
theorem base_of_isSection (h : replacement.IsSection 1 base)
    (hgroups : ∀ ref, '#' ∉ groupText ref) :
    (splitKey (replacement.expand groupText)).2 = some base := by
  have hsymbol : ∀ symbol : Symbol, symbol ≠ mark → '#' ∉ symbolText groupText symbol := by
    intro symbol hsymbol
    cases symbol with
    | character c => simpa [symbolText, mark, eq_comm] using hsymbol
    | group ref => exact hgroups ref
  rw [IsSection] at h
  by_cases hmark : mark ∈ replacement.symbols
  · obtain ⟨front, behind, hsplit, hfront⟩ := List.eq_append_cons_of_mem hmark
    rw [hsplit, List.splitOn_append_cons_self_of_not_mem hfront, List.getElem?_cons_succ] at h
    have hkey : '#' ∉ front.flatMap (symbolText groupText) := by
      intro hmem
      obtain ⟨symbol, hin, hmem⟩ := List.mem_flatMap.1 hmem
      exact hsymbol symbol (fun heq => hfront (heq ▸ hin)) hmem
    rw [expand_eq, hsplit, List.flatMap_append, List.flatMap_cons]
    have hbase : (splitKey (behind.flatMap (symbolText groupText))).1 = base :=
      splitKey_flatMap_fst h
    exact (congrArg Prod.snd (splitKey_append_mark hkey _)).trans (congrArg some hbase)
  · rw [List.splitOn_eq_singleton hmark] at h
    cases h

end Replacement

end Kindred
