import Kindred.Proofs.Text.Runs
import Kindred.Rule.Replacement

/-!
# Replacements as they are written

A text is read as a replacement from its front: a doubled dollar sign and every other character add
to the text that stands for itself, and a reference stands for a group (`read_dollars`,
`read_character`, `read_reference`).

**What is written for a replacement is read as the replacement** (`read_render`), as long as it has no
empty and no neighbouring texts and its groups can be told from each other (`GroupRef.IsWritable`):
a name of digits is the index of that number.
-/

namespace Kindred

/-! ## References -/

namespace GroupRef

variable {ref : GroupRef} {c : Char}

/-- The reference can be written in braces: an index within bounds, or a name of letters, digits and
underscores that is no such index. -/
def IsWritable : GroupRef → Prop
  | .index n => n < Text.indexBound
  | .name text => text ≠ [] ∧ (∀ c ∈ text, isNameCharacter c = true) ∧
      ¬((∀ c ∈ text, c.isDigit = true) ∧ Text.decimalValue text < Text.indexBound)

theorem isNameCharacter_of_isDigit (h : c.isDigit = true) : isNameCharacter c = true := by
  simp [isNameCharacter, Char.isAlphanum, h]

theorem IsWritable.label_ne_nil (h : ref.IsWritable) : ref.label ≠ [] := by
  cases ref with
  | index n => exact Text.numeral_ne_nil n
  | name text => exact h.1

theorem IsWritable.isNameCharacter (h : ref.IsWritable) (hc : c ∈ ref.label) :
    isNameCharacter c = true := by
  cases ref with
  | index n => exact isNameCharacter_of_isDigit (Text.isDigit_of_mem_numeral hc)
  | name text => exact h.2.1 c hc

theorem IsWritable.ofLabel_label (h : ref.IsWritable) : ofLabel ref.label = ref := by
  cases ref with
  | index n =>
    have hbound : n < Text.indexBound := h
    have hdigits : (Text.numeral n).all Char.isDigit = true :=
      List.all_eq_true.2 fun c => Text.isDigit_of_mem_numeral
    have hindex : Text.index? (Text.numeral n) = some n :=
      Text.index?_eq_some_iff.2 ⟨Text.numeral_ne_nil n, Text.decimalValue_numeral n, hbound⟩
    simp only [ofLabel, label, hdigits, hindex, if_true]
  | name text =>
    obtain ⟨-, -, hindex⟩ := h
    rw [label, ofLabel]
    split
    · rename_i hdigits
      have hnone : Text.index? text = none := by
        refine Option.eq_none_iff_forall_ne_some.2 fun n hn => hindex ?_
        obtain ⟨-, rfl, hbound⟩ := Text.index?_eq_some_iff.1 hn
        exact ⟨List.all_eq_true.1 hdigits, hbound⟩
      simp only [hnone]
    · rfl

end GroupRef

namespace Replacement

variable {text rest : Text} {ref : GroupRef} {replacement : Replacement} {limit : Nat}

/-! ## Reading -/

theorem suffix_of_readBraced? (h : readBraced? text = some (ref, rest)) : rest <:+ text := by
  unfold readBraced? at h
  split at h
  · rename_i hrest
    obtain ⟨-, rfl⟩ := Prod.mk.inj (Option.some.inj h)
    exact (hrest ▸ List.suffix_cons ..).trans (List.dropWhile_suffix GroupRef.isNameCharacter)
  · cases h

theorem suffix_of_readReference? (h : readReference? text = some (ref, rest)) : rest <:+ text := by
  unfold readReference? at h
  split at h
  · exact (suffix_of_readBraced? h).trans (List.suffix_cons ..)
  · obtain ⟨_, -, hrest⟩ := Option.map_eq_some_iff.1 h
    obtain ⟨-, rfl⟩ := Prod.mk.inj hrest
    exact List.dropWhile_suffix _

/-- A dollar sign starts no reference behind another one. -/
theorem readReference?_dollar (text : Text) : readReference? ('$' :: text) = none := by
  have hdigit : Char.isDigit '$' = false := by decide
  simp [readReference?, hdigit, Text.index?]

/-- A name in braces is read as the reference that it denotes. -/
theorem readReference?_braced {label : Text} (hne : label ≠ [])
    (hlabel : ∀ c ∈ label, GroupRef.isNameCharacter c = true) (rest : Text) :
    readReference? ('{' :: (label ++ '}' :: rest)) = some (.ofLabel label, rest) := by
  have hclose : ∀ c ∈ ('}' :: rest).head?, GroupRef.isNameCharacter c = false :=
    Text.forall_mem_head?_cons (by decide) rest
  rw [readReference?, readBraced?, Text.takeWhile_append_of_ends hlabel hclose,
    Text.dropWhile_append_of_ends hlabel hclose]
  obtain ⟨c, name, rfl⟩ := List.exists_cons_of_ne_nil hne
  rfl

/-- Digits that denote an index are read as its reference, up to the last one. -/
theorem readReference?_numbered {digits : Text} (hne : digits ≠ [])
    (hdigits : ∀ c ∈ digits, c.isDigit = true) (hbound : Text.decimalValue digits < Text.indexBound)
    (hrest : ∀ c ∈ rest.head?, c.isDigit = false) :
    readReference? (digits ++ rest) = some (.index (Text.decimalValue digits), rest) := by
  have hbrace (behind : Text) : digits ++ rest ≠ '{' :: behind := by
    obtain ⟨c, more, rfl⟩ := List.exists_cons_of_ne_nil hne
    intro h
    have hdigit := hdigits c List.mem_cons_self
    rw [(List.cons.inj h).1] at hdigit
    cases hdigit
  have hindex := Text.index?_eq_some_iff.2 ⟨hne, rfl, hbound⟩
  rw [readReference?.eq_2 _ hbrace, Text.takeWhile_append_of_ends hdigits hrest,
    Text.dropWhile_append_of_ends hdigits hrest, hindex, Option.map_some]

/-- Any limit that is not below the length of the text gives the same replacement. -/
theorem readUpTo_add (h : text.length ≤ limit) (extra : Nat) :
    readUpTo (extra + limit) text = readUpTo limit text := by
  -- along the recursion: both limits are above zero where a step is made, and make the same step
  fun_induction readUpTo limit text with
  | case1 text =>
    obtain rfl := List.length_eq_zero_iff.1 (Nat.le_zero.1 h)
    cases extra <;> rfl
  | case2 limit => rfl
  | case3 limit rest ih =>
    simp only [List.length_cons] at h
    rw [Nat.add_succ, readUpTo.eq_3, ih (by omega)]
  | case4 limit text hdollar ref rest hreference ih =>
    have hrest := (suffix_of_readReference? hreference).length_le
    simp only [List.length_cons] at h
    rw [Nat.add_succ, readUpTo.eq_4 _ _ hdollar, ← ih (by omega)]
    simp only [hreference]
  | case5 limit text hdollar hreference ih =>
    simp only [List.length_cons] at h
    rw [Nat.add_succ, readUpTo.eq_4 _ _ hdollar, ← ih (by omega)]
    simp only [hreference]
  | case6 limit c rest hdollars hdollar ih =>
    simp only [List.length_cons] at h
    rw [Nat.add_succ, readUpTo.eq_5 _ _ _ hdollars hdollar, ih (by omega)]

theorem readUpTo_eq_read (h : text.length ≤ limit) : readUpTo limit text = read text := by
  obtain ⟨extra, rfl⟩ := Nat.exists_eq_add_of_le' h
  exact readUpTo_add (Nat.le_refl _) extra

theorem read_dollars (rest : Text) : read ('$' :: '$' :: rest) = consCharacter '$' (read rest) := by
  have hlimit : rest.length ≤ ('$' :: rest).length := Nat.le_succ _
  rw [read, List.length_cons, readUpTo.eq_3, readUpTo_eq_read hlimit]

theorem read_reference (h : readReference? text = some (ref, rest)) :
    read ('$' :: text) = .group ref :: read rest := by
  have hdollar (behind : Text) : text ≠ '$' :: behind := by
    rintro rfl
    rw [readReference?_dollar] at h
    cases h
  rw [read, List.length_cons, readUpTo.eq_4 _ _ hdollar]
  simp only [h, readUpTo_eq_read (suffix_of_readReference? h).length_le]

/-- A dollar sign that starts no reference stands for itself. -/
theorem read_stray (hdollar : ∀ behind, text ≠ '$' :: behind) (h : readReference? text = none) :
    read ('$' :: text) = consCharacter '$' (read text) := by
  rw [read, List.length_cons, readUpTo.eq_4 _ _ hdollar, read]
  simp only [h]

theorem read_character {c : Char} (hc : c ≠ '$') (rest : Text) :
    read (c :: rest) = consCharacter c (read rest) := by
  rw [read, List.length_cons, readUpTo.eq_5 _ _ _ (fun _ h _ => hc h) hc, read]

/-! ## Reading what is written -/

theorem read_braced (h : ref.IsWritable) (rest : Text) :
    read ('$' :: '{' :: (ref.label ++ '}' :: rest)) = .group ref :: read rest := by
  have href := readReference?_braced h.label_ne_nil (fun _ => h.isNameCharacter) rest
  rw [h.ofLabel_label] at href
  exact read_reference href

/-- A text with its dollar signs doubled is read as that text. -/
theorem read_escape_append (text rest : Text) :
    read (escape text ++ rest) = text.foldr consCharacter (read rest) := by
  induction text with
  | nil => rfl
  | cons c text ih =>
    rw [escape, List.flatMap_cons, List.foldr_cons, ← ih, List.append_assoc]
    by_cases hc : c = '$'
    · rw [if_pos hc, hc]
      exact read_dollars _
    · rw [if_neg hc]
      exact read_character hc _

theorem foldr_consCharacter (hne : text ≠ [])
    (hother : ∀ other more, replacement ≠ .literal other :: more) :
    text.foldr consCharacter replacement = .literal text :: replacement := by
  induction text with
  | nil => exact (hne rfl).elim
  | cons c text ih =>
    cases text with
    | nil =>
      rw [List.foldr_cons, List.foldr_nil]
      unfold consCharacter
      split
      · exact (hother _ _ rfl).elim
      · rfl
    | cons d text => rw [List.foldr_cons, ih (List.cons_ne_nil d text), consCharacter]

/-- What is written for a replacement is read as the replacement. -/
theorem read_render (hnormal : replacement.IsNormal)
    (hgroups : ∀ ref ∈ replacement.groups, ref.IsWritable) : read replacement.render = replacement := by
  induction replacement with
  | nil => rfl
  | cons part replacement ih =>
    cases part with
    | literal text =>
      obtain ⟨hne, hother, hrest⟩ := hnormal
      rw [render, List.flatMap_cons, read_escape_append, ← render, ih hrest hgroups,
        foldr_consCharacter hne hother]
    | group ref =>
      obtain ⟨href, hgroups⟩ := List.forall_mem_cons.1 hgroups
      have htext : render (.group ref :: replacement) =
          '$' :: '{' :: (ref.label ++ '}' :: render replacement) := by simp [render]
      rw [htext, read_braced href, ih hnormal hgroups]

end Replacement

end Kindred
