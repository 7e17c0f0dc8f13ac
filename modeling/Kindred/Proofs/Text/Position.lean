import Kindred.Text.Position

/-!
# Positions and bytes

The position of a reader is told from what it has read, and the number of bytes that it has read is
told from the position again: **`Position.byteOffset_before` is the main statement.** A position
behind a text is counted from the one before it (`Position.Counts`), character by character: a line
feed starts a column of its own (`Counts.lineFeed`), and every other character makes the column
longer by its bytes (`Counts.cons`).
-/

namespace Kindred

namespace Position

/-! ## Bytes of lines -/

/-- The bytes of so many lines of a text. -/
def lineBytes (count : Nat) (text : Text) : Nat := Text.byteLength ((lines text).take count).flatten

theorem lineBytes_zero (text : Text) : lineBytes 0 text = 0 := rfl

theorem lineBytes_lineFeed (count : Nat) (text : Text) :
    lineBytes (count + 1) ('\n' :: text) = 1 + lineBytes count text := by
  have hlines : lines ('\n' :: text) = ['\n'] :: lines text := rfl
  rw [lineBytes, hlines, List.take_succ_cons, List.flatten_cons, Text.byteLength_append]
  rfl

/-- A character that ends no line belongs to the first line. -/
theorem lineBytes_cons {c : Char} (hc : c ≠ '\n') (count : Nat) (text : Text) :
    lineBytes (count + 1) (c :: text) = c.utf8Size + lineBytes (count + 1) text := by
  rw [lineBytes, lineBytes, lines, if_neg hc]
  cases lines text with
  | nil => simp
  | cons line more => simp

/-! ## Counting -/

/-- What the position `q` behind a text says of the text, where `p` is the position before it and
`rest` the text behind it. If no line ends in the text, the column has grown by its bytes; otherwise
it counts the bytes behind the last line that ends there. -/
structure Counts (p q : Position) (text rest : Text) : Prop where
  line_le : p.line ≤ q.line
  one_le_column : 1 ≤ q.column
  bytes : lineBytes (q.line - p.line) (text ++ rest) + q.column =
    text.byteLength + if q.line = p.line then p.column else 1

namespace Counts

variable {p q : Position} {c : Char} {text rest : Text}

theorem nil (h : 1 ≤ p.column) : Counts p p [] rest :=
  ⟨Nat.le_refl _, h, by simp [lineBytes_zero]⟩

theorem lineFeed (h : Counts ⟨p.line + 1, 1⟩ q text rest) : Counts p q ('\n' :: text) rest := by
  obtain ⟨hline, hcolumn, hbytes⟩ := h
  dsimp only at hline hbytes
  obtain ⟨count, hcount⟩ := Nat.exists_eq_add_of_le hline
  have hlines : q.line - p.line = count + 1 := by omega
  have hbelow : q.line - (p.line + 1) = count := by omega
  have hsize : Char.utf8Size '\n' = 1 := rfl
  refine ⟨by omega, hcolumn, ?_⟩
  rw [hbelow, ite_self] at hbytes
  rw [hlines, if_neg (by omega : ¬ q.line = p.line), List.cons_append, lineBytes_lineFeed,
    Text.byteLength_cons, hsize]
  omega

theorem cons (hc : c ≠ '\n') (h : Counts ⟨p.line, p.column + c.utf8Size⟩ q text rest) :
    Counts p q (c :: text) rest := by
  obtain ⟨hline, hcolumn, hbytes⟩ := h
  dsimp only at hline hbytes
  refine ⟨hline, hcolumn, ?_⟩
  by_cases hsame : q.line = p.line
  · rw [hsame, Nat.sub_self, lineBytes_zero, if_pos rfl] at hbytes ⊢
    rw [Text.byteLength_cons]
    omega
  · obtain ⟨count, hcount⟩ : ∃ count, q.line - p.line = count + 1 :=
      Nat.exists_eq_succ_of_ne_zero (by omega)
    rw [hcount, if_neg hsame] at hbytes ⊢
    rw [List.cons_append, lineBytes_cons hc, Text.byteLength_cons]
    omega

end Counts

theorem counts_foldl_advance (p : Position) (text rest : Text) (h : 1 ≤ p.column) :
    Counts p (text.foldl advance p) text rest := by
  induction text generalizing p with
  | nil => exact .nil h
  | cons c text ih =>
    rw [List.foldl_cons]
    by_cases hc : c = '\n'
    · subst hc
      exact .lineFeed (ih _ (Nat.le_refl 1))
    · rw [advance, if_neg hc]
      exact .cons hc (ih _ (Nat.le_add_right_of_le h))

theorem before_append (read rest : Text) : before (read ++ rest) rest = afterReading read := by
  rw [before, List.length_append, Nat.add_sub_cancel, List.take_left]

/-- **The position before a rest denotes the bytes of what was read.** -/
theorem byteOffset_before (read rest : Text) :
    byteOffset (read ++ rest) (before (read ++ rest) rest) = read.byteLength := by
  obtain ⟨hline, hcolumn, hbytes⟩ := counts_foldl_advance start read rest (Nat.le_refl 1)
  have hstart : start.line = 1 ∧ start.column = 1 := ⟨rfl, rfl⟩
  rw [hstart.1, hstart.2, ite_self, lineBytes] at hbytes
  rw [before_append, afterReading, byteOffset, Text.byteLength_append]
  omega

/-! ## Positions below other lines -/

/-- The position in the same column, `count` lines further down. -/
def down (p : Position) (count : Nat) : Position := ⟨p.line + count, p.column⟩

theorem advance_down (p : Position) (count : Nat) (c : Char) :
    (p.down count).advance c = (p.advance c).down count := by
  unfold advance down
  split
  · simp only [Position.mk.injEq, and_true]
    omega
  · rfl

theorem foldl_advance_down (p : Position) (count : Nat) (text : Text) :
    text.foldl advance (p.down count) = (text.foldl advance p).down count := by
  induction text generalizing p with
  | nil => rfl
  | cons c text ih => rw [List.foldl_cons, List.foldl_cons, advance_down, ih]

theorem line_foldl_advance (p : Position) (text : Text) :
    (text.foldl advance p).line = p.line + text.count '\n' := by
  induction text generalizing p with
  | nil => rfl
  | cons c text ih =>
    rw [List.foldl_cons, ih, List.count_cons]
    by_cases hc : c = '\n'
    · simp [advance, hc]
      omega
    · simp [advance, hc]

/-- What is read behind a line feed is counted as if nothing stood in front, in lower lines. -/
theorem afterReading_below (front read : Text) :
    afterReading (front ++ '\n' :: read) = (afterReading read).down (front.count '\n' + 1) := by
  have hline : (front.foldl advance start).advance '\n' = start.down (front.count '\n' + 1) := by
    simp only [advance, if_true, line_foldl_advance, down, start, Position.mk.injEq, and_true]
    omega
  rw [afterReading, List.foldl_append, List.foldl_cons, hline, foldl_advance_down, afterReading]

theorem before_below (front : Text) {text rest : Text} (h : rest <:+ text) :
    before (front ++ '\n' :: text) rest = (before text rest).down (front.count '\n' + 1) := by
  obtain ⟨read, rfl⟩ := h
  have htext : front ++ '\n' :: (read ++ rest) = (front ++ '\n' :: read) ++ rest := by simp
  rw [htext, before_append, before_append, afterReading_below]

end Position

end Kindred
