import Kindred.Proofs.Vocabulary.Joining
import Kindred.Report.Diagnostic
import Mathlib.Data.List.DropRight

/-!
# Where diagnostics point

A diagnostic marks the byte at which the reader left the text: **`Diagnostic.offset_eq_stop` is the
main statement.** The reader tells its place as a line and a column, which are counted in what was
read (`Position.before_append_eq`), and the diagnostic counts the bytes of whole lines from the front.
The two conversions are inverse, so that different places have different positions
(`Position.before_injective`).
-/

namespace Kindred

namespace Position

variable {text rest other : Text}

/-! ## Lines and columns -/

/-- A place is told from the line feeds in front of it and the bytes behind the last one of them. -/
theorem afterReading_eq (read : Text) :
    afterReading read =
      ⟨read.count '\n' + 1, Text.byteLength (read.rtakeWhile (· != '\n')) + 1⟩ := by
  induction read using List.reverseRecOn with
  | nil => rfl
  | append_singleton read c ih =>
    have hnext : afterReading (read ++ [c]) = (afterReading read).advance c := by
      rw [afterReading, List.foldl_append]
      rfl
    rw [hnext, ih, List.rtakeWhile_concat, List.count_append]
    by_cases hc : c = '\n'
    · subst hc
      rfl
    · have hnone : List.count '\n' [c] = 0 := List.count_eq_zero.2 (by simpa using Ne.symm hc)
      have hbytes : Text.byteLength [c] = c.utf8Size := rfl
      rw [advance, if_neg hc, if_pos (bne_iff_ne.2 hc), hnone, Text.byteLength_append, hbytes,
        Nat.add_right_comm, Nat.add_zero]

theorem before_append_eq (read rest : Text) :
    before (read ++ rest) rest =
      ⟨read.count '\n' + 1, Text.byteLength (read.rtakeWhile (· != '\n')) + 1⟩ := by
  rw [before_append, afterReading_eq]

/-! ## Places and positions -/

theorem eq_of_suffix_of_byteLength_eq (h : rest <:+ other)
    (hbytes : Text.byteLength rest = Text.byteLength other) : rest = other := by
  obtain ⟨between, rfl⟩ := h
  cases between with
  | nil => rfl
  | cons c between =>
    -- a character has a byte at least
    have hpositive := Char.utf8Size_pos c
    rw [Text.byteLength_append, Text.byteLength_cons] at hbytes
    omega

theorem byteLength_eq_add (h : rest <:+ text) :
    text.byteLength = byteOffset text (before text rest) + rest.byteLength := by
  obtain ⟨read, rfl⟩ := h
  rw [byteOffset_before, Text.byteLength_append]

/-- **Different places of a text have different positions.** -/
theorem before_injective (hrest : rest <:+ text) (hother : other <:+ text)
    (h : before text rest = before text other) : rest = other := by
  have hbytes : Text.byteLength rest = Text.byteLength other := by
    have hrest := byteLength_eq_add hrest
    have hother := byteLength_eq_add hother
    rw [h] at hrest
    omega
  rcases List.suffix_or_suffix_of_suffix hrest hother with hsuffix | hsuffix
  · exact eq_of_suffix_of_byteLength_eq hsuffix hbytes
  · exact (eq_of_suffix_of_byteLength_eq hsuffix hbytes.symm).symm

end Position

namespace Vocabulary

/-! ## Where the reader stops -/

/-- The part of a text that is left where the reader of vocabularies stops, if it is no vocabulary. -/
def stop? (text : Text) : Option Text :=
  match definitionsFrom text with
  | .error stop => some stop
  | .ok (_, []) => none
  | .ok (_, rest) => some rest

variable {text : Text} {error : SyntaxError}

/-- A text that is no vocabulary is left at the place of its error, and that the text ends too early
is said at its end only. -/
theorem exists_stop_of_read_eq_error (h : read text = .error error) :
    ∃ stop, stop? text = some stop ∧ stop <:+ text ∧ error.place = .before text stop ∧
      (stop = [] ↔ error = .unexpectedEnd error.place) := by
  unfold read at h
  split at h
  · rename_i stop hread
    obtain rfl := Except.error.inj h
    refine ⟨stop, ?_, leavesEnd_definitionsFrom.error hread,
      SyntaxError.place_insideDefinition text stop, ?_⟩
    · rw [stop?, definitionsFrom, hread]
    · cases stop <;> simp [SyntaxError.insideDefinition, SyntaxError.place]
  · cases h
  · rename_i definitions rest hrest hread
    obtain rfl := Except.error.inj h
    obtain ⟨c, behind, rfl⟩ := List.exists_cons_of_ne_nil fun hnil => hrest hnil
    refine ⟨c :: behind, ?_, leavesEnd_definitionsFrom.ok hread,
      SyntaxError.place_betweenItems text (c :: behind), ?_⟩
    · rw [stop?, definitionsFrom, hread]
    · simp [SyntaxError.betweenItems, SyntaxError.place]

end Vocabulary

namespace Diagnostic

open Vocabulary

/-- **A diagnostic marks the byte at which the reader stopped.** The position of any place of a text
gives back the bytes in front of the place, and no other place has that position; so the diagnostic of
a text that is no vocabulary marks the end of what was read, which is the end of the text exactly if
the text ends too early. -/
theorem offset_eq_stop (path text : Text) :
    (∀ read rest, text = read ++ rest →
      Position.before text rest =
          ⟨read.count '\n' + 1, Text.byteLength (read.rtakeWhile (· != '\n')) + 1⟩ ∧
        Position.byteOffset text (.before text rest) = Text.byteLength read) ∧
    (∀ rest other, rest <:+ text → other <:+ text →
      Position.before text rest = .before text other → rest = other) ∧
    ∀ error, Vocabulary.read text = .error error → ∃ read stop, text = read ++ stop ∧
      stop? text = some stop ∧ error.place = .before text stop ∧
        (ofSyntaxError path text error).offset = Text.byteLength read ∧
        ((ofSyntaxError path text error).offset = text.byteLength ↔
          error = .unexpectedEnd error.place) := by
  refine ⟨?_, fun rest other => Position.before_injective, ?_⟩
  · rintro read rest rfl
    exact ⟨Position.before_append_eq read rest, Position.byteOffset_before read rest⟩
  · intro error herror
    obtain ⟨stop, hstop, ⟨read, rfl⟩, hplace, hend⟩ := exists_stop_of_read_eq_error herror
    have hoffset : (ofSyntaxError path (read ++ stop) error).offset = Text.byteLength read :=
      SyntaxError.offset_of_place hplace
    refine ⟨read, stop, rfl, hstop, hplace, hoffset, ?_⟩
    rw [hoffset, ← hend, Text.byteLength_append]
    constructor
    · intro hbytes
      have hnone : Text.byteLength [] = Text.byteLength stop := by
        rw [Text.byteLength_nil]
        omega
      exact (Position.eq_of_suffix_of_byteLength_eq List.nil_suffix hnone).symm
    · rintro rfl
      rfl

/-- The second line is left behind the word `rule`; the `é` above it has two bytes. -/
theorem offset_eq_stop_unquotedRule :
    Vocabulary.read SyntaxError.unquotedRule = .error (.malformedDefinition ⟨2, 6⟩) ∧
      ∃ read stop, SyntaxError.unquotedRule = read ++ stop ∧
        stop? SyntaxError.unquotedRule = some stop ∧ Text.byteLength read = 31 ∧
          (ofSyntaxError "a.kin".toList SyntaxError.unquotedRule
            (.malformedDefinition ⟨2, 6⟩)).offset = Text.byteLength read := by
  have hread : Vocabulary.read SyntaxError.unquotedRule = .error (.malformedDefinition ⟨2, 6⟩) :=
    read_eq_error_of_error? (by decide +kernel)
  obtain ⟨read, stop, htext, hstop, -, hoffset, -⟩ :=
    (offset_eq_stop "a.kin".toList SyntaxError.unquotedRule).2.2 _ hread
  have hbytes : (ofSyntaxError "a.kin".toList SyntaxError.unquotedRule
      (.malformedDefinition ⟨2, 6⟩)).offset = 31 := by decide +kernel
  exact ⟨hread, read, stop, htext, hstop, hoffset.symm.trans hbytes, hoffset⟩

end Diagnostic

end Kindred
