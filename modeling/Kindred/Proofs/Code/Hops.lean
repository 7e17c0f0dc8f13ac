import Kindred.Degrees

/-!
# The hops of a code

Most of what is read off a code depends on the hops of its letters alone, not on the sex that they
name. A neutral form makes the same hops as the code (`map_ofLetter?_neutralize`), the legs of a
path count them (`Legs.ofCode_of_hops`), and the fully neutral form is made of the neutral letters
of the hops (`neutralize_of_hops`).
-/

namespace Kindred

namespace Hop

/-- The letters that make a hop, the neutral one first. -/
def letters : Hop → Text
  | .parent => ['P', 'F', 'M']
  | .child => ['C', 'S', 'D']
  | .sibling => ['G', 'B', 'Z']
  | .spouse => ['E', 'H', 'W']

theorem ofLetter?_eq_some_iff {letter : Char} {hop : Hop} :
    ofLetter? letter = some hop ↔ letter ∈ hop.letters := by
  constructor
  · intro h
    unfold ofLetter? at h
    repeat' split at h
    all_goals cases h
    all_goals simpa [letters] using ‹_ ∨ _›
  · have hall : hop.letters.all (fun letter => ofLetter? letter == some hop) = true := by
      cases hop <;> decide
    exact fun h => eq_of_beq (List.all_eq_true.1 hall letter h)

theorem mem_alphabet {letter : Char} {hop : Hop} (h : ofLetter? letter = some hop) :
    letter ∈ Code.alphabet := by
  have hall : hop.letters.all (fun letter => Code.alphabet.contains letter) = true := by
    cases hop <;> decide
  simpa using List.all_eq_true.1 hall letter (ofLetter?_eq_some_iff.1 h)

end Hop

namespace Code

theorem ofLetter?_neutral (letter : Char) :
    Hop.ofLetter? (neutral letter) = Hop.ofLetter? letter := by
  unfold neutral
  cases h : Hop.ofLetter? letter with
  | none => exact h
  | some hop => exact Hop.ofLetter?_neutralLetter hop

/-- A neutral form makes the same hops as the code. -/
theorem map_ofLetter?_neutralize (code : Text) (n : Nat) :
    (neutralize code n).map Hop.ofLetter? = code.map Hop.ofLetter? := by
  induction code generalizing n with
  | nil => rfl
  | cons letter code ih =>
    cases n with
    | zero => rfl
    | succ n => simp [neutralize, ih, ofLetter?_neutral]

theorem neutralize_length (code : Text) : neutralize code code.length = code.map neutral := by
  induction code with
  | nil => rfl
  | cons letter code ih => simp [neutralize, ih]

/-- The fully neutral form has the neutral letter of each hop. -/
theorem neutralize_of_hops {code : Text} {hops : List Hop}
    (h : code.map Hop.ofLetter? = hops.map some) :
    neutralize code code.length = hops.map Hop.neutralLetter := by
  rw [neutralize_length]
  induction code generalizing hops with
  | nil =>
    cases hops with
    | nil => rfl
    | cons hop hops => simp at h
  | cons letter code ih =>
    cases hops with
    | nil => simp at h
    | cons hop hops =>
      obtain ⟨hletter, hrest⟩ := List.cons.inj h
      simp [ih hrest, neutral, hletter]

theorem map_ofLetter?_eq_replicate {code : Text} {hop : Hop}
    (h : ∀ letter ∈ code, Hop.ofLetter? letter = some hop) :
    code.map Hop.ofLetter? = (List.replicate code.length hop).map some := by
  rw [List.map_replicate, List.eq_replicate_iff]
  refine ⟨List.length_map _, ?_⟩
  intro made hmade
  obtain ⟨letter, hletter, rfl⟩ := List.mem_map.1 hmade
  exact h letter hletter

theorem ne_nil {code : Text} (h : isCode code = true) : code ≠ [] := by
  rintro rfl
  cases h

/-- No character but those of the alphabet stands in a code. -/
theorem notMem_of_isCode {code : Text} {c : Char} (h : isCode code = true) (hc : c ∉ alphabet) :
    c ∉ code := by
  intro hmem
  rw [isCode, Bool.and_eq_true, List.all_eq_true] at h
  exact hc (List.contains_iff_mem.1 (h.2 c hmem))

/-- Letters that make hops make a code, if there are any. -/
theorem isCode_of_hops {code : Text} {hops : List Hop}
    (h : code.map Hop.ofLetter? = hops.map some) (hne : hops ≠ []) : isCode code = true := by
  have halphabet : ∀ letter ∈ code, letter ∈ alphabet := by
    intro letter hletter
    have hmem : Hop.ofLetter? letter ∈ hops.map some := by
      rw [← h]
      exact List.mem_map_of_mem hletter
    obtain ⟨hop, -, hhop⟩ := List.mem_map.1 hmem
    exact Hop.mem_alphabet hhop.symm
  have hcode : code ≠ [] := by
    rintro rfl
    exact hne (List.map_eq_nil_iff.1 h.symm)
  simpa [isCode, hcode] using halphabet

end Code

namespace Legs

theorem countP_makes (code : Text) (hop : Hop) :
    code.countP (Code.makes hop) = (code.map Hop.ofLetter?).countP (· == some hop) := by
  rw [List.countP_map]
  rfl

/-- The legs of a path count its hops to parents and to children. -/
theorem ofCode_of_hops {code : Text} {hops : List Hop}
    (h : code.map Hop.ofLetter? = hops.map some) :
    ofCode code = ⟨hops.count .parent, hops.count .child⟩ := by
  have hcount (hop : Hop) : code.countP (Code.makes hop) = hops.count hop := by
    rw [countP_makes, h, List.countP_map]
    rfl
  rw [ofCode, hcount, hcount]

/-- Paths of the same hops have the same legs. -/
theorem ofCode_congr {code other : Text}
    (h : code.map Hop.ofLetter? = other.map Hop.ofLetter?) : ofCode code = ofCode other := by
  simp only [ofCode, countP_makes, h]

end Legs

end Kindred
