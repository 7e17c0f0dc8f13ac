import Kindred.Proofs.Decomposition.Origins
import Kindred.Proofs.Vocabulary.English

/-!
# When no literals are left

Where every letter of a code has a phrase, itself or by the neutral letter of its hop, every piece
of the code has a suffix with a phrase: its last letter. So nothing is left as a literal, wherever
rules, spouses and suffixes cut the code, unless the bound cuts it off
(`origin_ne_literal_of_knows`). The English vocabulary knows all letters that make a hop.
-/

namespace Kindred

namespace Tables

/-- There is a phrase for the letter itself or for the neutral letter of its hop. -/
def Knows (tables : Tables) (letter : Char) : Prop :=
  (tables.term? [letter]).isSome ∨ (tables.term? [Code.neutral letter]).isSome

variable {tables : Tables} {bound : Nat} {useRules : Bool} {code : Text} {letter : Char}

theorem direct?_ne_none_of_knows (h : tables.Knows letter) : tables.direct? [letter] ≠ none := by
  intro hnone
  have hkeys := List.findSome?_eq_none_iff.1 hnone
  have hself := hkeys [letter] (by simp [directKeys])
  have hneutral := hkeys [Code.neutral letter] (by simp [directKeys, Code.neutralize])
  rw [Option.map_eq_none_iff] at hself hneutral
  rcases h with h | h
  · simp [hself] at h
  · simp [hneutral] at h

/-- A fragment of known letters has a suffix with a phrase, so that it is no literal. -/
theorem origin_ne_literal (hknows : ∀ letter ∈ code, tables.Knows letter)
    (hbound : code.length ≤ bound) {term : Term}
    (hterm : term ∈ tables.decompose bound useRules code) : term.origin ≠ .literal := by
  intro horigin
  have hcovers := tables.decompose_covers bound useRules code
  obtain ⟨before, after, haccounts⟩ := accounts_of_mem_decompose hterm
  unfold Accounts at haccounts
  rw [horigin] at haccounts
  obtain ⟨front, letter, hfragment⟩ :=
    (List.eq_nil_or_concat term.fragment).resolve_left (hcovers.fragment_ne_nil term hterm)
  rw [List.concat_eq_append] at hfragment
  have hmem : letter ∈ code := hcovers.fragment_subset hterm (by simp [hfragment])
  have hnone := haccounts.2 hbound front [letter] hfragment (by simp)
  exact direct?_ne_none_of_knows (hknows letter hmem) hnone

end Tables

namespace Vocabulary.English

/-- Every letter of the alphabet but `I` makes a hop, and so English knows it. -/
theorem knows_of_isCode {code : Text} (hcode : Code.isCode code = true) (hself : 'I' ∉ code) :
    ∀ letter ∈ code, tables.Knows letter := by
  intro letter hletter
  have halphabet : letter ∈ Code.alphabet := by
    simp only [Code.isCode, Bool.and_eq_true, List.all_eq_true] at hcode
    simpa using hcode.2 letter hletter
  have hhops : Code.alphabet.all (fun other =>
      other = 'I' || (Hop.ofLetter? other).isSome) = true := by decide
  rw [List.all_eq_true] at hhops
  have hne : letter ≠ 'I' := fun h => hself (h ▸ hletter)
  obtain ⟨hop, hhop⟩ : ∃ hop, Hop.ofLetter? letter = some hop := by
    simpa [hne, Option.isSome_iff_exists] using hhops letter halphabet
  right
  rw [Code.neutral, hhop]
  exact term?_neutralLetter_isSome hop

end Vocabulary.English

namespace Tables

/-- **No literal is left where every letter is known**, if the bound reaches the length of the
code. In English that is every code without `I` of up to 64 letters. -/
theorem origin_ne_literal_of_knows :
    (∀ (tables : Tables) (bound : Nat) (useRules : Bool) (code : Text),
      (∀ letter ∈ code, tables.Knows letter) → code.length ≤ bound →
        ∀ term ∈ tables.decompose bound useRules code, term.origin ≠ .literal) ∧
      ∀ (useRules : Bool) (code : Text), Code.isCode code = true → 'I' ∉ code →
        code.length ≤ 64 →
          ∀ term ∈ Vocabulary.English.tables.decompose defaultBound useRules code,
            term.origin ≠ .literal := by
  refine ⟨fun tables bound useRules code hknows hbound term hterm => ?_,
    fun useRules code hcode hself hbound term hterm => ?_⟩
  · exact origin_ne_literal hknows hbound hterm
  · exact origin_ne_literal (Vocabulary.English.knows_of_isCode hcode hself) hbound hterm

/-- The small vocabulary with a child, so that it knows both letters of its rule. -/
def householdWithChild : Tables := { household with
  terms := household.terms.insert ['C'] [.literal "child".toList] }

theorem origin_ne_literal_of_knows_household :
    (∀ letter ∈ ['W', 'F', 'S', 'F'], householdWithChild.Knows letter) ∧
      ['W', 'F', 'S', 'F'].length ≤ 4 ∧
      ⟨['F', 'S'], "brother".toList, .rule 1 "brother".toList⟩ ∈
        householdWithChild.decompose 4 true ['W', 'F', 'S', 'F'] ∧
      (∀ term ∈ householdWithChild.decompose 4 true ['W', 'F', 'S', 'F'],
        term.origin ≠ .literal) ∧
      Code.isCode ['F', 'B', 'S', 'W'] = true ∧ 'I' ∉ ['F', 'B', 'S', 'W'] ∧
      ∀ term ∈ Vocabulary.English.tables.decompose defaultBound true ['F', 'B', 'S', 'W'],
        term.origin ≠ .literal := by
  have hknows : ∀ letter ∈ ['W', 'F', 'S', 'F'], householdWithChild.Knows letter := by
    intro letter hletter
    simp only [List.mem_cons, List.not_mem_nil, or_false] at hletter
    unfold Knows
    rcases hletter with rfl | rfl | rfl | rfl <;> decide
  have hbound : ['W', 'F', 'S', 'F'].length ≤ 4 := by decide
  have hbrother : ⟨['F', 'S'], "brother".toList, .rule 1 "brother".toList⟩ ∈
      householdWithChild.decompose 4 true ['W', 'F', 'S', 'F'] := by decide
  have hcode : Code.isCode ['F', 'B', 'S', 'W'] = true := by decide
  have hself : 'I' ∉ ['F', 'B', 'S', 'W'] := by decide
  obtain ⟨hgeneral, henglish⟩ := origin_ne_literal_of_knows
  exact ⟨hknows, hbound, hbrother, hgeneral householdWithChild 4 true _ hknows hbound, hcode, hself,
    henglish true _ hcode hself (by decide)⟩

end Tables

end Kindred
