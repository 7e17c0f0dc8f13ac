import Kindred.Decomposition
import Kindred.Proofs.Code.Hops

/-!
# Neutral forms

A neutral form has the neutral letter in each of its first places and the letters of the code in the
others (`getElem?_neutralize`). So a neutral form of a neutral form is the one that reaches further
(`neutralize_neutralize`), it is a code if and only if it is made from one (`isCode_neutralize`),
and it climbs and descends as many generations (`Legs.ofCode_neutralize`).

The keys under which a code may have a phrase are neutral forms of it, and of all of them the fully
neutral form is the same. **`neutralize_spec` is the main statement**: it puts these together with
what they mean for the phrase that is found under a key.
-/

namespace Kindred

namespace Code

variable {code key : Text} {n : Nat}

/-! ## Places -/

theorem neutral_neutral (letter : Char) : neutral (neutral letter) = neutral letter := by
  rw [neutral, ofLetter?_neutral]
  cases h : Hop.ofLetter? letter with
  | none => simp [neutral, h]
  | some hop => simp [neutral, h]

theorem getElem?_neutralize (code : Text) (n i : Nat) :
    (neutralize code n)[i]? =
      code[i]?.map fun letter => if i < n then neutral letter else letter := by
  induction code generalizing n i with
  | nil => rfl
  | cons letter code ih =>
    cases n with
    | zero => simp [neutralize]
    | succ n =>
      cases i with
      | zero => simp [neutralize]
      | succ i => simp [neutralize, ih]

/-- A neutral form of a neutral form is the one that reaches further. -/
theorem neutralize_neutralize (code : Text) (i j : Nat) :
    neutralize (neutralize code i) j = neutralize code (max i j) := by
  refine List.ext_getElem? fun place => ?_
  rw [getElem?_neutralize, getElem?_neutralize, getElem?_neutralize, Option.map_map]
  refine Option.map_congr fun letter _ => ?_
  have hreaches : place < max i j ↔ place < i ∨ place < j := by omega
  by_cases hi : place < i
  · simp [hreaches, hi, neutral_neutral]
  · simp [hreaches, hi]

theorem length_neutralize (code : Text) (n : Nat) : (neutralize code n).length = code.length := by
  simpa using congrArg List.length (map_ofLetter?_neutralize code n)

theorem neutralize_zero (code : Text) : neutralize code 0 = code := by
  cases code <;> rfl

/-- Beyond the end of a code there is nothing to make neutral. -/
theorem neutralize_of_length_le (h : code.length ≤ n) :
    neutralize code n = neutralize code code.length := by
  refine List.ext_getElem? fun place => ?_
  rw [getElem?_neutralize, getElem?_neutralize]
  refine Option.map_congr fun letter hletter => ?_
  have hplace : place < code.length := (List.getElem?_eq_some_iff.1 hletter).1
  rw [if_pos hplace, if_pos (Nat.lt_of_lt_of_le hplace h)]

/-! ## What neutral forms keep -/

theorem neutral_mem_alphabet_iff (letter : Char) :
    neutral letter ∈ alphabet ↔ letter ∈ alphabet := by
  cases h : Hop.ofLetter? letter with
  | none => simp [neutral, h]
  | some hop =>
    have hneutral : Hop.ofLetter? (neutral letter) = some hop := by rw [ofLetter?_neutral, h]
    exact iff_of_true (Hop.mem_alphabet hneutral) (Hop.mem_alphabet h)

theorem forall_mem_neutralize_iff {p : Char → Prop} (hp : ∀ letter, p (neutral letter) ↔ p letter) :
    (∀ letter ∈ neutralize code n, p letter) ↔ ∀ letter ∈ code, p letter := by
  induction code generalizing n with
  | nil => rfl
  | cons letter code ih =>
    cases n with
    | zero => rfl
    | succ n => rw [neutralize, List.forall_mem_cons, List.forall_mem_cons, hp, ih]

/-- A neutral form is a code if and only if it is made from one. -/
theorem isCode_neutralize (code : Text) (n : Nat) : isCode (neutralize code n) = isCode code := by
  have hempty : neutralize code n = [] ↔ code = [] := by
    rw [← List.length_eq_zero_iff, length_neutralize, List.length_eq_zero_iff]
  have hletters : (∀ letter ∈ neutralize code n, letter ∈ alphabet) ↔
      ∀ letter ∈ code, letter ∈ alphabet :=
    forall_mem_neutralize_iff neutral_mem_alphabet_iff
  rw [Bool.eq_iff_iff]
  simp [isCode, hempty, hletters]

end Code

/-- A neutral form climbs and descends as many generations as the code. -/
theorem Legs.ofCode_neutralize (code : Text) (n : Nat) :
    ofCode (Code.neutralize code n) = ofCode code :=
  ofCode_congr (Code.map_ofLetter?_neutralize code n)

theorem Degrees.between_neutralize (matched base : Text) (i j : Nat) :
    between (Code.neutralize matched i) (Code.neutralize base j) = between matched base := by
  rw [between, Legs.ofCode_neutralize, Legs.ofCode_neutralize, between]

/-! ## Keys -/

namespace Tables

variable {tables : Tables} {code key : Text} {term : Term}

theorem exists_neutralize_of_mem_directKeys (h : key ∈ directKeys code) :
    ∃ n, key = Code.neutralize code n := by
  simp only [directKeys, List.mem_cons, List.not_mem_nil, or_false] at h
  obtain rfl | rfl | rfl := h
  · exact ⟨0, (Code.neutralize_zero key).symm⟩
  · exact ⟨_, rfl⟩
  · exact ⟨_, rfl⟩

/-- The term of a code has the phrase of a key that is a neutral form of the code. -/
theorem direct?_eq_some (h : tables.direct? code = some term) :
    ∃ n template, term.origin = .direct (Code.neutralize code n) ∧
      tables.term? (Code.neutralize code n) = some template ∧
        term.phrase = template.fillDegrees (.between code code) tables.ordinals := by
  obtain ⟨key, hkey, hfound⟩ := List.exists_of_findSome?_eq_some h
  obtain ⟨template, htemplate, rfl⟩ := Option.map_eq_some_iff.1 hfound
  obtain ⟨n, rfl⟩ := exists_neutralize_of_mem_directKeys hkey
  exact ⟨n, template, rfl, htemplate, rfl⟩

end Tables

namespace Code

/-- All neutral forms of a code have the same fully neutral form. -/
theorem neutralize_length_neutralize (code : Text) (n : Nat) :
    neutralize (neutralize code n) (neutralize code n).length = neutralize code code.length := by
  rw [neutralize_neutralize, length_neutralize, neutralize_of_length_le (Nat.le_max_right ..)]

/-- **Neutral forms compose and keep everything that is measured.** A neutral form of a neutral form
is the one that reaches further. It has as many letters as the code, it is a code if and only if it
is made from one, and the degrees do not tell it from the code. The key under which a code has its
phrase has the same fully neutral form as the code, so that the degrees of the key, measured against
itself, give the same phrase. -/
theorem neutralize_spec (code matched base : Text) (i j : Nat) (tables : Tables) :
    neutralize (neutralize code i) j = neutralize code (max i j) ∧
    (neutralize code i).length = code.length ∧
    isCode (neutralize code i) = isCode code ∧
    Degrees.between (neutralize matched i) (neutralize base j) = .between matched base ∧
    ∀ term, tables.direct? code = some term → ∃ key template, term.origin = .direct key ∧
      neutralize key key.length = neutralize code code.length ∧
      tables.term? key = some template ∧
      term.phrase = template.fillDegrees (.between key key) tables.ordinals := by
  refine ⟨neutralize_neutralize code i j, length_neutralize code i, isCode_neutralize code i,
    Degrees.between_neutralize matched base i j, fun term h => ?_⟩
  obtain ⟨n, template, horigin, htemplate, hphrase⟩ := Tables.direct?_eq_some h
  refine ⟨neutralize code n, template, horigin, neutralize_length_neutralize code n, htemplate, ?_⟩
  rw [hphrase, Degrees.between_neutralize]

/-- A vocabulary with a phrase for cousins that leaves their sex open. -/
def cousins : Tables := { Tables.empty with
  terms := Dictionary.empty.insert "PGC".toList [.placeholder 1 none, .literal " cousin".toList] }

/-- The son of a father's brother has the phrase of the fully neutral key, whose degrees are his. -/
theorem neutralize_spec_cousin :
    cousins.direct? "FBS".toList =
        some ⟨"FBS".toList, "1st cousin".toList, .direct "PGC".toList⟩ ∧
      neutralize "PGC".toList 3 = neutralize "FBS".toList 3 ∧
      ∃ template, cousins.term? "PGC".toList = some template ∧
        "1st cousin".toList =
          template.fillDegrees (.between "PGC".toList "PGC".toList) cousins.ordinals := by
  have hdirect : cousins.direct? "FBS".toList =
      some ⟨"FBS".toList, "1st cousin".toList, .direct "PGC".toList⟩ := by decide +kernel
  obtain ⟨key, template, horigin, hneutral, htemplate, hphrase⟩ :=
    (neutralize_spec "FBS".toList [] [] 0 0 cousins).2.2.2.2 _ hdirect
  obtain rfl := Origin.direct.inj horigin
  exact ⟨hdirect, hneutral, template, htemplate, hphrase⟩

end Code

end Kindred
