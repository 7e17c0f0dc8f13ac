import Kindred.Proofs.Lint.Rules

/-!
# Patterns that are tried on short codes

A pattern is tried on all codes of up to three letters and on no others (`mem_allProbes_iff`). So **a
rule is reported for its pattern if the pattern matches the empty text and the rule does nothing with
any code of up to three letters** (`emptyMatchPattern_iff_apply_eq_none`), whatever the tables are. The
rule may still apply to a longer code: one for four parents that may be left out is reported, and
applies to four parents (`emptyMatchPattern_applies`).
-/

namespace Kindred

/-! ## The codes of up to three letters -/

namespace Lint

variable {code : Text} {n : Nat}

theorem mem_probes_iff :
    code ∈ probes n ↔ code.length = n ∧ ∀ letter ∈ code, letter ∈ Code.alphabet := by
  induction n generalizing code with
  | zero =>
    rw [probes, List.mem_singleton, List.length_eq_zero_iff]
    constructor
    · rintro rfl
      exact ⟨rfl, fun _ h => nomatch h⟩
    · rintro ⟨hnil, -⟩
      exact hnil
  | succ n ih =>
    simp only [probes, List.mem_flatMap, List.mem_map, ih]
    constructor
    · rintro ⟨code, ⟨rfl, hcode⟩, letter, hletter, rfl⟩
      refine ⟨List.length_append, List.forall_mem_append.2 ⟨hcode, ?_⟩⟩
      rwa [List.forall_mem_singleton]
    · rintro ⟨hlength, hcode⟩
      obtain rfl | ⟨front, letter, rfl⟩ := List.eq_nil_or_concat code
      · cases hlength
      · rw [List.concat_eq_append, List.forall_mem_append, List.forall_mem_singleton] at hcode
        refine ⟨front, ⟨?_, hcode.1⟩, letter, hcode.2, List.concat_eq_append.symm⟩
        rw [List.length_concat] at hlength
        omega

/-- **The patterns are tried on the codes of up to three letters.** -/
theorem mem_allProbes_iff : code ∈ allProbes ↔ Code.isCode code = true ∧ code.length ≤ 3 := by
  have hcode : Code.isCode code = true ↔ code ≠ [] ∧ ∀ letter ∈ code, letter ∈ Code.alphabet := by
    simp [Code.isCode]
  rw [allProbes, List.mem_append, List.mem_append, mem_probes_iff, mem_probes_iff, mem_probes_iff,
    hcode, ← List.length_pos_iff]
  constructor
  · rintro ((⟨hlength, hletters⟩ | ⟨hlength, hletters⟩) | ⟨hlength, hletters⟩)
    · exact ⟨⟨by omega, hletters⟩, by omega⟩
    · exact ⟨⟨by omega, hletters⟩, by omega⟩
    · exact ⟨⟨by omega, hletters⟩, by omega⟩
  · rintro ⟨⟨hpos, hletters⟩, hle⟩
    have hlength : (code.length = 1 ∨ code.length = 2) ∨ code.length = 3 := by omega
    rcases hlength with (hlength | hlength) | hlength
    · exact .inl (.inl ⟨hlength, hletters⟩)
    · exact .inl (.inr ⟨hlength, hletters⟩)
    · exact .inr ⟨hlength, hletters⟩

theorem matchesOnlyEmpty_iff {p : Pattern} : matchesOnlyEmpty p = true ↔
    p.matchesEmpty = true ∧
      ∀ code, Code.isCode code = true → code.length ≤ 3 → p.search? code = none := by
  simp only [matchesOnlyEmpty, Bool.and_eq_true, Bool.not_eq_true', List.any_eq_false,
    Option.isSome_eq_false_iff, Option.isNone_iff_eq_none, mem_allProbes_iff, and_imp,
    Bool.not_eq_true]

end Lint

/-! ## What is reported -/

theorem Rule.apply_eq_none_iff {rule : Rule} {number : Nat} {tables : Tables} {code : Text} :
    rule.apply number tables code = none ↔ rule.pattern.search? code = none :=
  Option.map_eq_none_iff

namespace Lint

variable {dialect : Pattern.Dialect} {definitions : List Definition} {n : Nat} {pattern : Text}

/-- A rule is reported for its pattern if the pattern has no match among the codes it is tried on. -/
theorem emptyMatchPattern_mem_warnings_iff :
    .emptyMatchPattern n pattern ∈ warnings dialect definitions ↔
      ∃ template p, Definition.IsRule definitions n pattern template ∧
        dialect.read pattern = .ok p ∧ matchesOnlyEmpty p = true := by
  have hmem : ∀ pattern' template,
      .emptyMatchPattern n pattern ∈
          ruleWarnings dialect n pattern' template (definitions.filterMap termKey?) ↔
        ∃ p, dialect.read pattern' = .ok p ∧ matchesOnlyEmpty p = true ∧ pattern = pattern' := by
    intro pattern' template
    simp [mem_ruleWarnings_iff, mem_branchWarnings_iff, mem_replacementWarnings_iff]
  rw [mem_warnings_iff_of_rule? rfl]
  simp only [hmem]
  constructor
  · rintro ⟨_, template, hrule, p, hread, hempty, rfl⟩
    exact ⟨template, p, hrule, hread, hempty⟩
  · rintro ⟨template, p, hrule, hread, hempty⟩
    exact ⟨pattern, template, hrule, p, hread, hempty, rfl⟩

/-- **What a rule does that is reported for its pattern.** The pattern matches the empty text, and
whatever the tables the rule makes nothing of a code of up to three letters. Every rule of which this
is true is reported. -/
theorem emptyMatchPattern_iff_apply_eq_none :
    .emptyMatchPattern n pattern ∈ warnings dialect definitions ↔
      ∃ template p, Definition.IsRule definitions n pattern template ∧
        dialect.read pattern = .ok p ∧ p.matchesEmpty = true ∧
          ∀ code, Code.isCode code = true → code.length ≤ 3 → ∀ number tables,
            Rule.apply ⟨p, template⟩ number tables code = none := by
  rw [emptyMatchPattern_mem_warnings_iff]
  simp only [matchesOnlyEmpty_iff]
  constructor
  · rintro ⟨template, p, hrule, hread, hempty, hnone⟩
    exact ⟨template, p, hrule, hread, hempty, fun code hcode hlength _ _ =>
      Rule.apply_eq_none_iff.2 (hnone code hcode hlength)⟩
  · rintro ⟨template, p, hrule, hread, hempty, hnone⟩
    exact ⟨template, p, hrule, hread, hempty, fun code hcode hlength =>
      Rule.apply_eq_none_iff.1 (hnone code hcode hlength 0 .empty)⟩

end Lint

/-! ## A rule that is reported and applies -/

namespace Pattern

/-- What may be left out leads through its body or stays where it is. -/
theorem eq_or_leads_of_optional {greedy : Bool} {body : Expr} {s t : Place}
    (h : (Expr.repeated 0 (some 1) greedy body).Leads s t) : t = s ∨ body.Leads s t := by
  obtain ⟨count, -, hmost, hrounds⟩ := h
  have hcount : count ≤ max 0 1 := hmost 1 rfl
  obtain rfl | rfl : count = 0 ∨ count = 1 := by omega
  · exact .inl hrounds
  · obtain ⟨u, hbody, rfl⟩ := hrounds
    exact .inr hbody

/-- The pattern `(?:PPPP)?`: four parents, or none. -/
def fourParents : Pattern where
  source := "(?:PPPP)?".toList
  expr :=
    let parent : Expr := .one [('P'.toNat, 'P'.toNat)]
    .repeated 0 (some 1) true (.seq parent (.seq parent (.seq parent parent)))
  names := []

/-- Four parents are not found in a text of fewer letters. -/
theorem search?_fourParents_eq_none {code : Text} (h : code.length ≤ 3) :
    fourParents.search? code = none := by
  refine Option.eq_none_iff_forall_ne_some.2 fun m hm => ?_
  obtain ⟨hin, hne, t, hleads, hrest⟩ := search?_eq_some hm
  rcases eq_or_leads_of_optional hleads with rfl | ⟨u, hu, v, hv, w, hw, ht⟩
  · -- the match would be empty
    exact hne (List.append_left_eq_self.1 hrest)
  · obtain ⟨_, hfirst, -, -⟩ := Place.step?_eq_some hu
    obtain ⟨_, hsecond, -, -⟩ := Place.step?_eq_some hv
    obtain ⟨_, hthird, -, -⟩ := Place.step?_eq_some hw
    obtain ⟨_, hfourth, -, -⟩ := Place.step?_eq_some ht
    have hlength : (m.text ++ m.after).length = t.rest.length + 4 := by
      rw [show m.text ++ m.after = _ from hfirst, hsecond, hthird, hfourth]
      simp only [List.length_cons]
    rw [hin] at h
    rw [hrest] at hlength
    simp only [List.length_append] at h hlength
    omega

end Pattern

namespace Lint

/-- A term for parents, and a rule for four parents or none. -/
def fourParentsDefinitions : List Definition :=
  [.term "P".toList [.literal "parent".toList],
    .rule "(?:PPPP)?".toList (.direct [.literal "P".toList])]

/-- **A rule that is reported for its pattern may apply**, to a code of four letters. -/
theorem emptyMatchPattern_applies :
    ¬ ∀ (definitions : List Definition) (n : Nat) (pattern : Text),
      .emptyMatchPattern n pattern ∈ warnings .builtIn definitions →
        ∀ template p, Definition.IsRule definitions n pattern template →
          Pattern.Dialect.builtIn.read pattern = .ok p →
            ∀ number tables code, Code.isCode code = true →
              Rule.apply ⟨p, template⟩ number tables code = none := by
  intro h
  have hread : Pattern.Dialect.builtIn.read "(?:PPPP)?".toList = .ok .fourParents := by
    decide +kernel
  have hrule : Definition.IsRule fourParentsDefinitions 1 "(?:PPPP)?".toList
      (.direct [.literal "P".toList]) :=
    ⟨[.term "P".toList [.literal "parent".toList]], [], rfl, rfl⟩
  have hempty : matchesOnlyEmpty .fourParents = true :=
    matchesOnlyEmpty_iff.2 ⟨by decide +kernel, fun _ _ hlength =>
      Pattern.search?_fourParents_eq_none hlength⟩
  have hreported :
      .emptyMatchPattern 1 "(?:PPPP)?".toList ∈ warnings .builtIn fourParentsDefinitions :=
    emptyMatchPattern_mem_warnings_iff.2 ⟨_, _, hrule, hread, hempty⟩
  have hnone : Pattern.search? .fourParents "PPPP".toList = none :=
    Rule.apply_eq_none_iff.1
      (h _ _ _ hreported _ _ hrule hread 1 .empty "PPPP".toList (by decide +kernel))
  have hsome : (Pattern.search? .fourParents "PPPP".toList).isSome = true := by decide +kernel
  rw [hnone] at hsome
  exact absurd hsome Bool.false_ne_true

end Lint

end Kindred
