import Kindred.Proofs.Lint.Duplicates
import Kindred.Rule.Application

/-!
# The order of branches

Of a template with branches only the first branch of each key is ever selected, so that later
branches of the same key may be left out (`RuleTemplate.branch?_withoutRepeated`), and if no key has
two branches their order means nothing (`RuleTemplate.branch?_perm`). The checks report every key that
has two (`Lint.nodup_keys_of_notMem_warnings`). **`Rule.apply_conditional` is the main statement**: it
puts these together and says which branch a match selects.
-/

namespace Kindred

/-! ## The first branch of a key -/

namespace RuleTemplate

variable {branches : List Branch} {branch : Branch} {key : BranchKey}

/-- The branch is the first one that has the key. -/
def IsFirst (branches : List Branch) (key : BranchKey) (branch : Branch) : Prop :=
  ∃ before after, branches = before ++ branch :: after ∧ branch.key = key ∧
    ∀ other ∈ before, other.key ≠ key

/-- Branches without those whose key is that of an earlier one; `earlier` has the keys met before. -/
def withoutRepeated (earlier : List BranchKey) : List Branch → List Branch
  | [] => []
  | branch :: rest =>
    if branch.key ∈ earlier then withoutRepeated earlier rest
    else branch :: withoutRepeated (branch.key :: earlier) rest

theorem branch?_cons (branch : Branch) (rest : List Branch) (key : BranchKey) :
    branch? (branch :: rest) key =
      if branch.key = key then some branch.replacement else branch? rest key := by
  by_cases h : branch.key = key
  · simp [branch?, h]
  · simp [branch?, h]

theorem branch?_withoutRepeated {earlier : List BranchKey} (hkey : key ∉ earlier) :
    branch? (withoutRepeated earlier branches) key = branch? branches key := by
  induction branches generalizing earlier with
  | nil => rfl
  | cons branch rest ih =>
    rw [withoutRepeated, branch?_cons]
    split
    · next hmem =>
      have hne : branch.key ≠ key := fun h => hkey (h ▸ hmem)
      rw [if_neg hne, ih hkey]
    · rw [branch?_cons]
      split
      · rfl
      · next hne => exact ih (List.not_mem_cons_of_ne_of_not_mem (Ne.symm hne) hkey)

theorem branch?_of_isFirst (h : IsFirst branches key branch) :
    branch? branches key = some branch.replacement := by
  obtain ⟨before, after, rfl, hkey, hfirst⟩ := h
  induction before with
  | nil => rw [List.nil_append, branch?_cons, if_pos hkey]
  | cons other before ih =>
    rw [List.cons_append, branch?_cons, if_neg (hfirst other List.mem_cons_self),
      ih fun more hmore => hfirst more (List.mem_cons_of_mem other hmore)]

theorem branch?_eq_none (h : ∀ branch ∈ branches, branch.key ≠ key) : branch? branches key = none := by
  induction branches with
  | nil => rfl
  | cons branch rest ih =>
    rw [branch?_cons, if_neg (h branch List.mem_cons_self),
      ih fun other hother => h other (List.mem_cons_of_mem branch hother)]

/-- A key that no two branches share selects the same branch in every order of them. -/
theorem branch?_perm {branches' : List Branch} (h : branches.Perm branches')
    (hnodup : (branches.map Branch.key).Nodup) : branch? branches key = branch? branches' key := by
  induction h with
  | nil => rfl
  | cons branch _ ih =>
    rw [List.map_cons, List.nodup_cons] at hnodup
    rw [branch?_cons, branch?_cons, ih hnodup.2]
  | swap first second rest =>
    simp only [List.map_cons, List.nodup_cons, List.mem_cons, not_or] at hnodup
    simp only [branch?_cons]
    split
    · next hsecond =>
      have hne : first.key ≠ key := fun h => hnodup.1.1 (hsecond.trans h.symm)
      rw [if_neg hne]
    · rfl
  | trans hfirst _ ih ih' =>
    rw [ih hnodup, ih' ((hfirst.map Branch.key).nodup_iff.1 hnodup)]

/-! ## What is selected -/

variable {ignored ignored' : Text} {branches' : List Branch} {k : Int}

theorem select?_congr (h : ∀ key, branch? branches key = branch? branches' key) :
    (conditional branches ignored).select? k = (conditional branches' ignored').select? k := by
  simp only [select?, h]

theorem select?_of_exact {replacement : Replacement}
    (h : branch? branches (.exact k) = some replacement) :
    (conditional branches ignored).select? k = some replacement := by
  rw [select?, h]
  rfl

theorem select?_of_not_exact (h : branch? branches (.exact k) = none) :
    (conditional branches ignored).select? k = branch? branches (.ofSign k) := by
  rw [select?, h]
  rfl

end RuleTemplate

/-! ## Keys that are reported -/

namespace Lint

variable {dialect : Pattern.Dialect} {definitions : List Definition} {n : Nat} {pattern : Text}
  {p : Pattern} {branches : List Branch} {ignored : Text}

/-- **No key has two branches in a rule of which no such key is reported.** -/
theorem nodup_keys_of_notMem_warnings
    (hrule : Definition.IsRule definitions n pattern (.conditional branches ignored))
    (hread : dialect.read pattern = .ok p)
    (h : ∀ key, .duplicateBranch n key ∉ warnings dialect definitions) :
    (branches.map Branch.key).Nodup := by
  rw [List.nodup_iff_count_le_one]
  intro key
  by_contra hcount
  have hsecond : key ∈ secondOccurrences [] (branches.map Branch.key) :=
    mem_secondOccurrences_iff.2 (by omega)
  have hbranch : .duplicateBranch n key.label ∈ branchWarnings n (.conditional branches ignored) :=
    mem_branchWarnings_iff.2 ⟨branches, ignored, rfl, .inr ⟨key, hsecond, rfl⟩⟩
  exact h key.label ((mem_warnings_iff_of_rule? rfl).2
    ⟨pattern, _, hrule, mem_ruleWarnings_iff.2 ⟨p, hread, .inr (.inl hbranch)⟩⟩)

end Lint

/-! ## What a rule does -/

namespace Rule

open RuleTemplate

variable {p : Pattern} {template template' : RuleTemplate} {number : Nat} {tables : Tables}
  {code : Text}

/-- Templates that replace each match of a pattern by the same text make the same rule. -/
theorem apply_congr (h : ∀ m, p.search? code = some m →
      replacementText ⟨p, template⟩ m = replacementText ⟨p, template'⟩ m) :
    apply ⟨p, template⟩ number tables code = apply ⟨p, template'⟩ number tables code := by
  rw [apply, apply]
  cases hsearch : p.search? code with
  | none => rfl
  | some m =>
    have hterm : termOf? ⟨p, template⟩ number tables m = termOf? ⟨p, template'⟩ number tables m := by
      rw [termOf?, termOf?, h m hsearch]
    rw [Option.map_some, Option.map_some, hterm]

theorem apply_congr_of_select? (h : ∀ k, template.select? k = template'.select? k) :
    apply ⟨p, template⟩ number tables code = apply ⟨p, template'⟩ number tables code :=
  apply_congr fun m _ => by simp only [replacementText, h]; rfl

/-- A rule does what it would do if it had nothing but the replacement that is selected. -/
theorem apply_eq_direct {m : Match} {replacement : Replacement} (hm : p.search? code = some m)
    (h : template.select? (Legs.ofCode m.text).balance = some replacement) :
    apply ⟨p, template⟩ number tables code = apply ⟨p, .direct replacement⟩ number tables code := by
  refine apply_congr fun m' hm' => ?_
  obtain rfl := Option.some.inj (hm.symm.trans hm')
  simp only [replacementText, h]
  rfl

/-- Where nothing is selected a match replaces itself. -/
theorem apply_eq_literal {m : Match} (hm : p.search? code = some m)
    (h : template.select? (Legs.ofCode m.text).balance = none) :
    apply ⟨p, template⟩ number tables code =
      apply ⟨p, .direct [.literal m.text]⟩ number tables code := by
  refine apply_congr fun m' hm' => ?_
  obtain rfl := Option.some.inj (hm.symm.trans hm')
  simp only [replacementText, h]
  exact (List.append_nil m.text).symm

/-- **Which branch counts.** Later branches of the same key may be left out, and where the checks
report no key of two branches the branches may stand in any order. A match selects the first branch
that names its balance, otherwise the first one that asks for the sign of it, and if there is neither
it is replaced by itself. -/
theorem apply_conditional (p : Pattern) (branches : List Branch) (ignored : Text) (number : Nat)
    (tables : Tables) (code : Text) :
    apply ⟨p, .conditional (withoutRepeated [] branches) ignored⟩ number tables code =
        apply ⟨p, .conditional branches ignored⟩ number tables code ∧
    (∀ (dialect : Pattern.Dialect) definitions n pattern,
      Definition.IsRule definitions n pattern (.conditional branches ignored) →
      dialect.read pattern = .ok p →
        (∀ key, .duplicateBranch n key ∉ Lint.warnings dialect definitions) →
          ∀ branches', branches.Perm branches' →
            apply ⟨p, .conditional branches' ignored⟩ number tables code =
              apply ⟨p, .conditional branches ignored⟩ number tables code) ∧
    ∀ m, p.search? code = some m → ∀ k, k = (Legs.ofCode m.text).balance →
      (∀ branch, IsFirst branches (.exact k) branch →
        apply ⟨p, .conditional branches ignored⟩ number tables code =
          apply ⟨p, .direct branch.replacement⟩ number tables code) ∧
      ((∀ branch ∈ branches, branch.key ≠ .exact k) →
        (∀ branch, IsFirst branches (.ofSign k) branch →
          apply ⟨p, .conditional branches ignored⟩ number tables code =
            apply ⟨p, .direct branch.replacement⟩ number tables code) ∧
        ((∀ branch ∈ branches, branch.key ≠ .ofSign k) →
          apply ⟨p, .conditional branches ignored⟩ number tables code =
            apply ⟨p, .direct [.literal m.text]⟩ number tables code)) := by
  refine ⟨?_, fun dialect definitions n pattern hrule hread hnone branches' hperm => ?_,
    fun m hm k hk => ?_⟩
  · exact apply_congr_of_select? fun _ =>
      select?_congr fun _ => branch?_withoutRepeated List.not_mem_nil
  · have hnodup := Lint.nodup_keys_of_notMem_warnings hrule hread hnone
    exact apply_congr_of_select? fun _ => select?_congr fun _ => (branch?_perm hperm hnodup).symm
  · subst hk
    refine ⟨fun branch hfirst => ?_, fun hexact => ⟨fun branch hfirst => ?_, fun hsign => ?_⟩⟩
    · exact apply_eq_direct hm (select?_of_exact (branch?_of_isFirst hfirst))
    · apply apply_eq_direct hm
      rw [select?_of_not_exact (branch?_eq_none hexact), branch?_of_isFirst hfirst]
    · apply apply_eq_literal hm
      rw [select?_of_not_exact (branch?_eq_none hexact), branch?_eq_none hsign]

/-- Two branches for a sibling of a parent: one for the sign of the balance and one that names it. -/
def uncleBranches : List Branch :=
  [⟨.greater, [.literal "PG".toList]⟩, ⟨.exact 1, [.literal ['P'], .group (.index 1)]⟩]

/-- The rule of the two branches, and a phrase for what each of them leads to. -/
def uncleDefinitions : List Definition :=
  [.term "PB".toList [.literal "uncle".toList], .term "PG".toList [.literal "uncle or aunt".toList],
    .rule "P(B|Z)".toList (.conditional uncleBranches [])]

/-- The branch that names the balance counts, wherever it stands: the phrase is not the one that the
other branch leads to. -/
theorem apply_conditional_uncle :
    ∃ p tables, Pattern.Dialect.builtIn.read "P(B|Z)".toList = .ok p ∧
      Tables.ofDefinitions .builtIn uncleDefinitions = .ok tables ∧
      (∀ key, .duplicateBranch 1 key ∉ Lint.warnings .builtIn uncleDefinitions) ∧
      apply ⟨p, .conditional uncleBranches.reverse []⟩ 1 tables "PB".toList =
        apply ⟨p, .conditional uncleBranches []⟩ 1 tables "PB".toList ∧
      apply ⟨p, .conditional uncleBranches []⟩ 1 tables "PB".toList =
        apply ⟨p, .direct [.literal ['P'], .group (.index 1)]⟩ 1 tables "PB".toList ∧
      apply ⟨p, .direct [.literal ['P'], .group (.index 1)]⟩ 1 tables "PB".toList =
        some (.resolved [] ⟨"PB".toList, "uncle".toList, .rule 1 "PB".toList⟩ []) ∧
      apply ⟨p, .direct [.literal "PG".toList]⟩ 1 tables "PB".toList =
        some (.resolved [] ⟨"PB".toList, "uncle or aunt".toList, .rule 1 "PG".toList⟩ []) := by
  obtain ⟨p, tables, m, hread, hload, hm, htext, huncle, hother⟩ : ∃ p tables m,
      Pattern.Dialect.builtIn.read "P(B|Z)".toList = .ok p ∧
      Tables.ofDefinitions .builtIn uncleDefinitions = .ok tables ∧
      p.search? "PB".toList = some m ∧ m.text = "PB".toList ∧
      apply ⟨p, .direct [.literal ['P'], .group (.index 1)]⟩ 1 tables "PB".toList =
        some (.resolved [] ⟨"PB".toList, "uncle".toList, .rule 1 "PB".toList⟩ []) ∧
      apply ⟨p, .direct [.literal "PG".toList]⟩ 1 tables "PB".toList =
        some (.resolved [] ⟨"PB".toList, "uncle or aunt".toList, .rule 1 "PG".toList⟩ []) :=
    ⟨_, _, _, rfl, rfl, rfl, rfl, by decide +kernel, by decide +kernel⟩
  have hnone : ∀ key, .duplicateBranch 1 key ∉ Lint.warnings .builtIn uncleDefinitions := by
    have hwarnings : Lint.warnings .builtIn uncleDefinitions = [] := by decide +kernel
    exact fun key => hwarnings ▸ List.not_mem_nil
  have hbalance : (1 : Int) = (Legs.ofCode m.text).balance := by
    rw [htext]
    decide
  obtain ⟨-, hperm, hselect⟩ := apply_conditional p uncleBranches [] 1 tables "PB".toList
  refine ⟨p, tables, hread, hload, hnone, ?_, ?_, huncle, hother⟩
  · exact hperm .builtIn uncleDefinitions 1 _ ⟨uncleDefinitions.take 2, [], rfl, rfl⟩ hread hnone _
      (List.reverse_perm uncleBranches).symm
  · exact (hselect m hm 1 hbalance).1 ⟨.exact 1, _⟩
      ⟨[⟨.greater, [.literal "PG".toList]⟩], [], rfl, rfl, by decide⟩

end Rule

end Kindred
