import Kindred.Proofs.Decomposition.Origins

/-!
# Rules without effect

A rule that has no phrase for any piece of a code has no effect on the decomposition of the code:
it is asked for many pieces on every level, but it neither cuts them nor keeps the rules behind it
from being asked. Only the numbers of those rules change, and with them the origins of terms
(`Term.shift`).

The search among the rules passes over such a rule (`firstResolved?_insertRule`), so every piece is cut
in the same place (`cut_insertRule`), and by induction along the cuts, all of whose pieces are pieces of
the code, **the decompositions are the same but for the numbers of rules** (`decompose_insertRule`).
-/

namespace Kindred

/-! ## Numbers of rules -/

/-- An origin with the rules behind the first `i` counted one further. -/
def Origin.shift (i : Nat) : Origin → Origin
  | .rule number key => .rule (if i < number then number + 1 else number) key
  | .direct key => .direct key
  | .literal => .literal

/-- A term with the rules behind the first `i` counted one further. -/
def Term.shift (i : Nat) (term : Term) : Term := { term with origin := term.origin.shift i }

/-- A cut with the rules behind the first `i` counted one further. -/
def Cut.shift (i : Nat) : Cut → Cut
  | .whole term => .whole (term.shift i)
  | .around before term after => .around before (term.shift i) after
  | .between left right => .between left right
  | .behind before term => .behind before (term.shift i)
  | .nowhere => .nowhere

namespace Rule

variable {i m n : Nat}

/-- What a rule makes of a code under another number. -/
theorem resolve?_shift (rule : Rule) (tables : Tables) (code : Text)
    (hm : m = if i < n then n + 1 else n) :
    rule.resolve? m tables code =
      (rule.resolve? n tables code).map (Prod.map id (Prod.map (Term.shift i) id)) := by
  have hterm : ∀ found, rule.termOf? m tables found =
      (rule.termOf? n tables found).map (Term.shift i) := by
    intro found
    rw [termOf?, termOf?, Option.map_map, hm]
    rfl
  unfold resolve? apply
  cases rule.pattern.search? code with
  | none => rfl
  | some found =>
    rw [Option.map_some, Option.map_some, hterm]
    cases rule.termOf? n tables found with
    | none => rfl
    | some term => rfl

end Rule

namespace Tables

variable {tables : Tables} {rule : Rule} {code : Text} {term : Term} {i : Nat}

/-- Tables with one more rule, behind the first `i`. -/
def insertRule (tables : Tables) (i : Nat) (rule : Rule) : Tables :=
  { tables with rules := tables.rules.take i ++ rule :: tables.rules.drop i }

/-! ## Searches -/

theorem shift_of_direct? (h : tables.direct? code = some term) : term.shift i = term := by
  obtain ⟨key, hkey⟩ := exists_origin_of_direct? h
  rw [Term.shift, hkey, Origin.shift, ← hkey]

theorem direct?_insertRule : (tables.insertRule i rule).direct? code = tables.direct? code := rfl

theorem directSuffix?_insertRule :
    (tables.insertRule i rule).directSuffix? code = tables.directSuffix? code := by
  induction code with
  | nil => rfl
  | cons letter rest ih => rw [directSuffix?, directSuffix?, ih, direct?_insertRule]

/-- What the first of several rules that has a phrase for a code makes of it, where `k` rules stand
before them. -/
def firstResolvedFrom? (tables : Tables) (code : Text) (k : Nat) (rules : List Rule) :
    Option (Text × Term × Text) :=
  (rules.zipIdx k).findSome? fun (rule, j) => rule.resolve? (j + 1) tables code

theorem firstResolvedFrom?_cons (tables : Tables) (code : Text) (k : Nat) (rule : Rule)
    (rules : List Rule) :
    tables.firstResolvedFrom? code k (rule :: rules) =
      (rule.resolve? (k + 1) tables code).or (tables.firstResolvedFrom? code (k + 1) rules) := by
  rw [firstResolvedFrom?, List.zipIdx_cons, List.findSome?_cons]
  cases h : rule.resolve? (k + 1) tables code with
  | none => simp only [h, Option.none_or, firstResolvedFrom?]
  | some found => simp only [h, Option.some_or]

/-- Rules behind the first `i` count one more if a rule is put before them. -/
theorem firstResolvedFrom?_succ {k : Nat} (hk : i ≤ k) (rules : List Rule) :
    tables.firstResolvedFrom? code (k + 1) rules =
      (tables.firstResolvedFrom? code k rules).map
        (Prod.map id (Prod.map (Term.shift i) id)) := by
  induction rules generalizing k with
  | nil => rfl
  | cons first rules ih =>
    have hlt : i < k + 1 := by omega
    have hfirst := Rule.resolve?_shift first tables code (if_pos hlt).symm
    rw [firstResolvedFrom?_cons, firstResolvedFrom?_cons, Option.map_or, hfirst,
      ih (Nat.le_succ_of_le hk)]

theorem firstResolvedFrom?_insert {k : Nat} {earlier : List Rule} (later : List Rule)
    (hi : k + earlier.length = i) (hsilent : rule.resolve? (i + 1) tables code = none) :
    tables.firstResolvedFrom? code k (earlier ++ rule :: later) =
      (tables.firstResolvedFrom? code k (earlier ++ later)).map
        (Prod.map id (Prod.map (Term.shift i) id)) := by
  induction earlier generalizing k with
  | nil =>
    obtain rfl : k = i := hi
    rw [List.nil_append, List.nil_append, firstResolvedFrom?_cons, hsilent, Option.none_or,
      firstResolvedFrom?_succ (Nat.le_refl k)]
  | cons first earlier ih =>
    rw [List.length_cons] at hi
    -- the rules before the new one keep their numbers
    have hlt : ¬ i < k + 1 := by omega
    have hfirst := Rule.resolve?_shift first tables code (if_neg hlt).symm
    rw [List.cons_append, List.cons_append, firstResolvedFrom?_cons, firstResolvedFrom?_cons,
      Option.map_or, ← hfirst, ih (by omega)]

/-- **The search passes over a rule that has no phrase for a code.** -/
theorem firstResolved?_insertRule (hi : i ≤ tables.rules.length)
    (hsilent : rule.resolve? (i + 1) tables code = none) :
    (tables.insertRule i rule).firstResolved? code =
      (tables.firstResolved? code).map (Prod.map id (Prod.map (Term.shift i) id)) := by
  have hlength : 0 + (tables.rules.take i).length = i := by
    rw [List.length_take_of_le hi, Nat.zero_add]
  have hinsert := firstResolvedFrom?_insert (tables.rules.drop i) hlength hsilent
  rw [List.take_append_drop] at hinsert
  exact hinsert

/-! ## Cuts and decompositions -/

theorem cut_insertRule (hi : i ≤ tables.rules.length)
    (hsilent : rule.resolve? (i + 1) tables code = none) (useRules : Bool) :
    (tables.insertRule i rule).cut useRules code = (tables.cut useRules code).shift i := by
  have hrules : (if useRules then (tables.insertRule i rule).firstResolved? code else none) =
      (if useRules then tables.firstResolved? code else none).map
        (Prod.map id (Prod.map (Term.shift i) id)) := by
    cases useRules with
    | false => rfl
    | true => exact firstResolved?_insertRule hi hsilent
  unfold cut
  rw [direct?_insertRule, directSuffix?_insertRule, hrules]
  cases hdirect : tables.direct? code with
  | some term => exact congrArg Cut.whole (shift_of_direct? hdirect).symm
  | none =>
    cases (if useRules then tables.firstResolved? code else none) with
    | some found => rfl
    | none =>
      cases marriageCut? code with
      | some sides => rfl
      | none =>
        cases hsuffix : tables.directSuffix? code with
        | none => rfl
        | some found =>
          have hterm : found.2.shift i = found.2 :=
            shift_of_direct? (directSuffix?_eq_some hsuffix).direct
          exact congrArg (Cut.behind found.1) hterm.symm

/-- The rule has no phrase for any piece of a code. -/
def IsSilent (tables : Tables) (number : Nat) (rule : Rule) (code : Text) : Prop :=
  ∀ text, text <:+: code → ∀ before term after,
    rule.apply number tables text ≠ some (.resolved before term after)

theorem IsSilent.mono {number : Nat} {part : Text} (h : tables.IsSilent number rule code)
    (hpart : part <:+: code) : tables.IsSilent number rule part :=
  fun text htext => h text (htext.trans hpart)

theorem IsSilent.resolve? {number : Nat} (h : tables.IsSilent number rule code) :
    rule.resolve? number tables code = none :=
  Rule.resolve?_eq_none_iff.2 (h code (List.infix_refl code))

theorem decomposeRecursively_insertRule (hi : i ≤ tables.rules.length) (limit : Option Nat)
    (useRules : Bool) (hsilent : tables.IsSilent (i + 1) rule code) :
    (tables.insertRule i rule).decomposeRecursively limit useRules code =
      (tables.decomposeRecursively limit useRules code).map (Term.shift i) := by
  have hcuts : ∀ {useRules code cut}, tables.IsSilent (i + 1) rule code →
      tables.cut useRules code = cut →
        (tables.insertRule i rule).cut useRules code = cut.shift i ∧ cut.IsOf code :=
    fun {useRules code cut} hsilent h =>
      h ▸ ⟨cut_insertRule hi hsilent.resolve? useRules, tables.cut_isOf useRules code⟩
  fun_induction decomposeRecursively tables limit useRules code with
  | case1 => exact decomposeRecursively_nil ..
  | case2 useRules code hcode => exact decomposeRecursively_zero _ _ hcode
  | case3 limit useRules code hcode hlimit term hcut =>
    rw [decomposeRecursively_eq_cut hcode hlimit, (hcuts hsilent hcut).1]
    rfl
  | case4 limit useRules code hcode hlimit before term after hcut ihbefore ihafter =>
    obtain ⟨hshift, hisOf, -⟩ := hcuts hsilent hcut
    have hbefore : before <:+: code := ⟨[], term.fragment ++ after, by simp [hisOf]⟩
    have hafter : after <:+: code := ⟨before ++ term.fragment, [], by simp [hisOf]⟩
    rw [decomposeRecursively_eq_cut hcode hlimit, hshift, List.map_append, List.map_cons,
      ← ihbefore (hsilent.mono hbefore), ← ihafter (hsilent.mono hafter)]
    rfl
  | case5 limit useRules code hcode hlimit left right hcut ihleft ihright =>
    obtain ⟨hshift, hisOf, -⟩ := hcuts hsilent hcut
    have hleft : left <:+: code := ⟨[], right, hisOf.symm⟩
    have hright : right <:+: code := ⟨left, [], by simp [hisOf]⟩
    rw [decomposeRecursively_eq_cut hcode hlimit, hshift, List.map_append,
      ← ihleft (hsilent.mono hleft), ← ihright (hsilent.mono hright)]
    rfl
  | case6 limit useRules code hcode hlimit before term hcut ih =>
    obtain ⟨hshift, hisOf, -⟩ := hcuts hsilent hcut
    have hbefore : before <:+: code := ⟨[], term.fragment, hisOf.symm⟩
    rw [decomposeRecursively_eq_cut hcode hlimit, hshift, List.map_append,
      ← ih (hsilent.mono hbefore)]
    rfl
  | case7 limit useRules code hcode hlimit hcut =>
    rw [decomposeRecursively_eq_cut hcode hlimit, (hcuts hsilent hcut).1]
    rfl

/-- **A rule that has no phrase for any piece of a code changes nothing but numbers.** Wherever it is
put among the rules and within every bound, the terms are those without it, and only the origins that
name a rule behind it count one more. -/
theorem decompose_insertRule (tables : Tables) (rule : Rule) (i : Nat)
    (hi : i ≤ tables.rules.length) (code : Text) (hsilent : tables.IsSilent (i + 1) rule code)
    (bound : Nat) (useRules : Bool) :
    (tables.insertRule i rule).decompose bound useRules code =
      (tables.decompose bound useRules code).map (Term.shift i) := by
  rw [decompose_eq_decomposeRecursively, decompose_eq_decomposeRecursively,
    decomposeRecursively_insertRule hi _ _ hsilent]

/-- A rule for wives that leads to a key without a phrase. -/
def queenRule : Rule := ⟨⟨['W'], .one (.single 'W'), []⟩, .direct [.literal "queen".toList]⟩

theorem isSilent_queenRule (code : Text) : household.IsSilent 1 queenRule code := by
  have hterm : ∀ m, queenRule.termOf? 1 household m = none := by
    intro m
    have htext : queenRule.replacementText m = "queen".toList := rfl
    have hkey : Replacement.splitKey "queen".toList = ("queen".toList, none) := by decide
    have hnone : household.term? "queen".toList = none := by decide
    rw [Rule.termOf?, htext, hkey]
    simp only [hnone, Option.map_none]
  intro text _ before term after happly
  obtain ⟨m, -, hm⟩ := Option.map_eq_some_iff.1 happly
  rw [hterm m] at hm
  cases hm

/-- It matches and has no phrase; the rule for brothers, then the second, cuts the code as before. -/
theorem decompose_insertRule_queen :
    0 ≤ household.rules.length ∧ household.IsSilent 1 queenRule ['W', 'F', 'S', 'F'] ∧
      queenRule.apply 1 household ['W', 'F', 'S', 'F'] =
        some (.passedOver [] ['W'] ['F', 'S', 'F']) ∧
      (household.insertRule 0 queenRule).decompose 2 true ['W', 'F', 'S', 'F'] =
        [⟨['W'], "wife".toList, .direct ['W']⟩,
          ⟨['F', 'S'], "brother".toList, .rule 2 "brother".toList⟩,
          ⟨['F'], "father".toList, .direct ['F']⟩] := by
  refine ⟨Nat.zero_le _, isSilent_queenRule _, by decide +kernel, ?_⟩
  rw [decompose_insertRule household queenRule 0 (Nat.zero_le _) _ (isSilent_queenRule _) 2 true]
  decide

end Tables

end Kindred
