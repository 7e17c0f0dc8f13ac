import Kindred.Decomposer
import Mathlib.Data.List.Forall2

/-!
# Calls of one decomposer

A decomposer counts the cuts that it is inside of, and this count is all that a call could leave
behind for the next one. `Gives` says of an action that it does not fail, what it gives, and that it
leaves the decomposer as it was; one action after the other gives what the second gives
(`Gives.bind`), and an action inside of a cut gives what it gives one cut deeper (`Gives.nested`).
From these, function by function, a decomposer gives for a code the terms within the part of its
bound that is left (`gives_decompose`): the sides of a cut are shorter than the code, so that the
induction is on its length, and each of them finds the decomposer at the depth at which the one
before has found it.

**`run_answers` is the main statement**: the answers of one decomposer are those of fresh ones.
-/

namespace Kindred

namespace Decomposer

variable {α β : Type} {decomposer : Decomposer}

/-! ## Actions that leave the decomposer as it was -/

theorem run_bind_of_run {other : Decomposer} {action : Action α} {value : α}
    (h : action.run decomposer = some (value, other)) (next : α → Action β) :
    (action >>= next).run decomposer = (next value).run other := by
  rw [StateT.run_bind, h]
  rfl

/-- The action gives the value and leaves the decomposer as it was. -/
def Gives (action : Action α) (decomposer : Decomposer) (value : α) : Prop :=
  action.run decomposer = some (value, decomposer)

/-- The decomposer inside of one more cut. -/
def deeper (decomposer : Decomposer) : Decomposer :=
  { decomposer with depth := decomposer.depth + 1 }

namespace Gives

theorem pure (value : α) : Gives (Pure.pure value) decomposer value := rfl

theorem bind {action : Action α} {next : α → Action β} {value : α} {result : β}
    (h : Gives action decomposer value) (h' : Gives (next value) decomposer result) :
    Gives (action >>= next) decomposer result :=
  (run_bind_of_run h next).trans h'

theorem get : Gives MonadState.get decomposer decomposer := rfl

/-- What is done inside of a cut finds the decomposer one cut deeper, and the decomposer comes out
of the cut again. -/
theorem nested {action : Action α} {value : α} (h : Gives action decomposer.deeper value) :
    Gives (do enter; let value ← action; leave; return value) decomposer value :=
  calc
    (enter >>= fun _ => action >>= fun value => leave >>= fun _ => Pure.pure value).run decomposer
    _ = (action >>= fun value => leave >>= fun _ => Pure.pure value).run decomposer.deeper :=
      run_bind_of_run rfl _
    _ = (leave >>= fun _ => Pure.pure value).run decomposer.deeper := run_bind_of_run h _
    _ = some (value, decomposer) := run_bind_of_run rfl _

theorem mapM {action : α → Action β} {value : α → β} {l : List α}
    (h : ∀ x ∈ l, Gives (action x) decomposer (value x)) :
    Gives (l.mapM action) decomposer (l.map value) := by
  induction l with
  | nil => exact pure []
  | cons x l ih =>
    rw [List.mapM_cons]
    have hrest := ih fun y hy => h y (List.mem_cons_of_mem x hy)
    exact (h x List.mem_cons_self).bind (hrest.bind (pure _))

end Gives

/-! ## The ways to decompose a code -/

section Ways

/-- For texts that are shorter than the code, the decomposer gives the terms that `split` has. -/
def SplitsBy (decomposer : Decomposer) (split : Text → List Term) (code : Text) : Prop :=
  ∀ side : Text, side.length < code.length → Gives (decompose true side) decomposer (split side)

variable {split : Text → List Term} {code : Text}

theorem SplitsBy.of_length_lt {side : Text} (h : decomposer.SplitsBy split code)
    (hside : side.length < code.length) : decomposer.SplitsBy split side :=
  fun text htext => h text (Nat.lt_trans htext hside)

theorem gives_splitAround? (hsides : decomposer.SplitsBy split code) :
    Gives (splitAround? code) decomposer
      ((decomposer.tables.firstResolved? code).map fun (before, term, after) =>
        split before ++ term :: split after) := by
  rw [splitAround?]
  refine .bind .get ?_
  split
  · rename_i hfound
    rw [hfound]
    exact .pure none
  · rename_i before term after hfound
    obtain ⟨hbefore, hafter⟩ := Tables.length_lt_of_firstResolved? hfound
    rw [hfound]
    exact .bind (hsides before hbefore) (.bind (hsides after hafter) (.pure _))

theorem gives_splitBetween? (hsides : decomposer.SplitsBy split code) :
    Gives (splitBetween? code) decomposer
      ((Tables.marriageCut? code).map fun (before, after) => split before ++ split after) := by
  rw [splitBetween?]
  split
  · rename_i hfound
    rw [hfound]
    exact .pure none
  · rename_i before after hfound
    obtain ⟨hbefore, hafter⟩ := Tables.length_lt_of_marriageCut? hfound
    rw [hfound]
    exact .bind (hsides before hbefore) (.bind (hsides after hafter) (.pure _))

/-- The loop that peels suffixes ends within as many rounds as the code has letters. -/
theorem gives_growSuffix {rounds : Nat} {peeled : List Term} (hrounds : code.length ≤ rounds)
    (hsides : decomposer.SplitsBy split code) :
    Gives (growSuffix peeled code) decomposer
      (decomposer.tables.peel split rounds peeled code) := by
  induction rounds generalizing peeled code with
  | zero =>
    obtain rfl := List.length_eq_zero_iff.1 (Nat.le_zero.1 hrounds)
    rw [growSuffix]
    exact .bind .get (.pure _)
  | succ rounds ih =>
    rw [growSuffix, Tables.peel]
    refine .bind .get ?_
    split
    · rename_i hsuffix
      rw [hsuffix]
      exact .pure _
    · rename_i before term hsuffix
      have hlt := (Tables.directSuffix?_eq_some hsuffix).length_lt
      have hbefore : decomposer.SplitsBy split before := hsides.of_length_lt hlt
      rw [hsuffix]
      cases before with
      | nil => exact .pure _
      | cons letter rest =>
        simp only [List.isEmpty_cons, Bool.false_eq_true, if_false]
        cases decomposer.tables.direct? (letter :: rest) with
        | some first => exact .pure _
        | none =>
          refine .bind (gives_splitBetween? hbefore) ?_
          cases Tables.marriageCut? (letter :: rest) with
          | some sides => exact .pure _
          | none => exact ih (by omega) hbefore

theorem gives_resolveWithoutRules (hdirect : decomposer.tables.direct? code = none)
    (hsides : decomposer.SplitsBy split code) :
    Gives (resolveWithoutRules code) decomposer
      (decomposer.tables.resolve split false code) := by
  rw [resolveWithoutRules, Tables.resolve, hdirect]
  refine .bind (gives_splitBetween? hsides) ?_
  cases Tables.marriageCut? code with
  | some sides => exact .pure _
  | none => exact gives_growSuffix (Nat.le_refl _) hsides

theorem gives_resolve {useRules : Bool} (hsides : decomposer.SplitsBy split code) :
    Gives (resolve useRules code) decomposer (decomposer.tables.resolve split useRules code) := by
  rw [resolve]
  refine .bind .get ?_
  cases hdirect : decomposer.tables.direct? code with
  | some term =>
    rw [Tables.resolve, hdirect]
    exact .pure _
  | none =>
    have hrest := gives_resolveWithoutRules hdirect hsides
    cases useRules with
    | false => exact hrest
    | true =>
      refine .bind (gives_splitAround? hsides) ?_
      rw [Tables.resolve, hdirect] at hrest ⊢
      cases decomposer.tables.firstResolved? code with
      | some found => exact .pure _
      | none => exact hrest

end Ways

/-! ## Calls -/

/-- A decomposer gives the terms of a code within what is left of its bound, at whatever depth. -/
theorem gives_decompose (decomposer : Decomposer) (useRules : Bool) (code : Text) :
    Gives (decompose useRules code) decomposer
      (decomposer.tables.decompose (decomposer.bound - decomposer.depth) useRules code) := by
  induction hn : code.length using Nat.strongRecOn generalizing decomposer useRules code with
  | ind n ih =>
    rw [decompose]
    by_cases hcode : code = []
    · rw [hcode, Tables.decompose_nil]
      exact .pure []
    · rw [if_neg (by simpa using hcode)]
      refine .bind .get ?_
      by_cases hdepth : decomposer.bound ≤ decomposer.depth
      · rw [if_pos hdepth, Nat.sub_eq_zero_of_le hdepth, Tables.decompose_zero _ _ hcode]
        exact .pure _
      · -- one cut deeper, one less is left of the bound
        have hleft : decomposer.bound - decomposer.depth =
            decomposer.deeper.bound - decomposer.deeper.depth + 1 := by
          simp only [deeper]
          omega
        rw [if_neg hdepth, hleft, Tables.decompose_succ _ _ _ hcode]
        refine .nested (gives_resolve fun side hside => ?_)
        exact ih side.length (hn ▸ hside) decomposer.deeper true side rfl

/-- **A decomposer carries nothing from one call to the next.** A call gives the terms within what
is left of the bound and leaves the decomposer as it was, at whatever depth that is. When calls are
made to one decomposer one after the other, then after any number of them it is as a fresh one, and
each call is answered as a fresh one answers it, by the terms of the code within the bound. -/
theorem run_answers (tables : Tables) (bound : Nat) (calls : List Call) :
    (∀ (decomposer : Decomposer) (call : Call),
      (answer call).run decomposer =
        some (decomposer.tables.decompose (decomposer.bound - decomposer.depth) call.useRules
          call.code, decomposer)) ∧
    ∃ results : List (List Term),
      (∀ n, (answers (calls.take n)).run (ofTables tables bound) =
        some (results.take n, ofTables tables bound)) ∧
      List.Forall₂ (fun call terms =>
        (answer call).run (ofTables tables bound) = some (terms, ofTables tables bound) ∧
          terms = tables.decompose bound call.useRules call.code) calls results := by
  have hanswer (decomposer : Decomposer) (call : Call) : Gives (answer call) decomposer
      (decomposer.tables.decompose (decomposer.bound - decomposer.depth) call.useRules call.code) :=
    gives_decompose decomposer call.useRules call.code
  refine ⟨hanswer, calls.map fun call => tables.decompose bound call.useRules call.code,
    fun n => ?_, ?_⟩
  · rw [← List.map_take]
    exact Gives.mapM fun call _ => hanswer (ofTables tables bound) call
  · rw [List.forall₂_map_right_iff, List.forall₂_same]
    exact fun call _ => ⟨hanswer (ofTables tables bound) call, rfl⟩

end Decomposer

end Kindred
