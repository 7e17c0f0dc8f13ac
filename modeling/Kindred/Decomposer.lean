import Kindred.Proofs.Decomposition.Cuts

/-!
# Decomposers

A decomposer decomposes one code after the other. It counts the cuts that it is inside of, so as to
leave what lies deeper than its bound as it is, and all that it does shares this one count: it goes
up before a code is resolved and down again behind it, and in between the decomposer calls itself
for what is left and right of a cut, by a rule or before a spouse, the latter also in the middle of
peeling suffixes. It ends because no cut leaves a side as long as the code.
-/

namespace Kindred

/-- Something that decomposes codes one after the other. -/
structure Decomposer where
  /-- What is looked up. -/
  tables : Tables
  /-- How deeply cuts may be nested. -/
  bound : Nat
  /-- How many cuts the decomposer is inside of. -/
  depth : Nat

namespace Decomposer

/-- A fresh decomposer, inside of no cut. -/
def ofTables (tables : Tables) (bound : Nat) : Decomposer := ⟨tables, bound, 0⟩

/-- Something that a decomposer does. It may change the decomposer, and it gives nothing if it comes
out of a cut that the decomposer is not inside of. -/
abbrev Action := StateT Decomposer Option

/-- Going one cut deeper. The depth is below the bound then, so that it stays within the bound. -/
def enter : Action Unit :=
  modify fun decomposer => { decomposer with depth := decomposer.depth + 1 }

/-- Coming out of a cut. -/
def leave : Action Unit := do
  let decomposer ← get
  match decomposer.depth with
  | 0 => failure
  | depth + 1 => set { decomposer with depth }

mutual

/-- The terms of a code. `useRules` says whether rules are tried on the code itself; they always are
on what is left and right of a cut. -/
def decompose (useRules : Bool) (code : Text) : Action (List Term) := do
  if code.isEmpty then return []
  let decomposer ← get
  if decomposer.bound ≤ decomposer.depth then return [.literal code]
  enter
  let terms ← resolve useRules code
  leave
  return terms
termination_by (code.length, 4)

/-- The terms of a code by the first way that succeeds. -/
def resolve (useRules : Bool) (code : Text) : Action (List Term) := do
  if let some term := (← get).tables.direct? code then return [term]
  if useRules then
    if let some terms ← splitAround? code then return terms
  resolveWithoutRules code
termination_by (code.length, 3)

/-- The terms of a code that has no phrase itself, without rules. -/
def resolveWithoutRules (code : Text) : Action (List Term) := do
  if let some terms ← splitBetween? code then return terms
  growSuffix [] code
termination_by (code.length, 2)

/-- The terms of a code for a part of which a rule has a phrase. -/
def splitAround? (code : Text) : Action (Option (List Term)) := do
  let decomposer ← get
  match _hcut : decomposer.tables.firstResolved? code with
  | none => return none
  | some (before, term, after) =>
    let left ← decompose true before
    let right ← decompose true after
    return some (left ++ term :: right)
termination_by (code.length, 0)
decreasing_by
  · exact .left _ _ (Tables.length_lt_of_firstResolved? _hcut).1
  · exact .left _ _ (Tables.length_lt_of_firstResolved? _hcut).2

/-- The terms of a code that can be cut before its last letter for a spouse. -/
def splitBetween? (code : Text) : Action (Option (List Term)) := do
  match _hcut : Tables.marriageCut? code with
  | none => return none
  | some (before, after) =>
    let left ← decompose true before
    let right ← decompose true after
    return some (left ++ right)
termination_by (code.length, 0)
decreasing_by
  · exact .left _ _ (Tables.length_lt_of_marriageCut? _hcut).1
  · exact .left _ _ (Tables.length_lt_of_marriageCut? _hcut).2

/-- The terms of a code of which suffixes that have phrases are peeled off, the longest first. The
terms peeled so far are `peeled`, the leftmost first. -/
def growSuffix (peeled : List Term) (code : Text) : Action (List Term) := do
  let decomposer ← get
  match _hsuffix : decomposer.tables.directSuffix? code with
  | none => return .literal code :: peeled
  | some (before, term) =>
    if before.isEmpty then return term :: peeled
    if let some first := decomposer.tables.direct? before then return first :: term :: peeled
    if let some terms ← splitBetween? before then return terms ++ term :: peeled
    growSuffix (term :: peeled) before
termination_by (code.length, 1)
decreasing_by
  · exact .left _ _ (Tables.directSuffix?_eq_some _hsuffix).length_lt
  · exact .left _ _ (Tables.directSuffix?_eq_some _hsuffix).length_lt

end

/-- What a decomposer is called with. -/
structure Call where
  /-- The code to decompose. -/
  code : Text
  /-- Whether rules are tried on the code itself. -/
  useRules : Bool

/-- The terms of the code that a decomposer is called with. -/
def answer (call : Call) : Action (List Term) := decompose call.useRules call.code

/-- What one decomposer answers to calls that are made one after the other. -/
def answers (calls : List Call) : Action (List (List Term)) := calls.mapM answer

end Decomposer

end Kindred
