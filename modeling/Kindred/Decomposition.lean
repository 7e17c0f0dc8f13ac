import Kindred.Rule.Application

/-!
# Decomposition

A code is broken down into terms by the first of these ways that succeeds:

* the code itself or one of its neutral forms has a phrase;
* a rule has a phrase for a part of it, and what is left and right of that part is decomposed;
* it is cut before the last letter for a spouse, and both sides are decomposed;
* suffixes that have phrases are peeled off from the right, the longest first.

What nothing is found for is a term of its own text. Cuts by rules and before spouses may be nested
up to a bound; what lies deeper is not broken down any more. The fragments of the terms, put
together in order, are the code.
-/

namespace Kindred

namespace Tables

/-! ## Direct phrases -/

/-- The keys under which a code may have a phrase: the code, the code with all letters but the last
made neutral, and the code with all letters made neutral. -/
def directKeys (code : Text) : List Text :=
  [code, Code.neutralize code (code.length - 1), Code.neutralize code code.length]

/-- The term of a code that has a phrase under one of its keys. -/
def direct? (tables : Tables) (code : Text) : Option Term :=
  (directKeys code).findSome? fun key =>
    (tables.term? key).map fun template =>
      ⟨code, template.fillDegrees (.between code code) tables.ordinals, .direct key⟩

/-- The longest suffix of a code that has a phrase: the text before it, and its term. -/
def directSuffix? (tables : Tables) : Text → Option (Text × Term)
  | [] => none
  | letter :: rest =>
    match tables.direct? (letter :: rest) with
    | some term => some ([], term)
    | none => (directSuffix? tables rest).map fun (before, term) => (letter :: before, term)

/-! ## Cuts -/

/-- The two sides of the cut before the last letter for a spouse, unless that letter comes first. -/
def marriageCut? (code : Text) : Option (Text × Text) :=
  let kept := code.reverse.takeWhile fun letter => !Code.makes .spouse letter
  let last := code.length - kept.length - 1
  if last = 0 then none else some (code.take last, code.drop last)

/-! ## Ways to decompose -/

/-- The terms of a code that is peeled from the right: the peeled terms so far are `peeled`, the
leftmost first, and `split` decomposes a side of a cut. Every round peels a letter at least, so
that `rounds` may be the length of the code. -/
def peel (tables : Tables) (split : Text → List Term) :
    (rounds : Nat) → (peeled : List Term) → Text → List Term
  | 0, peeled, code => .literal code :: peeled
  | rounds + 1, peeled, code =>
    match tables.directSuffix? code with
    | none => .literal code :: peeled
    | some (before, term) =>
      match before with
      | [] => term :: peeled
      | _ :: _ =>
        match tables.direct? before with
        | some first => first :: term :: peeled
        | none =>
          match marriageCut? before with
          | some (left, right) => split left ++ split right ++ term :: peeled
          | none => peel tables split rounds (term :: peeled) before

/-- The terms of a code of which a suffix that has a phrase is peeled off first. -/
def growSuffix (tables : Tables) (split : Text → List Term) (code : Text) : List Term :=
  tables.peel split code.length [] code

/-- The terms of a code, where `split` decomposes what is left and right of a cut. -/
def resolve (tables : Tables) (split : Text → List Term) (useRules : Bool) (code : Text) :
    List Term :=
  match tables.direct? code with
  | some term => [term]
  | none =>
    match if useRules then tables.firstResolved? code else none with
    | some (before, term, after) => split before ++ term :: split after
    | none =>
      match marriageCut? code with
      | some (left, right) => split left ++ split right
      | none => tables.growSuffix split code

/-- The terms of a code. Cuts are nested at most `bound` deep, and `useRules` says whether rules
are tried on the code itself; they always are on what is left and right of a cut. -/
def decompose (tables : Tables) : (bound : Nat) → (useRules : Bool) → Text → List Term
  | _, _, [] => []
  | 0, _, code => [.literal code]
  | bound + 1, useRules, code => tables.resolve (tables.decompose bound true) useRules code

@[simp] theorem decompose_nil (tables : Tables) (bound : Nat) (useRules : Bool) :
    tables.decompose bound useRules [] = [] := by
  cases bound <;> rfl

theorem decompose_zero (tables : Tables) (useRules : Bool) {code : Text} (h : code ≠ []) :
    tables.decompose 0 useRules code = [.literal code] := by
  cases code with
  | nil => exact absurd rfl h
  | cons letter rest => rfl

theorem decompose_succ (tables : Tables) (bound : Nat) (useRules : Bool) {code : Text}
    (h : code ≠ []) :
    tables.decompose (bound + 1) useRules code =
      tables.resolve (tables.decompose bound true) useRules code := by
  cases code with
  | nil => exact absurd rfl h
  | cons letter rest => rfl

/-- The bound that holds where no other is given. -/
def defaultBound : Nat := 64

end Tables

end Kindred
