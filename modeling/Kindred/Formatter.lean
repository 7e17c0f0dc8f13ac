import Kindred.Decomposition
import Kindred.Genitive

/-!
# Formatting codes

A code is formatted by decomposing it, chaining the terms by their possessive forms and putting
the phrases together. What is no code gets the phrase for the unrelated.
-/

namespace Kindred

/-- Tables with a bound on how deeply cuts of a code are nested. -/
structure Formatter where
  /-- What is looked up. -/
  tables : Tables
  /-- How deeply cuts may be nested. -/
  bound : Nat

/-- The steps by which a code was formatted. -/
structure Explanation where
  /-- The code, if one was given. -/
  code : Option Text
  /-- Whether it is a code. -/
  valid : Bool
  /-- The terms of its decomposition. -/
  terms : List Term
  /-- The terms chained by their possessive forms. -/
  chained : List Term
  /-- The phrase. -/
  output : Text
  deriving DecidableEq, Repr

namespace Formatter

/-- A formatter with the default bound. -/
def ofTables (tables : Tables) : Formatter := ⟨tables, Tables.defaultBound⟩

/-- The terms of a code; `none` for what is no code. -/
def decompose? (formatter : Formatter) (code : Option Text) : Option (List Term) :=
  (code.filter Code.isCode).map (formatter.tables.decompose formatter.bound true)

/-- The phrase for a code. -/
def format (formatter : Formatter) (code : Option Text) : Text :=
  match formatter.decompose? code with
  | none => formatter.tables.unrelated
  | some terms => (formatter.tables.genitives.chain terms).flatMap Term.phrase

/-- The phrase for a code with the steps that led to it. -/
def explain (formatter : Formatter) (code : Option Text) : Explanation :=
  match formatter.decompose? code with
  | none => ⟨code, false, [], [], formatter.tables.unrelated⟩
  | some terms =>
    let chained := formatter.tables.genitives.chain terms
    ⟨code, true, terms, chained, chained.flatMap Term.phrase⟩

end Formatter

end Kindred
