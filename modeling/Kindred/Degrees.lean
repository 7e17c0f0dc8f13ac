import Kindred.Code

/-!
# Degrees of a relationship

The five numbers that a phrase may mention. They compare the legs of the matched path with those
of a base path: a relative who is one generation further than the base is once removed, and a
cousin's degree counts from the nearest common ancestor. A path measured against itself has
vertical and horizontal degree one.
-/

namespace Kindred

/-- The numbers that a phrase template can mention. -/
structure Degrees where
  /-- Placeholder 0: one more than the generations by which the path exceeds the base. -/
  vertical : Int
  /-- Placeholder 1: one more than the steps by which the shorter leg exceeds that of the base. -/
  horizontal : Int
  /-- Placeholder 2: the length of the shorter leg. -/
  min : Int
  /-- Placeholder 3: the length of the longer leg. -/
  max : Int
  /-- Placeholder 4: the difference between the two legs. -/
  diff : Int
  deriving DecidableEq, Repr

namespace Degrees

/-- The number of placeholders that a phrase template can bind. -/
def count : Nat := 5

/-- The degrees of a path with the legs `path`, measured against the legs `base`. -/
def ofLegs (path base : Legs) : Degrees where
  vertical := (path.balance.natAbs - base.balance.natAbs : Int) + 1
  horizontal :=
    if path.up > path.down then (path.down - base.down : Int) + 1 else (path.up - base.up : Int) + 1
  min := Min.min path.up path.down
  max := Max.max path.up path.down
  diff := path.balance.natAbs

theorem horizontal_of_lt {path : Legs} (base : Legs) (h : path.down < path.up) :
    (ofLegs path base).horizontal = path.down - base.down + 1 :=
  if_pos h

theorem horizontal_of_le {path : Legs} (base : Legs) (h : path.up ≤ path.down) :
    (ofLegs path base).horizontal = path.up - base.up + 1 :=
  if_neg (Nat.not_lt.2 h)

/-- The degrees of the path `matched`, measured against the path `base`. -/
def between (matched base : Text) : Degrees := ofLegs (.ofCode matched) (.ofCode base)

/-- The number bound to a placeholder. -/
def get? (degrees : Degrees) : Nat → Option Int
  | 0 => some degrees.vertical
  | 1 => some degrees.horizontal
  | 2 => some degrees.min
  | 3 => some degrees.max
  | 4 => some degrees.diff
  | _ => none

end Degrees

end Kindred
