import QueryLoom.Conventions

/-!
# Configuration

The conventions of the database and the limits of a batch.
-/

namespace QueryLoom

/-- How many statements and parameters are grouped into one round trip. -/
structure BatchLimits where
  statements : Int64 := 1000
  parameters : Int64 := 2000
deriving DecidableEq

namespace BatchLimits

/-- A count of at least one. -/
def positive (count : Int64) : Nat := (max count.toInt 1).toNat

/-- The statements after which a batch is full, at least one. -/
def maxStatements (limits : BatchLimits) : Nat := positive limits.statements

/-- The parameters after which a batch is full, at least one. -/
def maxParameters (limits : BatchLimits) : Nat := positive limits.parameters

/-- A count of at least one is at least one. -/
theorem one_le_positive (count : Int64) : 1 ≤ positive count := by
  unfold positive
  omega

end BatchLimits

/-- A configuration. -/
structure Config where
  conventions : Conventions := {}
  limits : BatchLimits := {}
deriving DecidableEq

end QueryLoom
