import QueryLoom.Conventions

/-!
# Bulk copies

The destination of a bulk copy: table and columns written as in statements.
-/

namespace QueryLoom

/-- A source column and its destination. -/
structure ColumnMapping where
  source : String
  destination : String
deriving Repr, DecidableEq

/-- The options of a bulk copy; a number of zero stands for none. -/
structure BulkCopyOptions where
  useTransaction : Bool := false
  batchSize : UInt32 := 0
  timeout : UInt32 := 0
  notifyAfter : UInt32 := 0
  upperCase : Bool := true
  quoted : Bool := true
  /-- Without mappings every source column maps to itself. -/
  mappings : List ColumnMapping := []
deriving DecidableEq

/-- The plan of a bulk copy. -/
structure BulkCopyPlan where
  table : String
  mappings : List ColumnMapping
  useTransaction : Bool
  batchSize : Option UInt32
  timeout : Option UInt32
  notifyAfter : Option UInt32
deriving DecidableEq

/-- A number that is not zero. -/
def positive? (n : UInt32) : Option UInt32 := if n == 0 then none else some n

/-- The plan for a table and its source columns. -/
def BulkCopyOptions.plan (options : BulkCopyOptions) (table : String) (columns : List String) :
    BulkCopyPlan :=
  let conventions : Conventions := { upperCase := options.upperCase, quoted := options.quoted }
  let mappings :=
    if options.mappings.isEmpty then columns.map fun column => ⟨column, column⟩
    else options.mappings
  { table := conventions.identifier table
    mappings := mappings.map fun mapping =>
      { mapping with destination := conventions.identifier mapping.destination }
    useTransaction := options.useTransaction
    batchSize := positive? options.batchSize
    timeout := positive? options.timeout
    notifyAfter := positive? options.notifyAfter }

end QueryLoom
