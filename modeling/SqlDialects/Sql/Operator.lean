/-!
# Operators and kinds of clauses

The operators of expressions, predicates and set operations, and the flavours of sorting and row
limiting.
-/

namespace SqlDialects

/-- An operator of arithmetic. -/
inductive ArithmeticOperator where
  | add
  | subtract
  | multiply
  | divide
  /-- The quotient of integers. -/
  | quot
  | modulo
deriving DecidableEq, Repr

/-- The spelling of an operator of arithmetic. -/
def ArithmeticOperator.text : ArithmeticOperator → String
  | add => "+"
  | subtract => "-"
  | multiply => "*"
  | divide => "/"
  | quot => "/"
  | modulo => "%"

/-- An operator of comparison. -/
inductive ComparisonOperator where
  | equal
  | notEqual
  | lessThan
  | lessThanOrEqual
  | greaterThan
  | greaterThanOrEqual
  | distinctFrom
  | notDistinctFrom
deriving DecidableEq, Repr

namespace ComparisonOperator

/-- The spelling of an operator of comparison. -/
def text : ComparisonOperator → String
  | equal => "="
  | notEqual => "<>"
  | lessThan => "<"
  | lessThanOrEqual => "<="
  | greaterThan => ">"
  | greaterThanOrEqual => ">="
  | distinctFrom => "is distinct from"
  | notDistinctFrom => "is not distinct from"

/-- The operator that holds where the given one does not. -/
def negated : ComparisonOperator → ComparisonOperator
  | equal => notEqual
  | notEqual => equal
  | lessThan => greaterThanOrEqual
  | lessThanOrEqual => greaterThan
  | greaterThan => lessThanOrEqual
  | greaterThanOrEqual => lessThan
  | distinctFrom => notDistinctFrom
  | notDistinctFrom => distinctFrom

/-- The operator for operands that have changed sides. -/
def inverted : ComparisonOperator → ComparisonOperator
  | lessThan => greaterThan
  | lessThanOrEqual => greaterThanOrEqual
  | greaterThan => lessThan
  | greaterThanOrEqual => lessThanOrEqual
  | op => op

/-- The operator without equality. -/
def strict : ComparisonOperator → ComparisonOperator
  | lessThanOrEqual => lessThan
  | greaterThanOrEqual => greaterThan
  | op => op

/-- The operator with equality. -/
def loose : ComparisonOperator → ComparisonOperator
  | lessThan => lessThanOrEqual
  | greaterThan => greaterThanOrEqual
  | op => op

/-- The operator compares by order. -/
def isOrdering : ComparisonOperator → Bool
  | lessThan => true
  | lessThanOrEqual => true
  | greaterThan => true
  | greaterThanOrEqual => true
  | _ => false

theorem negated_negated (op : ComparisonOperator) : op.negated.negated = op := by
  cases op <;> rfl

theorem inverted_inverted (op : ComparisonOperator) : op.inverted.inverted = op := by
  cases op <;> rfl

end ComparisonOperator

/-- How the members of a junction are joined. -/
inductive JunctionKind where
  | conjunction
  | disjunction
deriving DecidableEq, Repr

/-- A summarization of grouping sets. -/
inductive SummarizationKind where
  | rollup
  | cube
deriving DecidableEq, Repr

/-- The spelling of a summarization. -/
def SummarizationKind.text : SummarizationKind → String
  | rollup => "rollup"
  | cube => "cube"

/-- A set operation. -/
inductive SetOperator where
  | union
  | unionAll
  | intersect
  | intersectAll
  | except
  | exceptAll
deriving DecidableEq, Repr

/-- What a FETCH clause counts, and whether it keeps rows equal to the last one. -/
inductive FetchKind where
  | rowsOnly
  | rowsWithTies
  | percentOnly
  | percentWithTies
deriving DecidableEq, Repr

namespace FetchKind

/-- The clause counts a share of the rows. -/
def isPercent : FetchKind → Bool
  | percentOnly => true
  | percentWithTies => true
  | _ => false

/-- The clause keeps rows equal to the last one. -/
def keepsTies : FetchKind → Bool
  | rowsWithTies => true
  | percentWithTies => true
  | _ => false

/-- The name of a kind in messages. -/
def diagnostic : FetchKind → String
  | rowsOnly => "RowsOnly"
  | rowsWithTies => "RowsWithTies"
  | percentOnly => "PercentOnly"
  | percentWithTies => "PercentWithTies"

end FetchKind

/-- The direction of a sort key. -/
inductive SortDirection where
  | ascending
  | descending
deriving DecidableEq, Repr

/-- The side of a sorted list on which nulls stand. -/
inductive NullPrecedence where
  | first
  | last
deriving DecidableEq, Repr

end SqlDialects
