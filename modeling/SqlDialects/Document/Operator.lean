import SqlDialects.Sql.Operator

/-!
# Names of operators in documents

Every operator and kind of clause with the name that documents use for it.
-/

namespace SqlDialects

/-- Operators of arithmetic by name. -/
def ArithmeticOperator.names : List (String × ArithmeticOperator) :=
  [("add", .add), ("subtract", .subtract), ("multiply", .multiply), ("divide", .divide),
    ("quot", .quot), ("modulo", .modulo)]

/-- Operators of comparison by name. -/
def ComparisonOperator.names : List (String × ComparisonOperator) :=
  [("equal", .equal), ("not_equal", .notEqual), ("less_than", .lessThan),
    ("less_than_or_equal", .lessThanOrEqual), ("greater_than", .greaterThan),
    ("greater_than_or_equal", .greaterThanOrEqual), ("distinct_from", .distinctFrom),
    ("not_distinct_from", .notDistinctFrom)]

/-- Kinds of junctions by name. -/
def JunctionKind.names : List (String × JunctionKind) :=
  [("conjunction", .conjunction), ("disjunction", .disjunction)]

/-- Summarizations by name. -/
def SummarizationKind.names : List (String × SummarizationKind) :=
  [("rollup", .rollup), ("cube", .cube)]

/-- Set operations by name. -/
def SetOperator.names : List (String × SetOperator) :=
  [("union", .union), ("union_all", .unionAll), ("intersect", .intersect),
    ("intersect_all", .intersectAll), ("except", .except), ("except_all", .exceptAll)]

/-- Kinds of FETCH clauses by name. -/
def FetchKind.names : List (String × FetchKind) :=
  [("rows_only", .rowsOnly), ("rows_with_ties", .rowsWithTies), ("percent_only", .percentOnly),
    ("percent_with_ties", .percentWithTies)]

/-- Directions of sorting by name. -/
def SortDirection.names : List (String × SortDirection) :=
  [("ascending", .ascending), ("descending", .descending)]

/-- Sides of nulls by name. -/
def NullPrecedence.names : List (String × NullPrecedence) :=
  [("first", .first), ("last", .last)]

/-- The name of a value in a list of names. -/
def nameIn {α : Type} [DecidableEq α] (names : List (String × α)) (a : α) : String :=
  ((names.find? fun entry => decide (entry.2 = a)).map (·.1)).getD ""

end SqlDialects
