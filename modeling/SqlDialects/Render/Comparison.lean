import SqlDialects.Render.Operand

/-!
# Comparisons

Scalars are compared with the operator, except where a dialect has a spelling of its own. A dialect
without row values gets a comparison of two rows component by component, and a dialect that cannot
compare a row with a subquery gets an EXISTS over the subquery.
-/

namespace SqlDialects

/-- The comparison of one component of a row, for any operator. -/
abbrev Comparator := ComparisonOperator → Draft

namespace Draft

/-- A comparison with the operator between its operands. -/
def plainComparison (lhs : Draft) (op : ComparisonOperator) (rhs : Draft) : Draft :=
  lhs ++ raw (" " ++ op.text ++ " ") ++ rhs

/-- Every component compared with the same operator, joined by a keyword. -/
def chain (op : ComparisonOperator) (joint : Keyword) (components : List Comparator) : Draft :=
  parensIf (decide (1 < components.length))
    (separated (spacedWord joint) (components.map fun c => c op))

/-- Rows in lexicographic order: `(l1 < r1 OR l1 = r1 AND rest)`. -/
def lexicographic (op : ComparisonOperator) : List Comparator → Draft
  | [] => empty
  | [c] => c op
  | c :: rest =>
    parens (c op.strict ++ spacedWord .or ++ c .equal ++ spacedWord .and ++ lexicographic op rest)

/-- Rows in lexicographic order, with the leading component in front:
`l1 <= r1 AND (l1 < r1 OR rest)`. -/
def lexicographicIndexed (op : ComparisonOperator) : List Comparator → Draft
  | [] => empty
  | [c] => c op
  | c :: rest =>
    c op.loose ++ spacedWord .and
      ++ parens (c op.strict ++ spacedWord .or ++ lexicographicIndexed op rest)

/-- A comparison of rows, component by component. -/
def rowComparison (op : ComparisonOperator) (indexed : Bool) (components : List Comparator) : Draft :=
  match op with
  | .equal => chain op .and components
  | .notDistinctFrom => chain op .and components
  | .notEqual => chain op .or components
  | .distinctFrom => chain op .or components
  | _ => if indexed then parens (lexicographicIndexed op components) else lexicographic op components

/-- A comparison of rows with the given numbers of components, which must be equal and not zero. -/
def checkedRowComparison (op : ComparisonOperator) (indexed : Bool) (left right : Nat)
    (components : List Comparator) : Draft :=
  if left ≠ right then malformed (.arity left right)
  else if left = 0 then malformed .emptyTuples
  else rowComparison op indexed components

end Draft

namespace Dialect

/-- The comparison in which arrays are tested for membership. -/
def arrayEquality? (lhs : Draft) (op : ComparisonOperator) (rhs : Draft) : Option Draft :=
  match op with
  | .equal => some (lhs ++ .raw " IN(" ++ rhs ++ .raw ")")
  | .notEqual => some (lhs ++ .raw " NOT IN(" ++ rhs ++ .raw ")")
  | _ => none

/-- The comparison in which arrays are told apart like scalars. -/
def arrayDistinction? (lhs : Draft) (op : ComparisonOperator) (rhs : Draft) : Option Draft :=
  match op with
  | .distinctFrom => some (lhs ++ .raw "<>" ++ rhs)
  | .notDistinctFrom => some (lhs ++ .raw "=" ++ rhs)
  | _ => none

/-- The comparison in which parameters on both sides need a type. -/
def typedDistinction? (lhs : Draft) (op : ComparisonOperator) (rhs : Draft) : Option Draft :=
  match op with
  | .distinctFrom | .notDistinctFrom =>
    some (.inMode .typed lhs ++ .raw " " ++ .raw op.text ++ .raw " " ++ .inMode .typed rhs)
  | _ => none

/-- The null-safe comparison of scalars with an operator of its own. -/
def nullSafeEquality? (lhs : Draft) (op : ComparisonOperator) (rhs : Draft) : Option Draft :=
  match op with
  | .notDistinctFrom => some (lhs ++ .raw " <=> " ++ rhs)
  | .distinctFrom => some (.raw "not(" ++ lhs ++ .raw " <=> " ++ rhs ++ .raw ")")
  | _ => none

/-- The spelling of a comparison that is peculiar to the dialect, if it has one. -/
def peculiarComparison? (d : Dialect) (lhs : Operand) (op : ComparisonOperator) (rhs : Operand) :
    Option Draft :=
  match d with
  | hsql =>
    match lhs.type? with
    | none => none
    | some type =>
      (if type.descriptor.hasArrayCode then arrayEquality? lhs.draft op rhs.draft else none)
        <|> (if type.descriptor.isArrayCapable then arrayDistinction? lhs.draft op rhs.draft
          else typedDistinction? lhs.draft op rhs.draft)
  | mysql =>
    if lhs.isTuple || rhs.isTuple then none else nullSafeEquality? lhs.draft op rhs.draft
  | _ => none

/-- The comparison of a row with a subquery is put so that an index on its leading column is used. -/
def indexesRows (d : Dialect) : Bool := d == hsql

/-- The restriction of an EXISTS: the predicate that is there already, and the row comparison. -/
def existsRestriction (word : Keyword) (existing : Option Draft) (comparison : Draft) : Draft :=
  .spacedWord word
    ++ .optional (existing.map fun p => .parens p ++ .spacedWord .and)
    ++ comparison

/-- The comparison of a row with a subquery, by an EXISTS over its rows. -/
def existsComparison (d : Dialect) (f : SubqueryFrame) (comparison : Draft) : Draft :=
  let restriction := match f.groupBy with
    | none => existsRestriction .whereWord f.filter comparison
    | some groupBy =>
      .optional (f.filter.map fun p => .spacedWord .whereWord ++ p)
        ++ groupBy ++ existsRestriction .having f.having comparison
  .nested (.wordSpace .existsWord
    ++ .parens ((if d.capabilities.withInSubquery then f.withClause else .empty)
      ++ .wordSpace .select ++ .token (.literal (.integer 1)) ++ f.fromClause ++ restriction))

/-- The comparison of a row with a subquery. The comparators compare each item of its select list, on
the left, with a component of the row. -/
def rowWithSubquery (d : Dialect) (op : ComparisonOperator) (row : List Operand) (subquery : Draft)
    (frame : Option SubqueryFrame) (items : List Operand) (comparators : List Comparator) : Draft :=
  if d.capabilities.rowValuesWithSubquery then
    Draft.plainComparison (.parens (.listed (Operand.drafts row))) op subquery
  else match frame with
    | none => .refuse (.unsupported .tupleAgainstSetOperation d)
    | some f =>
      if f.limited then .refuse (.unsupported .tupleAgainstLimitedSubquery d)
      else if items.length ≠ row.length then .malformed (.arity row.length items.length)
      else d.existsComparison f
        (.checkedRowComparison op.inverted d.indexesRows items.length row.length comparators)

/-- The peculiar spelling of a comparison where the dialect has one, and the given draft otherwise. The
first operand stands on the right if the operands are swapped. -/
def orPeculiar (d : Dialect) (swapped : Bool) (op : ComparisonOperator) (x y : Operand)
    (otherwise : Draft) : Draft :=
  (if swapped then d.peculiarComparison? y op x else d.peculiarComparison? x op y).getD otherwise

mutual

/-- The standard comparison of two operands. They are given in the order in which the first one is the
one to be taken apart; `swapped` tells that it stands on the right. -/
def standardFrom (d : Dialect) (swapped : Bool) (op : ComparisonOperator) (x y : Operand) : Draft :=
  let plain := if swapped then Draft.plainComparison y.draft op x.draft
    else Draft.plainComparison x.draft op y.draft
  match x, y with
  | .tuple xs, .tuple ys =>
    let left := if swapped then ys.length else xs.length
    let right := if swapped then xs.length else ys.length
    if left ≠ right then .malformed (.arity left right)
    else if d.capabilities.rowValues then plain
    else .checkedRowComparison op false left right (compareEach d swapped xs ys)
  | .tuple xs, .subquery _ draft frame items =>
    if swapped then .malformed .tupleWithScalar
    else d.rowWithSubquery op xs draft frame items (compareEach d true xs items)
  | .subquery _ draft frame items, .tuple ys =>
    if swapped then d.rowWithSubquery op ys draft frame items (compareEach d false items ys)
    else .malformed .tupleWithScalar
  | .tuple _, .scalar _ _ _ => .malformed .tupleWithScalar
  | .scalar _ _ _, .tuple _ => .malformed .tupleWithScalar
  | _, _ => plain

/-- The comparisons of the components of two rows, one by one. -/
def compareEach (d : Dialect) (swapped : Bool) : List Operand → List Operand → List Comparator
  | x :: xs, y :: ys =>
    (fun op => d.orPeculiar swapped op x y (standardFrom d swapped op x y))
      :: compareEach d swapped xs ys
  | _, _ => []

end

/-- The standard comparison of two operands. -/
def standardCompare (d : Dialect) (lhs : Operand) (op : ComparisonOperator) (rhs : Operand) : Draft :=
  d.standardFrom false op lhs rhs

/-- The comparison of two operands. -/
def compare (d : Dialect) (lhs : Operand) (op : ComparisonOperator) (rhs : Operand) : Draft :=
  d.orPeculiar false op lhs rhs (d.standardCompare lhs op rhs)

/-- The comparison of two rows of operands, component by component. -/
def compareRows (d : Dialect) (op : ComparisonOperator) (indexed : Bool) (lhs rhs : List Operand) :
    Draft :=
  .checkedRowComparison op indexed lhs.length rhs.length (d.compareEach false lhs rhs)

/-- The comparison of a row with a subquery. -/
def compareWithSubquery (d : Dialect) (row : List Operand) (op : ComparisonOperator)
    (subquery : Operand) : Draft :=
  match subquery with
  | .subquery _ draft frame items =>
    d.rowWithSubquery op row draft frame items (d.compareEach true row items)
  | _ => .malformed .tupleWithScalar

end Dialect

end SqlDialects
