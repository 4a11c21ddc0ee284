import SqlDialects.Render.Operand

/-!
# Parts of clauses

Arithmetic, truth values as conditions, null checks, aggregates, windows, items of select, grouping
and sort lists, paths of recursive tables and row limits, each as the dialect wants it.
-/

namespace SqlDialects

/-- A key of a sort list. -/
structure SortKey where
  key : Draft
  direction : SortDirection
  nulls : Option NullPrecedence

/-- Row limits. -/
structure RowLimit where
  offset : Option Draft
  fetch : Option (Draft × FetchKind)

namespace RowLimit

/-- No rows are left out. -/
def isEmpty (l : RowLimit) : Bool := l.offset.isNone && l.fetch.isNone

end RowLimit

namespace Dialect

/-- Arithmetic with the operator between its operands. -/
def standardArithmetic (op : ArithmeticOperator) (lhs rhs : Draft) : Draft :=
  .parens (lhs ++ .raw (" " ++ op.text ++ " ") ++ rhs)

/-- Arithmetic. HSQL has a function for the remainder, and needs types for the operands of all other
operators. -/
def arithmetic (d : Dialect) (op : ArithmeticOperator) (lhs rhs : Draft) : Draft :=
  match d with
  | hsql =>
    if op = .modulo then .raw "mod(" ++ lhs ++ .raw ", " ++ rhs ++ .raw ")"
    else .raw "(" ++ .inMode .typed lhs ++ .raw " " ++ .raw op.text ++ .raw " "
      ++ .inMode .typed rhs ++ .raw ")"
  | _ => standardArithmetic op lhs rhs

/-- A truth value as a condition, with a keyword in front of a negated one. -/
def standardBoolean (o : Draft) (negated : Bool) : Draft :=
  if negated then .wordSpace .not ++ o else o

/-- A truth value as a condition. -/
def booleanCondition (d : Dialect) (o : Draft) (negated : Bool) : Draft :=
  match d with
  | hsql => if negated then .raw "not(" ++ o ++ .raw ")" else o
  | _ => standardBoolean o negated

/-- A null check; that of a row value holds of every component. -/
def nullCheck (o : Operand) (negated : Bool) : Draft :=
  let check : Draft := .spaceWord (if negated then .isNotNull else .isNull)
  match o with
  | .tuple (c :: cs) =>
    .parens (.separated (.spacedWord .and) ((Operand.drafts (c :: cs)).map (· ++ check)))
  | o => o.draft ++ check

/-- An argument that counts only for the rows of a filter; without an argument, one for each row. -/
def filteredArgument (filter : Draft) (arg : Option Draft) : Draft :=
  .word .caseWord ++ .spacedWord .whenWord ++ filter ++ .spacedWord .thenWord
    ++ arg.getD (.token (.literal (.integer 1)))
    ++ .spacedWord .elseWord ++ .word .null ++ .spaceWord .endWord

/-- The arguments of an aggregate, the filter worked into them where it has no clause of its own. -/
def aggregateArguments (d : Dialect) (args : List Draft) (filter : Option Draft) : Draft :=
  match if d.capabilities.filterClause then none else filter with
  | some filter =>
    if args.isEmpty then filteredArgument filter none
    else .listed (args.map fun a => filteredArgument filter (some a))
  | none => if args.isEmpty then .token .star else .listed args

/-- A call of an aggregate. -/
def aggregateCall (d : Dialect) (name : String) (args : List Draft) (distinct : Bool)
    (filter : Option Draft) : Draft :=
  .token (.functionName name)
    ++ .parens ((if distinct then .wordSpace .distinct else .empty)
      ++ d.aggregateArguments args filter)
    ++ .optional ((if d.capabilities.filterClause then filter else none).map fun p =>
      .spacedWord .filter ++ .parens (.wordSpace .whereWord ++ p))

/-- An item of a grouping; a constant stands for the empty grouping set. -/
def standardPartitionItem (o : Operand) : Draft :=
  if o.isLiteral then .token .leftParen ++ .token .rightParen else o.draft

/-- An item of a grouping. HSQL groups by an expression in place of a constant, and has no
summarizations. -/
def partitionItem (d : Dialect) (o : Operand) : Draft :=
  match d with
  | hsql =>
    match o with
    | .scalar (.literal _) _ _ => .raw "'0' || '0'"
    | .scalar .summarization _ _ => .refuse (.unsupported .summarization d)
    | o => o.draft
  | _ => standardPartitionItem o

/-- The key that puts nulls on the wanted side. -/
def nullRank (key : Draft) (nulls : NullPrecedence) : Draft :=
  let (null, other) := match nulls with
    | .first => (0, 1)
    | .last => (1, 0)
  .word .caseWord ++ .spacedWord .whenWord ++ key ++ .spacedWord .isNull ++ .word .thenWord
    ++ .space ++ .token (.literal (.integer null)) ++ .spacedWord .elseWord
    ++ .token (.literal (.integer other)) ++ .spaceWord .endWord

/-- A key of a sort list, behind another one for its nulls where they have no keyword. -/
def sortKey (d : Dialect) (k : SortKey) : Draft :=
  let native := d.capabilities.nullsOrdering
  .optional ((if native then none else k.nulls).map fun n => nullRank k.key n ++ .comma)
    ++ k.key
    ++ .spaceWord (match k.direction with | .ascending => .asc | .descending => .desc)
    ++ .optional ((if native then k.nulls else none).map fun n =>
      .spaceWord (match n with | .first => .nullsFirst | .last => .nullsLast))

/-- A sort list. -/
def sortList (d : Dialect) (keys : List SortKey) : Draft := .listed (keys.map d.sortKey)

/-- An ORDER BY clause, absent if there are no keys. -/
def orderByClause (d : Dialect) (keys : List SortKey) : Draft :=
  if keys.isEmpty then .empty else .spacedWord .orderBy ++ d.sortList keys

/-- A GROUP BY clause, if there are items. -/
def groupByClause? (d : Dialect) (items : List Operand) : Option Draft :=
  if items.isEmpty then none
  else some (.spacedWord .groupBy ++ .listed (items.map d.partitionItem))

/-- A function over a window. -/
def overWindow (d : Dialect) (function : Draft) (partitions : List Operand) (order : List SortKey) :
    Draft :=
  let partitionBy := if partitions.isEmpty then .empty
    else .wordSpace .partitionBy ++ .listed (partitions.map d.partitionItem)
  let orderBy := if order.isEmpty then .empty
    else (if partitions.isEmpty then .empty else .space) ++ .wordSpace .orderBy ++ d.sortList order
  function ++ .spacedWord .overWord ++ .parens (partitionBy ++ orderBy)

/-- An item of a select list with a cast around a parameter or a null. -/
def castedSelectItem (d : Dialect) (o : Operand) : Draft :=
  if o.isParameter || o.isNullLiteral then o.casted d else o.draft

/-- An item of a select list. -/
def selectItem (d : Dialect) (o : Operand) : Draft :=
  match d with
  | hsql => d.castedSelectItem o
  | _ => o.draft

/-- The start of a path that is held as a text. HSQL needs its greatest length. -/
def pathSeed (d : Dialect) (seed : Draft) (sizeEstimate : Int) : Draft :=
  match d with
  | hsql =>
    if sizeEstimate = -1 then seed
    else .raw "cast(" ++ seed ++ .raw (" as varchar(" ++ toString sizeEstimate ++ "))")
  | _ => seed

/-- An OFFSET and a FETCH clause. -/
def offsetFetchClause (l : RowLimit) (rowsKeyword : Bool) : Draft :=
  .optional (l.offset.map fun n =>
    .spacedWord .offset ++ n ++ (if rowsKeyword then .spaceWord .rows else .empty))
  ++ .optional (l.fetch.map fun (n, kind) =>
    .spacedWord .fetch ++ .wordSpace .first ++ n ++ .space
      ++ (if kind.isPercent then .wordSpace .percent else .empty)
      ++ .wordSpace .rows ++ .word (if kind.keepsTies then .withTies else .only))

/-- Refuses a FETCH clause that does not simply count rows. -/
def requireRowsOnly (d : Dialect) (l : RowLimit) : Draft :=
  match l.fetch with
  | some (_, kind) => if kind = .rowsOnly then .empty else .refuse (.invalidFetch kind d)
  | none => .empty

/-- A LIMIT and an OFFSET clause. -/
def limitOffsetClause (d : Dialect) (l : RowLimit) : Draft :=
  d.requireRowsOnly l
    ++ .optional (l.fetch.map fun (n, _) => .spacedWord .limit ++ n)
    ++ .optional (l.offset.map fun n => .spacedWord .offset ++ n)

/-- The largest count that stands for no limit in MySQL. -/
def unlimitedRows : String := "18446744073709551615"

/-- The clauses of row limits, which need not be present. -/
def limitClause (d : Dialect) (l : RowLimit) : Draft :=
  match d with
  | ansi => offsetFetchClause l true
  | hsql => d.requireRowsOnly l ++ offsetFetchClause l true
  | postgres =>
    match l.fetch with
    | some (_, kind) =>
      if kind.isPercent then .refuse (.invalidFetch kind d) else offsetFetchClause l true
    | none => offsetFetchClause l true
  | mysql =>
    match l.offset, l.fetch with
    | some n, none => .raw " LIMIT " ++ .raw unlimitedRows ++ .raw " OFFSET " ++ n
    | _, _ => d.limitOffsetClause l

end Dialect

end SqlDialects
