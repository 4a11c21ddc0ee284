import SqlDialects.Render.Clause
import SqlDialects.Sql.Syntax

/-!
# Queries whose parts are drafted

A query with its expressions and conditions replaced by drafts. `QueryForm.draft` puts the clauses
together: as a statement, as a subquery, as the body of a common table, or as a part of a set
operation. The first parts of recursive tables with a search path get one more column each.
-/

namespace SqlDialects

/-- A common table whose body is drafted. -/
structure TableForm where
  recursive : Bool
  draft : Draft

/-- A search path whose expressions are drafted. -/
structure PathForm where
  /-- The common table that the path belongs to. -/
  table : String
  column : String
  seed : Draft
  step : Draft
  sizeEstimate : Int

/-- A SELECT whose clauses are drafted. -/
structure SelectForm where
  tables : List TableForm
  distinct : Bool
  items : List (Operand × Option String)
  sources : List TableReference
  filter : Option Draft
  groupBy : List Operand
  having : Option Draft
  orderBy : List SortKey
  limit : RowLimit

/-- A set operation whose clauses are drafted, without its parts. -/
structure SetForm where
  tables : List TableForm
  operator : SetOperator
  orderBy : List SortKey
  limit : RowLimit

/-- A query whose clauses are drafted. -/
inductive QueryForm where
  | select (form : SelectForm)
  | set (form : SetForm) (parts : List QueryForm)

/-- The place of a part in the body of a recursive table with a search path. -/
inductive PathPart where
  | seed (path : PathForm)
  | step (path : PathForm)

namespace Dialect

/-- A WITH clause, absent if there are no tables. -/
def withClause (d : Dialect) (tables : List TableForm) : Draft :=
  if tables.isEmpty then .empty
  else .wordSpace .withWord
    ++ (if d.capabilities.recursiveKeyword && tables.any (·.recursive) then .wordSpace .recursive
      else .empty)
    ++ .listed (tables.map (·.draft)) ++ .space

/-- The WITH clause of a query that stands inside another one, if the dialect allows it there. -/
def innerWithClause (d : Dialect) (tables : List TableForm) : Draft :=
  if d.capabilities.withInSubquery then .whenNested (d.withClause tables) else .empty

/-- The words of a set operation. -/
def setWords : SetOperator → Draft
  | .union => .word .union
  | .unionAll => .word .union ++ .spaceWord .all
  | .intersect => .word .intersect
  | .intersectAll => .word .intersect ++ .spaceWord .all
  | .except => .word .except
  | .exceptAll => .word .except ++ .spaceWord .all

/-- Search paths are held as arrays. -/
def pathsAreArrays (d : Dialect) : Bool :=
  d.capabilities.recursiveArrays && d.capabilities.arrayConstructor

/-- A path extended by a step. -/
def pathStep (d : Dialect) (p : PathForm) : Draft :=
  let previous : Draft := .token (.qualifiedName (some p.table) p.column)
  let mark : Draft := .token (.literal (.string ","))
  let concat : Draft := .space ++ .token .concat ++ .space
  if d.pathsAreArrays then previous ++ concat ++ .raw "array[" ++ p.step ++ .raw "]"
  else if d.capabilities.concatOperator then previous ++ concat ++ mark ++ concat ++ p.step
  else .raw "concat(" ++ previous ++ .comma ++ mark ++ .comma ++ p.step ++ .token .rightParen

/-- The column of a search path in one part of the body. -/
def pathColumn (d : Dialect) (part : PathPart) : Draft :=
  match part with
  | .seed p =>
    .comma
      ++ (if d.pathsAreArrays then .raw "array[" ++ p.seed ++ .raw "]"
        else d.pathSeed p.seed p.sizeEstimate)
      ++ .named p.column
  | .step p => .comma ++ d.pathStep p ++ .named p.column

/-- A table of a FROM clause. -/
def tableReference (t : TableReference) : Draft :=
  .token (.name t.name) ++ .optional (t.alias?.map .named)

/-- An item of a select list with its alias. -/
def aliasedItem (d : Dialect) (item : Operand × Option String) : Draft :=
  d.selectItem item.1 ++ .optional (item.2.map .named)

end Dialect

namespace SelectForm

/-- The FROM clause, or what the dialect puts in its place. -/
def fromClause (d : Dialect) (f : SelectForm) (standalone : Bool) : Draft :=
  if f.sources.isEmpty then
    let alone := standalone && f.filter.isNone && f.groupBy.isEmpty && f.having.isNone
    .raw (if alone then d.fromNothingAlone else d.fromNothing)
  else .spacedWord .fromWord ++ .listed (f.sources.map Dialect.tableReference)

/-- The SELECT without its WITH clause. -/
def draft (d : Dialect) (f : SelectForm) (path : Option PathPart) (standalone : Bool) : Draft :=
  if f.items.isEmpty then .malformed .emptySelect
  else .wordSpace .select
    ++ (if f.distinct then .wordSpace .distinct else .empty)
    ++ .listed (f.items.map d.aliasedItem)
    ++ .optional (path.map d.pathColumn)
    ++ f.fromClause d standalone
    ++ .optional (f.filter.map fun p => .spacedWord .whereWord ++ p)
    ++ .optional (d.groupByClause? f.groupBy)
    ++ .optional (f.having.map fun p => .spacedWord .having ++ p)
    ++ d.orderByClause f.orderBy
    ++ (if f.limit.isEmpty then .empty else d.limitClause f.limit)

/-- A part of a set operation has clauses that would otherwise belong to the whole. -/
def needsParens (f : SelectForm) : Bool := !f.orderBy.isEmpty || !f.limit.isEmpty

/-- The clauses that an EXISTS over the SELECT keeps. -/
def frame (d : Dialect) (f : SelectForm) : SubqueryFrame where
  withClause := d.withClause f.tables
  fromClause := f.fromClause d false
  filter := f.filter
  groupBy := d.groupByClause? f.groupBy
  having := f.having
  limited := !f.limit.isEmpty

end SelectForm

namespace QueryForm

mutual

/-- A query with its own WITH clause where that is not rendered elsewhere. The body of a recursive table
with a search path has to be a set operation. -/
def draft (d : Dialect) (standalone : Bool) (path : Option PathForm) : QueryForm → Draft
  | select f =>
    d.innerWithClause f.tables ++
      match path with
      | none => f.draft d none standalone
      | some p => .malformed (.pathWithoutSetOperation p.table)
  | set f parts =>
    d.innerWithClause f.tables ++
      (if parts.isEmpty then .malformed .emptySetOperation
      else match path with
        | some p =>
          if parts.length < 2 then .malformed (.pathWithoutStep p.table)
          else setParts d f.operator path true parts
        | none => setParts d f.operator path true parts)
      ++ d.orderByClause f.orderBy
      ++ (if f.limit.isEmpty then .empty else d.limitClause f.limit)

/-- The parts of a set operation from one of them on; all but the first one follow the operator. -/
def setParts (d : Dialect) (operator : SetOperator) (path : Option PathForm) (first : Bool) :
    List QueryForm → Draft
  | [] => .empty
  | part :: parts =>
    (if first then .empty else .space ++ Dialect.setWords operator ++ .space)
      ++ (match part, path with
        | select f, some p =>
          .parensIf f.needsParens (f.draft d (some (if first then .seed p else .step p)) false)
        | set _ _, some _ => .malformed .pathPartNotSelect
        | select f, none =>
          if f.tables.isEmpty then .parensIf f.needsParens (f.draft d none false)
          else .parens (.nested (draft d false none part))
        | set _ _, none => .parens (.nested (draft d false none part)))
      ++ setParts d operator path false parts

end

/-- A query inside another one. -/
def inner (d : Dialect) (q : QueryForm) : Draft := .nested (q.draft d false none)

/-- A query as an operand of the given type. -/
def operand (d : Dialect) (type : Option ResolvedType) (q : QueryForm) : Operand :=
  match q with
  | select f => .subquery type (.parens (q.inner d)) (some (f.frame d)) (f.items.map (·.1))
  | set _ _ => .subquery type (.parens (q.inner d)) none []

end QueryForm

end SqlDialects
