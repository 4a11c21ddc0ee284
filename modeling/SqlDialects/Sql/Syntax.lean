import SqlDialects.Sql.Operator
import SqlDialects.Type.Descriptor
import SqlDialects.Value.Basic

/-!
# Statements

The syntax tree of queries. Every typed node carries its resolved type, so that the rules of a dialect
can look at it; `Expression.type?` gives the type of any expression.
-/

namespace SqlDialects

/-- A table in a FROM clause. -/
structure TableReference where
  name : String
  alias? : Option String := none
deriving DecidableEq, Repr

mutual

/-- An expression. -/
inductive Expression where
  | column (qualifier? : Option String) (name : String) (type : Option ResolvedType)
  | literal (value : Value) (type : ResolvedType)
  /-- A bind parameter; a multi-valued one stands for a whole IN list when it is its only item. -/
  | parameter (name : String) (type : ResolvedType) (multiValued : Bool)
  | arithmetic (op : ArithmeticOperator) (lhs rhs : Expression)
  | caseSearched (case : SearchedCase)
  | caseSimple (case : SimpleCase)
  /-- A row value. -/
  | tuple (items : List Expression)
  | summarization (kind : SummarizationKind) (groupings : List Expression)
  | function (name : String) (args : List Expression) (type : Option ResolvedType)
  | aggregate (call : Aggregate)
  | windowed (window : Over)
  | subquery (query : Query)

/-- A choice by conditions. -/
structure SearchedCase where
  arms : List SearchedArm
  otherwise : Option Expression := none

/-- An arm of a choice by conditions. -/
structure SearchedArm where
  condition : Predicate
  result : Expression

/-- A choice by the values of a subject. -/
structure SimpleCase where
  subject : Expression
  arms : List SimpleArm
  otherwise : Option Expression := none

/-- An arm of a choice by values. -/
structure SimpleArm where
  value : Expression
  result : Expression

/-- A call of an aggregate; without arguments it counts rows. -/
structure Aggregate where
  name : String
  args : List Expression := []
  distinct : Bool := false
  filter : Option Predicate := none
  type : Option ResolvedType := none

/-- A function over a window. -/
structure Over where
  function : Expression
  partitions : List Expression := []
  order : List SortItem := []

/-- A condition. -/
inductive Predicate where
  /-- An expression that is a truth value. -/
  | boolean (expression : Expression) (negated : Bool)
  | comparison (lhs : Expression) (op : ComparisonOperator) (rhs : Expression)
  | inList (test : Expression) (list : List Expression) (negated : Bool)
  /-- Membership in an array; no array stands for an empty list. -/
  | inArray (test : Expression) (array : Option Expression) (negated : Bool)
  | tupleSubquery (tuple : List Expression) (op : ComparisonOperator) (query : Query)
  | nullCheck (expression : Expression) (negated : Bool)
  | junction (kind : JunctionKind) (members : List Predicate)
  | negated (inner : Predicate)

/-- A key of a sort list. -/
structure SortItem where
  expression : Expression
  direction : SortDirection := .ascending
  nulls : Option NullPrecedence := none

/-- An item of a select list. -/
structure SelectItem where
  expression : Expression
  alias? : Option String := none

/-- A FETCH clause. -/
structure FetchClause where
  count : Expression
  kind : FetchKind := .rowsOnly

/-- A column of a recursive table that holds the path to each row: it starts from the seed, and every
further row appends the step. -/
structure SearchPath where
  column : String
  seed : Expression
  step : Expression
  /-- The greatest length expected, or a negative one if none is known. -/
  sizeEstimate : Int := -1

/-- A table of a WITH clause. -/
structure CommonTable where
  name : String
  columns : List String := []
  query : Query
  recursive : Bool := false
  searchPath : Option SearchPath := none

/-- A single SELECT. -/
structure SelectQuery where
  ctes : List CommonTable := []
  distinct : Bool := false
  items : List SelectItem := []
  tables : List TableReference := []
  filter : Option Predicate := none
  groupBy : List Expression := []
  having : Option Predicate := none
  orderBy : List SortItem := []
  offset : Option Expression := none
  fetch : Option FetchClause := none

/-- A set operation over queries. -/
structure SetQuery where
  ctes : List CommonTable := []
  operator : SetOperator
  parts : List Query
  orderBy : List SortItem := []
  offset : Option Expression := none
  fetch : Option FetchClause := none

/-- A query. -/
inductive Query where
  | select (spec : SelectQuery)
  | set (group : SetQuery)

end

/-- A statement that can be rendered. -/
inductive Statement where
  | select (query : Query)

namespace Expression

/-- The expression is a parameter. -/
def isParameter : Expression → Bool
  | parameter _ _ _ => true
  | _ => false

/-- The expression is a literal. -/
def isLiteral : Expression → Bool
  | literal _ _ => true
  | _ => false

end Expression

mutual

/-- The resolved type of an expression, if it has one. -/
def Expression.type? : Expression → Option ResolvedType
  | .column _ _ type => type
  | .literal _ type => some type
  | .parameter _ type _ => some type
  | .arithmetic _ lhs rhs => lhs.type? <|> rhs.type?
  | .caseSearched ⟨arms, _⟩ => searchedType? arms
  | .caseSimple ⟨_, arms, _⟩ => simpleType? arms
  | .tuple _ => none
  | .summarization _ _ => none
  | .function _ _ type => type
  | .aggregate ⟨_, _, _, _, type⟩ => type
  | .windowed ⟨function, _, _⟩ => function.type?
  | .subquery query => query.type?

/-- The type of the first typed result of a choice by conditions. -/
def searchedType? : List SearchedArm → Option ResolvedType
  | [] => none
  | ⟨_, result⟩ :: arms => result.type? <|> searchedType? arms

/-- The type of the first typed result of a choice by values. -/
def simpleType? : List SimpleArm → Option ResolvedType
  | [] => none
  | ⟨_, result⟩ :: arms => result.type? <|> simpleType? arms

/-- The type of the first item of the leftmost SELECT. -/
def Query.type? : Query → Option ResolvedType
  | .select ⟨_, _, items, _, _, _, _, _, _, _⟩ => firstItemType? items
  | .set ⟨_, _, parts, _, _, _⟩ => firstPartType? parts

/-- The type of the first item of a select list. -/
def firstItemType? : List SelectItem → Option ResolvedType
  | [] => none
  | ⟨expression, _⟩ :: _ => expression.type?

/-- The type of the first of some queries. -/
def firstPartType? : List Query → Option ResolvedType
  | [] => none
  | query :: _ => query.type?

end

namespace Query

/-- The tables of the query's own WITH clause. -/
def ctes : Query → List CommonTable
  | select spec => spec.ctes
  | set group => group.ctes

/-- The query's own sort list. -/
def orderBy : Query → List SortItem
  | select spec => spec.orderBy
  | set group => group.orderBy

/-- The query's own OFFSET. -/
def offset : Query → Option Expression
  | select spec => spec.offset
  | set group => group.offset

/-- The query's own FETCH clause. -/
def fetch : Query → Option FetchClause
  | select spec => spec.fetch
  | set group => group.fetch

end Query

mutual

/-- The leftmost SELECT, which determines the columns. -/
def Query.firstSelect? : Query → Option SelectQuery
  | .select spec => some spec
  | .set ⟨_, _, parts, _, _, _⟩ => firstSelectOf? parts

/-- The leftmost SELECT of the first of some queries. -/
def firstSelectOf? : List Query → Option SelectQuery
  | [] => none
  | query :: _ => query.firstSelect?

end

end SqlDialects
