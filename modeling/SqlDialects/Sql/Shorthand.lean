import SqlDialects.Sql.Syntax

/-!
# Shorthands for nodes

Short ways to write the common nodes of a statement: names without a type, constants of the built-in
types, parameters, and the operators between two expressions. Clauses need none, since the records of
a query have a default for everything that may be left out.
-/

namespace SqlDialects

namespace Expression

/-- An untyped column. -/
def col (name : String) : Expression := column none name none

/-- An untyped column of a table. -/
def tableCol (table name : String) : Expression := column (some table) name none

/-- A constant of the built-in type of booleans. -/
def bool (b : Bool) : Expression := literal (.boolean b) .boolean

/-- A constant of the built-in type of integers. -/
def int (n : FixedInt .int) : Expression := literal (.integer .int n) .integer

/-- A constant of the built-in type of long integers. -/
def long (n : FixedInt .long) : Expression := literal (.integer .long n) .long

/-- A constant of the built-in type of floating point numbers. -/
def double (x : Binary64) : Expression := literal (.floating .double x) .double

/-- A constant of the built-in type of texts. -/
def text (s : String) : Expression := literal (.string s) .string

/-- A parameter for a single value. -/
def param (name : String) (type : ResolvedType) : Expression := parameter name type false

/-- A parameter for a list of values of the given type. -/
def listParam (name : String) (elementType : ResolvedType) : Expression :=
  parameter name elementType true

/-- An untyped call of a function. -/
def call (name : String) (args : List Expression) : Expression := function name args none

/-- A rollup of groupings. -/
def rollup (groupings : List Expression) : Expression := summarization .rollup groupings

/-- A cube of groupings. -/
def cube (groupings : List Expression) : Expression := summarization .cube groupings

/-- Resolves the type of a column, a function or an aggregate; any other expression has its type
already, or never has one. -/
def withType (type : ResolvedType) : Expression → Expression
  | column qualifier? name _ => column qualifier? name (some type)
  | function name args _ => function name args (some type)
  | aggregate a => aggregate { a with type := some type }
  | e => e

/-- The call that counts rows. -/
def countRows : Expression := aggregate { name := "count" }

/-- Membership in a list. -/
def isIn (e : Expression) (list : List Expression) : Predicate := .inList e list false

/-- Absence from a list. -/
def isNotIn (e : Expression) (list : List Expression) : Predicate := .inList e list true

/-- Membership in an array. -/
def isInArray (e array : Expression) : Predicate := .inArray e (some array) false

/-- The expression is null. -/
def isNull (e : Expression) : Predicate := .nullCheck e false

/-- The expression is not null. -/
def isNotNull (e : Expression) : Predicate := .nullCheck e true

theorem type?_withType_col (type : ResolvedType) (name : String) :
    ((col name).withType type).type? = some type := by
  rw [col, withType, type?]

end Expression

namespace Predicate

/-- A truth value as a condition. -/
def holds (e : Expression) : Predicate := boolean e false

/-- The opposite of a truth value as a condition. -/
def fails (e : Expression) : Predicate := boolean e true

/-- Every one of some conditions. -/
def allOf (members : List Predicate) : Predicate := junction .conjunction members

/-- At least one of some conditions. -/
def anyOf (members : List Predicate) : Predicate := junction .disjunction members

end Predicate

/-- All rows of some queries, one after another. -/
def SetQuery.unionAll (parts : List Query) : SetQuery := { operator := .unionAll, parts }

end SqlDialects
