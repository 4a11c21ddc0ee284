import SqlDialects.Type.Descriptor
import SqlDialects.Text.Quoted

/-!
# Dialects

The four dialects of SQL, what each of them can express, and how each spells names, texts and types.
-/

namespace SqlDialects

/-- A dialect of SQL. -/
inductive Dialect where
  | ansi
  | hsql
  | postgres
  | mysql
deriving DecidableEq, Repr

/-- What a dialect can express. -/
structure Capabilities where
  /-- Concatenation with an operator. -/
  concatOperator : Bool
  /-- Array constructors and array literals. -/
  arrayConstructor : Bool
  /-- A WITH clause inside a subquery. -/
  withInSubquery : Bool
  /-- Search paths of recursive tables held as arrays. -/
  recursiveArrays : Bool
  /-- Aggregates with a FILTER clause. -/
  filterClause : Bool
  /-- Row values as operands of a comparison. -/
  rowValues : Bool
  /-- Row values in an IN list. -/
  rowValuesInList : Bool
  /-- A row value compared with a subquery. -/
  rowValuesWithSubquery : Bool
  /-- OFFSET and FETCH clauses. -/
  offsetFetch : Bool
  /-- An IN list bound as one array parameter. -/
  arrayBinding : Bool
  /-- The keyword RECURSIVE in front of recursive tables. -/
  recursiveKeyword : Bool
  /-- NULLS FIRST and NULLS LAST in a sort list. -/
  nullsOrdering : Bool
deriving DecidableEq, Repr

namespace Dialect

/-- Every dialect. -/
def all : List Dialect := [ansi, hsql, postgres, mysql]

/-- The name of a dialect. -/
def name : Dialect → String
  | ansi => "ansi"
  | hsql => "hsql"
  | postgres => "postgres"
  | mysql => "mysql"

/-- The dialect of a name in any case of ASCII letters. -/
def ofName? (s : String) : Option Dialect :=
  match s.toLower with
  | "ansi" => some ansi
  | "hsql" => some hsql
  | "hsqldb" => some hsql
  | "postgres" => some postgres
  | "postgresql" => some postgres
  | "pg" => some postgres
  | "mysql" => some mysql
  | _ => none

/-- What the dialect can express. -/
def capabilities : Dialect → Capabilities
  | ansi =>
    { concatOperator := true, arrayConstructor := true, withInSubquery := true,
      recursiveArrays := true, filterClause := true, rowValues := true, rowValuesInList := true,
      rowValuesWithSubquery := true, offsetFetch := true, arrayBinding := false,
      recursiveKeyword := true, nullsOrdering := true }
  | hsql =>
    { concatOperator := true, arrayConstructor := true, withInSubquery := false,
      recursiveArrays := false, filterClause := true, rowValues := false, rowValuesInList := false,
      rowValuesWithSubquery := false, offsetFetch := true, arrayBinding := true,
      recursiveKeyword := true, nullsOrdering := true }
  | postgres =>
    { concatOperator := true, arrayConstructor := true, withInSubquery := true,
      recursiveArrays := true, filterClause := true, rowValues := true, rowValuesInList := true,
      rowValuesWithSubquery := true, offsetFetch := true, arrayBinding := true,
      recursiveKeyword := true, nullsOrdering := true }
  | mysql =>
    { concatOperator := false, arrayConstructor := false, withInSubquery := true,
      recursiveArrays := false, filterClause := false, rowValues := true, rowValuesInList := true,
      rowValuesWithSubquery := false, offsetFetch := false, arrayBinding := false,
      recursiveKeyword := true, nullsOrdering := false }

/-- The character around names. -/
def nameQuote : Dialect → Char
  | mysql => Char.ofNat 0x60
  | _ => '"'

/-- A name between quotes. -/
def quoteName (d : Dialect) (name : String) : String := Text.Quoted.text d.nameQuote name

/-- A text between quotes, the same in every dialect. -/
def quoteText (s : String) : String := Text.Quoted.text '\'' s

/-- A truth value. -/
def booleanText (d : Dialect) (b : Bool) : String :=
  match d, b with
  | mysql, true => "1"
  | mysql, false => "0"
  | _, true => "true"
  | _, false => "false"

/-- The null literal, the same in every dialect. -/
def nullText : String := "NULL"

/-- The spelling of concatenation, the same in every dialect. -/
def concatText : String := "||"

/-- An array literal of written elements, the same in every dialect. -/
def arrayText (elements : List String) : String :=
  "ARRAY[" ++ ",".intercalate elements ++ "]"

/-- What stands in place of FROM in a query without tables. -/
def fromNothing : Dialect → String
  | hsql => " from (values(0))"
  | mysql => " from dual"
  | _ => ""

/-- What stands in place of FROM in a whole statement that has a select list and nothing else. -/
def fromNothingAlone : Dialect → String
  | mysql => ""
  | d => d.fromNothing

/-- A type name followed by a length, if there is one. -/
def sized (name : String) : Option UInt32 → String
  | some n => name ++ "(" ++ toString n.toNat ++ ")"
  | none => name

/-- The standard type name of a code other than that of arrays. -/
def standardTypeName (length : Option UInt32) : TypeCode → String
  | .boolean => "boolean"
  | .tinyInt => "tinyint"
  | .smallInt => "smallint"
  | .integer => "integer"
  | .bigInt => "bigint"
  | .real => "real"
  | .double => "double"
  | .numeric => "numeric"
  | .char => sized "char" length
  | .varchar => sized "varchar" length
  | .other => sized "varchar" length
  | .date => "date"
  | .timestamp => "timestamp"
  | .array => "array"

/-- The standard type name of a descriptor; an array follows its elements. -/
def standardCastName : TypeDescriptor → String
  | .arrayLike .array _ element => standardCastName element ++ " array"
  | .arrayLike code length _ => standardTypeName length code
  | .scalar code length => standardTypeName length code

/-- The type name of a code other than that of arrays, in Postgres. -/
def postgresTypeName (length : Option UInt32) : TypeCode → String
  | .tinyInt => "smallint"
  | .double => "double precision"
  | .array => "anyarray"
  | code => standardTypeName length code

/-- The type name of a descriptor in Postgres; arrays have brackets. -/
def postgresCastName : TypeDescriptor → String
  | .arrayLike .array _ element => postgresCastName element ++ "[]"
  | .arrayLike code length _ => postgresTypeName length code
  | .scalar code length => postgresTypeName length code

/-- The type name of a code in MySQL, which casts to a handful of types. -/
def mysqlTypeName (length : Option UInt32) : TypeCode → String
  | .boolean => "signed"
  | .tinyInt => "signed"
  | .smallInt => "signed"
  | .integer => "signed"
  | .bigInt => "signed"
  | .real => "double"
  | .double => "double"
  | .numeric => "decimal"
  | .date => "date"
  | .timestamp => "datetime"
  | .char => sized "char" length
  | .varchar => sized "char" length
  | .other => sized "char" length
  | .array => sized "char" length

/-- The type name that a cast uses. -/
def castName (d : Dialect) (t : TypeDescriptor) : String :=
  match d with
  | postgres => postgresCastName t
  | mysql => mysqlTypeName t.length t.code
  | _ => standardCastName t

theorem ofName?_name (d : Dialect) : ofName? d.name = some d := by
  cases d <;> decide +kernel

end Dialect

end SqlDialects
