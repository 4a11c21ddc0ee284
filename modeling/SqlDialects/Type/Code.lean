/-!
# Type codes

The type codes that database drivers report.
-/

namespace SqlDialects

/-- A database type code. -/
inductive TypeCode where
  | boolean
  | tinyInt
  | smallInt
  | integer
  | bigInt
  | real
  | double
  | numeric
  | char
  | varchar
  | date
  | timestamp
  | array
  | other
deriving DecidableEq, Repr

namespace TypeCode

/-- Every type code. -/
def all : List TypeCode :=
  [boolean, tinyInt, smallInt, integer, bigInt, real, double, numeric, char, varchar, date,
    timestamp, array, other]

/-- The upper case name of a code. -/
def name : TypeCode → String
  | boolean => "BOOLEAN"
  | tinyInt => "TINYINT"
  | smallInt => "SMALLINT"
  | integer => "INTEGER"
  | bigInt => "BIGINT"
  | real => "REAL"
  | double => "DOUBLE"
  | numeric => "NUMERIC"
  | char => "CHAR"
  | varchar => "VARCHAR"
  | date => "DATE"
  | timestamp => "TIMESTAMP"
  | array => "ARRAY"
  | other => "OTHER"

/-- The lower case name of a code, used in documents. -/
def tag : TypeCode → String
  | boolean => "boolean"
  | tinyInt => "tinyint"
  | smallInt => "smallint"
  | integer => "integer"
  | bigInt => "bigint"
  | real => "real"
  | double => "double"
  | numeric => "numeric"
  | char => "char"
  | varchar => "varchar"
  | date => "date"
  | timestamp => "timestamp"
  | array => "array"
  | other => "other"

/-- The code of a lower case name. -/
def ofTag? (s : String) : Option TypeCode := all.find? (·.tag == s)

/-- The code of a name in any case of ASCII letters; three codes have a second name. -/
def ofName? (s : String) : Option TypeCode :=
  match s.toLower with
  | "bool" => some boolean
  | "int" => some integer
  | "decimal" => some numeric
  | lower => ofTag? lower

theorem ofTag?_tag (c : TypeCode) : ofTag? c.tag = some c := by
  cases c <;> decide +kernel

end TypeCode

end SqlDialects
