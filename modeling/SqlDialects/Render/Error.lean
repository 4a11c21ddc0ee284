import SqlDialects.Dialect.Basic
import SqlDialects.Marshal.Error
import SqlDialects.Sql.Operator

/-!
# Failures of translation

The causes for which a statement cannot be rendered or its parameters cannot be bound, and their
wording.
-/

namespace SqlDialects

/-- A construct that some dialect cannot express. -/
inductive Construct where
  | arrayLiteral
  | tupleAgainstSetOperation
  | tupleAgainstLimitedSubquery
  | summarization
  | arrayMembership
deriving DecidableEq, Repr

/-- The name of a construct in messages. -/
def Construct.name : Construct → String
  | arrayLiteral => "Array literal"
  | tupleAgainstSetOperation => "Tuple comparison against a set operation"
  | tupleAgainstLimitedSubquery => "Tuple comparison against a subquery with OFFSET or FETCH"
  | summarization => "Summarization"
  | arrayMembership => "Array membership"

/-- A way in which a statement is malformed. -/
inductive Malformed where
  | arity (left right : Nat)
  | emptyTuples
  | tupleWithScalar
  | emptyCase
  /-- An array literal has the type of the given name, which is no array type. -/
  | arrayLiteralType (name : String)
  | listWithoutTuples
  /-- The common table has a search path, but its body is no set operation. -/
  | pathWithoutSetOperation (table : String)
  /-- The common table has a search path, but its body has a single part. -/
  | pathWithoutStep (table : String)
  | pathPartNotSelect
  | emptySetOperation
  | emptySelect
deriving DecidableEq, Repr

/-- The description of a malformed statement. -/
def Malformed.description : Malformed → String
  | arity left right =>
    "cannot compare a tuple of " ++ toString left ++ " elements with a tuple of " ++ toString right
      ++ " elements"
  | emptyTuples => "comparison of empty tuples"
  | tupleWithScalar => "tuple compared with a scalar"
  | emptyCase => "CASE expression without WHEN arms"
  | arrayLiteralType name => "array literal typed as non-array '" ++ name ++ "'"
  | listWithoutTuples => "IN list of a tuple must contain tuples"
  | pathWithoutSetOperation table => "search path of CTE '" ++ table ++ "' requires a set operation"
  | pathWithoutStep table =>
    "search path of CTE '" ++ table ++ "' requires a seed and a recursive arm"
  | pathPartNotSelect => "search path arms must be simple selects"
  | emptySetOperation => "set operation without query parts"
  | emptySelect => "SELECT without items"

/-- Why a statement cannot be rendered, or a parameter cannot be bound. -/
inductive TranslationError where
  | unsupported (construct : Construct) (dialect : Dialect)
  | invalidFetch (kind : FetchKind) (dialect : Dialect)
  | invalidExpression (fault : Malformed)
  /-- No value is bound to the parameter. -/
  | missingBinding (parameter : String)
  | marshal (error : MarshalError)

/-- The wording of a failure. -/
def TranslationError.message : TranslationError → String
  | unsupported construct dialect => construct.name ++ " is not supported by " ++ dialect.name
  | invalidFetch kind dialect =>
    "fetch clause type " ++ kind.diagnostic ++ " is not supported by " ++ dialect.name
      ++ ", only ROWS ONLY"
  | invalidExpression fault => "invalid expression: " ++ fault.description
  | missingBinding parameter => "no value bound for parameter '" ++ parameter ++ "'"
  | marshal error => error.message

end SqlDialects
