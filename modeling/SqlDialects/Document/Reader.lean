import SqlDialects.Document.Operator
import SqlDialects.Document.Value
import SqlDialects.Sql.Syntax

/-!
# Reading statements from documents

Readers of the nodes of a statement. The readers of nodes that contain each other are built up level by
level: those of one level use those of the level below for the nodes inside. The members of a record
and of the contents of a choice are listed in the order in which arrays hold them.
-/

namespace SqlDialects

/-- Readers of the nodes that contain each other. -/
structure SyntaxDecoders where
  source : DocumentSource
  expression : Decoder Expression
  predicate : Decoder Predicate
  query : Decoder Query

namespace SyntaxDecoders

open Decoder

variable (inner : SyntaxDecoders)

/-- The members of the contents of a choice. -/
def members (names : List String) : Decoder Members := contents names inner.source

/-- Reads an operator or a kind by its name. -/
def named {α : Type} (names : List (String × α)) : Decoder α := oneOf names

/-- Reads an arm of a choice by conditions. -/
def searchedArm : Decoder SearchedArm := fun j => do
  let ms ← record ["predicate", "result"] j
  let condition ← Members.required ms "predicate" inner.predicate
  let result ← Members.required ms "result" inner.expression
  some ⟨condition, result⟩

/-- Reads an arm of a choice by values. -/
def simpleArm : Decoder SimpleArm := fun j => do
  let ms ← record ["value", "result"] j
  let value ← Members.required ms "value" inner.expression
  let result ← Members.required ms "result" inner.expression
  some ⟨value, result⟩

/-- Reads a choice by conditions. -/
def searchedCase : Decoder SearchedCase := fun j => do
  let ms ← record ["when", "otherwise"] j
  let arms ← Members.required ms "when" (list inner.searchedArm)
  let otherwise ← Members.optional ms "otherwise" inner.expression
  some ⟨arms, otherwise⟩

/-- Reads a choice by values. -/
def simpleCase : Decoder SimpleCase := fun j => do
  let ms ← record ["subject", "when", "otherwise"] j
  let subject ← Members.required ms "subject" inner.expression
  let arms ← Members.required ms "when" (list inner.simpleArm)
  let otherwise ← Members.optional ms "otherwise" inner.expression
  some ⟨subject, arms, otherwise⟩

/-- Reads a key of a sort list. -/
def sortItem : Decoder SortItem := fun j => do
  let ms ← record ["expression", "direction", "nulls"] j
  let expression ← Members.required ms "expression" inner.expression
  let direction ← Members.withDefault ms "direction" .ascending (named SortDirection.names)
  let nulls ← Members.optional ms "nulls" (named NullPrecedence.names)
  some ⟨expression, direction, nulls⟩

/-- Reads a call of an aggregate. -/
def aggregate : Decoder Aggregate := fun j => do
  let ms ← record ["name", "args", "distinct", "filter", "mapping"] j
  let name ← Members.required ms "name" string
  let args ← Members.withDefault ms "args" [] (list inner.expression)
  let distinct ← Members.withDefault ms "distinct" false bool
  let filter ← Members.optional ms "filter" inner.predicate
  let type ← Members.optional ms "mapping" ResolvedType.ofJson
  some ⟨name, args, distinct, filter, type⟩

/-- Reads a function over a window. -/
def windowed : Decoder Over := fun j => do
  let ms ← record ["function", "partitions", "order"] j
  let function ← Members.required ms "function" inner.expression
  let partitions ← Members.withDefault ms "partitions" [] (list inner.expression)
  let order ← Members.withDefault ms "order" [] (list inner.sortItem)
  some ⟨function, partitions, order⟩

/-- Reads the contents of an expression with the given name. -/
def expressionBody (tag : String) (j : Json) : Option Expression :=
  match tag with
  | "column" => do
    let ms ← inner.members ["qualifier", "name", "mapping"] j
    let qualifier ← Members.optional ms "qualifier" string
    let name ← Members.required ms "name" string
    let type ← Members.optional ms "mapping" ResolvedType.ofJson
    some (.column qualifier name type)
  | "literal" => do
    let ms ← inner.members ["value", "mapping"] j
    let value ← Members.required ms "value" (Value.ofJson (.ofSource inner.source))
    let type ← Members.required ms "mapping" ResolvedType.ofJson
    some (.literal value type)
  | "parameter" => do
    let ms ← inner.members ["name", "mapping", "multi_valued"] j
    let name ← Members.required ms "name" string
    let type ← Members.required ms "mapping" ResolvedType.ofJson
    let multiValued ← Members.withDefault ms "multi_valued" false bool
    some (.parameter name type multiValued)
  | "binary_arithmetic" => do
    let ms ← inner.members ["op", "lhs", "rhs"] j
    let op ← Members.required ms "op" (named ArithmeticOperator.names)
    let lhs ← Members.required ms "lhs" inner.expression
    let rhs ← Members.required ms "rhs" inner.expression
    some (.arithmetic op lhs rhs)
  | "case_searched" => (inner.searchedCase j).map .caseSearched
  | "case_simple" => (inner.simpleCase j).map .caseSimple
  | "tuple" => (list inner.expression j).map .tuple
  | "summarization" => do
    let ms ← inner.members ["kind", "groupings"] j
    let kind ← Members.required ms "kind" (named SummarizationKind.names)
    let groupings ← Members.required ms "groupings" (list inner.expression)
    some (.summarization kind groupings)
  | "function" => do
    let ms ← inner.members ["name", "args", "mapping"] j
    let name ← Members.required ms "name" string
    let args ← Members.withDefault ms "args" [] (list inner.expression)
    let type ← Members.optional ms "mapping" ResolvedType.ofJson
    some (.function name args type)
  | "aggregate" => (inner.aggregate j).map .aggregate
  | "over" => (inner.windowed j).map .windowed
  | "subquery" => (inner.query j).map .subquery
  | _ => none

/-- Reads the contents of a condition with the given name. -/
def predicateBody (tag : String) (j : Json) : Option Predicate :=
  match tag with
  | "boolean_expression" => do
    let ms ← inner.members ["expression", "negated"] j
    let expression ← Members.required ms "expression" inner.expression
    let negated ← Members.withDefault ms "negated" false bool
    some (.boolean expression negated)
  | "comparison" => do
    let ms ← inner.members ["lhs", "op", "rhs"] j
    let lhs ← Members.required ms "lhs" inner.expression
    let op ← Members.required ms "op" (named ComparisonOperator.names)
    let rhs ← Members.required ms "rhs" inner.expression
    some (.comparison lhs op rhs)
  | "in_list" => do
    let ms ← inner.members ["test", "list", "negated"] j
    let test ← Members.required ms "test" inner.expression
    let items ← Members.required ms "list" (list inner.expression)
    let negated ← Members.withDefault ms "negated" false bool
    some (.inList test items negated)
  | "in_list_array" => do
    let ms ← inner.members ["test", "array", "negated"] j
    let test ← Members.required ms "test" inner.expression
    let array ← Members.optional ms "array" inner.expression
    let negated ← Members.withDefault ms "negated" false bool
    some (.inArray test array negated)
  | "tuple_subquery_comparison" => do
    let ms ← inner.members ["tuple", "op", "subquery"] j
    let tuple ← Members.required ms "tuple" (list inner.expression)
    let op ← Members.required ms "op" (named ComparisonOperator.names)
    let query ← Members.required ms "subquery" inner.query
    some (.tupleSubquery tuple op query)
  | "null_check" => do
    let ms ← inner.members ["expression", "negated"] j
    let expression ← Members.required ms "expression" inner.expression
    let negated ← Members.withDefault ms "negated" false bool
    some (.nullCheck expression negated)
  | "junction" => do
    let ms ← inner.members ["kind", "predicates"] j
    let kind ← Members.required ms "kind" (named JunctionKind.names)
    let members ← Members.required ms "predicates" (list inner.predicate)
    some (.junction kind members)
  | "negated" => (inner.predicate j).map .negated
  | _ => none

/-- Reads an item of a select list. -/
def selectItem : Decoder SelectItem := fun j => do
  let ms ← record ["expression", "alias"] j
  let expression ← Members.required ms "expression" inner.expression
  let alias? ← Members.optional ms "alias" string
  some ⟨expression, alias?⟩

/-- Reads a table of a FROM clause. -/
def tableReference : Decoder TableReference := fun j => do
  let ms ← record ["name", "alias"] j
  let name ← Members.required ms "name" string
  let alias? ← Members.optional ms "alias" string
  some ⟨name, alias?⟩

/-- Reads a FETCH clause. -/
def fetchClause : Decoder FetchClause := fun j => do
  let ms ← record ["expression", "kind"] j
  let count ← Members.required ms "expression" inner.expression
  let kind ← Members.withDefault ms "kind" .rowsOnly (named FetchKind.names)
  some ⟨count, kind⟩

/-- Reads a search path. -/
def searchPath : Decoder SearchPath := fun j => do
  let ms ← record ["alias", "seed", "step", "size_estimate"] j
  let column ← Members.required ms "alias" string
  let seed ← Members.required ms "seed" inner.expression
  let step ← Members.required ms "step" inner.expression
  let sizeEstimate ← Members.withDefault ms "size_estimate" (-1)
    (integerBetween IntegerWidth.int.least IntegerWidth.int.greatest)
  some ⟨column, seed, step, sizeEstimate⟩

/-- Reads a table of a WITH clause. -/
def commonTable : Decoder CommonTable := fun j => do
  let ms ← record ["name", "columns", "query", "recursive", "search_path"] j
  let name ← Members.required ms "name" string
  let columns ← Members.withDefault ms "columns" [] (list string)
  let query ← Members.required ms "query" inner.query
  let recursive ← Members.withDefault ms "recursive" false bool
  let searchPath ← Members.optional ms "search_path" inner.searchPath
  some ⟨name, columns, query, recursive, searchPath⟩

/-- Reads a SELECT. -/
def selectQuery : Decoder SelectQuery := fun j => do
  let ms ← record ["ctes", "distinct", "select", "from", "where", "group_by", "having",
    "order_by", "offset", "fetch"] j
  let ctes ← Members.withDefault ms "ctes" [] (list inner.commonTable)
  let distinct ← Members.withDefault ms "distinct" false bool
  let items ← Members.withDefault ms "select" [] (list inner.selectItem)
  let tables ← Members.withDefault ms "from" [] (list tableReference)
  let filter ← Members.optional ms "where" inner.predicate
  let groupBy ← Members.withDefault ms "group_by" [] (list inner.expression)
  let having ← Members.optional ms "having" inner.predicate
  let orderBy ← Members.withDefault ms "order_by" [] (list inner.sortItem)
  let offset ← Members.optional ms "offset" inner.expression
  let fetch ← Members.optional ms "fetch" inner.fetchClause
  some ⟨ctes, distinct, items, tables, filter, groupBy, having, orderBy, offset, fetch⟩

/-- Reads a set operation. -/
def setQuery : Decoder SetQuery := fun j => do
  let ms ← record ["ctes", "operator", "parts", "order_by", "offset", "fetch"] j
  let ctes ← Members.withDefault ms "ctes" [] (list inner.commonTable)
  let operator ← Members.required ms "operator" (named SetOperator.names)
  let parts ← Members.required ms "parts" (list inner.query)
  let orderBy ← Members.withDefault ms "order_by" [] (list inner.sortItem)
  let offset ← Members.optional ms "offset" inner.expression
  let fetch ← Members.optional ms "fetch" inner.fetchClause
  some ⟨ctes, operator, parts, orderBy, offset, fetch⟩

/-- Reads the contents of a query with the given name. -/
def queryBody (tag : String) (j : Json) : Option Query :=
  match tag with
  | "spec" => (inner.selectQuery j).map .select
  | "group" => (inner.setQuery j).map .set
  | _ => none

/-- The readers one level above the given ones. -/
def outer : SyntaxDecoders where
  source := inner.source
  expression := fun j => (choice j).bind fun (tag, content) => inner.expressionBody tag content
  predicate := fun j => (choice j).bind fun (tag, content) => inner.predicateBody tag content
  query := fun j => (choice j).bind fun (tag, content) => inner.queryBody tag content

/-- Readers of nodes nested no deeper than the given number of levels. -/
def within (source : DocumentSource) : Nat → SyntaxDecoders
  | 0 => ⟨source, fun _ => none, fun _ => none, fun _ => none⟩
  | levels + 1 => (within source levels).outer

/-- Reads a statement. -/
def statement : Decoder Statement := fun j => do
  let (tag, content) ← choice j
  match tag with
  | "select" => (inner.query content).map .select
  | _ => none

end SyntaxDecoders

/-- Readers deep enough for a document, and for all that it contains. -/
def Json.decoders (source : DocumentSource) (j : Json) : SyntaxDecoders :=
  .within source j.depth

/-- Reads an expression. -/
def Expression.ofJson : Decoder Expression := fun j => (j.decoders .memory).expression j

/-- Reads a condition. -/
def Predicate.ofJson : Decoder Predicate := fun j => (j.decoders .memory).predicate j

/-- Reads a query. -/
def Query.ofJson : Decoder Query := fun j => (j.decoders .memory).query j

/-- Reads a statement. -/
def Statement.ofJson : Decoder Statement := fun j => (j.decoders .memory).statement j

/-- The statement that a text holds. -/
def Statement.ofText? (text : String) : Option Statement :=
  (Json.ofString? text).bind fun j => (j.decoders .text).statement j

end SqlDialects
