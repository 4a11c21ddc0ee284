import SqlDialects.Document.Operator
import SqlDialects.Document.Value
import SqlDialects.Sql.Syntax

/-!
# Writing statements into documents

The written form of statements, in which every member is present and an absent part is null.
-/

namespace SqlDialects

namespace Json

/-- A part that may be absent. -/
def optional {α : Type} (encode : α → Json) : Option α → Json
  | some a => encode a
  | none => .null

/-- A choice with what is attached to it. -/
def tagged (tag : String) (content : Json) : Json := .object [(tag, content)]

/-- The name of an operator or a kind. -/
def nameOf {α : Type} [DecidableEq α] (names : List (String × α)) (a : α) : Json :=
  .string (nameIn names a)

end Json

/-- Writes a table of a FROM clause. -/
def TableReference.toJson (t : TableReference) : Json :=
  .object [("name", .string t.name), ("alias", .optional .string t.alias?)]

mutual

/-- Writes an expression. -/
def Expression.toJson : Expression → Json
  | .column qualifier name type =>
    .tagged "column" (.object [("qualifier", .optional .string qualifier), ("name", .string name),
      ("mapping", .optional ResolvedType.toJson type)])
  | .literal value type =>
    .tagged "literal" (.object [("value", value.toJson Json.float), ("mapping", type.toJson)])
  | .parameter name type multiValued =>
    .tagged "parameter" (.object [("name", .string name), ("mapping", type.toJson),
      ("multi_valued", .bool multiValued)])
  | .arithmetic op lhs rhs =>
    .tagged "binary_arithmetic" (.object [("op", .nameOf ArithmeticOperator.names op),
      ("lhs", lhs.toJson), ("rhs", rhs.toJson)])
  | .caseSearched ⟨arms, otherwise⟩ =>
    .tagged "case_searched" (.object [("when", .array (searchedArmsToJson arms)),
      ("otherwise", optionalToJson otherwise)])
  | .caseSimple ⟨subject, arms, otherwise⟩ =>
    .tagged "case_simple" (.object [("subject", subject.toJson),
      ("when", .array (simpleArmsToJson arms)), ("otherwise", optionalToJson otherwise)])
  | .tuple items => .tagged "tuple" (.array (expressionsToJson items))
  | .summarization kind groupings =>
    .tagged "summarization" (.object [("kind", .nameOf SummarizationKind.names kind),
      ("groupings", .array (expressionsToJson groupings))])
  | .function name args type =>
    .tagged "function" (.object [("name", .string name), ("args", .array (expressionsToJson args)),
      ("mapping", .optional ResolvedType.toJson type)])
  | .aggregate ⟨name, args, distinct, filter, type⟩ =>
    .tagged "aggregate" (.object [("name", .string name), ("args", .array (expressionsToJson args)),
      ("distinct", .bool distinct), ("filter", conditionToJson filter),
      ("mapping", .optional ResolvedType.toJson type)])
  | .windowed ⟨function, partitions, order⟩ =>
    .tagged "over" (.object [("function", function.toJson),
      ("partitions", .array (expressionsToJson partitions)),
      ("order", .array (sortItemsToJson order))])
  | .subquery query => .tagged "subquery" query.toJson

/-- Writes expressions, one by one. -/
def expressionsToJson : List Expression → List Json
  | [] => []
  | e :: es => e.toJson :: expressionsToJson es

/-- Writes an expression that may be absent. -/
def optionalToJson : Option Expression → Json
  | none => .null
  | some e => e.toJson

/-- Writes the arms of a choice by conditions. -/
def searchedArmsToJson : List SearchedArm → List Json
  | [] => []
  | ⟨condition, result⟩ :: arms =>
    .object [("predicate", condition.toJson), ("result", result.toJson)] :: searchedArmsToJson arms

/-- Writes the arms of a choice by values. -/
def simpleArmsToJson : List SimpleArm → List Json
  | [] => []
  | ⟨value, result⟩ :: arms =>
    .object [("value", value.toJson), ("result", result.toJson)] :: simpleArmsToJson arms

/-- Writes the keys of a sort list. -/
def sortItemsToJson : List SortItem → List Json
  | [] => []
  | ⟨e, direction, nulls⟩ :: items =>
    .object [("expression", e.toJson), ("direction", .nameOf SortDirection.names direction),
      ("nulls", .optional (.nameOf NullPrecedence.names) nulls)] :: sortItemsToJson items

/-- Writes a condition. -/
def Predicate.toJson : Predicate → Json
  | .boolean e negated =>
    .tagged "boolean_expression" (.object [("expression", e.toJson), ("negated", .bool negated)])
  | .comparison lhs op rhs =>
    .tagged "comparison" (.object [("lhs", lhs.toJson), ("op", .nameOf ComparisonOperator.names op),
      ("rhs", rhs.toJson)])
  | .inList test list negated =>
    .tagged "in_list" (.object [("test", test.toJson), ("list", .array (expressionsToJson list)),
      ("negated", .bool negated)])
  | .inArray test array negated =>
    .tagged "in_list_array" (.object [("test", test.toJson), ("array", optionalToJson array),
      ("negated", .bool negated)])
  | .tupleSubquery tuple op query =>
    .tagged "tuple_subquery_comparison" (.object [("tuple", .array (expressionsToJson tuple)),
      ("op", .nameOf ComparisonOperator.names op), ("subquery", query.toJson)])
  | .nullCheck e negated =>
    .tagged "null_check" (.object [("expression", e.toJson), ("negated", .bool negated)])
  | .junction kind members =>
    .tagged "junction" (.object [("kind", .nameOf JunctionKind.names kind),
      ("predicates", .array (membersToJson members))])
  | .negated inner => .tagged "negated" inner.toJson

/-- Writes the members of a junction. -/
def membersToJson : List Predicate → List Json
  | [] => []
  | p :: ps => p.toJson :: membersToJson ps

/-- Writes a condition that may be absent. -/
def conditionToJson : Option Predicate → Json
  | none => .null
  | some p => p.toJson

/-- Writes the items of a select list. -/
def selectItemsToJson : List SelectItem → List Json
  | [] => []
  | ⟨e, alias?⟩ :: items =>
    .object [("expression", e.toJson), ("alias", .optional .string alias?)] :: selectItemsToJson items

/-- Writes a FETCH clause that may be absent. -/
def fetchToJson : Option FetchClause → Json
  | none => .null
  | some ⟨count, kind⟩ =>
    .object [("expression", count.toJson), ("kind", .nameOf FetchKind.names kind)]

/-- Writes a search path that may be absent. -/
def searchPathToJson : Option SearchPath → Json
  | none => .null
  | some ⟨column, seed, step, sizeEstimate⟩ =>
    .object [("alias", .string column), ("seed", seed.toJson), ("step", step.toJson),
      ("size_estimate", .integer sizeEstimate)]

/-- Writes the tables of a WITH clause. -/
def commonTablesToJson : List CommonTable → List Json
  | [] => []
  | ⟨name, columns, query, recursive, searchPath⟩ :: tables =>
    .object [("name", .string name), ("columns", .array (columns.map .string)),
      ("query", query.toJson), ("recursive", .bool recursive),
      ("search_path", searchPathToJson searchPath)] :: commonTablesToJson tables

/-- Writes queries, one by one. -/
def queriesToJson : List Query → List Json
  | [] => []
  | query :: queries => query.toJson :: queriesToJson queries

/-- Writes a query. -/
def Query.toJson : Query → Json
  | .select ⟨ctes, distinct, items, tables, filter, groupBy, having, orderBy, offset, fetch⟩ =>
    .tagged "spec" (.object [("ctes", .array (commonTablesToJson ctes)),
      ("distinct", .bool distinct), ("select", .array (selectItemsToJson items)),
      ("from", .array (tables.map TableReference.toJson)), ("where", conditionToJson filter),
      ("group_by", .array (expressionsToJson groupBy)), ("having", conditionToJson having),
      ("order_by", .array (sortItemsToJson orderBy)), ("offset", optionalToJson offset),
      ("fetch", fetchToJson fetch)])
  | .set ⟨ctes, operator, parts, orderBy, offset, fetch⟩ =>
    .tagged "group" (.object [("ctes", .array (commonTablesToJson ctes)),
      ("operator", .nameOf SetOperator.names operator), ("parts", .array (queriesToJson parts)),
      ("order_by", .array (sortItemsToJson orderBy)), ("offset", optionalToJson offset),
      ("fetch", fetchToJson fetch)])

end

/-- Writes a statement. -/
def Statement.toJson : Statement → Json
  | select query => .tagged "select" query.toJson

end SqlDialects
