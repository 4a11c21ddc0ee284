import SqlDialects.Sql.Syntax

/-!
# Queries inside queries

`subqueries` lists the queries that stand directly in an expression or a clause, without those inside
them; `nested` lists the queries at any depth below a query: the bodies of its WITH clause, the parts
of a set operation and the subqueries of its clauses, each followed by what is nested in it. Row limits
are not looked into.
-/

namespace SqlDialects

mutual

/-- The queries directly in an expression. -/
def Expression.subqueries : Expression → List Query
  | .column _ _ _ => []
  | .literal _ _ => []
  | .parameter _ _ _ => []
  | .arithmetic _ lhs rhs => lhs.subqueries ++ rhs.subqueries
  | .caseSearched ⟨arms, otherwise⟩ => searchedSubqueries arms ++ optionalSubqueries otherwise
  | .caseSimple ⟨subject, arms, otherwise⟩ =>
    subject.subqueries ++ simpleSubqueries arms ++ optionalSubqueries otherwise
  | .tuple items => subqueriesOfAll items
  | .summarization _ groupings => subqueriesOfAll groupings
  | .function _ args _ => subqueriesOfAll args
  | .aggregate ⟨_, args, _, filter, _⟩ => subqueriesOfAll args ++ filterSubqueries filter
  | .windowed ⟨function, partitions, order⟩ =>
    function.subqueries ++ subqueriesOfAll partitions ++ sortSubqueries order
  | .subquery query => [query]

/-- The queries directly in some expressions. -/
def subqueriesOfAll : List Expression → List Query
  | [] => []
  | e :: es => e.subqueries ++ subqueriesOfAll es

/-- The queries directly in an expression that may be absent. -/
def optionalSubqueries : Option Expression → List Query
  | none => []
  | some e => e.subqueries

/-- The queries directly in the arms of a choice by conditions. -/
def searchedSubqueries : List SearchedArm → List Query
  | [] => []
  | ⟨condition, result⟩ :: arms =>
    condition.subqueries ++ result.subqueries ++ searchedSubqueries arms

/-- The queries directly in the arms of a choice by values. -/
def simpleSubqueries : List SimpleArm → List Query
  | [] => []
  | ⟨value, result⟩ :: arms => value.subqueries ++ result.subqueries ++ simpleSubqueries arms

/-- The queries directly in a sort list. -/
def sortSubqueries : List SortItem → List Query
  | [] => []
  | ⟨e, _, _⟩ :: items => e.subqueries ++ sortSubqueries items

/-- The queries directly in a condition that may be absent. -/
def filterSubqueries : Option Predicate → List Query
  | none => []
  | some p => p.subqueries

/-- The queries directly in a condition. -/
def Predicate.subqueries : Predicate → List Query
  | .boolean e _ => e.subqueries
  | .comparison lhs _ rhs => lhs.subqueries ++ rhs.subqueries
  | .inList test list _ => test.subqueries ++ subqueriesOfAll list
  | .inArray test array _ => test.subqueries ++ optionalSubqueries array
  | .tupleSubquery tuple _ query => subqueriesOfAll tuple ++ [query]
  | .nullCheck e _ => e.subqueries
  | .junction _ members => memberSubqueries members
  | .negated inner => inner.subqueries

/-- The queries directly in the members of a junction. -/
def memberSubqueries : List Predicate → List Query
  | [] => []
  | p :: ps => p.subqueries ++ memberSubqueries ps

end

mutual

/-- The queries at any depth in an expression. -/
def Expression.nested : Expression → List Query
  | .column _ _ _ => []
  | .literal _ _ => []
  | .parameter _ _ _ => []
  | .arithmetic _ lhs rhs => lhs.nested ++ rhs.nested
  | .caseSearched ⟨arms, otherwise⟩ => searchedNested arms ++ optionalNested otherwise
  | .caseSimple ⟨subject, arms, otherwise⟩ =>
    subject.nested ++ simpleNested arms ++ optionalNested otherwise
  | .tuple items => nestedInAll items
  | .summarization _ groupings => nestedInAll groupings
  | .function _ args _ => nestedInAll args
  | .aggregate ⟨_, args, _, filter, _⟩ => nestedInAll args ++ filterNested filter
  | .windowed ⟨function, partitions, order⟩ =>
    function.nested ++ nestedInAll partitions ++ sortNested order
  | .subquery query => query :: query.nested

/-- The queries at any depth in some expressions. -/
def nestedInAll : List Expression → List Query
  | [] => []
  | e :: es => e.nested ++ nestedInAll es

/-- The queries at any depth in an expression that may be absent. -/
def optionalNested : Option Expression → List Query
  | none => []
  | some e => e.nested

/-- The queries at any depth in the arms of a choice by conditions. -/
def searchedNested : List SearchedArm → List Query
  | [] => []
  | ⟨condition, result⟩ :: arms => condition.nested ++ result.nested ++ searchedNested arms

/-- The queries at any depth in the arms of a choice by values. -/
def simpleNested : List SimpleArm → List Query
  | [] => []
  | ⟨value, result⟩ :: arms => value.nested ++ result.nested ++ simpleNested arms

/-- The queries at any depth in a sort list. -/
def sortNested : List SortItem → List Query
  | [] => []
  | ⟨e, _, _⟩ :: items => e.nested ++ sortNested items

/-- The queries at any depth in a condition that may be absent. -/
def filterNested : Option Predicate → List Query
  | none => []
  | some p => p.nested

/-- The queries at any depth in a condition. -/
def Predicate.nested : Predicate → List Query
  | .boolean e _ => e.nested
  | .comparison lhs _ rhs => lhs.nested ++ rhs.nested
  | .inList test list _ => test.nested ++ nestedInAll list
  | .inArray test array _ => test.nested ++ optionalNested array
  | .tupleSubquery tuple _ query => nestedInAll tuple ++ query :: query.nested
  | .nullCheck e _ => e.nested
  | .junction _ members => memberNested members
  | .negated inner => inner.nested

/-- The queries at any depth in the members of a junction. -/
def memberNested : List Predicate → List Query
  | [] => []
  | p :: ps => p.nested ++ memberNested ps

/-- The queries at any depth below the items of a select list. -/
def itemNested : List SelectItem → List Query
  | [] => []
  | ⟨e, _⟩ :: items => e.nested ++ itemNested items

/-- The bodies of a WITH clause, each followed by the queries below it. -/
def tableNested : List CommonTable → List Query
  | [] => []
  | ⟨_, _, query, _, _⟩ :: tables => query :: query.nested ++ tableNested tables

/-- Some queries, each followed by the queries below it. -/
def partNested : List Query → List Query
  | [] => []
  | query :: queries => query :: query.nested ++ partNested queries

/-- The queries at any depth below a query. -/
def Query.nested : Query → List Query
  | .select ⟨ctes, _, items, _, filter, groupBy, having, orderBy, _, _⟩ =>
    tableNested ctes ++ (itemNested items ++ filterNested filter ++ nestedInAll groupBy
      ++ filterNested having ++ sortNested orderBy)
  | .set ⟨ctes, _, parts, orderBy, _, _⟩ =>
    tableNested ctes ++ partNested parts ++ sortNested orderBy

end

/-- The tables of every WITH clause at any depth below a query. -/
def Query.nestedTables (q : Query) : List CommonTable := q.nested.flatMap Query.ctes

end SqlDialects
