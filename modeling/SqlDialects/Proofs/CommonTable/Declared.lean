import SqlDialects.Sql.Traversal

/-!
# All common tables of a statement

`Query.within` lists the queries at any depth below a query, wherever a query can stand: in every clause,
in the bodies of its WITH clause and the expressions of their search paths, in the parts of a set
operation, and in row limits. Each of them is marked if the way to it goes through a row limit or a
search path. The queries without that mark are the nested ones (`Query.unmarked_within`), so the tables of the
marked ones are what a walk over the nested ones overlooks.
-/

namespace SqlDialects

mutual

/-- The queries at any depth in an expression. The mark is that of the place of the expression. -/
def Expression.within (hidden : Bool) : Expression → List (Bool × Query)
  | .column _ _ _ => []
  | .literal _ _ => []
  | .parameter _ _ _ => []
  | .arithmetic _ lhs rhs => lhs.within hidden ++ rhs.within hidden
  | .caseSearched ⟨arms, otherwise⟩ => searchedWithin hidden arms ++ optionalWithin hidden otherwise
  | .caseSimple ⟨subject, arms, otherwise⟩ =>
    subject.within hidden ++ simpleWithin hidden arms ++ optionalWithin hidden otherwise
  | .tuple items => withinAll hidden items
  | .summarization _ groupings => withinAll hidden groupings
  | .function _ args _ => withinAll hidden args
  | .aggregate ⟨_, args, _, filter, _⟩ => withinAll hidden args ++ filterWithin hidden filter
  | .windowed ⟨function, partitions, order⟩ =>
    function.within hidden ++ withinAll hidden partitions ++ sortWithin hidden order
  | .subquery query => (hidden, query) :: query.within hidden

/-- The queries at any depth in some expressions. -/
def withinAll (hidden : Bool) : List Expression → List (Bool × Query)
  | [] => []
  | e :: es => e.within hidden ++ withinAll hidden es

/-- The queries at any depth in an expression that may be absent. -/
def optionalWithin (hidden : Bool) : Option Expression → List (Bool × Query)
  | none => []
  | some e => e.within hidden

/-- The queries at any depth in the arms of a choice by conditions. -/
def searchedWithin (hidden : Bool) : List SearchedArm → List (Bool × Query)
  | [] => []
  | ⟨condition, result⟩ :: arms =>
    condition.within hidden ++ result.within hidden ++ searchedWithin hidden arms

/-- The queries at any depth in the arms of a choice by values. -/
def simpleWithin (hidden : Bool) : List SimpleArm → List (Bool × Query)
  | [] => []
  | ⟨value, result⟩ :: arms => value.within hidden ++ result.within hidden ++ simpleWithin hidden arms

/-- The queries at any depth in a sort list. -/
def sortWithin (hidden : Bool) : List SortItem → List (Bool × Query)
  | [] => []
  | ⟨e, _, _⟩ :: items => e.within hidden ++ sortWithin hidden items

/-- The queries at any depth in a condition that may be absent. -/
def filterWithin (hidden : Bool) : Option Predicate → List (Bool × Query)
  | none => []
  | some p => p.within hidden

/-- The queries at any depth in a condition. -/
def Predicate.within (hidden : Bool) : Predicate → List (Bool × Query)
  | .boolean e _ => e.within hidden
  | .comparison lhs _ rhs => lhs.within hidden ++ rhs.within hidden
  | .inList test list _ => test.within hidden ++ withinAll hidden list
  | .inArray test array _ => test.within hidden ++ optionalWithin hidden array
  | .tupleSubquery tuple _ query => withinAll hidden tuple ++ (hidden, query) :: query.within hidden
  | .nullCheck e _ => e.within hidden
  | .junction _ members => memberWithin hidden members
  | .negated inner => inner.within hidden

/-- The queries at any depth in the members of a junction. -/
def memberWithin (hidden : Bool) : List Predicate → List (Bool × Query)
  | [] => []
  | p :: ps => p.within hidden ++ memberWithin hidden ps

/-- The queries at any depth in the items of a select list. -/
def itemWithin (hidden : Bool) : List SelectItem → List (Bool × Query)
  | [] => []
  | ⟨e, _⟩ :: items => e.within hidden ++ itemWithin hidden items

/-- The queries at any depth in a FETCH clause that may be absent, which are hidden. -/
def fetchWithin : Option FetchClause → List (Bool × Query)
  | none => []
  | some ⟨count, _⟩ => count.within true

/-- The queries at any depth in a search path that may be absent, which are hidden. -/
def pathWithin : Option SearchPath → List (Bool × Query)
  | none => []
  | some ⟨_, seed, step, _⟩ => seed.within true ++ step.within true

/-- The bodies of a WITH clause with the queries below them, and those in its search paths. -/
def tableWithin (hidden : Bool) : List CommonTable → List (Bool × Query)
  | [] => []
  | ⟨_, _, query, _, path⟩ :: tables =>
    (hidden, query) :: query.within hidden ++ pathWithin path ++ tableWithin hidden tables

/-- Some queries, each followed by the queries below it. -/
def partWithin (hidden : Bool) : List Query → List (Bool × Query)
  | [] => []
  | query :: queries => (hidden, query) :: query.within hidden ++ partWithin hidden queries

/-- The queries at any depth below a query. -/
def Query.within (hidden : Bool) : Query → List (Bool × Query)
  | .select ⟨ctes, _, items, _, filter, groupBy, having, orderBy, offset, fetch⟩ =>
    tableWithin hidden ctes ++ (itemWithin hidden items ++ filterWithin hidden filter
      ++ withinAll hidden groupBy ++ filterWithin hidden having ++ sortWithin hidden orderBy)
      ++ optionalWithin true offset ++ fetchWithin fetch
  | .set ⟨ctes, _, parts, orderBy, offset, fetch⟩ =>
    tableWithin hidden ctes ++ partWithin hidden parts ++ sortWithin hidden orderBy
      ++ optionalWithin true offset ++ fetchWithin fetch

end

namespace Query

/-- The common tables declared anywhere in a statement. -/
def declaredTables (q : Query) : List CommonTable := (q.within false).flatMap (·.2.ctes) ++ q.ctes

/-- The common tables of queries that are reached through a row limit or a search path. -/
def overlookedTables (q : Query) : List CommonTable :=
  ((q.within false).filter (·.1)).flatMap (·.2.ctes)

end Query

/-! ## Marked and nested queries -/

/-- The queries without a mark. -/
def unmarked (found : List (Bool × Query)) : List Query := (found.filter (!·.1)).map (·.2)

@[simp] theorem unmarked_nil : unmarked [] = [] := rfl

@[simp] theorem unmarked_append (xs ys : List (Bool × Query)) :
    unmarked (xs ++ ys) = unmarked xs ++ unmarked ys := by
  simp [unmarked]

@[simp] theorem unmarked_cons_false (q : Query) (xs : List (Bool × Query)) :
    unmarked ((false, q) :: xs) = q :: unmarked xs := rfl

@[simp] theorem unmarked_cons_true (q : Query) (xs : List (Bool × Query)) :
    unmarked ((true, q) :: xs) = unmarked xs := rfl

mutual

theorem Expression.unmarked_within : ∀ e : Expression, unmarked (e.within false) = e.nested ∧
    unmarked (e.within true) = []
  | .column _ _ _ => ⟨rfl, rfl⟩
  | .literal _ _ => ⟨rfl, rfl⟩
  | .parameter _ _ _ => ⟨rfl, rfl⟩
  | .arithmetic _ lhs rhs => by
    simp [Expression.within, Expression.nested, lhs.unmarked_within, rhs.unmarked_within]
  | .caseSearched ⟨arms, otherwise⟩ => by
    simp [Expression.within, Expression.nested, unmarked_searchedWithin arms,
      unmarked_optionalWithin otherwise]
  | .caseSimple ⟨subject, arms, otherwise⟩ => by
    simp [Expression.within, Expression.nested, subject.unmarked_within, unmarked_simpleWithin arms,
      unmarked_optionalWithin otherwise]
  | .tuple items => by simp [Expression.within, Expression.nested, unmarked_withinAll items]
  | .summarization _ groupings => by simp [Expression.within, Expression.nested, unmarked_withinAll groupings]
  | .function _ args _ => by simp [Expression.within, Expression.nested, unmarked_withinAll args]
  | .aggregate ⟨_, args, _, filter, _⟩ => by
    simp [Expression.within, Expression.nested, unmarked_withinAll args, unmarked_filterWithin filter]
  | .windowed ⟨function, partitions, order⟩ => by
    simp [Expression.within, Expression.nested, function.unmarked_within, unmarked_withinAll partitions,
      unmarked_sortWithin order]
  | .subquery query => by simp [Expression.within, Expression.nested, query.unmarked_within]

theorem unmarked_withinAll : ∀ es : List Expression, unmarked (withinAll false es) = nestedInAll es ∧
    unmarked (withinAll true es) = []
  | [] => ⟨rfl, rfl⟩
  | e :: es => by simp [withinAll, nestedInAll, e.unmarked_within, unmarked_withinAll es]

theorem unmarked_optionalWithin : ∀ e? : Option Expression,
    unmarked (optionalWithin false e?) = optionalNested e? ∧ unmarked (optionalWithin true e?) = []
  | none => ⟨rfl, rfl⟩
  | some e => by simp [optionalWithin, optionalNested, e.unmarked_within]

theorem unmarked_searchedWithin : ∀ arms : List SearchedArm,
    unmarked (searchedWithin false arms) = searchedNested arms ∧ unmarked (searchedWithin true arms) = []
  | [] => ⟨rfl, rfl⟩
  | ⟨condition, result⟩ :: arms => by
    simp [searchedWithin, searchedNested, condition.unmarked_within, result.unmarked_within,
      unmarked_searchedWithin arms]

theorem unmarked_simpleWithin : ∀ arms : List SimpleArm,
    unmarked (simpleWithin false arms) = simpleNested arms ∧ unmarked (simpleWithin true arms) = []
  | [] => ⟨rfl, rfl⟩
  | ⟨value, result⟩ :: arms => by
    simp [simpleWithin, simpleNested, value.unmarked_within, result.unmarked_within,
      unmarked_simpleWithin arms]

theorem unmarked_sortWithin : ∀ items : List SortItem,
    unmarked (sortWithin false items) = sortNested items ∧ unmarked (sortWithin true items) = []
  | [] => ⟨rfl, rfl⟩
  | ⟨e, _, _⟩ :: items => by simp [sortWithin, sortNested, e.unmarked_within, unmarked_sortWithin items]

theorem unmarked_filterWithin : ∀ p? : Option Predicate,
    unmarked (filterWithin false p?) = filterNested p? ∧ unmarked (filterWithin true p?) = []
  | none => ⟨rfl, rfl⟩
  | some p => by simp [filterWithin, filterNested, p.unmarked_within]

theorem Predicate.unmarked_within : ∀ p : Predicate, unmarked (p.within false) = p.nested ∧
    unmarked (p.within true) = []
  | .boolean e _ => by simp [Predicate.within, Predicate.nested, e.unmarked_within]
  | .comparison lhs _ rhs => by
    simp [Predicate.within, Predicate.nested, lhs.unmarked_within, rhs.unmarked_within]
  | .inList test list _ => by
    simp [Predicate.within, Predicate.nested, test.unmarked_within, unmarked_withinAll list]
  | .inArray test array _ => by
    simp [Predicate.within, Predicate.nested, test.unmarked_within, unmarked_optionalWithin array]
  | .tupleSubquery tuple _ query => by
    simp [Predicate.within, Predicate.nested, unmarked_withinAll tuple, query.unmarked_within]
  | .nullCheck e _ => by simp [Predicate.within, Predicate.nested, e.unmarked_within]
  | .junction _ members => by simp [Predicate.within, Predicate.nested, unmarked_memberWithin members]
  | .negated inner => by simp [Predicate.within, Predicate.nested, inner.unmarked_within]

theorem unmarked_memberWithin : ∀ ps : List Predicate,
    unmarked (memberWithin false ps) = memberNested ps ∧ unmarked (memberWithin true ps) = []
  | [] => ⟨rfl, rfl⟩
  | p :: ps => by simp [memberWithin, memberNested, p.unmarked_within, unmarked_memberWithin ps]

theorem unmarked_itemWithin : ∀ items : List SelectItem,
    unmarked (itemWithin false items) = itemNested items ∧ unmarked (itemWithin true items) = []
  | [] => ⟨rfl, rfl⟩
  | ⟨e, _⟩ :: items => by simp [itemWithin, itemNested, e.unmarked_within, unmarked_itemWithin items]

theorem unmarked_fetchWithin : ∀ fetch : Option FetchClause, unmarked (fetchWithin fetch) = []
  | none => rfl
  | some ⟨count, _⟩ => by simp [fetchWithin, count.unmarked_within]

theorem unmarked_pathWithin : ∀ path : Option SearchPath, unmarked (pathWithin path) = []
  | none => rfl
  | some ⟨_, seed, step, _⟩ => by simp [pathWithin, seed.unmarked_within, step.unmarked_within]

theorem unmarked_tableWithin : ∀ tables : List CommonTable,
    unmarked (tableWithin false tables) = tableNested tables ∧ unmarked (tableWithin true tables) = []
  | [] => ⟨rfl, rfl⟩
  | ⟨_, _, query, _, path⟩ :: tables => by
    simp [tableWithin, tableNested, query.unmarked_within, unmarked_pathWithin path,
      unmarked_tableWithin tables]

theorem unmarked_partWithin : ∀ queries : List Query,
    unmarked (partWithin false queries) = partNested queries ∧ unmarked (partWithin true queries) = []
  | [] => ⟨rfl, rfl⟩
  | query :: queries => by
    simp [partWithin, partNested, query.unmarked_within, unmarked_partWithin queries]

/-- The queries without a mark are the nested ones; below a marked place, all queries are marked. -/
theorem Query.unmarked_within : ∀ q : Query, unmarked (q.within false) = q.nested ∧
    unmarked (q.within true) = []
  | .select ⟨ctes, _, items, _, filter, groupBy, having, orderBy, offset, fetch⟩ => by
    simp [Query.within, Query.nested, unmarked_tableWithin ctes, unmarked_itemWithin items,
      unmarked_filterWithin filter, unmarked_withinAll groupBy, unmarked_filterWithin having,
      unmarked_sortWithin orderBy, unmarked_optionalWithin offset, unmarked_fetchWithin fetch]
  | .set ⟨ctes, _, parts, orderBy, offset, fetch⟩ => by
    simp [Query.within, Query.nested, unmarked_tableWithin ctes, unmarked_partWithin parts,
      unmarked_sortWithin orderBy, unmarked_optionalWithin offset, unmarked_fetchWithin fetch]

end

end SqlDialects
