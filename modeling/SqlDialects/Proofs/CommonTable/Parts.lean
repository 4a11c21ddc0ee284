import Mathlib.Logic.Relation
import SqlDialects.Sql.Traversal

/-!
# Direct parts of a query

The queries that stand directly in a query: the bodies of its WITH clause, the parts of a set operation and
the subqueries of its clauses, those of its row limits, and those of its search paths. The nested queries
are the bodies and the queries of clauses, each followed by the ones nested in it (`Query.nested_eq`).
-/

namespace SqlDialects

namespace Query

/-- The bodies of the query's own WITH clause. -/
def bodies (q : Query) : List Query := q.ctes.map (·.query)

/-- The parts of a set operation, and the queries directly in the clauses other than row limits. -/
def clauseQueries : Query → List Query
  | select s => s.items.flatMap (·.expression.subqueries) ++ filterSubqueries s.filter
    ++ subqueriesOfAll s.groupBy ++ filterSubqueries s.having ++ sortSubqueries s.orderBy
  | set g => g.parts ++ sortSubqueries g.orderBy

/-- The queries directly in the row limits. -/
def limitQueries (q : Query) : List Query :=
  optionalSubqueries q.offset ++ q.fetch.elim [] (·.count.subqueries)

end Query

/-- The queries directly in the search path of a table. -/
def CommonTable.pathQueries (t : CommonTable) : List Query :=
  t.searchPath.elim [] fun p => p.seed.subqueries ++ p.step.subqueries

/-- The queries directly in a query, wherever they stand. -/
def Query.parts (q : Query) : List Query :=
  q.bodies ++ q.clauseQueries ++ q.limitQueries ++ q.ctes.flatMap (·.pathQueries)

theorem Query.mem_parts {q part : Query} : part ∈ q.parts ↔
    part ∈ q.bodies ∨ part ∈ q.clauseQueries ∨ part ∈ q.limitQueries ∨
      ∃ t ∈ q.ctes, part ∈ t.pathQueries := by
  simp only [parts, List.mem_append, List.mem_flatMap, or_assoc]

/-- The query is the statement itself or stands in it, at any depth. -/
def Query.Has (q : Query) : Query → Prop := Relation.ReflTransGen (fun x y => y ∈ x.parts) q

/-! ## Nested queries -/

theorem partNested_append (qs rs : List Query) : partNested (qs ++ rs) = partNested qs ++ partNested rs := by
  induction qs with
  | nil => rfl
  | cons q qs ih => rw [List.cons_append, partNested, ih, partNested, List.append_assoc]

mutual

theorem Expression.nested_eq : ∀ e : Expression, e.nested = partNested e.subqueries
  | .column _ _ _ => rfl
  | .literal _ _ => rfl
  | .parameter _ _ _ => rfl
  | .arithmetic _ lhs rhs => by
    rw [Expression.nested, Expression.subqueries, lhs.nested_eq, rhs.nested_eq, partNested_append]
  | .caseSearched ⟨arms, otherwise⟩ => by
    rw [Expression.nested, Expression.subqueries, searchedNested_eq arms, optionalNested_eq otherwise,
      partNested_append]
  | .caseSimple ⟨subject, arms, otherwise⟩ => by
    rw [Expression.nested, Expression.subqueries, subject.nested_eq, simpleNested_eq arms,
      optionalNested_eq otherwise, partNested_append, partNested_append]
  | .tuple items => nestedInAll_eq items
  | .summarization _ groupings => nestedInAll_eq groupings
  | .function _ args _ => nestedInAll_eq args
  | .aggregate ⟨_, args, _, filter, _⟩ => by
    rw [Expression.nested, Expression.subqueries, nestedInAll_eq args, filterNested_eq filter,
      partNested_append]
  | .windowed ⟨function, partitions, order⟩ => by
    rw [Expression.nested, Expression.subqueries, function.nested_eq, nestedInAll_eq partitions,
      sortNested_eq order, partNested_append, partNested_append]
  | .subquery query => (List.append_nil _).symm

theorem nestedInAll_eq : ∀ es : List Expression, nestedInAll es = partNested (subqueriesOfAll es)
  | [] => rfl
  | e :: es => by rw [nestedInAll, subqueriesOfAll, e.nested_eq, nestedInAll_eq es, partNested_append]

theorem optionalNested_eq : ∀ e? : Option Expression, optionalNested e? = partNested (optionalSubqueries e?)
  | none => rfl
  | some e => e.nested_eq

theorem searchedNested_eq : ∀ arms : List SearchedArm,
    searchedNested arms = partNested (searchedSubqueries arms)
  | [] => rfl
  | ⟨condition, result⟩ :: arms => by
    rw [searchedNested, searchedSubqueries, condition.nested_eq, result.nested_eq, searchedNested_eq arms,
      partNested_append, partNested_append]

theorem simpleNested_eq : ∀ arms : List SimpleArm, simpleNested arms = partNested (simpleSubqueries arms)
  | [] => rfl
  | ⟨value, result⟩ :: arms => by
    rw [simpleNested, simpleSubqueries, value.nested_eq, result.nested_eq, simpleNested_eq arms,
      partNested_append, partNested_append]

theorem sortNested_eq : ∀ items : List SortItem, sortNested items = partNested (sortSubqueries items)
  | [] => rfl
  | ⟨e, _, _⟩ :: items => by
    rw [sortNested, sortSubqueries, e.nested_eq, sortNested_eq items, partNested_append]

theorem filterNested_eq : ∀ p? : Option Predicate, filterNested p? = partNested (filterSubqueries p?)
  | none => rfl
  | some p => p.nested_eq

theorem Predicate.nested_eq : ∀ p : Predicate, p.nested = partNested p.subqueries
  | .boolean e _ => e.nested_eq
  | .comparison lhs _ rhs => by
    rw [Predicate.nested, Predicate.subqueries, lhs.nested_eq, rhs.nested_eq, partNested_append]
  | .inList test list _ => by
    rw [Predicate.nested, Predicate.subqueries, test.nested_eq, nestedInAll_eq list, partNested_append]
  | .inArray test array _ => by
    rw [Predicate.nested, Predicate.subqueries, test.nested_eq, optionalNested_eq array, partNested_append]
  | .tupleSubquery tuple _ query => by
    rw [Predicate.nested, Predicate.subqueries, nestedInAll_eq tuple, partNested_append, partNested,
      partNested, List.append_nil]
  | .nullCheck e _ => e.nested_eq
  | .junction _ members => memberNested_eq members
  | .negated inner => inner.nested_eq

theorem memberNested_eq : ∀ ps : List Predicate, memberNested ps = partNested (memberSubqueries ps)
  | [] => rfl
  | p :: ps => by rw [memberNested, memberSubqueries, p.nested_eq, memberNested_eq ps, partNested_append]

end

theorem itemNested_eq (items : List SelectItem) :
    itemNested items = partNested (items.flatMap (·.expression.subqueries)) := by
  induction items with
  | nil => rfl
  | cons i items ih =>
    obtain ⟨e, alias?⟩ := i
    rw [itemNested, e.nested_eq, ih, List.flatMap_cons, partNested_append]

theorem tableNested_eq (tables : List CommonTable) : tableNested tables = partNested (tables.map (·.query)) := by
  induction tables with
  | nil => rfl
  | cons t tables ih =>
    obtain ⟨_, _, query, _, _⟩ := t
    rw [tableNested, ih, List.map_cons, partNested]

/-- The nested queries of a query, from its direct parts. -/
theorem Query.nested_eq (q : Query) : q.nested = partNested (q.bodies ++ q.clauseQueries) := by
  rw [partNested_append]
  cases q with
  | select s =>
    obtain ⟨_, _, items, _, filter, groupBy, having, orderBy, _, _⟩ := s
    simp only [nested, bodies, clauseQueries, ctes, partNested_append, tableNested_eq, itemNested_eq,
      filterNested_eq, nestedInAll_eq, sortNested_eq]
  | set g =>
    obtain ⟨_, _, parts, orderBy, _, _⟩ := g
    simp only [nested, bodies, clauseQueries, ctes, partNested_append, tableNested_eq, sortNested_eq,
      List.append_assoc]

/-- A direct part brings its tables together, those of its own WITH clause first. -/
theorem Query.exists_nestedTables_eq {q part : Query} (h : part ∈ q.bodies ++ q.clauseQueries) :
    ∃ before after, q.nestedTables = before ++ (part.ctes ++ part.nestedTables) ++ after := by
  obtain ⟨front, rest, split⟩ := List.append_of_mem h
  refine ⟨(partNested front).flatMap ctes, (partNested rest).flatMap ctes, ?_⟩
  rw [nestedTables, nested_eq, split, partNested_append, partNested]
  simp [nestedTables]

end SqlDialects
