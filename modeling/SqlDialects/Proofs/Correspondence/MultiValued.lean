import SqlDialects.Sql.Traversal

/-!
# Multi-valued parameters

The names of the multi-valued parameters of a statement, wherever they stand in it. Those of a nested query are
among them, and so are those of its common tables (`Query.tableMultiValued_nestedTables_subset`).
-/

namespace SqlDialects

mutual

/-- The names of the multi-valued parameters in an expression. -/
def Expression.multiValued : Expression → List String
  | .column _ _ _ => []
  | .literal _ _ => []
  | .parameter name _ multiValued => if multiValued then [name] else []
  | .arithmetic _ lhs rhs => lhs.multiValued ++ rhs.multiValued
  | .caseSearched ⟨arms, otherwise⟩ => searchedMultiValued arms ++ optionalMultiValued otherwise
  | .caseSimple ⟨subject, arms, otherwise⟩ =>
    subject.multiValued ++ simpleMultiValued arms ++ optionalMultiValued otherwise
  | .tuple items => multiValuedInAll items
  | .summarization _ groupings => multiValuedInAll groupings
  | .function _ args _ => multiValuedInAll args
  | .aggregate ⟨_, args, _, filter, _⟩ => multiValuedInAll args ++ filterMultiValued filter
  | .windowed ⟨function, partitions, order⟩ =>
    function.multiValued ++ multiValuedInAll partitions ++ sortMultiValued order
  | .subquery query => query.multiValued

/-- The names of the multi-valued parameters in some expressions. -/
def multiValuedInAll : List Expression → List String
  | [] => []
  | e :: es => e.multiValued ++ multiValuedInAll es

/-- The names of the multi-valued parameters in an expression that may be absent. -/
def optionalMultiValued : Option Expression → List String
  | none => []
  | some e => e.multiValued

/-- The names of the multi-valued parameters in the arms of a choice by conditions. -/
def searchedMultiValued : List SearchedArm → List String
  | [] => []
  | ⟨condition, result⟩ :: arms => condition.multiValued ++ result.multiValued ++ searchedMultiValued arms

/-- The names of the multi-valued parameters in the arms of a choice by values. -/
def simpleMultiValued : List SimpleArm → List String
  | [] => []
  | ⟨value, result⟩ :: arms => value.multiValued ++ result.multiValued ++ simpleMultiValued arms

/-- The names of the multi-valued parameters in a sort list. -/
def sortMultiValued : List SortItem → List String
  | [] => []
  | ⟨e, _, _⟩ :: items => e.multiValued ++ sortMultiValued items

/-- The names of the multi-valued parameters in a condition that may be absent. -/
def filterMultiValued : Option Predicate → List String
  | none => []
  | some p => p.multiValued

/-- The names of the multi-valued parameters in a condition. -/
def Predicate.multiValued : Predicate → List String
  | .boolean e _ => e.multiValued
  | .comparison lhs _ rhs => lhs.multiValued ++ rhs.multiValued
  | .inList test list _ => test.multiValued ++ multiValuedInAll list
  | .inArray test array _ => test.multiValued ++ optionalMultiValued array
  | .tupleSubquery tuple _ query => multiValuedInAll tuple ++ query.multiValued
  | .nullCheck e _ => e.multiValued
  | .junction _ members => memberMultiValued members
  | .negated inner => inner.multiValued

/-- The names of the multi-valued parameters in the members of a junction. -/
def memberMultiValued : List Predicate → List String
  | [] => []
  | p :: ps => p.multiValued ++ memberMultiValued ps

/-- The names of the multi-valued parameters in the items of a select list. -/
def itemMultiValued : List SelectItem → List String
  | [] => []
  | ⟨e, _⟩ :: items => e.multiValued ++ itemMultiValued items

/-- The names of the multi-valued parameters in a FETCH clause that may be absent. -/
def fetchMultiValued : Option FetchClause → List String
  | none => []
  | some ⟨count, _⟩ => count.multiValued

/-- The names of the multi-valued parameters in a search path that may be absent. -/
def pathMultiValued : Option SearchPath → List String
  | none => []
  | some ⟨_, seed, step, _⟩ => seed.multiValued ++ step.multiValued

/-- The names of the multi-valued parameters in a common table. -/
def CommonTable.multiValued : CommonTable → List String
  | ⟨_, _, query, _, path⟩ => query.multiValued ++ pathMultiValued path

/-- The names of the multi-valued parameters in a WITH clause. -/
def tableMultiValued : List CommonTable → List String
  | [] => []
  | table :: tables => table.multiValued ++ tableMultiValued tables

/-- The names of the multi-valued parameters in some queries. -/
def partMultiValued : List Query → List String
  | [] => []
  | query :: queries => query.multiValued ++ partMultiValued queries

/-- The names of the multi-valued parameters in a query. -/
def Query.multiValued : Query → List String
  | .select ⟨ctes, _, items, _, filter, groupBy, having, orderBy, offset, fetch⟩ =>
    tableMultiValued ctes ++ (itemMultiValued items ++ filterMultiValued filter ++ multiValuedInAll groupBy
      ++ filterMultiValued having ++ sortMultiValued orderBy)
      ++ (optionalMultiValued offset ++ fetchMultiValued fetch)
  | .set ⟨ctes, _, parts, orderBy, offset, fetch⟩ =>
    tableMultiValued ctes ++ partMultiValued parts ++ sortMultiValued orderBy
      ++ (optionalMultiValued offset ++ fetchMultiValued fetch)

end

/-- The names of the multi-valued parameters in a statement. -/
def Statement.multiValued : Statement → List String
  | select query => query.multiValued

/-! ## Nested queries -/

/-- The multi-valued parameters of the queries are among the given ones. -/
def NamedAmong (qs : List Query) (names : List String) : Prop := ∀ q ∈ qs, q.multiValued ⊆ names

namespace NamedAmong

variable {q : Query} {qs rs : List Query} {names others : List String}

theorem nil : NamedAmong [] names := nofun

theorem append (hq : NamedAmong qs names) (hr : NamedAmong rs others) :
    NamedAmong (qs ++ rs) (names ++ others) := by
  intro q h
  rcases List.mem_append.1 h with h | h
  · exact List.subset_append_of_subset_left others (hq q h)
  · exact List.subset_append_of_subset_right names (hr q h)

theorem left (h : NamedAmong qs names) : NamedAmong qs (names ++ others) := fun q hq =>
  List.subset_append_of_subset_left others (h q hq)

theorem self (h : NamedAmong qs q.multiValued) : NamedAmong (q :: qs) q.multiValued :=
  List.forall_mem_cons.2 ⟨List.Subset.refl _, h⟩

end NamedAmong

mutual

theorem Expression.namedAmong_nested : ∀ e : Expression, NamedAmong e.nested e.multiValued
  | .column _ _ _ => .nil
  | .literal _ _ => .nil
  | .parameter _ _ _ => .nil
  | .arithmetic _ lhs rhs => lhs.namedAmong_nested.append rhs.namedAmong_nested
  | .caseSearched ⟨arms, otherwise⟩ =>
    (namedAmong_searchedNested arms).append (namedAmong_optionalNested otherwise)
  | .caseSimple ⟨subject, arms, otherwise⟩ =>
    (subject.namedAmong_nested.append (namedAmong_simpleNested arms)).append
      (namedAmong_optionalNested otherwise)
  | .tuple items => namedAmong_nestedInAll items
  | .summarization _ groupings => namedAmong_nestedInAll groupings
  | .function _ args _ => namedAmong_nestedInAll args
  | .aggregate ⟨_, args, _, filter, _⟩ => (namedAmong_nestedInAll args).append (namedAmong_filterNested filter)
  | .windowed ⟨function, partitions, order⟩ =>
    (function.namedAmong_nested.append (namedAmong_nestedInAll partitions)).append
      (namedAmong_sortNested order)
  | .subquery query => query.namedAmong_nested.self

theorem namedAmong_nestedInAll : ∀ es : List Expression, NamedAmong (nestedInAll es) (multiValuedInAll es)
  | [] => .nil
  | e :: es => e.namedAmong_nested.append (namedAmong_nestedInAll es)

theorem namedAmong_optionalNested : ∀ e? : Option Expression,
    NamedAmong (optionalNested e?) (optionalMultiValued e?)
  | none => .nil
  | some e => e.namedAmong_nested

theorem namedAmong_searchedNested : ∀ arms : List SearchedArm,
    NamedAmong (searchedNested arms) (searchedMultiValued arms)
  | [] => .nil
  | ⟨condition, result⟩ :: arms =>
    (condition.namedAmong_nested.append result.namedAmong_nested).append (namedAmong_searchedNested arms)

theorem namedAmong_simpleNested : ∀ arms : List SimpleArm,
    NamedAmong (simpleNested arms) (simpleMultiValued arms)
  | [] => .nil
  | ⟨value, result⟩ :: arms =>
    (value.namedAmong_nested.append result.namedAmong_nested).append (namedAmong_simpleNested arms)

theorem namedAmong_sortNested : ∀ items : List SortItem, NamedAmong (sortNested items) (sortMultiValued items)
  | [] => .nil
  | ⟨e, _, _⟩ :: items => e.namedAmong_nested.append (namedAmong_sortNested items)

theorem namedAmong_filterNested : ∀ p? : Option Predicate, NamedAmong (filterNested p?) (filterMultiValued p?)
  | none => .nil
  | some p => p.namedAmong_nested

theorem Predicate.namedAmong_nested : ∀ p : Predicate, NamedAmong p.nested p.multiValued
  | .boolean e _ => e.namedAmong_nested
  | .comparison lhs _ rhs => lhs.namedAmong_nested.append rhs.namedAmong_nested
  | .inList test list _ => test.namedAmong_nested.append (namedAmong_nestedInAll list)
  | .inArray test array _ => test.namedAmong_nested.append (namedAmong_optionalNested array)
  | .tupleSubquery tuple _ query => (namedAmong_nestedInAll tuple).append query.namedAmong_nested.self
  | .nullCheck e _ => e.namedAmong_nested
  | .junction _ members => namedAmong_memberNested members
  | .negated inner => inner.namedAmong_nested

theorem namedAmong_memberNested : ∀ ps : List Predicate, NamedAmong (memberNested ps) (memberMultiValued ps)
  | [] => .nil
  | p :: ps => p.namedAmong_nested.append (namedAmong_memberNested ps)

theorem namedAmong_itemNested : ∀ items : List SelectItem, NamedAmong (itemNested items) (itemMultiValued items)
  | [] => .nil
  | ⟨e, _⟩ :: items => e.namedAmong_nested.append (namedAmong_itemNested items)

theorem namedAmong_tableNested : ∀ tables : List CommonTable,
    NamedAmong (tableNested tables) (tableMultiValued tables)
  | [] => .nil
  | ⟨_, _, query, _, _⟩ :: tables => query.namedAmong_nested.self.left.append (namedAmong_tableNested tables)

theorem namedAmong_partNested : ∀ queries : List Query, NamedAmong (partNested queries) (partMultiValued queries)
  | [] => .nil
  | query :: queries => query.namedAmong_nested.self.append (namedAmong_partNested queries)

/-- The multi-valued parameters of a nested query are some of the whole query. -/
theorem Query.namedAmong_nested : ∀ q : Query, NamedAmong q.nested q.multiValued
  | .select ⟨ctes, _, items, _, filter, groupBy, having, orderBy, _, _⟩ => by
    have clauses := (((namedAmong_itemNested items).append (namedAmong_filterNested filter)).append
      (namedAmong_nestedInAll groupBy)).append (namedAmong_filterNested having)
    exact ((namedAmong_tableNested ctes).append (clauses.append (namedAmong_sortNested orderBy))).left
  | .set ⟨ctes, _, parts, orderBy, _, _⟩ =>
    (((namedAmong_tableNested ctes).append (namedAmong_partNested parts)).append
      (namedAmong_sortNested orderBy)).left

end

namespace Query

theorem tableMultiValued_ctes_subset (q : Query) : tableMultiValued q.ctes ⊆ q.multiValued := by
  cases q with
  | select s =>
    obtain ⟨ctes, _, _, _, _, _, _, _, _, _⟩ := s
    exact fun _ h => List.mem_append_left _ (List.mem_append_left _ h)
  | set g =>
    obtain ⟨ctes, _, _, _, _, _⟩ := g
    exact fun _ h => List.mem_append_left _ (List.mem_append_left _ (List.mem_append_left _ h))

end Query

theorem mem_tableMultiValued {tables : List CommonTable} {name : String} :
    name ∈ tableMultiValued tables ↔ ∃ t ∈ tables, name ∈ t.multiValued := by
  induction tables with
  | nil => simp [tableMultiValued]
  | cons t tables ih => simp [tableMultiValued, ih]

/-- The multi-valued parameters of the tables in front of a statement are parameters of the statement. -/
theorem Query.tableMultiValued_nestedTables_subset (q : Query) :
    tableMultiValued (q.nestedTables ++ q.ctes) ⊆ q.multiValued := by
  intro name h
  obtain ⟨t, ht, hname⟩ := mem_tableMultiValued.1 h
  rcases List.mem_append.1 ht with ht | ht
  · obtain ⟨y, hy, ht⟩ := List.mem_flatMap.1 ht
    exact q.namedAmong_nested y hy (y.tableMultiValued_ctes_subset (mem_tableMultiValued.2 ⟨t, ht, hname⟩))
  · exact q.tableMultiValued_ctes_subset (mem_tableMultiValued.2 ⟨t, ht, hname⟩)

end SqlDialects
