import SqlDialects.Proofs.Row.Exists

/-!
# Columns that change their table

A column with a qualifier belongs to the innermost query around it with a table of that name. If a row is
compared with a subquery by an EXISTS, its components move into the body of the EXISTS, behind the FROM clause of
the subquery, and their qualifiers are not looked at: a column of an enclosing query is captured if and only if a
table of the subquery has the name that it is qualified with (`Predicate.capture_of_run`).
-/

namespace SqlDialects

open Draft

/-! ## Names of tables -/

/-- The name that the columns of a table are qualified with. -/
def TableReference.exposedName (t : TableReference) : String := t.alias?.getD t.name

/-- A FROM clause has a table of a name. -/
def Exposes (tables : List TableReference) (name : String) : Prop := ∃ t ∈ tables, t.exposedName = name

instance (tables : List TableReference) (name : String) : Decidable (Exposes tables name) :=
  inferInstanceAs (Decidable (∃ t ∈ tables, t.exposedName = name))

/-- The FROM clauses of the queries around a place, the innermost one first. -/
abbrev Scope := List (List TableReference)

/-- The table that a qualifier stands for, with the number of queries around its own one. -/
def Scope.resolve : Scope → String → Option (Nat × TableReference)
  | [], _ => none
  | tables :: scope, name =>
    match tables.find? (·.exposedName = name) with
    | some t => some (scope.length, t)
    | none => resolve scope name

/-- A qualifier stands for the same table, if for any, one query further inside. -/
def Scope.Keeps (scope : Scope) (tables : List TableReference) (name : String) : Prop :=
  ∀ place, scope.resolve name = some place → Scope.resolve (tables :: scope) name = some place

namespace Scope

variable {scope : Scope} {tables : List TableReference} {name : String}

theorem level_lt {level : Nat} {t : TableReference} (h : scope.resolve name = some (level, t)) :
    level < scope.length := by
  induction scope with
  | nil => cases h
  | cons tables scope ih =>
    rw [resolve] at h
    split at h
    · cases h
      exact Nat.lt_succ_self _
    · exact Nat.lt_succ_of_lt (ih h)

theorem resolve_of_not_exposes (h : ¬Exposes tables name) :
    Scope.resolve (tables :: scope) name = scope.resolve name := by
  have absent : tables.find? (·.exposedName = name) = none :=
    List.find?_eq_none.2 fun t ht same => h ⟨t, ht, by simpa using same⟩
  rw [resolve, absent]

theorem resolve_of_exposes (h : Exposes tables name) :
    ∃ t ∈ tables, t.exposedName = name ∧ Scope.resolve (tables :: scope) name = some (scope.length, t) := by
  obtain ⟨u, hu, same⟩ := h
  cases found : tables.find? (·.exposedName = name) with
  | none => exact absurd same (by simpa using List.find?_eq_none.1 found u hu)
  | some t =>
    have named : t.exposedName = name := by simpa using List.find?_some found
    exact ⟨t, List.mem_of_find?_eq_some found, named, by rw [resolve, found]⟩

/-- Queries further inside that have no table of the name make no difference. -/
theorem resolve_append {inner : Scope} (h : ∀ tables ∈ inner, ¬Exposes tables name) :
    Scope.resolve (inner ++ scope) name = scope.resolve name := by
  induction inner with
  | nil => rfl
  | cons tables inner ih =>
    obtain ⟨hidden, others⟩ := List.forall_mem_cons.1 h
    rw [List.cons_append, resolve_of_not_exposes hidden, ih others]

/-- A qualifier that stands for a table does so one query further inside if and only if this has no table of the
name. -/
theorem resolve_cons_iff {place : Nat × TableReference} (h : scope.resolve name = some place) :
    Scope.resolve (tables :: scope) name = some place ↔ ¬Exposes tables name := by
  constructor
  · intro keeps exposed
    obtain ⟨t, -, -, inner⟩ := @resolve_of_exposes scope _ _ exposed
    obtain rfl := Option.some.inj (keeps.symm.trans inner)
    exact Nat.lt_irrefl _ (level_lt h)
  · intro hidden
    rw [resolve_of_not_exposes hidden, h]

end Scope

/-! ## Columns of enclosing queries -/

/-- The columns that do not belong to one of the tables. -/
def columnsBeyond (tables : List TableReference) (columns : List (String × String)) : List (String × String) :=
  columns.filter fun column => ¬Exposes tables column.1

/-- The FROM clauses of the parts of a set operation. -/
def Query.partTables : Query → List (List TableReference)
  | select _ => []
  | set g => g.parts.map fun part =>
    match part with
    | select s => s.tables
    | set _ => []

mutual

/-- The columns in an expression that belong to queries around it, with their qualifiers, as far as they are
written in its place: the common tables of its subqueries may be written elsewhere. -/
def Expression.outerColumns (d : Dialect) : Expression → List (String × String)
  | .column (some qualifier) name _ => [(qualifier, name)]
  | .column none _ _ => []
  | .literal _ _ => []
  | .parameter _ _ _ => []
  | .arithmetic _ lhs rhs => lhs.outerColumns d ++ rhs.outerColumns d
  | .caseSearched ⟨arms, otherwise⟩ => searchedOuterColumns d arms ++ optionalOuterColumns d otherwise
  | .caseSimple ⟨subject, arms, otherwise⟩ =>
    subject.outerColumns d ++ simpleOuterColumns d arms ++ optionalOuterColumns d otherwise
  | .tuple items => outerColumnsOfAll d items
  | .summarization _ groupings => outerColumnsOfAll d groupings
  | .function _ args _ => outerColumnsOfAll d args
  | .aggregate ⟨_, args, _, filter, _⟩ => outerColumnsOfAll d args ++ filterOuterColumns d filter
  | .windowed ⟨function, partitions, order⟩ =>
    function.outerColumns d ++ outerColumnsOfAll d partitions ++ sortOuterColumns d order
  | .subquery query => query.outerColumns d

/-- The columns of enclosing queries in some expressions. -/
def outerColumnsOfAll (d : Dialect) : List Expression → List (String × String)
  | [] => []
  | e :: es => e.outerColumns d ++ outerColumnsOfAll d es

/-- The columns of enclosing queries in an expression that may be absent. -/
def optionalOuterColumns (d : Dialect) : Option Expression → List (String × String)
  | none => []
  | some e => e.outerColumns d

/-- The columns of enclosing queries in the arms of a choice by conditions. -/
def searchedOuterColumns (d : Dialect) : List SearchedArm → List (String × String)
  | [] => []
  | ⟨condition, result⟩ :: arms =>
    condition.outerColumns d ++ result.outerColumns d ++ searchedOuterColumns d arms

/-- The columns of enclosing queries in the arms of a choice by values. -/
def simpleOuterColumns (d : Dialect) : List SimpleArm → List (String × String)
  | [] => []
  | ⟨value, result⟩ :: arms => value.outerColumns d ++ result.outerColumns d ++ simpleOuterColumns d arms

/-- The columns of enclosing queries in a sort list. -/
def sortOuterColumns (d : Dialect) : List SortItem → List (String × String)
  | [] => []
  | ⟨e, _, _⟩ :: items => e.outerColumns d ++ sortOuterColumns d items

/-- The columns of enclosing queries in a condition that may be absent. -/
def filterOuterColumns (d : Dialect) : Option Predicate → List (String × String)
  | none => []
  | some p => p.outerColumns d

/-- The columns of enclosing queries in a condition. -/
def Predicate.outerColumns (d : Dialect) : Predicate → List (String × String)
  | .boolean e _ => e.outerColumns d
  | .comparison lhs _ rhs => lhs.outerColumns d ++ rhs.outerColumns d
  | .inList test list _ => test.outerColumns d ++ outerColumnsOfAll d list
  | .inArray test array _ => test.outerColumns d ++ optionalOuterColumns d array
  | .tupleSubquery tuple _ query => outerColumnsOfAll d tuple ++ query.outerColumns d
  | .nullCheck e _ => e.outerColumns d
  | .junction _ members => memberOuterColumns d members
  | .negated inner => inner.outerColumns d

/-- The columns of enclosing queries in the members of a junction. -/
def memberOuterColumns (d : Dialect) : List Predicate → List (String × String)
  | [] => []
  | p :: ps => p.outerColumns d ++ memberOuterColumns d ps

/-- The columns of enclosing queries in the items of a select list. -/
def itemOuterColumns (d : Dialect) : List SelectItem → List (String × String)
  | [] => []
  | ⟨e, _⟩ :: items => e.outerColumns d ++ itemOuterColumns d items

/-- The columns of enclosing queries in a FETCH clause that may be absent. -/
def fetchOuterColumns (d : Dialect) : Option FetchClause → List (String × String)
  | none => []
  | some ⟨count, _⟩ => count.outerColumns d

/-- The columns of enclosing queries in a search path over parts with the given tables: the seed stands in the
first part, and the step in each other one. -/
def pathOuterColumns (d : Dialect) (parts : List (List TableReference)) :
    Option SearchPath → List (String × String)
  | none => []
  | some ⟨_, seed, step, _⟩ =>
    columnsBeyond (parts.headD []) (seed.outerColumns d)
      ++ parts.tail.flatMap fun tables => columnsBeyond tables (step.outerColumns d)

/-- The columns of enclosing queries in a WITH clause. -/
def tableOuterColumns (d : Dialect) : List CommonTable → List (String × String)
  | [] => []
  | ⟨_, _, query, _, path⟩ :: tables =>
    query.outerColumns d ++ pathOuterColumns d query.partTables path ++ tableOuterColumns d tables

/-- The columns of enclosing queries in some queries. -/
def partOuterColumns (d : Dialect) : List Query → List (String × String)
  | [] => []
  | query :: queries => query.outerColumns d ++ partOuterColumns d queries

/-- The columns of enclosing queries in a query. -/
def Query.outerColumns (d : Dialect) : Query → List (String × String)
  | .select ⟨ctes, _, items, tables, filter, groupBy, having, orderBy, offset, fetch⟩ =>
    (if d.capabilities.withInSubquery then tableOuterColumns d ctes else [])
      ++ columnsBeyond tables (itemOuterColumns d items ++ filterOuterColumns d filter
        ++ outerColumnsOfAll d groupBy ++ filterOuterColumns d having ++ sortOuterColumns d orderBy
        ++ optionalOuterColumns d offset ++ fetchOuterColumns d fetch)
  | .set ⟨ctes, _, parts, orderBy, offset, fetch⟩ =>
    (if d.capabilities.withInSubquery then tableOuterColumns d ctes else [])
      ++ partOuterColumns d parts ++ sortOuterColumns d orderBy
      ++ optionalOuterColumns d offset ++ fetchOuterColumns d fetch

end

/-! ## The tables of a FROM clause, read from its tokens -/

/-- The tables of a list, with their aliases. -/
def readTables : List Token → List TableReference
  | .name name :: .space :: .keyword .asWord :: .space :: .name other :: rest =>
    ⟨name, some other⟩ :: readTables rest
  | .name name :: rest => ⟨name, none⟩ :: readTables rest
  | .comma :: .space :: rest => readTables rest
  | _ => []

/-- The tables of a FROM clause. -/
def readFrom : List Token → List TableReference
  | .space :: .keyword .fromWord :: .space :: rest => readTables rest
  | _ => []

/-- The tokens of a table in a FROM clause. -/
def TableReference.tokens (t : TableReference) : List Token :=
  .name t.name :: t.alias?.elim [] fun other => [.space, .keyword .asWord, .space, .name other]

theorem readTables_intercalate (tables : List TableReference) :
    readTables ([.comma, .space].intercalate (tables.map (·.tokens))) = tables := by
  induction tables with
  | nil => rfl
  | cons t tables ih =>
    obtain ⟨name, alias?⟩ := t
    cases tables with
    | nil => cases alias? <;> rfl
    | cons u tables =>
      rw [List.map_cons, List.intercalate_cons_of_ne_nil (by simp)]
      cases alias? <;> exact congrArg (List.cons _) ih

/-- The FROM clause of a SELECT inside another query is read as its tables. -/
theorem SelectForm.readFrom_fromClause (d : Dialect) (f : SelectForm) (mode : RenderingMode) (depth : Nat) :
    readFrom ((f.fromClause d false).tokens mode depth) = f.sources := by
  unfold fromClause
  cases sources : f.sources with
  | nil => cases d <;> rfl
  | cons t tables =>
    have each (u : TableReference) : (Dialect.tableReference u).refusal? mode depth = none ∧
        (Dialect.tableReference u).tokens mode depth = u.tokens := by
      obtain ⟨name, alias?⟩ := u
      cases alias? <;> exact ⟨rfl, rfl⟩
    have success : (listed ((t :: tables).map Dialect.tableReference)).refusal? mode depth = none :=
      refusal?_listed_of_forall (List.forall_mem_map.2 fun u _ => (each u).1)
    have word : (spacedWord .fromWord).tokens mode depth = [.space, .keyword .fromWord, .space] := rfl
    have list : (t :: tables).map ((·.tokens mode depth) ∘ Dialect.tableReference) =
        (t :: tables).map (·.tokens) := List.map_congr_left fun u _ => (each u).2
    rw [List.isEmpty_cons, if_neg Bool.false_ne_true, tokens_append rfl, word, tokens_listed success,
      List.map_map, list]
    exact readTables_intercalate (t :: tables)

/-! ## Rows in the body of an EXISTS -/

namespace Predicate

variable (ctx : TranslationContext) (row : List Expression) (op : ComparisonOperator) (s : SelectQuery)

/-- The components of a row that is compared with a subquery by an EXISTS stand behind its FROM clause. -/
theorem tokens_tupleSubquery {page final : Page}
    (emulated : ctx.dialect.capabilities.rowValuesWithSubquery = false)
    (h : ((Predicate.tupleSubquery row op (.select s)).draft ctx).run page = (none, final)) :
    ∃ c cs, (s.items.map (·.expression)).zip row = c :: cs ∧ row = (c :: cs).map Prod.snd ∧
      final.tokens.toList = page.tokens.toList ++ s.existsTokens ctx page.mode (page.depth + 1)
        (.ofRow op.inverted ctx.dialect.indexesRows c cs) s.existsBody := by
  rw [Draft.run_eq, Prod.mk.injEq] at h
  obtain ⟨success, rfl⟩ := h
  rw [draft_tupleSubquery ctx row op s emulated] at success ⊢
  dsimp only at success ⊢
  split at success
  · cases success
  · next unlimited =>
    split at success
    · cases success
    · next lengths =>
      have same : s.items.length = row.length := not_not.1 lengths
      have compared := Dialect.refusal?_of_existsComparison success
      have nonempty : row.length ≠ 0 := by
        intro none
        simp [checkedRowComparison, same, none, malformed, refusal?] at compared
      have pairs : ((s.items.map (·.expression)).zip row).length ≠ 0 := by
        rwa [List.length_zip, List.length_map, same, Nat.min_self]
      obtain ⟨c, cs, zipped⟩ := List.exists_cons_of_length_pos (Nat.pos_of_ne_zero pairs)
      have components : row = (c :: cs).map Prod.snd := by
        rw [← zipped, List.map_snd_zip (by rw [List.length_map, same])]
      rw [zipped, same] at success
      have written := writes_existsComparison s
        (renders_checkedRowComparison op.inverted ctx.dialect.indexesRows nonempty c cs).spells success
      refine ⟨c, cs, zipped, components, ?_⟩
      rw [if_neg unlimited, if_neg lengths, zipped, same, Page.tokens_writeAll, ← written, Draft.tokens]

/-- A row that is compared with a subquery by an EXISTS. Its components are written behind the FROM clause of
the subquery, which is read as the tables of the subquery, with their names as they are. A column of the row that
belongs to an enclosing query, past subqueries of its own around it, therefore keeps its table if and only if
none of the tables there has the name that it is qualified with; otherwise it belongs to that table. So no column
is captured, wherever the comparison stands, if and only if the subquery has no table with the name of a
qualifier. -/
theorem capture_of_run {page final : Page} (emulated : ctx.dialect.capabilities.rowValuesWithSubquery = false)
    (h : ((Predicate.tupleSubquery row op (.select s)).draft ctx).run page = (none, final)) :
    let columns := outerColumnsOfAll ctx.dialect row
    let inner := readFrom (((s.form ctx).fromClause ctx.dialect false).tokens page.mode (page.depth + 1))
    (Predicate.comparison (.tuple row) op (.subquery (.select s))).draft ctx =
      (Predicate.tupleSubquery row op (.select s)).draft ctx ∧
    (∃ c cs, (s.items.map (·.expression)).zip row = c :: cs ∧ row = (c :: cs).map Prod.snd ∧
      final.tokens.toList = page.tokens.toList ++ s.existsTokens ctx page.mode (page.depth + 1)
        (.ofRow op.inverted ctx.dialect.indexesRows c cs) s.existsBody) ∧
    (∀ (own scope : Scope), ∀ column ∈ columns, (∀ tables ∈ own, ¬Exposes tables column.1) →
      (∀ place, Scope.resolve (own ++ scope) column.1 = some place →
        (Scope.resolve (own ++ inner :: scope) column.1 = some place ↔ ¬Exposes s.tables column.1)) ∧
      (Exposes s.tables column.1 → ∃ t ∈ s.tables, t.exposedName = column.1 ∧
        Scope.resolve (own ++ inner :: scope) column.1 = some (scope.length, t))) ∧
    ((∀ (scope : Scope), ∀ column ∈ columns, scope.Keeps inner column.1) ↔
      ∀ column ∈ columns, ¬Exposes s.tables column.1) := by
  intro columns inner
  have tables : inner = s.tables := (s.form ctx).readFrom_fromClause ctx.dialect page.mode (page.depth + 1)
  rw [tables]
  refine ⟨draft_comparison_tuple ctx row op (.select s), tokens_tupleSubquery ctx row op s emulated h,
    fun own scope column _ past => ?_, fun keeps column hcolumn => ?_,
    fun hidden scope column hcolumn place here => (Scope.resolve_cons_iff here).2 (hidden column hcolumn)⟩
  · rw [Scope.resolve_append past, Scope.resolve_append past]
    exact ⟨fun place here => Scope.resolve_cons_iff here, Scope.resolve_of_exposes⟩
  -- A query around with a table of that name is enough.
  let around : TableReference := ⟨column.1, none⟩
  have here : Scope.resolve [[around]] column.1 = some (0, around) := by
    simp [Scope.resolve, around, TableReference.exposedName]
  exact (Scope.resolve_cons_iff here).1 (keeps [[around]] column hcolumn _ here)

/-- A comparison with other rows of the same table captures the columns of the row: the EXISTS compares each row
of the table with itself. -/
theorem capture_of_sameTable :
    let row : List Expression := [.column (some "t") "a" none, .column (some "t") "b" none]
    let s : SelectQuery :=
      { items := [⟨.column none "x" none, none⟩, ⟨.column none "y" none, none⟩], tables := [⟨"t", none⟩] }
    let run := ((Predicate.tupleSubquery row .equal (.select s)).draft (.ofDialect .hsql)).run .blank
    let enclosing : Scope := [[⟨"t", none⟩]]
    run.1 = none ∧ ("t", "a") ∈ outerColumnsOfAll .hsql row ∧ enclosing.resolve "t" = some (0, ⟨"t", none⟩) ∧
      Exposes s.tables "t" ∧ ¬enclosing.Keeps s.tables "t" := by
  intro row s run enclosing
  have success : run = (none, run.2) := rfl
  obtain ⟨-, -, kept, -⟩ := capture_of_run (.ofDialect .hsql) row .equal s rfl success
  have column : ("t", "a") ∈ outerColumnsOfAll .hsql row := List.mem_cons_self
  have here : enclosing.resolve "t" = some (0, ⟨"t", none⟩) := rfl
  have exposed : Exposes s.tables "t" := ⟨_, List.mem_cons_self, rfl⟩
  have own := (kept [] enclosing _ column (List.forall_mem_nil _)).1
  exact ⟨rfl, column, here, exposed, fun keeps => (own _ here).1 (keeps _ here) exposed⟩

end Predicate

end SqlDialects
