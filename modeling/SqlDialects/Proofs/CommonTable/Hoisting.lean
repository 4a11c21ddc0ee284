import SqlDialects.Proofs.CommonTable.Declared
import SqlDialects.Proofs.Draft.Statements

/-!
# Common tables at the front of a statement

A dialect without WITH in subqueries has all common tables in front of the statement, in a single WITH
clause. What is written there, and what is not: the tables of nested queries and of the statement itself
are, each of them once, and those of queries that only a row limit or a search path leads to are not
written at all.
-/

namespace SqlDialects

open Draft

variable {ctx : TranslationContext} {mode : RenderingMode} {depth : Nat}

/-- The tokens that are written for a common table in front of a statement. -/
def CommonTable.tokens (ctx : TranslationContext) (table : CommonTable) : List Token :=
  (table.form ctx).draft.tokens .plain 0

/-- The tokens of a WITH clause, none if there are no tables. -/
def withTokens (ctx : TranslationContext) (tables : List CommonTable) : List Token :=
  if tables.isEmpty then []
  else [.keyword .withWord, .space]
    ++ (if ctx.dialect.capabilities.recursiveKeyword && tables.any (·.recursive) then
        [.keyword .recursive, .space] else [])
    ++ [Token.comma, .space].intercalate (tables.map (·.tokens ctx)) ++ [.space]

/-- The tokens that are written for a common table. -/
def CommonTable.tokensAt (ctx : TranslationContext) (mode : RenderingMode) (depth : Nat)
    (table : CommonTable) : List Token :=
  (table.form ctx).draft.tokens mode depth

/-- The tokens of a WITH clause anywhere in a statement, none if there are no tables. -/
def withTokensAt (ctx : TranslationContext) (mode : RenderingMode) (depth : Nat)
    (tables : List CommonTable) : List Token :=
  if tables.isEmpty then []
  else [.keyword .withWord, .space]
    ++ (if ctx.dialect.capabilities.recursiveKeyword && tables.any (·.recursive) then
        [.keyword .recursive, .space] else [])
    ++ [Token.comma, .space].intercalate (tables.map (·.tokensAt ctx mode depth)) ++ [.space]

/-- In front of a statement, nothing is different. -/
theorem withTokensAt_front (tables : List CommonTable) :
    withTokensAt ctx .plain 0 tables = withTokens ctx tables := rfl

/-- Where a dialect has no WITH in subqueries, a fitting draft writes none. -/
theorem Draft.Fits.withWord_not_mem_tokens {d : Dialect} {x : Draft} (h : x.Fits d)
    (hd : d.capabilities.withInSubquery = false) : .keyword .withWord ∉ x.tokens mode depth := by
  intro mem
  obtain ⟨w, hw, added⟩ := List.mem_map.1 mem
  rcases Every.of_mem_writes h hw with ⟨t, rfl, ht⟩ | ⟨p, rfl⟩
  · obtain rfl : t = .keyword .withWord := added
    rw [Token.Fits, hd] at ht
    cases ht rfl
  · cases added

theorem tableForms_eq_map (tables : List CommonTable) : tableForms ctx tables = tables.map (·.form ctx) := by
  induction tables with
  | nil => rfl
  | cons table tables ih => rw [tableForms, ih, List.map_cons]

theorem CommonTable.recursive_form (table : CommonTable) : (table.form ctx).recursive = table.recursive := by
  cases table
  rfl

theorem tokens_withClause {tables : List CommonTable}
    (h : (ctx.dialect.withClause (tableForms ctx tables)).refusal? mode depth = none) :
    (ctx.dialect.withClause (tableForms ctx tables)).tokens mode depth =
      withTokensAt ctx mode depth tables := by
  have bodies : (tableForms ctx tables).map (·.draft) = tables.map fun t => (t.form ctx).draft := by
    rw [tableForms_eq_map, List.map_map]
    rfl
  have mark : (tableForms ctx tables).any (·.recursive) = tables.any (·.recursive) := by
    rw [tableForms_eq_map, List.any_map]
    simp only [Function.comp_def, CommonTable.recursive_form]
  have none : (tableForms ctx tables).isEmpty = tables.isEmpty := by
    rw [tableForms_eq_map, List.isEmpty_map]
  unfold Dialect.withClause at h ⊢
  rw [withTokensAt]
  simp only [bodies, mark, none] at h ⊢
  split
  · rfl
  · next some =>
    rw [if_neg some] at h
    obtain ⟨front, -⟩ := refusal?_append_eq_none.1 h
    obtain ⟨words, tables⟩ := refusal?_append_eq_none.1 front
    obtain ⟨word, -⟩ := refusal?_append_eq_none.1 words
    rw [tokens_append front, tokens_append words, tokens_append word, tokens_listed tables, List.map_map]
    congr 3
    split <;> rfl

namespace Query

variable {q : Query}

/-- The text of a statement is its WITH clause and what follows. -/
theorem text_of_translate {op : Operation} (h : (Statement.select q).translate ctx = .ok op) :
    Token.textOfAll ctx.dialect (withTokens ctx (q.leadingTables ctx.dialect)
      ++ ((q.form ctx).draft ctx.dialect true none).tokens .plain 0) = .ok op.sql := by
  obtain ⟨success, text, -⟩ := Statement.of_translate_eq_ok h
  obtain ⟨front, -⟩ := refusal?_append_eq_none.1 success
  rw [Statement.page, Page.tokens_writeAll] at text
  rw [← withTokensAt_front, ← tokens_withClause front, ← tokens_append front]
  exact text

/-- The tables in front of a statement and the overlooked ones are all that are declared. -/
theorem leadingTables_append_overlookedTables {d : Dialect} (hd : d.capabilities.withInSubquery = false)
    (q : Query) : (q.leadingTables d ++ q.overlookedTables).Perm q.declaredTables := by
  have nested : q.nestedTables = ((q.within false).filter (!·.1)).flatMap (·.2.ctes) := by
    rw [nestedTables, ← q.unmarked_within.1, unmarked, List.flatMap_map]
  have found := (List.filter_append_perm (fun x : Bool × Query => !x.1) (q.within false)).flatMap_right
    (·.2.ctes)
  simp only [Bool.not_not, List.flatMap_append] at found
  rw [leadingTables, hd, nested, declaredTables, overlookedTables]
  simp only [Bool.false_eq_true, if_false, List.append_assoc]
  refine (List.perm_append_comm.append_left _).trans ?_
  rw [← List.append_assoc]
  exact found.append_right _

/-- Under a dialect without WITH in subqueries, the text of a statement starts with a WITH clause of all
common tables of the statement and its nested queries, each of them once, and the word WITH is not there
again. The tables are all that the statement declares anywhere if and only if none is overlooked, which
are those of queries below a row limit or a search path. -/
theorem with_clause_of_translate (ctx : TranslationContext) (q : Query) (op : Operation)
    (hd : ctx.dialect.capabilities.withInSubquery = false)
    (h : (Statement.select q).translate ctx = .ok op) :
    let tables := q.leadingTables ctx.dialect
    let body := ((q.form ctx).draft ctx.dialect true none).tokens .plain 0
    Token.textOfAll ctx.dialect (withTokens ctx tables ++ body) = .ok op.sql ∧
      (∀ t ∈ tables, .keyword .withWord ∉ t.tokens ctx) ∧ .keyword .withWord ∉ body ∧
      (tables ++ q.overlookedTables).Perm q.declaredTables ∧
      (tables.Perm q.declaredTables ↔ q.overlookedTables = []) := by
  intro tables body
  have split := leadingTables_append_overlookedTables hd q
  refine ⟨text_of_translate h, fun t ht => ?_, ?_, split, fun same => ?_, fun none => ?_⟩
  · exact (t.fits_form ctx).withWord_not_mem_tokens hd
  · exact (QueryForm.Fits.draft true none (by simp) _ (q.fits_form ctx)).withWord_not_mem_tokens hd
  · have length : (q.leadingTables ctx.dialect).length =
        (q.leadingTables ctx.dialect ++ q.overlookedTables).length := (same.trans split.symm).length_eq
    rw [List.length_append] at length
    exact List.length_eq_zero_iff.1 (by omega)
  · rwa [none, List.append_nil] at split

/-- A query of a single column of a table. -/
def column (name table : String) : SelectQuery :=
  { items := [⟨.column none name none, none⟩], tables := [⟨table, none⟩] }

/-- A query whose FETCH clause counts with a common table. -/
def fetchesFromTable : Query :=
  let counts : CommonTable := { name := "c", query := .select (column "n" "s") }
  let count : Query := .select { column "n" "c" with ctes := [counts] }
  .select { column "id" "t" with fetch := some ⟨.subquery count, .rowsOnly⟩ }

/-- The table in the FETCH clause is declared, and the text does not have it. -/
theorem with_clause_of_fetchesFromTable :
    ∃ op, (Statement.select fetchesFromTable).translate (.ofDialect .hsql) = .ok op ∧
      fetchesFromTable.declaredTables.length = 1 ∧ fetchesFromTable.leadingTables .hsql = [] ∧
      ¬(fetchesFromTable.leadingTables .hsql).Perm fetchesFromTable.declaredTables := by
  refine ⟨_, rfl, rfl, rfl, fun same => ?_⟩
  obtain ⟨-, -, -, -, exact⟩ := with_clause_of_translate (.ofDialect .hsql) fetchesFromTable _ rfl rfl
  exact List.cons_ne_nil _ _ (exact.1 same)

end Query

end SqlDialects
