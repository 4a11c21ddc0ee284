import SqlDialects.Proofs.Nesting.Expressions
import SqlDialects.Proofs.SetOperation.Reader

/-!
# The structure of set operations

What is written for a set operation is read as the same operator over the same parts in the same order
(`SetQuery.tree_of_run`). The clauses of a part stay in it and those of the whole are outside of all parts. That
is what the parentheses are for: a part has them if it has clauses of its own, common tables or parts, and so
neither the strength of the operators nor their order from the left ever matters to what is in a part.
-/

namespace SqlDialects

open Draft QueryReader

/-! ## The query that is meant -/

section Meant

variable (d : Dialect) (mode : RenderingMode) (depth : Nat)

/-- A query with its own clauses that order its rows or limit them. -/
def Dialect.arrange (keys : List SortKey) (limit : RowLimit) (q : QueryTree) : QueryTree :=
  if keys.isEmpty && limit.isEmpty then q
  else .arranged q (Token.withoutSpaces ((d.arrangement keys limit).tokens mode depth))

/-- A single SELECT in another query. -/
def SelectForm.tree (f : SelectForm) : QueryTree :=
  d.arrange mode depth f.orderBy f.limit (.select (Token.withoutSpaces
    ((f.selectList d).tokens mode depth ++ (f.restrictions d false).tokens mode depth)))

end Meant

/-- Some queries under an operator, taken from the left. Without any of them nothing can be written. -/
def SetOperator.combine (operator : SetOperator) : List QueryTree → QueryTree
  | [] => .select []
  | first :: rest => rest.foldl (.combined operator) first

/-- The number of queries around a part of a set operation: common tables and parts make it a query of its own. -/
def Query.depthAsPart (depth : Nat) : Query → Nat
  | .select s => if s.ctes.isEmpty then depth else depth + 1
  | .set _ => depth + 1

mutual

/-- The query that is meant by a syntax tree, apart from its common tables. -/
def Query.tree (ctx : TranslationContext) (mode : RenderingMode) (depth : Nat) : Query → QueryTree
  | .select s => (s.form ctx).tree ctx.dialect mode depth
  | .set ⟨_, operator, parts, orderBy, offset, fetch⟩ =>
    ctx.dialect.arrange mode depth (sortKeys ctx orderBy)
      ⟨(optionalOperand ctx offset).map (·.draft), fetchLimit ctx fetch⟩
      (operator.combine (partTrees ctx mode depth parts))

/-- The queries that are meant by the parts of a set operation. -/
def partTrees (ctx : TranslationContext) (mode : RenderingMode) (depth : Nat) : List Query → List QueryTree
  | [] => []
  | part :: parts => part.tree ctx mode (part.depthAsPart depth) :: partTrees ctx mode depth parts

end

theorem partTrees_eq_map (ctx : TranslationContext) (mode : RenderingMode) (depth : Nat) (parts : List Query) :
    partTrees ctx mode depth parts = parts.map fun part => part.tree ctx mode (part.depthAsPart depth) := by
  induction parts with
  | nil => rw [partTrees, List.map_nil]
  | cons part parts ih => rw [partTrees, ih, List.map_cons]

variable {d : Dialect} {arrays : Bool} {mode : RenderingMode} {depth : Nat}

/-! ## Reading WITH clauses -/

theorem TableForm.Formed.readsTable {t : TableForm} (h : t.Formed d arrays)
    (success : t.draft.refusal? mode depth = none) : ReadsTable d (t.draft.tokens mode depth) := by
  obtain ⟨name, columns, body, draft, names, inner⟩ := h
  rw [draft] at success ⊢
  obtain ⟨front, bodySuccess⟩ := refusal?_append_eq_none.1 success
  obtain ⟨start, word⟩ := refusal?_append_eq_none.1 front
  obtain ⟨first, columnsSuccess⟩ := refusal?_append_eq_none.1 start
  rw [refusal?_parens] at bodySuccess
  rw [tokens_append front, tokens_append start, tokens_append first, tokens_parens bodySuccess]
  have written := (inner 0).walk bodySuccess
  cases columns with
  | none => exact QueryReader.readsTable name none nofun written
  | some x =>
    have listed : x.refusal? mode depth = none := refusal?_parens.1 (refusal?_append_eq_none.1 columnsSuccess).2
    have tokens : (Draft.optional ((some x).map fun x => space ++ parens x)).tokens mode depth =
        .space :: ([.leftParen] ++ x.tokens mode depth ++ [.rightParen]) := by
      change (space ++ parens x).tokens mode depth = _
      rw [tokens_append (refusal?_space mode depth), tokens_parens listed]
      rfl
    rw [tokens]
    refine QueryReader.readsTable name (some (x.tokens mode depth)) ?_ written
    rintro ts ⟨⟩
    exact (names x rfl 0).walk listed

theorem Dialect.readAll_withClause {tables : List TableForm} (formed : ∀ t ∈ tables, t.Formed d arrays)
    (success : (d.withClause tables).refusal? mode depth = none) (outer : List QueryLevel) :
    ∃ s, (initial outer).readAll d ((d.withClause tables).tokens mode depth) = some s ∧
      s.ready? = some {} ∧ s.outer = outer := by
  unfold withClause at success ⊢
  split at success
  · next none =>
    rw [if_pos none]
    exact ⟨initial outer, rfl, rfl, rfl⟩
  · next present =>
    rw [if_neg present]
    obtain ⟨front, -⟩ := refusal?_append_eq_none.1 success
    obtain ⟨words, bodies⟩ := refusal?_append_eq_none.1 front
    obtain ⟨word, -⟩ := refusal?_append_eq_none.1 words
    have start : (initial outer).readAll d ((wordSpace .withWord).tokens mode depth) =
        some ⟨{}, outer, .tables 0 false⟩ := rfl
    have mark : readAll d ⟨{}, outer, .tables 0 false⟩
        ((if d.capabilities.recursiveKeyword && tables.any (·.recursive) then wordSpace .recursive
          else empty).tokens mode depth) = some ⟨{}, outer, .tables 0 false⟩ := by
      split <;> rfl
    have listing : readAll d ⟨{}, outer, .tables 0 false⟩ ((listed (tables.map (·.draft))).tokens mode depth) =
        some ⟨{}, outer, .listed⟩ := by
      rw [tokens_listed bodies, List.map_map]
      refine readAll_listing (fun ts hts => ?_) (by simpa using present)
      obtain ⟨t, ht, rfl⟩ := List.mem_map.1 hts
      exact (formed t ht).readsTable (refusal?_of_mem_listed bodies (List.mem_map_of_mem ht))
    have gap : readAll d ⟨{}, outer, .listed⟩ (space.tokens mode depth) = some ⟨{}, outer, .listed⟩ := rfl
    rw [tokens_append front, tokens_append words, tokens_append word]
    exact ⟨_, readAll_append (readAll_append (readAll_append start mark) listing) gap, rfl, rfl⟩

/-- The reader leaves the WITH clause of a query aside. -/
theorem Dialect.readAll_innerWithClause {tables : List TableForm}
    (formed : d.capabilities.withInSubquery = true → ∀ t ∈ tables, t.Formed d arrays)
    (success : (d.innerWithClause tables).refusal? mode depth = none) (outer : List QueryLevel) :
    ∃ s, (initial outer).readAll d ((d.innerWithClause tables).tokens mode depth) = some s ∧
      s.ready? = some {} ∧ s.outer = outer := by
  unfold innerWithClause at success ⊢
  split at success
  · next has =>
    rw [if_pos has]
    by_cases outermost : depth = 0
    · refine ⟨initial outer, ?_, rfl, rfl⟩
      rw [Draft.tokens, writes, if_pos outermost]
      rfl
    · rw [refusal?, if_neg outermost] at success
      rw [Draft.tokens, writes, if_neg outermost]
      exact readAll_withClause (formed has) success outer
  · next lacks =>
    rw [if_neg lacks]
    exact ⟨initial outer, rfl, rfl, rfl⟩

/-! ## Reading clauses -/

/-- What is written starts with a word of a clause, apart from spaces. -/
def Draft.StartsClause (mode : RenderingMode) (depth : Nat) (x : Draft) : Prop :=
  x.refusal? mode depth = none →
    ∃ t rest, Token.withoutSpaces (x.tokens mode depth) = t :: rest ∧ t.isClauseWord = true

section StartsClause

variable {x y : Draft}

theorem Draft.startsClause_spacedWord {w : Keyword} (h : (Token.keyword w).isClauseWord = true) :
    (spacedWord w).StartsClause mode depth := fun _ => ⟨.keyword w, [], rfl, h⟩

theorem Draft.StartsClause.append (h : x.StartsClause mode depth) (y : Draft) :
    (x ++ y).StartsClause mode depth := by
  intro success
  obtain ⟨first, -⟩ := refusal?_append_eq_none.1 success
  obtain ⟨t, rest, tokens, word⟩ := h first
  refine ⟨t, rest ++ Token.withoutSpaces (y.tokens mode depth), ?_, word⟩
  rw [tokens_append first, Token.withoutSpaces, List.filter_append]
  exact congrArg (· ++ _) tokens

/-- The first draft only checks something. -/
theorem Draft.StartsClause.behind (h : y.StartsClause mode depth) (silent : x.tokens mode depth = []) :
    (x ++ y).StartsClause mode depth := by
  intro success
  obtain ⟨first, second⟩ := refusal?_append_eq_none.1 success
  rw [tokens_append first, silent]
  exact h second

end StartsClause

namespace Dialect

variable {limit : RowLimit}

theorem startsClause_offsetFetchClause (present : limit.isEmpty = false) (rowsKeyword : Bool) :
    (offsetFetchClause limit rowsKeyword).StartsClause mode depth := by
  obtain ⟨offset, fetch⟩ := limit
  cases offset with
  | some n => exact (((startsClause_spacedWord rfl).append n).append _).append _
  | none =>
    cases fetch with
    | none => cases present
    | some fetch =>
      refine StartsClause.behind ?_ rfl
      exact ((((((startsClause_spacedWord rfl).append _).append fetch.1).append _).append _).append _).append _

theorem tokens_requireRowsOnly (limit : RowLimit) : (d.requireRowsOnly limit).tokens mode depth = [] := by
  unfold requireRowsOnly
  split
  · split <;> rfl
  · rfl

theorem startsClause_limitOffsetClause (present : limit.isEmpty = false) :
    (d.limitOffsetClause limit).StartsClause mode depth := by
  obtain ⟨offset, fetch⟩ := limit
  cases fetch with
  | some fetch =>
    refine StartsClause.append (StartsClause.behind ?_ (tokens_requireRowsOnly _)) _
    exact (startsClause_spacedWord rfl).append fetch.1
  | none =>
    cases offset with
    | none => cases present
    | some n =>
      refine StartsClause.behind ((startsClause_spacedWord rfl).append n) ?_
      rfl

theorem startsClause_limitClause (present : limit.isEmpty = false) : (d.limitClause limit).StartsClause mode depth := by
  cases d with
  | ansi => exact startsClause_offsetFetchClause present true
  | hsql => exact StartsClause.behind (startsClause_offsetFetchClause present true) (tokens_requireRowsOnly limit)
  | postgres =>
    have clause : (offsetFetchClause limit true).StartsClause mode depth := startsClause_offsetFetchClause present true
    obtain ⟨offset, fetch⟩ := limit
    cases fetch with
    | none => exact clause
    | some fetch =>
      have form : postgres.limitClause ⟨offset, some fetch⟩ = if fetch.2.isPercent
          then refuse (.invalidFetch fetch.2 postgres) else offsetFetchClause ⟨offset, some fetch⟩ true := rfl
      rw [form]
      split
      · nofun
      · exact clause
  | mysql =>
    have clause : (mysql.limitOffsetClause limit).StartsClause mode depth := startsClause_limitOffsetClause present
    obtain ⟨offset, fetch⟩ := limit
    cases fetch with
    | some fetch => cases offset <;> exact clause
    | none =>
      cases offset with
      | none => exact clause
      | some n =>
        have unlimited : (raw " LIMIT ").StartsClause mode depth := fun _ => ⟨.raw " LIMIT ", [], rfl, rfl⟩
        exact ((unlimited.append _).append _).append _

/-- Clauses that order rows or limit them start with one of their words. -/
theorem startsClause_arrangement {keys : List SortKey} (present : (keys.isEmpty && limit.isEmpty) = false) :
    (d.arrangement keys limit).StartsClause mode depth := by
  cases keys with
  | cons key keys => exact ((startsClause_spacedWord rfl).append _).append _
  | nil =>
    have limited : limit.isEmpty = false := present
    have clause : (if limit.isEmpty then empty else d.limitClause limit).StartsClause mode depth := by
      rw [limited]
      exact startsClause_limitClause limited
    exact clause.behind rfl

theorem tokens_arrangement_eq_nil {keys : List SortKey} (none : (keys.isEmpty && limit.isEmpty) = true) :
    (d.arrangement keys limit).tokens mode depth = [] := by
  rw [Bool.and_eq_true] at none
  rw [arrangement, orderByClause, if_pos none.1, if_pos none.2]
  rfl

/-- A query has its own clauses behind it. -/
theorem readAll_arrangement {r : QueryReader} {q : QueryTree} {keys : List SortKey}
    (h : r.operand? = some q) (flat : (d.arrangement keys limit).Flat d arrays .clauses)
    (success : (d.arrangement keys limit).refusal? mode depth = none) :
    ∃ s, r.readAll d ((d.arrangement keys limit).tokens mode depth) = some s ∧ s.outer = r.outer ∧
      s.total? = some (d.arrange mode depth keys limit (r.level.total q)) := by
  cases none : keys.isEmpty && limit.isEmpty with
  | true =>
    rw [tokens_arrangement_eq_nil none, arrange, if_pos none]
    exact ⟨r, rfl, rfl, total_of_operand h⟩
  | false =>
    obtain ⟨t, rest, solid, word⟩ := startsClause_arrangement none success
    rw [arrange, if_neg (by simp [none])]
    exact readAll_clauses h solid word ((flat 0).walk success)

end Dialect

/-! ## Reading queries -/

namespace SelectForm.Formed

variable {f : SelectForm}

/-- A SELECT is read, apart from its own clauses that order its rows or limit them. -/
theorem exists_readsOperand (h : f.Formed d arrays) (success : (f.draft d none false).refusal? mode depth = none) :
    ∃ ts, (f.draft d none false).tokens mode depth = ts ++ (f.arrangement d).tokens mode depth ∧
      (f.arrangement d).refusal? mode depth = none ∧
      ReadsOperand d ts (.select (Token.withoutSpaces
        ((f.selectList d).tokens mode depth ++ (f.restrictions d false).tokens mode depth))) := by
  obtain ⟨list, -, restrictions, arrangement, tokens⟩ := f.tokens_draft d none false success
  have body := Region.walk_append ((h.flat_selectList 0).walk list) ((h.flat_restrictions false 0).walk restrictions)
  refine ⟨_, ?_, arrangement, readsOperand_select body⟩
  have column : (Draft.optional ((none : Option PathPart).map d.pathColumn)).tokens mode depth = [] := rfl
  rw [tokens, column, List.append_nil, List.append_assoc _ _ ((f.restrictions d false).tokens mode depth)]

/-- A SELECT is read with its own clauses. -/
theorem readsQuery (h : f.Formed d arrays) {r : QueryReader} (ready : r.ready? = some {})
    (success : (f.draft d none false).refusal? mode depth = none) :
    ∃ s, r.readAll d ((f.draft d none false).tokens mode depth) = some s ∧ s.outer = r.outer ∧
      s.total? = some (f.tree d mode depth) := by
  obtain ⟨ts, tokens, arrangement, select⟩ := h.exists_readsOperand success
  obtain ⟨s, body, level, outer, operand⟩ := select r {} ready
  obtain ⟨u, clauses, around, total⟩ := Dialect.readAll_arrangement operand h.flat_arrangement arrangement
  rw [level] at total
  rw [tokens]
  exact ⟨u, readAll_append body clauses, around.trans outer, total⟩

/-- A SELECT without such clauses is a part of a set operation as it is, and others are in parentheses. -/
theorem readsOperand (h : f.Formed d arrays) (success : (f.draft d none false).refusal? mode depth = none) :
    ReadsOperand d ((parensIf f.needsParens (f.draft d none false)).tokens mode depth) (f.tree d mode depth) := by
  cases own : f.needsParens with
  | true =>
    have query : ReadsQuery d ((f.draft d none false).tokens mode depth) (f.tree d mode depth) :=
      fun outer => h.readsQuery (r := initial outer) rfl success
    change ReadsOperand d ((parens (f.draft d none false)).tokens mode depth) _
    rw [tokens_parens success]
    exact query.parens
  | false =>
    have bare : (f.orderBy.isEmpty && f.limit.isEmpty) = true := by
      rw [SelectForm.needsParens] at own
      simpa using own
    obtain ⟨ts, tokens, -, select⟩ := h.exists_readsOperand success
    rw [SelectForm.arrangement, Dialect.tokens_arrangement_eq_nil bare, List.append_nil] at tokens
    change ReadsOperand d ((f.draft d none false).tokens mode depth) _
    rwa [SelectForm.tree, Dialect.arrange, if_pos bare, tokens]

end SelectForm.Formed

/-- A set operation is read part by part. -/
theorem QueryForm.readsQuery_set {f : SetForm} {α : Type} {parts : List α} {form : α → QueryForm}
    {tree : α → QueryTree} {standalone : Bool} (h : f.Formed d arrays)
    (success : ((QueryForm.set f (parts.map form)).draft d standalone none).refusal? mode depth = none)
    (operands : ∀ part ∈ parts, ∀ first, ((form part).partDraft d none first).refusal? mode depth = none →
      ReadsOperand d (((form part).partDraft d none first).tokens mode depth) (tree part)) :
    ReadsQuery d (((QueryForm.set f (parts.map form)).draft d standalone none).tokens mode depth)
      (d.arrange mode depth f.orderBy f.limit (f.operator.combine (parts.map tree))) := by
  intro outer
  obtain ⟨_, _, split, -, withClause, one, others, arrangement, tokens⟩ :=
    QueryForm.tokens_draft_set d f standalone none _ success
  obtain ⟨first, rest, rfl, rfl, rfl⟩ := List.map_eq_cons_iff.1 split
  obtain ⟨here, further⟩ := List.forall_mem_cons.1 operands
  obtain ⟨start, tables, ready, around⟩ := Dialect.readAll_innerWithClause h.tables withClause outer
  obtain ⟨s, operand, level, outside, left⟩ := here true one start {} ready
  have each : ∀ part ∈ rest, ReadsOperand d (((form part).partDraft d none false).tokens mode depth) (tree part) :=
    fun part hpart => further part hpart false (others _ (List.mem_map_of_mem hpart))
  have same : s.level.total (tree first) = tree first := by
    rw [level]
    rfl
  have add : s.level.add (tree first) f.operator = ({} : QueryLevel).add (tree first) f.operator := by
    rw [level]
  obtain ⟨u, p, body, outmost, last, total⟩ := readAll_further each left same add
  obtain ⟨v, clauses, outermost, all⟩ :=
    Dialect.readAll_arrangement last (Dialect.flat_arrangement h.orderBy h.limit) arrangement
  refine ⟨v, ?_, ((outermost.trans outmost).trans outside).trans around, ?_⟩
  · rw [tokens, List.flatMap_map]
    exact readAll_append (readAll_append (readAll_append tables operand) body) clauses
  · rw [all, total, List.map_cons, SetOperator.combine, List.foldl_map]

variable (ctx : TranslationContext)

theorem Query.partDraft_set (g : SetQuery) (first : Bool) :
    ((Query.set g).form ctx).partDraft ctx.dialect none first =
      parens (.nested (((Query.set g).form ctx).draft ctx.dialect false none)) := by
  rw [Query.form_set]
  rfl

theorem Query.partDraft_select (s : SelectQuery) (first : Bool) :
    ((Query.select s).form ctx).partDraft ctx.dialect none first =
      if s.ctes.isEmpty then parensIf (s.form ctx).needsParens ((s.form ctx).draft ctx.dialect none false)
      else parens (.nested (((Query.select s).form ctx).draft ctx.dialect false none)) := by
  have tables : (s.form ctx).tables.isEmpty = s.ctes.isEmpty := by
    cases h : s.ctes <;> simp [SelectQuery.form, tableForms, h]
  rw [Query.form_select, ← tables]
  rfl

/-- A part of a set operation is read as an operand, if it is read as a query in its parentheses. -/
theorem Query.readsOperand_part (part : Query)
    (nested : ((part.form ctx).draft ctx.dialect false none).refusal? mode (depth + 1) = none →
      ReadsQuery ctx.dialect (((part.form ctx).draft ctx.dialect false none).tokens mode (depth + 1))
        (part.tree ctx mode (depth + 1)))
    {first : Bool} (success : ((part.form ctx).partDraft ctx.dialect none first).refusal? mode depth = none) :
    ReadsOperand ctx.dialect (((part.form ctx).partDraft ctx.dialect none first).tokens mode depth)
      (part.tree ctx mode (part.depthAsPart depth)) := by
  have inner (h : (parens (.nested ((part.form ctx).draft ctx.dialect false none))).refusal? mode depth = none) :
      ReadsOperand ctx.dialect
        ((parens (.nested ((part.form ctx).draft ctx.dialect false none))).tokens mode depth)
        (part.tree ctx mode (depth + 1)) := by
    have written := refusal?_parens.1 h
    rw [tokens_parens written]
    exact (nested written).parens
  cases part with
  | set g =>
    rw [partDraft_set] at success ⊢
    exact inner success
  | select s =>
    have formed := (Query.select s).formed_form ctx
    rw [partDraft_select] at success ⊢
    rw [Query.form_select] at formed
    rw [Query.depthAsPart]
    split at success
    · next bare =>
      rw [if_pos bare, if_pos bare, Query.tree]
      cases formed with
      | select formed => exact formed.readsOperand (refusal?_parensIf.1 success)
    · next listed =>
      rw [if_neg listed, if_neg listed]
      exact inner success

-- The induction is on the syntax tree. A part may be written as a query of its own, one query deeper than the whole,
-- and this is the only way in which its parts are ever met.
mutual

/-- A query that is written inside another one is read as what it is. -/
theorem Query.readsQuery (mode : RenderingMode) (depth : Nat) : ∀ q : Query,
    ((q.form ctx).draft ctx.dialect false none).refusal? mode depth = none →
    ReadsQuery ctx.dialect (((q.form ctx).draft ctx.dialect false none).tokens mode depth) (q.tree ctx mode depth)
  | .select s => by
    intro success outer
    have formed := (Query.select s).formed_form ctx
    have draft : ((Query.select s).form ctx).draft ctx.dialect false none =
        ctx.dialect.innerWithClause (s.form ctx).tables ++ (s.form ctx).draft ctx.dialect none false := by
      rw [Query.form_select, QueryForm.draft.eq_def]
    rw [draft] at success ⊢
    rw [Query.form_select] at formed
    obtain ⟨withClause, select⟩ := refusal?_append_eq_none.1 success
    cases formed with
    | select formed =>
      obtain ⟨start, tables, ready, around⟩ := Dialect.readAll_innerWithClause formed.tables withClause outer
      obtain ⟨r, body, outside, total⟩ := formed.readsQuery ready select
      rw [tokens_append withClause, Query.tree]
      exact ⟨r, readAll_append tables body, outside.trans around, total⟩
  | .set ⟨ctes, operator, parts, orderBy, offset, fetch⟩ => by
    intro success
    have formed := (Query.set ⟨ctes, operator, parts, orderBy, offset, fetch⟩).formed_form ctx
    rw [Query.form, queryForms_eq_map] at success formed ⊢
    rw [Query.tree, partTrees_eq_map]
    cases formed with
    | set formed _ => exact QueryForm.readsQuery_set formed success (readsOperand_parts mode depth parts)

/-- A part of a set operation is read as an operand. -/
theorem readsOperand_parts (mode : RenderingMode) (depth : Nat) : ∀ parts : List Query, ∀ part ∈ parts, ∀ first,
    ((part.form ctx).partDraft ctx.dialect none first).refusal? mode depth = none →
    ReadsOperand ctx.dialect (((part.form ctx).partDraft ctx.dialect none first).tokens mode depth)
      (part.tree ctx mode (part.depthAsPart depth))
  | [] => nofun
  | part :: parts => by
    have nested := part.readsQuery mode (depth + 1)
    exact List.forall_mem_cons.2 ⟨fun _ => part.readsOperand_part ctx nested, readsOperand_parts mode depth parts⟩

end

/-- For whatever dialect, if a set operation can be written, then its tokens are read as the same operator over the
same parts in the same order, each part with its own clauses that order its rows or limit them, and the whole with
the clauses of the set operation. In a statement, this is what stands behind the WITH clause. -/
theorem SetQuery.tree_of_run (ctx : TranslationContext) (g : SetQuery) (page after : Page) :
    let q := Query.set g
    let meant := q.tree ctx page.mode page.depth
    (∀ standalone, ((q.form ctx).draft ctx.dialect standalone none).run page = (none, after) →
      ∃ ts, after.tokens.toList = page.tokens.toList ++ ts ∧ QueryTree.read? ctx.dialect ts = some meant) ∧
    (((Statement.select q).draft ctx).run page = (none, after) →
      ∃ ts, after.tokens.toList = page.tokens.toList
        ++ (ctx.dialect.withClause (tableForms ctx (q.leadingTables ctx.dialect))).tokens page.mode page.depth ++ ts ∧
        QueryTree.read? ctx.dialect ts = some meant) := by
  intro q meant
  have reads {standalone : Bool}
      (success : ((q.form ctx).draft ctx.dialect standalone none).refusal? page.mode page.depth = none) :
      QueryTree.read? ctx.dialect (((q.form ctx).draft ctx.dialect standalone none).tokens page.mode page.depth) =
        some meant := by
    have same : (q.form ctx).draft ctx.dialect standalone none = (q.form ctx).draft ctx.dialect false none := by
      rw [Query.form_set, QueryForm.draft.eq_def, QueryForm.draft.eq_def]
    rw [same] at success ⊢
    exact (q.readsQuery ctx page.mode page.depth success).read
  constructor
  · intro standalone h
    obtain ⟨success, tokens⟩ := tokens_of_run h
    exact ⟨_, tokens, reads success⟩
  · intro h
    obtain ⟨success, tokens⟩ := tokens_of_run h
    obtain ⟨front, body⟩ := refusal?_append_eq_none.1 success
    refine ⟨_, ?_, reads body⟩
    rw [tokens, List.append_assoc, ← tokens_append front]
    rfl

/-- A UNION with an ordered part is the right side of an EXCEPT that is ordered as a whole. -/
theorem SetQuery.tree_of_run_orderedPart :
    let ctx := TranslationContext.ofDialect .postgres
    let column := Expression.column none "a" none
    let source (name : String) : SelectQuery := { items := [{ expression := column }], tables := [{ name := name }] }
    let ordered : SelectQuery := { source "t3" with orderBy := [{ expression := column }] }
    let union : SetQuery := { operator := .union, parts := [.select (source "t2"), .select ordered] }
    let difference : SetQuery :=
      { operator := .except, parts := [.select (source "t1"), .set union], orderBy := [{ expression := column }] }
    let written := (((Query.set difference).form ctx).draft .postgres true none).run .blank
    let body (name : String) : List Token := [.qualifiedName none "a", .keyword .fromWord, .name name]
    let order : List Token := [.keyword .orderBy, .qualifiedName none "a", .keyword .asc]
    written.1 = none ∧ QueryTree.read? .postgres written.2.tokens.toList =
      some (.arranged (.combined .except (.select (body "t1"))
        (.combined .union (.select (body "t2")) (.arranged (.select (body "t3")) order))) order) := by
  intro ctx column source ordered union difference written body order
  have success : written.1 = none := rfl
  obtain ⟨ts, tokens, read⟩ := (SetQuery.tree_of_run ctx difference .blank written.2).1 true (Prod.ext success rfl)
  have same : written.2.tokens.toList = ts := tokens
  refine ⟨success, ?_⟩
  rw [same]
  exact read

end SqlDialects
