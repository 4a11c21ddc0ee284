import SqlDialects.Proofs.Query.Layout
import SqlDialects.Proofs.Row.Capture
import SqlDialects.Proofs.Test.Operators

/-!
# Search paths

The body of a recursive table with a search path is a set operation over several SELECTs, and each of them has one
more item at the end of its select list, under the name of the path: the seed in the first one, and the path of an
earlier row with one more step in all others (`CommonTable.path_of_translate`). The earlier row is referred to by the
name of the recursive table. A SELECT that joins the table under an alias does not expose that name, so the
reference is to a row of the SELECT only if one of its tables goes by the name.
-/

namespace SqlDialects

open Draft

/-! ## The column of a path -/

namespace Dialect

/-- The start of a path: an array of the seed, or the seed as it is, in a cast if HSQL is told a greatest length. -/
def pathStart (d : Dialect) (sizeEstimate : Int) (seed : List Token) : List Token :=
  if d.pathsAreArrays then [.raw "array["] ++ seed ++ [.raw "]"]
  else if d = .hsql ∧ sizeEstimate ≠ -1 then
    [.castOpening] ++ seed ++ [.raw (" as varchar(" ++ toString sizeEstimate ++ "))")]
  else seed

/-- A path behind one more step: an array with one more element, or a text with a comma in between. -/
def pathExtension (d : Dialect) (previous : Token) (step : List Token) : List Token :=
  if d.pathsAreArrays then [previous, .space, .concat, .space, .raw "array["] ++ step ++ [.raw "]"]
  else if d.capabilities.concatOperator then
    [previous, .space, .concat, .space, .literal (.string ","), .space, .concat, .space] ++ step
  else
    [.raw "concat(", previous, .comma, .space, .literal (.string ","), .comma, .space] ++ step ++ [.rightParen]

variable {d : Dialect} {mode : RenderingMode} {depth : Nat}

/-- The first column of a path is one more item, with the seed. -/
theorem tokens_pathColumn_seed (d : Dialect) (p : PathForm)
    (h : (d.pathColumn (.seed p)).refusal? mode depth = none) :
    (d.pathColumn (.seed p)).tokens mode depth =
      [.comma, .space] ++ d.pathStart p.sizeEstimate (p.seed.tokens mode depth)
        ++ [.space, .keyword .asWord, .space, .name p.column] := by
  unfold pathColumn pathStart at *
  dsimp only at *
  split at h
  · next arrays =>
    have seed : p.seed.refusal? mode depth = none := by
      simpa [refusal?_append_eq_none, raw] using h
    simp [refusal?_append_eq_none, tokens_append, raw, arrays, seed]
  · next texts =>
    by_cases cast : d = .hsql ∧ p.sizeEstimate ≠ -1
    · obtain ⟨rfl, size⟩ := cast
      have seed : p.seed.refusal? mode depth = none := by
        simpa [refusal?_append_eq_none, pathSeed, size, raw] using h
      simp [refusal?_append_eq_none, tokens_append, pathSeed, Token.castOpening, raw, texts, size, seed]
    · have plain : d.pathSeed p.seed p.sizeEstimate = p.seed := by
        cases d <;> simp_all [pathSeed]
      rw [plain] at h
      have seed : p.seed.refusal? mode depth = none := by
        simpa [refusal?_append_eq_none, raw] using h
      simp [refusal?_append_eq_none, tokens_append, texts, cast, plain, seed]

/-- Each further column of a path is one more item, with the path of another row and the step. -/
theorem tokens_pathColumn_step (d : Dialect) (p : PathForm)
    (h : (d.pathColumn (.step p)).refusal? mode depth = none) :
    (d.pathColumn (.step p)).tokens mode depth =
      [.comma, .space] ++ d.pathExtension (.qualifiedName (some p.table) p.column) (p.step.tokens mode depth)
        ++ [.space, .keyword .asWord, .space, .name p.column] := by
  unfold pathColumn pathStep pathExtension at *
  dsimp only at *
  have step : p.step.refusal? mode depth = none := by
    split at h
    · simpa [refusal?_append_eq_none, raw] using h
    · split at h <;> simpa [refusal?_append_eq_none, raw] using h
  split
  · simp [refusal?_append_eq_none, tokens_append, raw, step]
  · split <;>
      simp [refusal?_append_eq_none, tokens_append, raw, step]

end Dialect

/-! ## The parts of the body -/

variable {d : Dialect} {mode : RenderingMode} {depth : Nat}

/-- A part of a set operation, with one more item at the end of its select list. -/
def SelectForm.tokensWith (d : Dialect) (f : SelectForm) (mode : RenderingMode) (depth : Nat) (item : List Token) :
    List Token :=
  let tokens := [.keyword .select, .space] ++ (f.selectList d).tokens mode depth ++ [.comma, .space] ++ item
    ++ (f.restrictions d false).tokens mode depth ++ (f.arrangement d).tokens mode depth
  if f.needsParens then [.leftParen] ++ tokens ++ [.rightParen] else tokens

/-- A part of the body of a table with a search path is a SELECT with the column of the path. -/
theorem SelectForm.tokens_partDraft (f : SelectForm) (p : PathForm) (first : Bool)
    (h : ((QueryForm.select f).partDraft d (some p) first).refusal? mode depth = none) :
    ((QueryForm.select f).partDraft d (some p) first).tokens mode depth =
      f.tokensWith d mode depth
        ((if first then d.pathStart p.sizeEstimate (p.seed.tokens mode depth)
          else d.pathExtension (.qualifiedName (some p.table) p.column) (p.step.tokens mode depth))
        ++ [.space, .keyword .asWord, .space, .name p.column]) := by
  have whole : (f.draft d (some (if first then .seed p else .step p)) false).refusal? mode depth = none := by
    rw [QueryForm.partDraft, parensIf] at h
    split at h
    · exact refusal?_parens.1 h
    · exact h
  obtain ⟨-, column, -, -, tokens⟩ := f.tokens_draft d _ _ whole
  have item : (d.pathColumn (if first then .seed p else .step p)).tokens mode depth = [.comma, .space]
      ++ ((if first then d.pathStart p.sizeEstimate (p.seed.tokens mode depth)
          else d.pathExtension (.qualifiedName (some p.table) p.column) (p.step.tokens mode depth))
        ++ [.space, .keyword .asWord, .space, .name p.column]) := by
    rw [← List.append_assoc]
    cases first with
    | true => exact d.tokens_pathColumn_seed p column
    | false => exact d.tokens_pathColumn_step p column
  rw [Option.map_some, Draft.optional, item, ← List.append_assoc] at tokens
  rw [QueryForm.partDraft, tokensWith, parensIf]
  split
  · rw [tokens_parens whole, tokens]
  · exact tokens

/-- Only a SELECT is a part of the body of a table with a search path. -/
theorem exists_select {ctx : TranslationContext} {path : PathForm} {first : Bool} {q : Query}
    (h : ((q.form ctx).partDraft d (some path) first).refusal? mode depth = none) :
    ∃ s : SelectQuery, q = .select s := by
  cases q with
  | select s => exact ⟨s, rfl⟩
  | set g =>
    rw [Query.form_set] at h
    cases h

theorem exists_selects {ctx : TranslationContext} {path : PathForm} {first : Bool} {parts : List Query}
    (h : ∀ q ∈ parts, ((q.form ctx).partDraft d (some path) first).refusal? mode depth = none) :
    ∃ selects : List SelectQuery, parts = selects.map .select := by
  induction parts with
  | nil => exact ⟨[], rfl⟩
  | cons q parts ih =>
    obtain ⟨part, others⟩ := List.forall_mem_cons.1 h
    obtain ⟨s, rfl⟩ := exists_select part
    obtain ⟨selects, rfl⟩ := ih others
    exact ⟨s :: selects, rfl⟩

/-- A search path whose expressions are drafted. -/
def SearchPath.form (ctx : TranslationContext) (table : String) (p : SearchPath) : PathForm :=
  ⟨table, p.column, (p.seed.operand ctx).draft, (p.step.operand ctx).draft, p.sizeEstimate⟩

/-- The table goes by the name in the FROM clause: by its alias, or by its own name if it has none. -/
def TableReference.goesBy (t : TableReference) (name : String) : Prop :=
  t.alias? = some name ∨ t.alias? = none ∧ t.name = name

theorem exposes_iff (tables : List TableReference) (name : String) :
    Exposes tables name ↔ ∃ t ∈ tables, t.goesBy name := by
  refine exists_congr fun t => and_congr_right fun _ => ?_
  obtain ⟨own, alias?⟩ := t
  cases alias? <;> simp [TableReference.exposedName, TableReference.goesBy]

namespace CommonTable

variable {ctx : TranslationContext}

/-- The tokens of a common table with a search path in front of its body. -/
def heading (t : CommonTable) (p : SearchPath) : List Token :=
  [.name t.name]
    ++ (if t.columns.isEmpty then [] else [.space, .leftParen]
      ++ [Token.comma, .space].intercalate ((t.columns ++ [p.column]).map fun c => [Token.name c]) ++ [.rightParen])
    ++ [.space, .keyword .asWord, .space, .leftParen]

theorem tokens_names (mode : RenderingMode) (depth : Nat) (names : List String) :
    (listed (names.map fun c => token (.name c))).refusal? mode depth = none ∧
      (listed (names.map fun c => token (.name c))).tokens mode depth =
        [Token.comma, .space].intercalate (names.map fun c => [Token.name c]) := by
  have each : (listed (names.map fun c => token (.name c))).refusal? mode depth = none := by
    refine refusal?_listed_of_forall fun x hx => ?_
    obtain ⟨c, -, rfl⟩ := List.mem_map.1 hx
    exact refusal?_token mode depth _
  refine ⟨each, ?_⟩
  rw [tokens_listed each, List.map_map]
  rfl

/-- The body of a common table stands behind its heading, in parentheses. -/
theorem tokens_form (t : CommonTable) {p : SearchPath} (path : t.searchPath = some p)
    (h : (t.form ctx).draft.refusal? mode depth = none) :
    let body := (t.query.form ctx).draft ctx.dialect false (some (p.form ctx t.name))
    body.refusal? mode (depth + 1) = none ∧
      (t.form ctx).draft.tokens mode depth = t.heading p ++ body.tokens mode (depth + 1) ++ [.rightParen] := by
  intro body
  have drafted : (t.form ctx).draft =
      token (.name t.name)
        ++ (if t.columns.isEmpty then empty
          else space ++ parens (listed ((t.columns ++ [p.column]).map fun c => token (.name c))))
        ++ spacedWord .asWord ++ parens (nested body) := by
    obtain ⟨name, columns, query, recursive, searchPath⟩ := t
    obtain ⟨column, seed, step, sizeEstimate⟩ := p
    cases path
    rw [form, List.map_append]
    rfl
  rw [drafted] at h ⊢
  have success : body.refusal? mode (depth + 1) = none := refusal?_parens.1 (refusal?_append_eq_none.1 h).2
  have inner : (nested body).refusal? mode depth = none := success
  have same : (nested body).tokens mode depth = body.tokens mode (depth + 1) := rfl
  obtain ⟨list, columns⟩ := tokens_names mode depth (t.columns ++ [p.column])
  refine ⟨success, ?_⟩
  cases empty : t.columns.isEmpty with
  | true => simp [heading, tokens_append, refusal?_append_eq_none, tokens_parens, empty, inner, same]
  | false =>
    rw [heading, empty, ← columns]
    generalize listed ((t.columns ++ [p.column]).map fun c => token (.name c)) = names at list
    have brackets := refusal?_parens.2 list
    simp [tokens_append, refusal?_append_eq_none, tokens_parens, inner, same, list, brackets]

/-- Wherever a common table with a search path is written in a statement that is translated, its body is a set
operation over SELECTs, more than one, each of which is written with one more item at the end of its select list,
under the name of the path: the start of the path in the first one, and in all others the path of another row with
one more step. That row is referred to by the name of the common table. A SELECT exposes this name in its FROM
clause if and only if one of its tables goes by it, so the reference is to a row of that SELECT in each of them if
and only if the recursive table, or another one, goes by the name in each of them. -/
theorem path_of_translate {s : Statement} {op : Operation} (success : s.translate ctx = .ok op) {t : CommonTable}
    {p : SearchPath} (path : t.searchPath = some p) {there : Page}
    (reached : (s.draft ctx).CarriesOut .blank (t.form ctx).draft there) :
    let written (x : Draft) := x.tokens there.mode (there.depth + 1)
    let arm (s : SelectQuery) (item : List Token) := (s.form ctx).tokensWith ctx.dialect there.mode (there.depth + 1)
      (item ++ [.space, .keyword .asWord, .space, .name p.column])
    let start := ctx.dialect.pathStart p.sizeEstimate (written (p.seed.operand ctx).draft)
    let extension := ctx.dialect.pathExtension (.qualifiedName (some t.name) p.column)
      (written (p.step.operand ctx).draft)
    let sources (s : SelectQuery) := readFrom (written ((s.form ctx).fromClause ctx.dialect false))
    ∃ (g : SetQuery) (first : SelectQuery) (further : List SelectQuery),
      t.query = .set g ∧ g.parts = (first :: further).map .select ∧ further ≠ [] ∧
      there.tokens.toList ++ (t.heading p ++ written (ctx.dialect.innerWithClause (g.form ctx).tables)
          ++ arm first start ++ further.flatMap (fun s => g.operator.joint ++ arm s extension)
          ++ written (ctx.dialect.arrangement (g.form ctx).orderBy (g.form ctx).limit) ++ [.rightParen])
        <+: (s.page ctx).tokens.toList ∧
      (∀ s ∈ further, sources s = s.tables ∧
        (Exposes (sources s) t.name ↔ ∃ table ∈ s.tables, table.goesBy t.name)) := by
  intro written arm start extension sources
  obtain ⟨whole, stays⟩ := s.written_of_carriesOut success reached
  obtain ⟨body, tokens⟩ := t.tokens_form path whole
  rw [tokens] at stays
  cases query : t.query with
  | select q =>
    rw [query, Query.form_select, QueryForm.draft.eq_def] at body
    cases (refusal?_append_eq_none.1 body).2
  | set g =>
    rw [query, Query.form_set] at body stays
    obtain ⟨first', further', parts, several, -, first, further, -, layout⟩ :=
      QueryForm.tokens_draft_set _ _ _ _ _ body
    rw [queryForms_eq_map] at parts
    obtain ⟨part, others, same, rfl, rfl⟩ := List.map_eq_cons_iff.1 parts
    rw [List.forall_mem_map] at further
    obtain ⟨one, rfl⟩ := exists_select first
    obtain ⟨rest, rfl⟩ := exists_selects further
    rw [List.forall_mem_map] at further
    have seeded : (((Query.select one).form ctx).partDraft ctx.dialect (some (p.form ctx t.name)) true).tokens
        there.mode (there.depth + 1) = arm one start := by
      rw [Query.form_select] at first ⊢
      exact (one.form ctx).tokens_partDraft _ true first
    have extended : ((rest.map Query.select).map (·.form ctx)).flatMap (fun part => (g.form ctx).operator.joint
        ++ (part.partDraft ctx.dialect (some (p.form ctx t.name)) false).tokens there.mode (there.depth + 1)) =
        rest.flatMap fun s => g.operator.joint ++ arm s extension := by
      rw [List.map_map, List.flatMap_map]
      refine List.flatMap_congr fun q hq => ?_
      have part := further q hq
      rw [Function.comp_apply]
      rw [Query.form_select] at part ⊢
      exact congrArg (g.operator.joint ++ ·) ((q.form ctx).tokens_partDraft _ false part)
    rw [layout, seeded, extended] at stays
    refine ⟨g, one, rest, rfl, same, by simpa using several, by simpa only [List.append_assoc] using stays,
      fun q _ => ?_⟩
    have read : sources q = q.tables := (q.form ctx).readFrom_fromClause ctx.dialect there.mode (there.depth + 1)
    rw [read]
    exact ⟨rfl, exposes_iff q.tables t.name⟩

end CommonTable

/-- The children of the rows of a tree that is joined under an alias. -/
def SelectQuery.joinsAlias : SelectQuery where
  items := [⟨.column (some "n") "id" none, none⟩]
  tables := [⟨"node", some "n"⟩, ⟨"tree", some "t"⟩]

/-- A tree with the path to each of its rows. -/
def CommonTable.aliasedTree : CommonTable where
  name := "tree"
  query := .set
    { operator := .unionAll
      parts := [.select { items := [⟨.column none "id" none, none⟩], tables := [⟨"node", none⟩] }, .select .joinsAlias] }
  recursive := true
  searchPath := some { column := "path", seed := .column none "id" none, step := .column (some "n") "id" none }

/-- The rows of the tree. -/
def Statement.listsTree : Statement :=
  .select (.select
    { ctes := [.aliasedTree], items := [⟨.column none "id" none, none⟩], tables := [⟨"tree", none⟩] })

/-- The further part of the tree extends the path of a row of `tree`, and has no table that goes by this name. -/
theorem CommonTable.path_of_translate_listsTree :
    let ctx := TranslationContext.ofDialect .postgres
    let sources := readFrom (((SelectQuery.joinsAlias.form ctx).fromClause .postgres false).tokens .plain 1)
    (∃ op, Statement.listsTree.translate ctx = .ok op) ∧
      [.qualifiedName (some "tree") "path", .space, .concat, .space] <:+: (Statement.listsTree.page ctx).tokens.toList ∧
      sources = [⟨"node", some "n"⟩, ⟨"tree", some "t"⟩] ∧ ¬Exposes sources "tree" := by
  intro ctx sources
  have translates : (Statement.listsTree.translate ctx).isOk = true := by decide +kernel
  cases success : Statement.listsTree.translate ctx with
  | error failure => simp [success, Except.isOk, Except.toBool] at translates
  | ok op =>
    let front : List Token := [.keyword .withWord, .space, .keyword .recursive, .space]
    have reached : (Statement.listsTree.draft ctx).CarriesOut .blank (CommonTable.aliasedTree.form ctx).draft
        ⟨front.toArray, #[], [], 0⟩ :=
      .first (.first (.second rfl (.itself _ _)))
    obtain ⟨g, first, further, query, parts, -, -, read⟩ := path_of_translate success rfl reached
    cases query
    have part : SelectQuery.joinsAlias ∈ further := by
      have member : Query.select .joinsAlias ∈ further.map Query.select := (List.cons.inj parts).2 ▸ List.mem_cons_self
      simpa using member
    obtain ⟨tables, exposed⟩ := read _ part
    refine ⟨⟨op, rfl⟩, by decide +kernel, tables, fun there => ?_⟩
    obtain ⟨t, ht, named⟩ := exposed.1 there
    have tables : t ∈ [(⟨"node", some "n"⟩ : TableReference), ⟨"tree", some "t"⟩] := ht
    simp only [List.mem_cons, List.not_mem_nil, or_false] at tables
    rcases tables with rfl | rfl <;> simp [TableReference.goesBy, CommonTable.aliasedTree] at named

end SqlDialects
