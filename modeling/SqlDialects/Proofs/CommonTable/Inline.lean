import SqlDialects.Proofs.CommonTable.Hoisting

/-!
# Common tables in place

A dialect with WITH in subqueries has the common tables of a query right in front of the query, wherever
the query is written: as the statement, as a subquery, as the body of a common table, as a part of a set
operation, and in an EXISTS over its rows. A text in which this is so is `Laid`. The one way in which a query
can lose its tables is to be a part of the body of a table with a search path (`Query.LosesTables`).
-/

namespace SqlDialects

open Draft

variable {ctx : TranslationContext} {mode : RenderingMode} {depth : Nat}

namespace Query

/-- The query is the body of a table with a search path. -/
def IsPathBody (q y : Query) : Prop := ∃ x, q.Has x ∧ ∃ t ∈ x.ctes, t.searchPath.isSome = true ∧ t.query = y

/-- The SELECT declares tables and is a part of the body of a table with a search path. -/
def LosesTables (q : Query) (s : SelectQuery) : Prop :=
  s.ctes ≠ [] ∧ ∃ g : SetQuery, q.IsPathBody (.set g) ∧ .select s ∈ g.parts

end Query

/-! ## Laid texts -/

/-- The SELECT in an EXISTS, without its WITH clause. -/
def SubqueryFrame.selectOne (f : SubqueryFrame) (comparison : Draft) : Draft :=
  .wordSpace .select ++ .token (.literal (.integer 1)) ++ f.fromClause ++ f.restriction comparison

/-- Texts of a SELECT without its WITH clause: as it is written for itself, with the column of a search path
if it has one, and in an EXISTS over its rows. -/
inductive SelectQuery.IsText (ctx : TranslationContext) (mode : RenderingMode) (depth : Nat)
    (s : SelectQuery) : List Token → Prop where
  | written {path : Option PathPart} {standalone : Bool} :
    ((s.form ctx).draft ctx.dialect path standalone).refusal? mode depth = none →
      IsText ctx mode depth s (((s.form ctx).draft ctx.dialect path standalone).tokens mode depth)
  | sought {comparison : Draft} :
    (((s.form ctx).frame ctx.dialect).selectOne comparison).refusal? mode depth = none →
      IsText ctx mode depth s ((((s.form ctx).frame ctx.dialect).selectOne comparison).tokens mode depth)

/-- Each SELECT and each set operation in the text is a query of the statement, and its WITH clause is right
in front of it with all its tables, unless it is lost. There is no other WITH clause. -/
inductive Laid (ctx : TranslationContext) (q : Query) (Lost : SelectQuery → Prop) : List Token → Prop where
  | nil : Laid ctx q Lost []
  | token {t : Token} : t ≠ .keyword .withWord → t ≠ .keyword .select → Laid ctx q Lost [t]
  | append {ts us : List Token} : Laid ctx q Lost ts → Laid ctx q Lost us → Laid ctx q Lost (ts ++ us)
  | select {s : SelectQuery} {mode : RenderingMode} {depth : Nat} {rest : List Token} :
    q.Has (.select s) → (∀ t ∈ s.ctes, Laid ctx q Lost (t.tokensAt ctx mode depth)) →
      s.IsText ctx mode depth (.keyword .select :: rest) → Laid ctx q Lost rest →
      Laid ctx q Lost (withTokensAt ctx mode depth s.ctes ++ .keyword .select :: rest)
  | set {g : SetQuery} {standalone : Bool} {path : Option PathForm} {mode : RenderingMode} {depth : Nat} :
    q.Has (.set g) → (∀ t ∈ g.ctes, Laid ctx q Lost (t.tokensAt ctx mode depth)) →
      (((Query.set g).form ctx).ownDraft ctx.dialect standalone path).refusal? mode depth = none →
      Laid ctx q Lost ((((Query.set g).form ctx).ownDraft ctx.dialect standalone path).tokens mode depth) →
      Laid ctx q Lost (withTokensAt ctx mode depth g.ctes
        ++ (((Query.set g).form ctx).ownDraft ctx.dialect standalone path).tokens mode depth)
  | lost {s : SelectQuery} {mode : RenderingMode} {depth : Nat} {rest : List Token} :
    Lost s → s.IsText ctx mode depth (.keyword .select :: rest) → Laid ctx q Lost rest →
      Laid ctx q Lost (.keyword .select :: rest)

variable {q : Query} {x : Draft}

/-- What the draft writes is laid, wherever it is carried out. -/
def Draft.Lays (ctx : TranslationContext) (q : Query) (x : Draft) : Prop :=
  ∀ mode depth, x.refusal? mode depth = none → Laid ctx q q.LosesTables (x.tokens mode depth)

namespace Draft

theorem Lays.append {y : Draft} (hx : x.Lays ctx q) (hy : y.Lays ctx q) : (x ++ y).Lays ctx q := by
  intro mode depth success
  obtain ⟨first, second⟩ := refusal?_append_eq_none.1 success
  rw [tokens_append first]
  exact .append (hx mode depth first) (hy mode depth second)

theorem MadeOf.lays (h : x.MadeOf ctx.dialect (Lays ctx q)) : x.Lays ctx q := by
  induction h with
  | empty => exact fun _ _ _ => .nil
  | token ordinary =>
    intro _ _ _
    refine .token ?_ ?_
    · rintro rfl
      exact ordinary.1 rfl
    · rintro rfl
      exact ordinary.2.1 rfl
  | placeholder p => exact fun _ _ _ => .token nofun nofun
  | refuse cause => exact fun _ _ success => nomatch success
  | append _ _ ihf ihs => exact ihf.append ihs
  | @inMode mode y _ ih => exact fun _ depth success => ih mode depth success
  | byMode _ _ _ ihp iht =>
    intro mode depth success
    cases mode with
    | plain => exact ihp .plain depth success
    | typed => exact iht .typed depth success
  | part lays => exact lays

theorem compositional_lays : Compositional ctx.dialect (Lays ctx q) where
  madeOf := MadeOf.lays
  append := Lays.append

/-- A SELECT begins with its word, and the clauses behind it are laid. -/
theorem Selects.exists_rest (h : x.Selects ctx.dialect (Lays ctx q))
    (success : x.refusal? mode depth = none) :
    ∃ rest, x.tokens mode depth = .keyword .select :: rest ∧ Laid ctx q q.LosesTables rest := by
  induction h with
  | word => exact ⟨[.space], rfl, .token nofun nofun⟩
  | append _ hy ih =>
    obtain ⟨first, second⟩ := refusal?_append_eq_none.1 success
    obtain ⟨rest, front, laid⟩ := ih first
    exact ⟨_, by rw [tokens_append first, front, List.cons_append], laid.append (hy.lays mode depth second)⟩
  | refuse => cases success

/-- A SELECT is laid behind its WITH clause. -/
theorem Selects.laid {s : SelectQuery} (h : x.Selects ctx.dialect (Lays ctx q)) (hs : q.Has (.select s))
    (tables : ∀ t ∈ s.ctes, Laid ctx q q.LosesTables (t.tokensAt ctx mode depth))
    (success : x.refusal? mode depth = none) (text : s.IsText ctx mode depth (x.tokens mode depth)) :
    Laid ctx q q.LosesTables (withTokensAt ctx mode depth s.ctes ++ x.tokens mode depth) := by
  obtain ⟨rest, front, laid⟩ := h.exists_rest success
  rw [front] at text ⊢
  exact .select hs tables text laid

end Draft

/-! ## WITH clauses -/

/-- The tables of a WITH clause are laid. -/
theorem laid_tables {tables : List CommonTable}
    (forms : ∀ t ∈ tableForms ctx tables, t.draft.MadeOf ctx.dialect (Lays ctx q))
    (success : (ctx.dialect.withClause (tableForms ctx tables)).refusal? mode depth = none) :
    ∀ t ∈ tables, Laid ctx q q.LosesTables (t.tokensAt ctx mode depth) := by
  intro t ht
  have form : t.form ctx ∈ tableForms ctx tables := by
    rw [tableForms_eq_map]
    exact List.mem_map_of_mem ht
  refine (forms _ form).lays mode depth ?_
  unfold Dialect.withClause at success
  split at success
  · next none =>
    rw [tableForms_eq_map, List.isEmpty_map, List.isEmpty_iff] at none
    rw [none] at ht
    cases ht
  · have bodies := (refusal?_append_eq_none.1 (refusal?_append_eq_none.1 success).1).2
    exact refusal?_of_mem_listed bodies (List.mem_map_of_mem form)

theorem Query.tables_form (y : Query) : (y.form ctx).tables = tableForms ctx y.ctes := by
  cases y with
  | select s =>
    rw [Query.form_select]
    rfl
  | set g =>
    rw [Query.form_set]
    rfl

/-- The first draft writes what the second one does, and behind it what the third one does. -/
def Draft.IsJoined (x front behind : Draft) : Prop :=
  ∀ mode depth, x.refusal? mode depth = none → front.refusal? mode depth = none ∧
    behind.refusal? mode depth = none ∧
    x.tokens mode depth = front.tokens mode depth ++ behind.tokens mode depth

namespace Draft

theorem isJoined_append (x y : Draft) : (x ++ y).IsJoined x y := by
  intro mode depth success
  obtain ⟨first, second⟩ := refusal?_append_eq_none.1 success
  exact ⟨first, second, tokens_append first⟩

/-- What is appended belongs to what is behind. -/
theorem IsJoined.append {front behind : Draft} (h : x.IsJoined front behind) (y : Draft) :
    (x ++ y).IsJoined front (behind ++ y) := by
  intro mode depth success
  obtain ⟨first, second⟩ := refusal?_append_eq_none.1 success
  obtain ⟨hfront, hbehind, tokens⟩ := h mode depth first
  refine ⟨hfront, refusal?_append_eq_none.2 ⟨hbehind, second⟩, ?_⟩
  rw [tokens_append first, tokens_append hbehind, tokens, List.append_assoc]

end Draft

/-- A query is written behind its WITH clause. -/
theorem QueryForm.isJoined_draft (f : QueryForm) (d : Dialect) (standalone : Bool) (path : Option PathForm) :
    (f.draft d standalone path).IsJoined (d.innerWithClause f.tables) (f.ownDraft d standalone path) := by
  rw [QueryForm.draft.eq_def]
  cases f with
  | select f => exact isJoined_append _ _
  | set f parts => exact ((isJoined_append _ _).append _).append _

/-! ## Queries -/

/-- A SELECT without tables of its own is laid as it is. -/
theorem Draft.Selects.lays {s : SelectQuery} (h : x.Selects ctx.dialect (Lays ctx q)) (hs : q.Has (.select s))
    (bare : s.ctes = [])
    (text : ∀ mode depth, x.refusal? mode depth = none → s.IsText ctx mode depth (x.tokens mode depth)) :
    x.Lays ctx q := by
  intro mode depth success
  have laid := h.laid hs (by simp [bare]) success (text mode depth success)
  rwa [bare] at laid

/-- A part of a set operation is laid on its own, apart from the one that loses its tables. -/
theorem Query.isArm_form {g : SetQuery} {path : Option PathForm}
    (hpath : ∀ p ∈ path, p.MadeOf ctx.dialect (Lays ctx q) ∧ q.IsPathBody (.set g)) {part : Query}
    (hpart : part ∈ g.parts) (has : q.Has part) (form : (part.form ctx).MadeOf ctx.dialect (Lays ctx q))
    (inner : ((part.form ctx).inner ctx.dialect).Lays ctx q) :
    (part.form ctx).IsArm ctx.dialect (Lays ctx q) path := by
  refine ⟨inner, fun f same bare => ?_, fun f place same split => ?_⟩
  · cases part with
    | select s =>
      rw [Query.form_select] at same form
      cases same
      cases form with
      | select hf =>
        have none : s.ctes = [] := by
          rwa [SelectQuery.form, tableForms_eq_map, List.isEmpty_map, List.isEmpty_iff] at bare
        exact (hf.selects (by simp) false).lays has none fun _ _ => .written
    | set _ =>
      rw [Query.form_set] at same
      cases same
  · cases part with
    | select s =>
      rw [Query.form_select] at same form
      cases same
      cases form with
      | select hf =>
        obtain ⟨expressions, body⟩ := hpath place.path split.symm
        have written : ((s.form ctx).draft ctx.dialect (some place) false).Selects ctx.dialect (Lays ctx q) :=
          hf.selects (by rintro _ ⟨⟩; exact expressions) false
        -- the part is written as it is, with or without tables
        by_cases none : s.ctes = []
        · exact written.lays has none fun _ _ => .written
        · intro mode depth success
          obtain ⟨rest, front, laid⟩ := written.exists_rest success
          have text : s.IsText ctx mode depth _ := .written success
          rw [front] at text ⊢
          exact .lost ⟨none, g, body, hpart⟩ text laid
    | set _ =>
      rw [Query.form_set] at same
      cases same

/-- A SELECT behind its WITH clause is laid. -/
theorem Draft.IsJoined.lays {s : SelectQuery} {behind : Draft}
    (h : x.IsJoined (ctx.dialect.withClause (tableForms ctx s.ctes)) behind) (hs : q.Has (.select s))
    (tables : ∀ t ∈ tableForms ctx s.ctes, t.draft.MadeOf ctx.dialect (Lays ctx q))
    (selects : behind.Selects ctx.dialect (Lays ctx q))
    (text : ∀ mode depth, behind.refusal? mode depth = none →
      s.IsText ctx mode depth (behind.tokens mode depth)) :
    x.Lays ctx q := by
  intro mode depth success
  obtain ⟨hfront, hbehind, tokens⟩ := h mode depth success
  rw [tokens, tokens_withClause hfront]
  exact selects.laid hs (laid_tables tables hfront) hbehind (text mode depth hbehind)

section Nested

variable (hd : ctx.dialect.capabilities.withInSubquery = true)
include hd

/-- A nested query is its WITH clause and what is written behind it. -/
theorem QueryForm.tokens_nested {y : Query} {path : Option PathForm}
    (success : ((y.form ctx).draft ctx.dialect false path).refusal? mode (depth + 1) = none) :
    (ctx.dialect.withClause (tableForms ctx y.ctes)).refusal? mode (depth + 1) = none ∧
      ((y.form ctx).ownDraft ctx.dialect false path).refusal? mode (depth + 1) = none ∧
      ((y.form ctx).draft ctx.dialect false path).tokens mode (depth + 1) =
        withTokensAt ctx mode (depth + 1) y.ctes
          ++ ((y.form ctx).ownDraft ctx.dialect false path).tokens mode (depth + 1) := by
  obtain ⟨front, behind, tokens⟩ := (y.form ctx).isJoined_draft ctx.dialect false path mode (depth + 1) success
  have inner : ctx.dialect.innerWithClause (y.form ctx).tables =
      .whenNested (ctx.dialect.withClause (tableForms ctx y.ctes)) := by
    rw [Dialect.innerWithClause, hd, y.tables_form]
    rfl
  rw [inner] at front tokens
  exact ⟨front, behind, by rw [tokens, ← tokens_withClause front]; rfl⟩

/-- A nested query is laid if it is laid behind its WITH clause. -/
theorem lays_nested {y : Query} (form : (y.form ctx).MadeOf ctx.dialect (Lays ctx q)) (path : Option PathForm)
    (behind : ∀ mode depth, (∀ t ∈ y.ctes, Laid ctx q q.LosesTables (t.tokensAt ctx mode depth)) →
      ((y.form ctx).ownDraft ctx.dialect false path).refusal? mode depth = none →
      Laid ctx q q.LosesTables (withTokensAt ctx mode depth y.ctes
        ++ ((y.form ctx).ownDraft ctx.dialect false path).tokens mode depth)) :
    Lays ctx q (.nested ((y.form ctx).draft ctx.dialect false path)) := by
  intro mode depth success
  obtain ⟨tables, own, tokens⟩ := QueryForm.tokens_nested hd success
  have forms := form.tables
  rw [Query.tables_form] at forms
  have laid := behind mode (depth + 1) (laid_tables forms tables) own
  rw [← tokens] at laid
  exact laid

/-- A query is laid behind its WITH clause, if the queries inside it are laid. -/
theorem QueryForm.MadeOf.laid {f : QueryForm} (hf : f.MadeOf ctx.dialect (Lays ctx q)) {y : Query}
    (same : y.form ctx = f) (hy : q.Has y) (standalone : Bool) (path : Option PathForm)
    (hpath : ∀ p ∈ path, p.MadeOf ctx.dialect (Lays ctx q) ∧ q.IsPathBody y) (mode : RenderingMode)
    (depth : Nat) (tables : ∀ t ∈ y.ctes, Laid ctx q q.LosesTables (t.tokensAt ctx mode depth))
    (success : (f.ownDraft ctx.dialect standalone path).refusal? mode depth = none) :
    Laid ctx q q.LosesTables (withTokensAt ctx mode depth y.ctes
      ++ (f.ownDraft ctx.dialect standalone path).tokens mode depth) := by
  -- on the form, because the parts of a set operation are nested queries of their own
  induction hf generalizing y standalone path mode depth with
  | @select f hf =>
    cases y with
    | select s =>
      rw [Query.form_select] at same
      cases same
      cases path with
      | none => exact (hf.selects (by simp) standalone).laid hy tables success (.written success)
      | some p => cases success
    | set g =>
      rw [Query.form_set] at same
      cases same
  | @set f parts hf hparts ih =>
    cases y with
    | select s =>
      rw [Query.form_select] at same
      cases same
    | set g =>
      have form := same
      rw [Query.form_set] at same
      cases same
      have arms : ∀ part ∈ queryForms ctx g.parts, part.IsArm ctx.dialect (Lays ctx q) path := by
        rw [queryForms_eq_map] at hparts ih ⊢
        intro _ mem
        obtain ⟨part, hpart, rfl⟩ := List.mem_map.1 mem
        have has : q.Has part := hy.tail (Query.mem_parts.2 (.inr (.inl (List.mem_append_left _ hpart))))
        have inner := lays_nested hd (hparts _ mem) none (ih _ mem rfl has false none (by simp))
        exact Query.isArm_form hpath hpart has (hparts _ mem) inner
      rw [← form] at success ⊢
      refine .set hy tables success ?_
      rw [form] at success ⊢
      exact compositional_lays.ownDraft_set hf standalone path arms mode depth success

/-- An EXISTS over the rows of a SELECT is laid, with the tables of the SELECT in front of it. -/
theorem lays_existsComparison {s : SelectQuery} (hs : q.Has (.select s))
    (form : (s.form ctx).MadeOf ctx.dialect (Lays ctx q)) (hx : x.MadeOf ctx.dialect (Lays ctx q)) :
    Lays ctx q (ctx.dialect.existsComparison ((s.form ctx).frame ctx.dialect) x) := by
  have source : ((s.form ctx).frame ctx.dialect).fromClause.MadeOf ctx.dialect (Lays ctx q) :=
    SelectForm.madeOf_fromClause false
  have one : (token (.literal (.integer 1))).MadeOf ctx.dialect (Lays ctx q) :=
    .token (Literal.sound_integer 1)
  have selects : (((s.form ctx).frame ctx.dialect).selectOne x).Selects ctx.dialect (Lays ctx q) :=
    ((Selects.word.append one).append source).append (form.frame.restriction hx)
  have joined := (((isJoined_append (ctx.dialect.withClause (tableForms ctx s.ctes)) (wordSpace .select)).append
    (.token (.literal (.integer 1)))).append ((s.form ctx).frame ctx.dialect).fromClause).append
    (((s.form ctx).frame ctx.dialect).restriction x)
  have inner := joined.lays hs form.tables selects fun _ _ => .sought
  have words : (wordSpace .existsWord).Lays ctx q := MadeOf.lays (madeOf_wordSpace rfl)
  have whole := words.append (compositional_lays.parensIf true inner)
  intro mode depth success
  rw [Dialect.existsComparison, hd] at success ⊢
  exact whole mode (depth + 1) success

/-- Whatever is written for a query of the statement is laid. -/
theorem covers_lays : Covers ctx q.Has (Lays ctx q) where
  part hx hy := hx.tail hy
  inner hy form := lays_nested hd form none (form.laid hd rfl hy false none (by simp))
  body := by
    intro x t hx ht form path
    have hy : q.Has t.query := hx.tail (Query.mem_parts.2 (.inl (List.mem_map_of_mem ht)))
    refine lays_nested hd form _ (form.laid hd rfl hy false _ fun p hp => ⟨path p hp, x, hx, t, ht, ?_, rfl⟩)
    cases given : t.searchPath with
    | none =>
      rw [given] at hp
      cases hp
    | some _ => rfl
  frame hs form _ hx := lays_existsComparison hd hs form hx
  tests := Dialect.OperatorsHave.testsMadeOf fun _ _ _ _ _ => .token nofun nofun

end Nested

/-- Under a dialect with WITH in subqueries, the text of a statement starts with the WITH clause of its own
tables, and each query inside it stands behind the WITH clause of its own tables, all of them, wherever it is
written. The only ones that may be without are parts of a table with a search path, and if none of those
declares tables there is no exception. As a subquery, as the body of a table and as a part in parentheses, any
query is its WITH clause and its own text. -/
theorem Query.laid_of_translate (ctx : TranslationContext) (q : Query) (op : Operation)
    (hd : ctx.dialect.capabilities.withInSubquery = true)
    (h : (Statement.select q).translate ctx = .ok op) :
    let ts := withTokens ctx q.ctes ++ ((q.form ctx).ownDraft ctx.dialect true none).tokens .plain 0
    Token.textOfAll ctx.dialect ts = .ok op.sql ∧ Laid ctx q q.LosesTables ts ∧
      ((∀ s, ¬q.LosesTables s) → Laid ctx q (fun _ => False) ts) ∧
      ∀ (y : Query) path mode depth,
        ((y.form ctx).draft ctx.dialect false path).refusal? mode (depth + 1) = none →
        ((y.form ctx).draft ctx.dialect false path).tokens mode (depth + 1) =
          withTokensAt ctx mode (depth + 1) y.ctes
            ++ ((y.form ctx).ownDraft ctx.dialect false path).tokens mode (depth + 1) := by
  intro ts
  have start : q.Has q := .refl
  have form := q.madeOf_form (covers_lays hd) start
  obtain ⟨success, -, -⟩ := Statement.of_translate_eq_ok h
  obtain ⟨front, rest⟩ := refusal?_append_eq_none.1 success
  have leading : q.leadingTables ctx.dialect = q.ctes := by
    rw [leadingTables, hd]
    rfl
  obtain ⟨-, own, tokens⟩ := (q.form ctx).isJoined_draft ctx.dialect true none .plain 0 rest
  have nothing : (ctx.dialect.innerWithClause (q.form ctx).tables).tokens .plain 0 = [] := by
    rw [Dialect.innerWithClause, hd]
    rfl
  rw [nothing, List.nil_append] at tokens
  have text := text_of_translate h
  rw [leading] at front text
  rw [tokens] at text
  have forms := form.tables
  rw [tables_form] at forms
  have laid : Laid ctx q q.LosesTables ts :=
    form.laid hd rfl start true none (by simp) .plain 0 (laid_tables forms front) own
  refine ⟨text, laid, fun keeps => ?_, fun y path mode depth success => ?_⟩
  · have none : q.LosesTables = fun _ => False := funext fun s => eq_false (keeps s)
    rwa [none] at laid
  · obtain ⟨-, -, tokens⟩ := QueryForm.tokens_nested hd success
    exact tokens

/-- A part of a table with a search path that has a table of its own. -/
def SelectQuery.seed : SelectQuery :=
  { Query.column "id" "base" with ctes := [{ name := "base", query := .select (Query.column "id" "node") }] }

/-- A query from a table with a search path. -/
def Query.seedsFromTable : Query :=
  let id : Expression := .column none "id" none
  let parts : List Query := [.select .seed, .select (column "id" "tree")]
  let tree : CommonTable :=
    { name := "tree", query := .set { operator := .unionAll, parts }, recursive := true,
      searchPath := some { column := "path", seed := id, step := id } }
  .select { column "id" "tree" with ctes := [tree] }

/-- The first part of the table has a WITH clause, and the text does not have it. -/
theorem Query.laid_of_seedsFromTable :
    let ctx := TranslationContext.ofDialect .postgres
    let ts := withTokens ctx seedsFromTable.ctes
      ++ ((seedsFromTable.form ctx).ownDraft ctx.dialect true none).tokens .plain 0
    (∃ op, (Statement.select seedsFromTable).translate ctx = .ok op ∧
      Token.textOfAll ctx.dialect ts = .ok op.sql) ∧
      Laid ctx seedsFromTable seedsFromTable.LosesTables ts ∧ seedsFromTable.LosesTables .seed ∧
      ts.count (.keyword .withWord) = 1 := by
  intro ctx ts
  have translates : ((Statement.select seedsFromTable).translate ctx).isOk = true := by decide +kernel
  cases success : (Statement.select seedsFromTable).translate ctx with
  | error failure => simp [success, Except.isOk, Except.toBool] at translates
  | ok op =>
    obtain ⟨text, laid, -, -⟩ := laid_of_translate ctx seedsFromTable op rfl success
    have body : seedsFromTable.IsPathBody (.set
        { operator := .unionAll, parts := [.select .seed, .select (column "id" "tree")] }) :=
      ⟨seedsFromTable, .refl, _, List.mem_cons_self, rfl, rfl⟩
    exact ⟨⟨op, rfl, text⟩, laid, ⟨nofun, _, body, List.mem_cons_self⟩, by decide +kernel⟩

end SqlDialects
