import SqlDialects.Proofs.Nesting.Comparisons
import SqlDialects.Proofs.Query.Layout

/-!
# Well-formed queries

A query is well-formed if its clauses are. The words that begin it and join its parts stand outside of
parentheses, and so a query inside another one has parentheses around it. The tables of a WITH clause only matter
to a dialect that has the clause in subqueries.
-/

namespace SqlDialects

open Draft

variable {d : Dialect} {arrays : Bool}

/-- A common table: its name, its columns in parentheses if they are named, and its body. -/
def TableForm.Formed (d : Dialect) (arrays : Bool) (t : TableForm) : Prop :=
  ∃ (name : String) (columns : Option Draft) (body : Draft),
    t.draft = token (.name name) ++ Draft.optional (columns.map fun x => space ++ parens x) ++ spacedWord .asWord
      ++ parens body ∧
    (∀ x ∈ columns, x.Flat d arrays .query) ∧ body.Flat d arrays .query

/-- The clauses of a SELECT are well-formed. -/
structure SelectForm.Formed (d : Dialect) (arrays : Bool) (f : SelectForm) : Prop where
  tables : d.capabilities.withInSubquery = true → ∀ t ∈ f.tables, t.Formed d arrays
  items : ∀ i ∈ f.items, i.1.Formed d arrays
  filter : ∀ x ∈ f.filter, x.Flat d arrays .expression
  groupBy : ∀ o ∈ f.groupBy, o.Formed d arrays
  having : ∀ x ∈ f.having, x.Flat d arrays .expression
  orderBy : ∀ k ∈ f.orderBy, k.key.Flat d arrays .expression
  limit : f.limit.Formed d arrays

/-- The clauses of a set operation are well-formed. -/
structure SetForm.Formed (d : Dialect) (arrays : Bool) (f : SetForm) : Prop where
  tables : d.capabilities.withInSubquery = true → ∀ t ∈ f.tables, t.Formed d arrays
  orderBy : ∀ k ∈ f.orderBy, k.key.Flat d arrays .expression
  limit : f.limit.Formed d arrays

/-- The clauses of a query and of its parts are well-formed. -/
inductive QueryForm.Formed (d : Dialect) (arrays : Bool) : QueryForm → Prop where
  | select {f : SelectForm} : f.Formed d arrays → Formed d arrays (.select f)
  | set {f : SetForm} {parts : List QueryForm} : f.Formed d arrays → (∀ q ∈ parts, Formed d arrays q) →
    Formed d arrays (.set f parts)

/-- The expressions of a search path are well-formed. HSQL has no search paths in subqueries, and the cast around
its first one is not taken into account. -/
structure PathForm.Formed (d : Dialect) (arrays : Bool) (p : PathForm) : Prop where
  dialect : d ≠ .hsql
  seed : p.seed.Flat d arrays .expression
  step : p.step.Flat d arrays .expression

theorem TableForm.Formed.flat {t : TableForm} (h : t.Formed d arrays) : t.draft.Flat d arrays .query := by
  obtain ⟨name, columns, body, draft, names, inner⟩ := h
  rw [draft]
  exact (((flat_name name).append (flat_optional_map fun x hx => flat_space.append (names x hx).parens)).append
    (flat_spacedWord rfl)).append inner.parens

namespace Dialect

theorem flat_withClause {tables : List TableForm} (h : ∀ t ∈ tables, t.Formed d arrays) :
    (d.withClause tables).Flat d arrays .query := by
  have mark : (if d.capabilities.recursiveKeyword && tables.any (·.recursive) then wordSpace .recursive
      else empty).Flat d arrays .query := flat_ite (flat_wordSpace rfl) flat_empty
  have bodies : (listed (tables.map (·.draft))).Flat d arrays .query := flat_listed_map fun t ht => (h t ht).flat
  exact flat_ite flat_empty ((((flat_wordSpace rfl).append mark).append bodies).append flat_space)

theorem flat_innerWithClause {tables : List TableForm}
    (h : d.capabilities.withInSubquery = true → ∀ t ∈ tables, t.Formed d arrays) :
    (d.innerWithClause tables).Flat d arrays .query := by
  unfold innerWithClause
  split
  · next has => exact fun i => .whenNested (flat_withClause (h has) i)
  · exact flat_empty

theorem flat_tableReference (t : TableReference) : (tableReference t).Flat d arrays .expression :=
  (flat_name t.name).append (flat_optional_map fun name _ => flat_named name)

theorem flat_aliasedItem {i : Operand × Option String} (h : i.1.Formed d arrays) :
    (d.aliasedItem i).Flat d arrays .expression :=
  (flat_selectItem h).append (flat_optional_map fun name _ => flat_named name)

/-- The column of a search path is one more item. -/
theorem flat_pathColumn {part : PathPart} {p : PathForm} (h : p.Formed d arrays) (place : part = .seed p ∨ part = .step p) :
    (d.pathColumn part).Flat d arrays .expression := by
  obtain ⟨dialect, seed, step⟩ := h
  have array : ∀ {x : Draft}, d.pathsAreArrays = true → x.Flat d arrays .expression →
      (raw "array[" ++ x ++ raw "]").Flat d arrays .expression := fun _ hx =>
    ((flat_raw (by cases d <;> decide)).append hx).append (flat_raw (by cases d <;> decide))
  have previous : (token (.qualifiedName (some p.table) p.column)).Flat d arrays .expression :=
    flat_token rfl (fun _ => rfl) rfl
  have concat : (space ++ token .concat ++ space).Flat d arrays .expression :=
    (flat_space.append (flat_token rfl (fun _ => rfl) rfl)).append flat_space
  rcases place with rfl | rfl
  · refine (flat_comma.append ?_).append (flat_named p.column)
    split
    · next arrays => exact array arrays seed
    · have plain : d.pathSeed p.seed p.sizeEstimate = p.seed := by
        cases d <;> first | rfl | contradiction
      rw [plain]
      exact seed
  · refine (flat_comma.append ?_).append (flat_named p.column)
    unfold pathStep
    dsimp only
    split
    · exact ((((previous.append concat).append (flat_raw (by cases d <;> decide))).append step).append
        (flat_raw (by cases d <;> decide)))
    · split
      · exact (((previous.append concat).append (flat_literal _)).append concat).append step
      · intro i
        have opens : d.Leads 0 1 "concat(" := by cases d <;> decide
        have between : (token (.literal (.string ","))).Flat d arrays .expression := flat_literal _
        have closing : (token .rightParen).Formed d arrays .expression (i + 1) i :=
          .token rfl rfl fun start => by omega
        have arguments := (((previous.append flat_comma).append between).append flat_comma).append step
        exact ((((((opening_raw opens i).append (previous.within i)).append (flat_comma (i + 1))).append
          (between.within i)).append (flat_comma (i + 1))).append (step.within i)).append closing

theorem flat_arrangement {keys : List SortKey} {l : RowLimit}
    (hkeys : ∀ k ∈ keys, k.key.Flat d arrays .expression) (hl : l.Formed d arrays) :
    (d.arrangement keys l).Flat d arrays .clauses :=
  (flat_orderByClause hkeys).append (flat_ite flat_empty (flat_limitClause hl))

theorem flat_setWords (operator : SetOperator) : (setWords operator).Flat d arrays .query := by
  cases operator <;> first
    | exact flat_word rfl
    | exact (flat_word rfl).append (flat_spaceWord rfl)

end Dialect

namespace SelectForm

variable {f : SelectForm}

theorem flat_fromClause (standalone : Bool) : (f.fromClause d standalone).Flat d arrays .expression := by
  unfold fromClause
  split
  · refine flat_raw ?_
    split
    · cases d <;> decide
    · cases d <;> decide
  · exact (flat_spacedWord rfl).append (flat_listed_map fun t _ => Dialect.flat_tableReference t)

namespace Formed

theorem flat_items (h : f.Formed d arrays) : (listed (f.items.map d.aliasedItem)).Flat d arrays .expression :=
  flat_listed_map fun i hi => Dialect.flat_aliasedItem (h.items i hi)

theorem flat_filter (h : f.Formed d arrays) :
    (Draft.optional (f.filter.map fun p => spacedWord .whereWord ++ p)).Flat d arrays .expression :=
  flat_optional_map fun p hp => (flat_spacedWord rfl).append (h.filter p hp)

theorem flat_groupBy (h : f.Formed d arrays) :
    (Draft.optional (d.groupByClause? f.groupBy)).Flat d arrays .expression :=
  flat_optional (Dialect.flat_of_mem_groupByClause? h.groupBy)

theorem flat_having (h : f.Formed d arrays) :
    (Draft.optional (f.having.map fun p => spacedWord .having ++ p)).Flat d arrays .expression :=
  flat_optional_map fun p hp => (flat_spacedWord rfl).append (h.having p hp)

theorem flat_selectList (h : f.Formed d arrays) : (f.selectList d).Flat d arrays .expression :=
  (flat_ite (flat_wordSpace rfl) flat_empty).append h.flat_items

theorem flat_restrictions (h : f.Formed d arrays) (standalone : Bool) :
    (f.restrictions d standalone).Flat d arrays .expression :=
  (((flat_fromClause standalone).append h.flat_filter).append h.flat_groupBy).append h.flat_having

theorem flat_arrangement (h : f.Formed d arrays) : (f.arrangement d).Flat d arrays .clauses :=
  Dialect.flat_arrangement h.orderBy h.limit

theorem flat_draft (h : f.Formed d arrays) (path : Option PathPart)
    (hpath : ∀ part ∈ path, (d.pathColumn part).Flat d arrays .expression) (standalone : Bool) :
    (f.draft d path standalone).Flat d arrays .query := by
  have select : (wordSpace .select ++ if f.distinct then wordSpace .distinct else empty).Flat d arrays .query :=
    (flat_wordSpace rfl).append (flat_ite (flat_wordSpace rfl) flat_empty)
  have column : (Draft.optional (path.map d.pathColumn)).Flat d arrays .query :=
    (flat_optional_map hpath).inQuery
  have source : (f.fromClause d standalone).Flat d arrays .query := (flat_fromClause standalone).inQuery
  have limit : (if f.limit.isEmpty then empty else d.limitClause f.limit).Flat d arrays .query :=
    (flat_ite flat_empty (Dialect.flat_limitClause h.limit)).inQuery
  have list := (select.append h.flat_items.inQuery).append column
  have clauses := (((list.append source).append h.flat_filter.inQuery).append h.flat_groupBy.inQuery).append
    h.flat_having.inQuery
  exact flat_ite (flat_malformed _) ((clauses.append (Dialect.flat_orderByClause h.orderBy).inQuery).append limit)

theorem frame (h : f.Formed d arrays) : (f.frame d).Formed d arrays where
  withClause has := Dialect.flat_withClause (h.tables has)
  fromClause := flat_fromClause false
  filter := h.filter
  groupBy := Dialect.flat_of_mem_groupByClause? h.groupBy
  having := h.having

end Formed

end SelectForm

namespace QueryForm

variable {q : QueryForm} {parts : List QueryForm} {path : Option PathForm}

theorem flat_partDraft (hq : q.Formed d arrays) (inner : (q.draft d false none).Flat d arrays .query)
    (hpath : ∀ p ∈ path, p.Formed d arrays) (first : Bool) :
    (q.partDraft d path first).Flat d arrays .query := by
  have nested : (parens (Draft.nested (q.draft d false none))).Flat d arrays .query :=
    Flat.parens fun i => .nested (inner i)
  cases hq with
  | @select f hf =>
    cases path with
    | none => exact flat_ite ((hf.flat_draft none nofun false).parensIf _) nested
    | some p =>
      refine (hf.flat_draft _ (fun part hpart => ?_) false).parensIf _
      refine Dialect.flat_pathColumn (hpath p rfl) ?_
      cases hpart
      cases first with
      | true => exact .inl rfl
      | false => exact .inr rfl
  | set _ _ =>
    cases path with
    | none => exact nested
    | some p => exact flat_malformed _

theorem flat_setParts (operator : SetOperator) (first : Bool)
    (h : ∀ q ∈ parts, ∀ first, (q.partDraft d path first).Flat d arrays .query) :
    (setParts d operator path first parts).Flat d arrays .query := by
  induction parts generalizing first with
  | nil =>
    rw [setParts]
    exact flat_empty
  | cons part parts ih =>
    obtain ⟨hpart, hparts⟩ := List.forall_mem_cons.1 h
    have words : (if first then empty else space ++ Dialect.setWords operator ++ space).Flat d arrays .query :=
      flat_ite flat_empty ((flat_space.append (Dialect.flat_setWords operator)).append flat_space)
    rw [setParts_cons]
    exact (words.append (hpart first)).append (ih false hparts)

/-- The draft of a query is well-formed if its clauses are. -/
theorem Formed.flat_draft (h : q.Formed d arrays) (standalone : Bool) (path : Option PathForm)
    (hpath : ∀ p ∈ path, p.Formed d arrays) : (q.draft d standalone path).Flat d arrays .query := by
  induction h generalizing standalone path with
  | @select f hf =>
    rw [draft.eq_def]
    refine (Dialect.flat_innerWithClause hf.tables).append ?_
    cases path with
    | none => exact hf.flat_draft none nofun standalone
    | some p => exact flat_malformed _
  | @set f parts hf hparts ih =>
    have each : ∀ q ∈ parts, ∀ first, (q.partDraft d path first).Flat d arrays .query := fun q hq first =>
      flat_partDraft (hparts q hq) (ih q hq false none nofun) hpath first
    have body : (setBody d f.operator path parts).Flat d arrays .query := by
      have written := flat_setParts f.operator true each
      refine flat_ite (flat_malformed _) ?_
      cases path with
      | none => exact written
      | some p => exact flat_ite (flat_malformed _) written
    have limit : (if f.limit.isEmpty then empty else d.limitClause f.limit).Flat d arrays .clauses :=
      flat_ite flat_empty (Dialect.flat_limitClause hf.limit)
    rw [draft.eq_def]
    exact (((Dialect.flat_innerWithClause hf.tables).append body).append
      (Dialect.flat_orderByClause hf.orderBy).inQuery).append limit.inQuery

/-- A query is an operand between parentheses. -/
theorem Formed.operand (h : q.Formed d arrays) (type : Option ResolvedType) :
    (q.operand d type).Formed d arrays := by
  have draft : (parens (q.inner d)).Flat d arrays .expression :=
    Flat.parens fun i => .nested (h.flat_draft false none nofun i)
  cases h with
  | @select f hf =>
    refine .subquery draft (fun _ same => ?_) fun o ho => ?_
    · cases same
      exact hf.frame
    · obtain ⟨i, hi, rfl⟩ := List.mem_map.1 ho
      exact hf.items i hi
  | set _ _ => exact .subquery draft nofun nofun

end QueryForm

end SqlDialects
