import SqlDialects.Render.QueryForm
import SqlDialects.Proofs.Correspondence.Comparisons

/-!
# Corresponding queries

Forms correspond if they are of the same shape and their drafts and operands correspond, and then so do the
queries put together from them. Row limits, at which the standard and Postgres part, are a hypothesis of the
section (`limits`).
-/

namespace SqlDialects

variable {d d' : Dialect} {R : Draft → Draft → Prop}

/-- Common tables whose drafts correspond. -/
structure TableForm.Related (R : Draft → Draft → Prop) (t t' : TableForm) : Prop where
  recursive : t'.recursive = t.recursive
  draft : R t.draft t'.draft

/-- Search paths whose expressions correspond. -/
structure PathForm.Related (R : Draft → Draft → Prop) (p p' : PathForm) : Prop where
  table : p'.table = p.table
  column : p'.column = p.column
  seed : R p.seed p'.seed
  step : R p.step p'.step
  sizeEstimate : p'.sizeEstimate = p.sizeEstimate

/-- Places in the body of a recursive table with corresponding search paths. -/
inductive PathPart.Related (R : Draft → Draft → Prop) : PathPart → PathPart → Prop where
  | seed {p p' : PathForm} : p.Related R p' → Related R (.seed p) (.seed p')
  | step {p p' : PathForm} : p.Related R p' → Related R (.step p) (.step p')

/-- SELECTs whose clauses correspond. -/
structure SelectForm.Related (R : Draft → Draft → Prop) (f f' : SelectForm) : Prop where
  tables : List.Forall₂ (TableForm.Related R) f.tables f'.tables
  distinct : f'.distinct = f.distinct
  items : List.Forall₂ (fun i i' => i.1.Related R i'.1 ∧ i'.2 = i.2) f.items f'.items
  sources : f'.sources = f.sources
  filter : Option.Rel R f.filter f'.filter
  groupBy : List.Forall₂ (Operand.Related R) f.groupBy f'.groupBy
  having : Option.Rel R f.having f'.having
  orderBy : List.Forall₂ (SortKey.Related R) f.orderBy f'.orderBy
  limit : f.limit.Related R f'.limit

/-- Set operations whose clauses correspond. -/
structure SetForm.Related (R : Draft → Draft → Prop) (f f' : SetForm) : Prop where
  tables : List.Forall₂ (TableForm.Related R) f.tables f'.tables
  operator : f'.operator = f.operator
  orderBy : List.Forall₂ (SortKey.Related R) f.orderBy f'.orderBy
  limit : f.limit.Related R f'.limit

/-- Queries of the same shape whose clauses correspond. -/
inductive QueryForm.Related (R : Draft → Draft → Prop) : QueryForm → QueryForm → Prop where
  | select {f f' : SelectForm} : f.Related R f' → Related R (.select f) (.select f')
  | set {f f' : SetForm} {parts parts' : List QueryForm} :
    f.Related R f' → List.Forall₂ (Related R) parts parts' → Related R (.set f parts) (.set f' parts')

namespace Dialect

theorem Like.recursiveKeyword (h : d.Like d') :
    d'.capabilities.recursiveKeyword = d.capabilities.recursiveKeyword := by
  rw [h.capabilities]

theorem Like.concatOperator (h : d.Like d') :
    d'.capabilities.concatOperator = d.capabilities.concatOperator := by
  rw [h.capabilities]

theorem Like.pathsAreArrays (h : d.Like d') : d'.pathsAreArrays = d.pathsAreArrays := by
  rw [Dialect.pathsAreArrays, h.capabilities, Dialect.pathsAreArrays]

theorem Like.fromNothing (h : d.Like d') : d'.fromNothing = d.fromNothing := by
  rcases h with rfl | ⟨rfl, rfl⟩ <;> rfl

theorem Like.fromNothingAlone (h : d.Like d') : d'.fromNothingAlone = d.fromNothingAlone := by
  rcases h with rfl | ⟨rfl, rfl⟩ <;> rfl

end Dialect

namespace Draft.Congruence

variable (h : Congruence d d' R)
include h

theorem withClause {tables tables' : List TableForm} (ht : List.Forall₂ (TableForm.Related R) tables tables') :
    R (d.withClause tables) (d'.withClause tables') := by
  have recursive : tables'.any (·.recursive) = tables.any (·.recursive) := by
    rw [List.any_eq_not_all_not, List.any_eq_not_all_not]
    exact congrArg (! ·) (ht.all_eq fun _ _ t => congrArg (! ·) t.recursive)
  unfold Dialect.withClause
  rw [ht.isEmpty_eq, h.like.recursiveKeyword, recursive]
  exact rel_ite (h.refl _) (h.append_right (h.append_left (h.listed_map (fun _ _ t => t.draft) ht)))

theorem innerWithClause {tables tables' : List TableForm}
    (ht : List.Forall₂ (TableForm.Related R) tables tables') :
    R (d.innerWithClause tables) (d'.innerWithClause tables') := by
  unfold Dialect.innerWithClause
  rw [h.like.withInSubquery]
  exact rel_ite (h.whenNested (h.withClause ht)) (h.refl _)

theorem pathStep {p p' : PathForm} (hp : p.Related R p') : R (d.pathStep p) (d'.pathStep p') := by
  unfold Dialect.pathStep
  rw [h.like.pathsAreArrays, h.like.concatOperator, hp.table, hp.column]
  exact rel_ite (h.append_right (h.append_left hp.step))
    (rel_ite (h.append_left hp.step) (h.append_right (h.append_left hp.step)))

theorem pathColumn {part part' : PathPart} (hpart : part.Related R part') :
    R (d.pathColumn part) (d'.pathColumn part') := by
  cases hpart with
  | seed hp =>
    simp only [Dialect.pathColumn]
    rw [h.like.pathsAreArrays, hp.sizeEstimate, hp.column]
    refine h.append_right (h.append_left (rel_ite ?_ (h.pathSeed hp.seed _)))
    exact h.append_right (h.append_left hp.seed)
  | step hp =>
    simp only [Dialect.pathColumn]
    rw [hp.column]
    exact h.append_right (h.append_left (h.pathStep hp))

variable {f f' : SelectForm} (hf : f.Related R f')
include hf

/-- A FROM clause reads only the names of its tables. -/
theorem fromClause_eq (standalone : Bool) : f'.fromClause d' standalone = f.fromClause d standalone := by
  unfold SelectForm.fromClause
  rw [hf.sources, hf.filter.isNone_eq, hf.groupBy.isEmpty_eq, hf.having.isNone_eq, h.like.fromNothing,
    h.like.fromNothingAlone]

theorem frame : (f.frame d).Related R (f'.frame d') where
  withClause := h.withClause hf.tables
  fromClause := by
    simp only [SelectForm.frame, h.fromClause_eq hf]
    exact h.refl _
  filter := hf.filter
  groupBy := h.groupByClause? hf.groupBy
  having := hf.having
  limited := congrArg (! ·) hf.limit.isEmpty_eq

variable (limits : ∀ l l' : RowLimit, l.Related R l' → R (d.limitClause l) (d'.limitClause l'))
include limits

omit hf in
theorem limit {l l' : RowLimit} (hl : l.Related R l') :
    R (if l.isEmpty then .empty else d.limitClause l) (if l'.isEmpty then .empty else d'.limitClause l') := by
  rw [hl.isEmpty_eq]
  exact rel_ite (h.refl _) (limits _ _ hl)

theorem selectDraft {path path' : Option PathPart} (hpath : Option.Rel (PathPart.Related R) path path')
    (standalone : Bool) : R (f.draft d path standalone) (f'.draft d' path' standalone) := by
  have items : R (.listed (f.items.map d.aliasedItem)) (.listed (f'.items.map d'.aliasedItem)) :=
    h.listed_map (fun i i' hi => by
      rw [Dialect.aliasedItem, Dialect.aliasedItem, hi.2]
      exact h.append_right (h.selectItem hi.1)) hf.items
  have column := h.optional_map (fun _ _ hp => h.pathColumn hp) hpath
  have filter : R (.optional (f.filter.map fun p => .spacedWord .whereWord ++ p))
      (.optional (f'.filter.map fun p => .spacedWord .whereWord ++ p)) :=
    h.optional_map (fun _ _ hp => h.append_left hp) hf.filter
  have having : R (.optional (f.having.map fun p => .spacedWord .having ++ p))
      (.optional (f'.having.map fun p => .spacedWord .having ++ p)) :=
    h.optional_map (fun _ _ hp => h.append_left hp) hf.having
  have groupBy := h.optional (h.groupByClause? hf.groupBy)
  unfold SelectForm.draft
  rw [hf.items.isEmpty_eq, hf.distinct, h.fromClause_eq hf]
  refine rel_ite (h.refl _) (h.append (h.append (h.append (h.append (h.append (h.append_right ?_) filter)
    groupBy) having) (h.orderByClause hf.orderBy)) (h.limit limits hf.limit))
  exact h.append (h.append_left items) column

end Draft.Congruence

theorem SelectForm.Related.needsParens_eq {f f' : SelectForm} (hf : f.Related R f') :
    f'.needsParens = f.needsParens := by
  unfold SelectForm.needsParens
  rw [hf.orderBy.isEmpty_eq, hf.limit.isEmpty_eq]

namespace Draft.Congruence

mutual

/-- Corresponding queries have corresponding drafts. -/
theorem query (h : Congruence d d' R)
    (limits : ∀ l l' : RowLimit, l.Related R l' → R (d.limitClause l) (d'.limitClause l')) (standalone : Bool) :
    ∀ q q' : QueryForm, q.Related R q' → ∀ path path' : Option PathForm,
      Option.Rel (PathForm.Related R) path path' →
      R (q.draft d standalone path) (q'.draft d' standalone path')
  | .select _, .select _, .select hf => by
    intro path path' hpath
    rw [QueryForm.draft.eq_def, QueryForm.draft.eq_def d']
    refine h.append (h.innerWithClause hf.tables) ?_
    cases hpath with
    | none => exact h.selectDraft hf limits .none standalone
    | some hp =>
      dsimp only
      rw [hp.table]
      exact h.refl _
  | .set f parts, .set _ parts', .set hf hparts => by
    intro path path' hpath
    have body := h.setParts limits true f.operator parts parts' hparts path path' hpath
    rw [QueryForm.draft.eq_def, QueryForm.draft.eq_def d']
    dsimp only
    rw [hparts.isEmpty_eq, ← hparts.length_eq, hf.operator]
    refine h.append (h.append (h.append (h.innerWithClause hf.tables) (rel_ite (h.refl _) ?_))
      (h.orderByClause hf.orderBy)) (h.limit limits hf.limit)
    cases hpath with
    | none => exact body
    | some hp =>
      dsimp only
      rw [hp.table]
      exact rel_ite (h.refl _) body
termination_by structural q => q

/-- Corresponding parts of a set operation have corresponding drafts. -/
theorem setParts (h : Congruence d d' R)
    (limits : ∀ l l' : RowLimit, l.Related R l' → R (d.limitClause l) (d'.limitClause l')) (first : Bool)
    (operator : SetOperator) : ∀ parts parts' : List QueryForm,
      List.Forall₂ (QueryForm.Related R) parts parts' → ∀ path path' : Option PathForm,
      Option.Rel (PathForm.Related R) path path' →
      R (QueryForm.setParts d operator path first parts) (QueryForm.setParts d' operator path' first parts')
  | [], [], .nil => by
    intro path path' _
    rw [QueryForm.setParts, QueryForm.setParts]
    exact h.refl _
  | part :: parts, part' :: parts', .cons hpart hparts => by
    intro path path' hpath
    have alone := h.query limits false part part' hpart none none .none
    rw [QueryForm.setParts.eq_def, QueryForm.setParts.eq_def d' operator path' first]
    refine h.append (h.append_left ?_) (h.setParts limits false operator parts parts' hparts path path' hpath)
    cases hpath with
    | none =>
      cases hpart with
      | set _ _ => exact h.parens (h.nested alone)
      | select hf =>
        dsimp only
        rw [hf.tables.isEmpty_eq, hf.needsParens_eq]
        exact rel_ite (h.parensIf _ (h.selectDraft hf limits .none false)) (h.parens (h.nested alone))
    | some hp =>
      cases hpart with
      | set _ _ => exact h.refl _
      | select hf =>
        dsimp only
        rw [hf.needsParens_eq]
        refine h.parensIf _ (h.selectDraft hf limits (.some ?_) false)
        split
        · exact .seed hp
        · exact .step hp
termination_by structural parts => parts

end

/-- Corresponding queries are corresponding operands. -/
theorem queryOperand (h : Congruence d d' R)
    (limits : ∀ l l' : RowLimit, l.Related R l' → R (d.limitClause l) (d'.limitClause l'))
    (type : Option ResolvedType) {q q' : QueryForm} (hq : q.Related R q') :
    (q.operand d type).Related R (q'.operand d' type) := by
  have inner : R (.parens (q.inner d)) (.parens (q'.inner d')) :=
    h.parens (h.nested (h.query limits false q q' hq none none .none))
  cases hq with
  | select hf =>
    exact .subquery inner (.some (h.frame hf)) (List.rel_map (fun _ _ hi => hi.1) hf.items)
  | set _ _ => exact .subquery inner .none .nil

end Draft.Congruence

end SqlDialects
