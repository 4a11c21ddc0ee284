import SqlDialects.Proofs.Draft.Comparisons

/-!
# Queries made of their clauses

A form is put together from ordinary tokens and queries if its expressions, conditions, tables and parts are.
What follows for its draft depends on the property of the queries: a SELECT is the word SELECT and clauses
(`Draft.Selects`), a set operation is ordinary but for its parts, and both stand behind a WITH clause. If the
words SELECT and WITH have the property as well, the latter as far as the dialect allows it in subqueries,
then every query has it whose parts do (`Draft.Hereditary`).
-/

namespace SqlDialects

open Lexical Draft

variable {d : Dialect} {S P : Draft → Prop}

/-- The expressions of a search path are put together from queries with the property. -/
structure PathForm.MadeOf (d : Dialect) (S : Draft → Prop) (p : PathForm) : Prop where
  seed : p.seed.MadeOf d S
  step : p.step.MadeOf d S

/-- Everything in a SELECT is put together from queries with the property. -/
structure SelectForm.MadeOf (d : Dialect) (S : Draft → Prop) (f : SelectForm) : Prop where
  tables : ∀ t ∈ f.tables, t.draft.MadeOf d S
  items : ∀ i ∈ f.items, i.1.MadeOf d S
  filter : ∀ x ∈ f.filter, x.MadeOf d S
  groupBy : ∀ o ∈ f.groupBy, o.MadeOf d S
  having : ∀ x ∈ f.having, x.MadeOf d S
  orderBy : ∀ k ∈ f.orderBy, k.key.MadeOf d S
  limit : f.limit.MadeOf d S

/-- Everything in a set operation but its parts is put together from queries with the property. -/
structure SetForm.MadeOf (d : Dialect) (S : Draft → Prop) (f : SetForm) : Prop where
  tables : ∀ t ∈ f.tables, t.draft.MadeOf d S
  orderBy : ∀ k ∈ f.orderBy, k.key.MadeOf d S
  limit : f.limit.MadeOf d S

/-- Everything in a query is put together from queries with the property. -/
inductive QueryForm.MadeOf (d : Dialect) (S : Draft → Prop) : QueryForm → Prop where
  | select {f : SelectForm} : f.MadeOf d S → MadeOf d S (.select f)
  | set {f : SetForm} {parts : List QueryForm} :
    f.MadeOf d S → (∀ q ∈ parts, MadeOf d S q) → MadeOf d S (.set f parts)

/-- The path at the place of a part. -/
def PathPart.path : PathPart → PathForm
  | seed p => p
  | step p => p

namespace Dialect

theorem madeOf_setWords (operator : SetOperator) : (setWords operator).MadeOf d S := by
  have word : ∀ w : Keyword, w.isCommon = true → (Draft.word w).MadeOf d S := fun _ => madeOf_word
  have all : (spaceWord .all).MadeOf d S := madeOf_spaceWord rfl
  cases operator with
  | union => exact word .union rfl
  | unionAll => exact (word .union rfl).append all
  | intersect => exact word .intersect rfl
  | intersectAll => exact (word .intersect rfl).append all
  | except => exact word .except rfl
  | exceptAll => exact (word .except rfl).append all

/-- A dialect in which search paths are arrays has brackets for them. -/
theorem bracket (arrays : d.pathsAreArrays = true) : d.Fragment "array[" ∧ d.Fragment "]" := by
  cases d with
  | ansi | postgres => exact ⟨.own (by decide), .own (by decide)⟩
  | hsql | mysql => exact absurd arrays (by decide)

theorem madeOf_pathStep {p : PathForm} (h : p.step.MadeOf d S) : (d.pathStep p).MadeOf d S := by
  have previous : (token (.qualifiedName (some p.table) p.column)).MadeOf d S := .token trivial
  have mark : (token (.literal (.string ","))).MadeOf d S := .token (Literal.sound_string _)
  have concat : d.capabilities.concatOperator = true → (space ++ token .concat ++ space).MadeOf d S := fun has =>
    (madeOf_space.append (.token (t := .concat) has)).append madeOf_space
  unfold pathStep
  simp only
  split
  · next arrays =>
    have has : d.capabilities.concatOperator = true := by
      cases d <;> first | rfl | exact absurd arrays (by decide)
    exact (((previous.append (concat has)).append (madeOf_raw (bracket arrays).1)).append h).append
      (madeOf_raw (bracket arrays).2)
  · split
    · next has => exact (((previous.append (concat has)).append mark).append (concat has)).append h
    · next no =>
      have function : (raw "concat(").MadeOf d S :=
        madeOf_fixed (by cases d <;> first | decide | exact absurd rfl no)
      exact (((((function.append previous).append madeOf_comma).append mark).append madeOf_comma).append h).append
        (.token trivial)

theorem madeOf_pathColumn {part : PathPart} (h : part.path.MadeOf d S) :
    (d.pathColumn part).MadeOf d S := by
  cases part with
  | seed p =>
    have start : (if d.pathsAreArrays then raw "array[" ++ p.seed ++ raw "]"
        else d.pathSeed p.seed p.sizeEstimate).MadeOf d S := by
      split
      · next arrays => exact ((madeOf_raw (bracket arrays).1).append h.seed).append (madeOf_raw (bracket arrays).2)
      · exact madeOf_pathSeed h.seed _
    exact (madeOf_comma.append start).append (madeOf_named _)
  | step p => exact (madeOf_comma.append (madeOf_pathStep h.step)).append (madeOf_named _)

theorem madeOf_tableReference (t : TableReference) : (tableReference t).MadeOf d S :=
  .append (.token trivial) (madeOf_optional_map fun name _ => madeOf_named name)

theorem madeOf_aliasedItem {item : Operand × Option String} (h : item.1.MadeOf d S) :
    (d.aliasedItem item).MadeOf d S :=
  .append (madeOf_selectItem h) (madeOf_optional_map fun name _ => madeOf_named name)

end Dialect

/-! ## SELECT -/

/-- The word SELECT and clauses behind it. -/
inductive Draft.Selects (d : Dialect) (S : Draft → Prop) : Draft → Prop where
  | word : Selects d S (wordSpace .select)
  | append {x y : Draft} : Selects d S x → y.MadeOf d S → Selects d S (x ++ y)
  | refuse {cause : TranslationError} : Selects d S (.refuse cause)

namespace SelectForm

variable {f : SelectForm}

theorem madeOf_fromClause (standalone : Bool) : (f.fromClause d standalone).MadeOf d S := by
  have text : ∀ s, s ∈ "" :: d.ownTexts → (raw s).MadeOf d S := by
    intro s hs
    rcases List.mem_cons.1 hs with rfl | hs
    · exact .empty
    · exact madeOf_raw (.own hs)
  have nothing : d.fromNothing ∈ "" :: d.ownTexts ∧ d.fromNothingAlone ∈ "" :: d.ownTexts := by
    cases d <;> decide
  unfold fromClause
  split
  · refine text _ ?_
    split
    · exact nothing.2
    · exact nothing.1
  · exact (madeOf_spacedWord rfl).append (madeOf_listed_map fun t _ => Dialect.madeOf_tableReference t)

theorem MadeOf.selects (h : f.MadeOf d S) {path : Option PathPart} (hpath : ∀ p ∈ path, p.path.MadeOf d S)
    (standalone : Bool) : (f.draft d path standalone).Selects d S := by
  have items : (listed (f.items.map d.aliasedItem)).MadeOf d S :=
    madeOf_listed_map fun i hi => Dialect.madeOf_aliasedItem (h.items i hi)
  have column : (Draft.optional (path.map d.pathColumn)).MadeOf d S :=
    madeOf_optional_map fun p hp => Dialect.madeOf_pathColumn (hpath p hp)
  have filter : (Draft.optional (f.filter.map fun p => spacedWord .whereWord ++ p)).MadeOf d S :=
    madeOf_optional_map fun p hp => (madeOf_spacedWord rfl).append (h.filter p hp)
  have having : (Draft.optional (f.having.map fun p => spacedWord .having ++ p)).MadeOf d S :=
    madeOf_optional_map fun p hp => (madeOf_spacedWord rfl).append (h.having p hp)
  have groupBy : (Draft.optional (d.groupByClause? f.groupBy)).MadeOf d S :=
    madeOf_optional fun _ hx => Dialect.madeOf_of_mem_groupByClause? h.groupBy hx
  have limit : (if f.limit.isEmpty then empty else d.limitClause f.limit).MadeOf d S :=
    madeOf_ite .empty (Dialect.madeOf_limitClause h.limit)
  have distinct : (if f.distinct then wordSpace .distinct else empty).MadeOf d S :=
    madeOf_ite (madeOf_wordSpace rfl) .empty
  unfold SelectForm.draft
  split
  · exact .refuse
  · exact ((((((((Selects.word.append distinct).append items).append column).append
      (madeOf_fromClause standalone)).append filter).append groupBy).append having).append
      (Dialect.madeOf_orderByClause h.orderBy)).append limit

end SelectForm

/-! ## EXISTS -/

namespace SubqueryFrame

variable {f : SubqueryFrame} {x y : Draft}

/-- What follows the FROM clause of an EXISTS. -/
def restriction (f : SubqueryFrame) (comparison : Draft) : Draft :=
  match f.groupBy with
  | none => Dialect.existsRestriction .whereWord f.filter comparison
  | some groupBy =>
    .optional (f.filter.map fun p => .spacedWord .whereWord ++ p)
      ++ groupBy ++ Dialect.existsRestriction .having f.having comparison

/-- The clauses of a subquery that an EXISTS keeps are put together from queries with the property. -/
structure MadeOf (d : Dialect) (S : Draft → Prop) (f : SubqueryFrame) : Prop where
  fromClause : f.fromClause.MadeOf d S
  filter : ∀ x ∈ f.filter, x.MadeOf d S
  groupBy : ∀ x ∈ f.groupBy, x.MadeOf d S
  having : ∀ x ∈ f.having, x.MadeOf d S

theorem madeOf_existsRestriction {word : Keyword} (hw : word.isCommon = true)
    {existing : Option Draft} (h : ∀ y ∈ existing, y.MadeOf d S) (hx : x.MadeOf d S) :
    (Dialect.existsRestriction word existing x).MadeOf d S := by
  refine ((madeOf_spacedWord hw).append (madeOf_optional_map fun p hp => ?_)).append hx
  exact (madeOf_parens (h p hp)).append (madeOf_spacedWord rfl)

theorem MadeOf.restriction (hf : f.MadeOf d S) (hx : x.MadeOf d S) : (f.restriction x).MadeOf d S := by
  unfold SubqueryFrame.restriction
  split
  · exact madeOf_existsRestriction rfl hf.filter hx
  · next groupBy h =>
    have filter : (Draft.optional (f.filter.map fun p => spacedWord .whereWord ++ p)).MadeOf d S :=
      madeOf_optional_map fun p hp => (madeOf_spacedWord rfl).append (hf.filter p hp)
    exact (filter.append (hf.groupBy groupBy h)).append (madeOf_existsRestriction rfl hf.having hx)

end SubqueryFrame

theorem SelectForm.MadeOf.frame {f : SelectForm} (h : f.MadeOf d S) : (f.frame d).MadeOf d S where
  fromClause := SelectForm.madeOf_fromClause false
  filter := h.filter
  groupBy _ hx := Dialect.madeOf_of_mem_groupByClause? h.groupBy hx
  having := h.having

/-! ## Queries -/

/-- The draft of a query without its WITH clause. -/
def QueryForm.ownDraft (d : Dialect) (standalone : Bool) (path : Option PathForm) : QueryForm → Draft
  | select f => match path with
    | none => f.draft d none standalone
    | some p => .malformed (.pathWithoutSetOperation p.table)
  | set f parts =>
    (if parts.isEmpty then .malformed .emptySetOperation
      else match path with
        | some p =>
          if parts.length < 2 then .malformed (.pathWithoutStep p.table)
          else setParts d f.operator path true parts
        | none => setParts d f.operator path true parts)
      ++ d.orderByClause f.orderBy
      ++ (if f.limit.isEmpty then .empty else d.limitClause f.limit)

/-- The tables of the query's own WITH clause. -/
def QueryForm.tables : QueryForm → List TableForm
  | select f => f.tables
  | set f _ => f.tables

/-- A property that drafts have if their parts do. -/
structure Draft.Compositional (d : Dialect) (P : Draft → Prop) : Prop where
  madeOf {x : Draft} : x.MadeOf d P → P x
  append {x y : Draft} : P x → P y → P (x ++ y)

namespace Draft.Compositional

variable {x : Draft} (hP : Compositional d P)
include hP

theorem parensIf (wanted : Bool) (hx : P x) : P (Draft.parensIf wanted x) := by
  cases wanted with
  | false => exact hx
  | true => exact hP.append (hP.append (hP.madeOf (.token trivial)) hx) (hP.madeOf (.token trivial))

end Draft.Compositional

/-- What a part of a set operation writes has the property. -/
structure QueryForm.IsArm (d : Dialect) (P : Draft → Prop) (path : Option PathForm) (q : QueryForm) :
    Prop where
  inner : P (q.inner d)
  plain (f : SelectForm) : q = .select f → f.tables.isEmpty = true → P (f.draft d none false)
  onPath (f : SelectForm) (part : PathPart) : q = .select f → some part.path = path →
    P (f.draft d (some part) false)

/-- The parts of a set operation are joined by ordinary words. -/
theorem Draft.Compositional.setParts (hP : Compositional d P) (operator : SetOperator)
    (path : Option PathForm) (first : Bool) (parts : List QueryForm) (h : ∀ q ∈ parts, q.IsArm d P path) :
    P (QueryForm.setParts d operator path first parts) := by
  induction parts generalizing first with
  | nil =>
    rw [QueryForm.setParts]
    exact hP.madeOf .empty
  | cons part parts ih =>
    obtain ⟨hpart, hparts⟩ := List.forall_mem_cons.1 h
    have words : (if first then empty else space ++ Dialect.setWords operator ++ space).MadeOf d P :=
      madeOf_ite .empty
        ((madeOf_space.append (Dialect.madeOf_setWords operator)).append madeOf_space)
    rw [QueryForm.setParts.eq_def]
    refine hP.append (hP.append (hP.madeOf words) ?_) (ih false hparts)
    cases part with
    | select f =>
      cases path with
      | none =>
        simp only
        split
        · next bare => exact hP.parensIf _ (hpart.plain f rfl bare)
        · exact hP.parensIf true hpart.inner
      | some p =>
        refine hP.parensIf _ (hpart.onPath f _ rfl ?_)
        cases first <;> rfl
    | set f fs =>
      cases path with
      | none => exact hP.parensIf true hpart.inner
      | some p => exact hP.madeOf (madeOf_malformed _)

/-- The parts of a set operation, or the refusal of what is none. -/
def QueryForm.setBody (d : Dialect) (operator : SetOperator) (path : Option PathForm) (parts : List QueryForm) :
    Draft :=
  if parts.isEmpty then .malformed .emptySetOperation
  else match path with
    | some p =>
      if parts.length < 2 then .malformed (.pathWithoutStep p.table)
      else setParts d operator path true parts
    | none => setParts d operator path true parts

theorem Draft.Compositional.setBody (hP : Compositional d P) (operator : SetOperator) (path : Option PathForm)
    {parts : List QueryForm} (h : ∀ q ∈ parts, q.IsArm d P path) :
    P (QueryForm.setBody d operator path parts) := by
  have arms := hP.setParts operator path true parts h
  unfold QueryForm.setBody
  split
  · exact hP.madeOf (madeOf_malformed _)
  · cases path with
    | none => exact arms
    | some p =>
      simp only
      split
      · exact hP.madeOf (madeOf_malformed _)
      · exact arms

/-- What follows the WITH clause of a set operation has the property if the parts do. -/
theorem Draft.Compositional.ownDraft_set (hP : Compositional d P) {f : SetForm} (hf : f.MadeOf d P)
    (standalone : Bool) (path : Option PathForm) {parts : List QueryForm}
    (h : ∀ q ∈ parts, q.IsArm d P path) :
    P (QueryForm.ownDraft d standalone path (.set f parts)) := by
  have orderBy := hP.madeOf (Dialect.madeOf_orderByClause hf.orderBy)
  have limit : P (if f.limit.isEmpty then empty else d.limitClause f.limit) :=
    hP.madeOf (madeOf_ite .empty (Dialect.madeOf_limitClause hf.limit))
  rw [QueryForm.ownDraft.eq_def]
  exact hP.append (hP.append (hP.setBody f.operator path h) orderBy) limit

namespace QueryForm

variable {q : QueryForm}

theorem MadeOf.tables (h : q.MadeOf d S) : ∀ t ∈ q.tables, t.draft.MadeOf d S := by
  cases h with
  | select hf => exact hf.tables
  | set hf _ => exact hf.tables

/-- A query is an operand as it is, or is looked into by an EXISTS. -/
theorem MadeOf.operand (h : q.MadeOf d S) (inner : S (q.inner d))
    (frame : ∀ f, q = .select f → (f.frame d).Hosts d S) (type : Option ResolvedType) :
    (q.operand d type).MadeOf d S := by
  have draft : (parens (q.inner d)).MadeOf d S := madeOf_parens (.part inner)
  cases h with
  | @select f hf =>
    refine .subquery draft (fun _ same => ?_) fun o ho => ?_
    · cases same
      exact frame f rfl
    · obtain ⟨i, hi, rfl⟩ := List.mem_map.1 ho
      exact hf.items i hi
  | set _ _ => exact .subquery draft (by simp) (by simp)

end QueryForm

/-! ## Properties of every draft -/

/-- A property that drafts have if everything they are put together from does: queries that stand inside, and
the words that begin a query. -/
structure Draft.Hereditary (d : Dialect) (P : Draft → Prop) : Prop extends Draft.Compositional d P where
  nested {x : Draft} : P x → P (nested x)
  whenNested {x : Draft} : P x → P (whenNested x)
  select : P (word .select)
  withWord : d.capabilities.withInSubquery = true → P (word .withWord)

namespace Draft.Hereditary

variable {x : Draft} {tables : List TableForm} (hP : Hereditary d P)
include hP

theorem selects (h : x.Selects d P) : P x := by
  induction h with
  | word => exact hP.append hP.select (hP.madeOf madeOf_space)
  | append _ hy ih => exact hP.append ih (hP.madeOf hy)
  | refuse => exact hP.madeOf (.refuse _)

theorem withClause (hw : P (word .withWord)) (h : ∀ t ∈ tables, t.draft.MadeOf d P) :
    P (d.withClause tables) := by
  have bodies : (listed (tables.map (·.draft))).MadeOf d P := madeOf_listed_map h
  have mark : (if d.capabilities.recursiveKeyword && tables.any (·.recursive) then wordSpace .recursive
      else empty).MadeOf d P := madeOf_ite (madeOf_wordSpace rfl) .empty
  have front : P (wordSpace .withWord) := hP.append hw (hP.madeOf madeOf_space)
  unfold Dialect.withClause
  split
  · exact hP.madeOf .empty
  · exact hP.append (hP.append (hP.append front (hP.madeOf mark)) (hP.madeOf bodies)) (hP.madeOf madeOf_space)

theorem innerWithClause (h : ∀ t ∈ tables, t.draft.MadeOf d P) : P (d.innerWithClause tables) := by
  unfold Dialect.innerWithClause
  split
  · next hd => exact hP.whenNested (hP.withClause (hP.withWord hd) h)
  · exact hP.madeOf .empty

/-- An EXISTS over the rows of a SELECT whose parts have the property. -/
theorem existsComparison {f : SelectForm} (h : f.MadeOf d P) (hx : x.MadeOf d P) :
    P (d.existsComparison (f.frame d) x) := by
  have tables : P (if d.capabilities.withInSubquery then d.withClause f.tables else empty) := by
    split
    · next hd => exact hP.withClause (hP.withWord hd) h.tables
    · exact hP.madeOf .empty
  have select : P (wordSpace .select) := hP.append hP.select (hP.madeOf madeOf_space)
  have one := hP.madeOf (.token (Literal.sound_integer 1) : (token (.literal (.integer 1))).MadeOf d P)
  have source := hP.madeOf (SelectForm.madeOf_fromClause (d := d) (f := f) false)
  have restriction := hP.madeOf (h.frame.restriction hx)
  have rows := hP.append (hP.append (hP.append (hP.append tables select) one) source) restriction
  have word : P (wordSpace .existsWord) := hP.madeOf (madeOf_wordSpace rfl)
  exact hP.nested (hP.append word (hP.parensIf true rows))

/-- The draft of a query has the property if everything in the query does. -/
theorem queryDraft (standalone : Bool) (path : Option PathForm) (hpath : ∀ p ∈ path, p.MadeOf d P)
    {q : QueryForm} (h : q.MadeOf d P) : P (q.draft d standalone path) := by
  induction h generalizing standalone path with
  | @select f hf =>
    have own : P (f.draft d none standalone) := hP.selects (hf.selects (by simp) standalone)
    rw [QueryForm.draft.eq_def]
    refine hP.append (hP.innerWithClause hf.tables) ?_
    cases path with
    | none => exact own
    | some p => exact hP.madeOf (madeOf_malformed _)
  | @set f parts hf hparts ih =>
    have arms : ∀ q ∈ parts, q.IsArm d P path := by
      intro q hq
      refine ⟨hP.nested (ih q hq false none (by simp)), ?_, ?_⟩
      · rintro f rfl -
        cases hparts _ hq with
        | select hf => exact hP.selects (hf.selects (by simp) false)
      · rintro f part rfl place
        cases hparts _ hq with
        | select hf =>
          refine hP.selects (hf.selects ?_ false)
          rintro _ ⟨⟩
          exact hpath _ place.symm
    have orderBy := hP.madeOf (Dialect.madeOf_orderByClause hf.orderBy)
    have limit : P (if f.limit.isEmpty then empty else d.limitClause f.limit) :=
      hP.madeOf (madeOf_ite .empty (Dialect.madeOf_limitClause hf.limit))
    rw [QueryForm.draft.eq_def]
    exact hP.append (hP.append (hP.append (hP.innerWithClause hf.tables)
      (hP.setBody f.operator path arms)) orderBy) limit

theorem inner {q : QueryForm} (h : q.MadeOf d P) : P (q.inner d) :=
  hP.nested (hP.queryDraft false none (by simp) h)

end Draft.Hereditary

/-- A property of ordinary tokens and of the words that begin a query is one of all tokens in a draft. -/
theorem Draft.hereditary_every {Q : Token → Prop} (ordinary : ∀ t : Token, t.Ordinary d → Q t)
    (select : Q (.keyword .select)) (withWord : d.capabilities.withInSubquery = true → Q (.keyword .withWord)) :
    Hereditary d (Draft.Every Q) where
  madeOf := MadeOf.every ordinary
  append := And.intro
  nested h := h
  whenNested h := h
  select := select
  withWord := withWord

theorem Draft.hereditary_fits : Hereditary d (Draft.Fits d) :=
  hereditary_every (fun _ ordinary => ordinary.fits) nofun fun hd _ => hd

theorem Draft.hereditary_steady : Hereditary d Steady where
  madeOf := MadeOf.steady
  append := And.intro
  nested h := h
  whenNested h := h
  select := trivial
  withWord _ := trivial

/-- Everything in a query fits. -/
def QueryForm.Fits (d : Dialect) (q : QueryForm) : Prop := q.MadeOf d (Draft.Fits d)

/-- The draft of a fitting query fits. -/
theorem QueryForm.Fits.draft (standalone : Bool) (path : Option PathForm)
    (hpath : ∀ p ∈ path, p.MadeOf d (Draft.Fits d)) (q : QueryForm) (h : q.Fits d) :
    (q.draft d standalone path).Fits d :=
  hereditary_fits.queryDraft standalone path hpath h

end SqlDialects
