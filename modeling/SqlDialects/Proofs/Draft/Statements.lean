import SqlDialects.Render.Translate
import SqlDialects.Proofs.CommonTable.Parts
import SqlDialects.Proofs.Draft.Forms

/-!
# Statements are made of their queries

The walk over the syntax tree, node by node: whatever the expressions and conditions of a query are, they are
put together from ordinary tokens and queries. A property of what is written for a query, given that it is
one of what is written inside it, is thus one of every query in a statement (`Query.madeOf_form`). To fit the
dialect is such a property; only the WITH clause in front of the statement is free to stand there under every
dialect.
-/

namespace SqlDialects

open Lexical Draft

theorem TranslationContext.madeOf_literalDraft {S : Draft → Prop} (ctx : TranslationContext) (v : Value)
    (type : ResolvedType) : (ctx.literalDraft v type).MadeOf ctx.dialect S := by
  unfold literalDraft
  split
  · next plural =>
    split
    · next arrays =>
      split
      · exact madeOf_malformed _
      · split
        · exact .refuse _
        · split
          · exact .refuse _
          · next text h =>
            obtain ⟨texts, constants, rfl⟩ := ArrayMarshaller.literalText_eq_arrayText plural h
            exact .token (.array arrays constants)
    · exact .refuse _
  · simp only
    split
    · exact .refuse _
    · next l h =>
      split at h
      · exact .token (BasicType.literal_sound h)
      · exact .token (Value.literal_sound h)

theorem JunctionKind.madeOf_unit {d : Dialect} {S : Draft → Prop} (kind : JunctionKind) :
    kind.unit.MadeOf d S := by
  cases kind <;> exact madeOf_fixed (by cases d <;> decide)

/-- A SELECT whose clauses are drafted. -/
def SelectQuery.form (ctx : TranslationContext) (s : SelectQuery) : SelectForm where
  tables := tableForms ctx s.ctes
  distinct := s.distinct
  items := selectItems ctx s.items
  sources := s.tables
  filter := optionalCondition ctx s.filter
  groupBy := operands ctx s.groupBy
  having := optionalCondition ctx s.having
  orderBy := sortKeys ctx s.orderBy
  limit := ⟨(optionalOperand ctx s.offset).map (·.draft), fetchLimit ctx s.fetch⟩

theorem Query.form_select (ctx : TranslationContext) (s : SelectQuery) :
    (Query.select s).form ctx = .select (s.form ctx) := by
  cases s
  rw [Query.form]
  rfl

/-- A set operation whose clauses are drafted, without its parts. -/
def SetQuery.form (ctx : TranslationContext) (g : SetQuery) : SetForm where
  tables := tableForms ctx g.ctes
  operator := g.operator
  orderBy := sortKeys ctx g.orderBy
  limit := ⟨(optionalOperand ctx g.offset).map (·.draft), fetchLimit ctx g.fetch⟩

theorem Query.form_set (ctx : TranslationContext) (g : SetQuery) :
    (Query.set g).form ctx = .set (g.form ctx) (queryForms ctx g.parts) := by
  cases g
  rw [Query.form]
  rfl

theorem queryForms_eq_map (ctx : TranslationContext) (queries : List Query) :
    queryForms ctx queries = queries.map (·.form ctx) := by
  induction queries with
  | nil => rfl
  | cons query queries ih => rw [queryForms, ih, List.map_cons]

section Walk

/-- The condition tests expressions by an operator or by membership. -/
def Predicate.isTest : Predicate → Bool
  | comparison _ _ _ => true
  | inList _ _ _ => true
  | inArray _ _ _ => true
  | tupleSubquery _ _ _ => true
  | _ => false

/-- The expressions that a condition tests. -/
def Predicate.sides : Predicate → List Expression
  | comparison lhs _ rhs => [lhs, rhs]
  | inList test list _ => test :: list
  | inArray test array _ => test :: array.toList
  | tupleSubquery row _ query => [.tuple row, .subquery query]
  | _ => []

/-- A test is put together from parts with the property if its operands are. -/
def TestsMadeOf (ctx : TranslationContext) (S : Draft → Prop) : Prop :=
  ∀ p : Predicate, p.isTest = true → (∀ e ∈ p.sides, (e.operand ctx).MadeOf ctx.dialect S) →
    (p.draft ctx).MadeOf ctx.dialect S

/-- It is so if the operators have the property as well. -/
theorem Dialect.OperatorsHave.testsMadeOf {ctx : TranslationContext} {S : Draft → Prop}
    (ops : ctx.dialect.OperatorsHave S) : TestsMadeOf ctx S := by
  intro p test sides
  cases p with
  | comparison lhs op rhs =>
    obtain ⟨left, right⟩ := List.forall_mem_cons.1 sides
    exact Dialect.madeOf_compare ops left op (right rhs List.mem_cons_self)
  | inList e list negated =>
    obtain ⟨left, items⟩ := List.forall_mem_cons.1 sides
    refine TranslationContext.madeOf_inList ops left (fun o ho => ?_) negated
    rw [operands_eq_map] at ho
    obtain ⟨item, hitem, rfl⟩ := List.mem_map.1 ho
    exact items item hitem
  | inArray e array negated =>
    obtain ⟨left, right⟩ := List.forall_mem_cons.1 sides
    cases array with
    | none => exact madeOf_emptyInList negated
    | some array =>
      have right := right array List.mem_cons_self
      exact Dialect.madeOf_arrayMembership ops left.draft right.draft negated
  | tupleSubquery row op query =>
    obtain ⟨left, right⟩ := List.forall_mem_cons.1 sides
    have right := right _ List.mem_cons_self
    rw [Expression.operand] at left
    rw [Expression.operand] at right
    exact Dialect.madeOf_compareWithSubquery ops left.components op right
  | _ => cases test

variable {ctx : TranslationContext} {Has : Query → Prop} {S : Draft → Prop}

/-- The queries in question are closed under parts, and if the property is one of everything that is written
inside such a query then it is one of what is written for the query: as a subquery or a part of a set
operation, as the body of a common table, and in an EXISTS. -/
structure Covers (ctx : TranslationContext) (Has : Query → Prop) (S : Draft → Prop) : Prop where
  part {x y : Query} : Has x → y ∈ x.parts → Has y
  inner {y : Query} : Has y → (y.form ctx).MadeOf ctx.dialect S → S ((y.form ctx).inner ctx.dialect)
  body {x : Query} {t : CommonTable} : Has x → t ∈ x.ctes → (t.query.form ctx).MadeOf ctx.dialect S →
    (∀ p ∈ pathForm ctx t.name t.searchPath, p.MadeOf ctx.dialect S) →
    S (.nested ((t.query.form ctx).draft ctx.dialect false (pathForm ctx t.name t.searchPath)))
  frame {s : SelectQuery} : Has (.select s) → (s.form ctx).MadeOf ctx.dialect S →
    ((s.form ctx).frame ctx.dialect).Hosts ctx.dialect S
  tests : TestsMadeOf ctx S

namespace Covers

variable (h : Covers ctx Has S)
include h

theorem bodies {x : Query} (hx : Has x) {t : CommonTable} (ht : t ∈ x.ctes) : Has t.query :=
  h.part hx (Query.mem_parts.2 (.inl (List.mem_map_of_mem ht)))

theorem clauses {x : Query} (hx : Has x) : ∀ y ∈ x.clauseQueries, Has y := fun _ hy =>
  h.part hx (Query.mem_parts.2 (.inr (.inl hy)))

theorem limits {x : Query} (hx : Has x) : ∀ y ∈ x.limitQueries, Has y := fun _ hy =>
  h.part hx (Query.mem_parts.2 (.inr (.inr (.inl hy))))

theorem paths {x : Query} (hx : Has x) {t : CommonTable} (ht : t ∈ x.ctes) : ∀ y ∈ t.pathQueries, Has y :=
  fun _ hy => h.part hx (Query.mem_parts.2 (.inr (.inr (.inr ⟨t, ht, hy⟩))))

/-- A query as an operand, given what is written in it. -/
theorem operand {y : Query} (hy : Has y) (form : (y.form ctx).MadeOf ctx.dialect S) :
    ((y.form ctx).operand ctx.dialect y.type?).MadeOf ctx.dialect S := by
  refine form.operand (h.inner hy form) (fun f same => ?_) y.type?
  cases y with
  | select s =>
    rw [Query.form_select] at form same
    cases same
    cases form with
    | select hs => exact h.frame hy hs
  | set g =>
    rw [Query.form_set] at same
    cases same

end Covers

open List (forall_mem_append forall_mem_cons)

mutual

theorem Expression.madeOf_operand (h : Covers ctx Has S) : ∀ e : Expression, (∀ y ∈ e.subqueries, Has y) →
    (e.operand ctx).MadeOf ctx.dialect S
  | .column _ _ _, _ => .scalar (.token trivial)
  | .literal value type, _ => .scalar (ctx.madeOf_literalDraft value type)
  | .parameter _ _ _, _ => .scalar (madeOf_parameter _)
  | .arithmetic op lhs rhs, hs => by
    rw [Expression.subqueries, forall_mem_append] at hs
    have left := lhs.madeOf_operand h hs.1
    have right := rhs.madeOf_operand h hs.2
    exact .scalar (Dialect.madeOf_arithmetic op left.draft right.draft)
  | .caseSearched ⟨arms, otherwise⟩, hs => by
    rw [Expression.subqueries, forall_mem_append] at hs
    have arms := madeOf_searchedArms h arms hs.1
    exact .scalar (Choice.MadeOf.draft ⟨by simp, arms, madeOf_optionalOperand h otherwise hs.2⟩)
  | .caseSimple ⟨subject, arms, otherwise⟩, hs => by
    rw [Expression.subqueries, forall_mem_append, forall_mem_append] at hs
    obtain ⟨⟨hsubject, harms⟩, hotherwise⟩ := hs
    have subject := subject.madeOf_operand h hsubject
    have arms := madeOf_simpleArms h arms harms
    have otherwise := madeOf_optionalOperand h otherwise hotherwise
    exact .scalar (Choice.MadeOf.draft ⟨by simpa using subject.draft, arms, otherwise⟩)
  | .tuple items, hs => .tuple (madeOf_operands h items hs)
  | .summarization kind groupings, hs => by
    have groups := Operand.madeOf_listed_drafts (madeOf_operands h groupings hs)
    have word : (raw kind.text).MadeOf ctx.dialect S := madeOf_raw (.shared (by cases kind <;> decide))
    exact .scalar (word.append (madeOf_parens groups))
  | .function _ args _, hs => by
    have args := Operand.madeOf_listed_drafts (madeOf_operands h args hs)
    exact .scalar (.append (.token trivial) (madeOf_parens args))
  | .aggregate ⟨name, args, distinct, filter, _⟩, hs => by
    rw [Expression.subqueries, forall_mem_append] at hs
    have args := madeOf_operands h args hs.1
    have filter := madeOf_optionalCondition h filter hs.2
    exact .scalar (Dialect.madeOf_aggregateCall name distinct
      (fun _ hx => Operand.madeOf_of_mem_drafts args hx) filter)
  | .windowed ⟨function, partitions, order⟩, hs => by
    rw [Expression.subqueries, forall_mem_append, forall_mem_append] at hs
    obtain ⟨⟨hfunction, hpartitions⟩, horder⟩ := hs
    have function := function.madeOf_operand h hfunction
    have partitions := madeOf_operands h partitions hpartitions
    exact .scalar (Dialect.madeOf_overWindow function.draft partitions (madeOf_sortKeys h order horder))
  | .subquery query, hs => by
    have query' := hs query List.mem_cons_self
    exact h.operand query' (query.madeOf_form h query')

theorem madeOf_operands (h : Covers ctx Has S) : ∀ es : List Expression, (∀ y ∈ subqueriesOfAll es, Has y) →
    ∀ o ∈ operands ctx es, o.MadeOf ctx.dialect S
  | [], _ => by simp [operands]
  | e :: es, hs => by
    rw [subqueriesOfAll, forall_mem_append] at hs
    exact forall_mem_cons.2 ⟨e.madeOf_operand h hs.1, madeOf_operands h es hs.2⟩

theorem madeOf_optionalOperand (h : Covers ctx Has S) : ∀ e? : Option Expression,
    (∀ y ∈ optionalSubqueries e?, Has y) → ∀ o ∈ optionalOperand ctx e?, o.MadeOf ctx.dialect S
  | none, _ => by simp [optionalOperand]
  | some e, hs => by simpa [optionalOperand] using e.madeOf_operand h hs

theorem madeOf_searchedArms (h : Covers ctx Has S) : ∀ arms : List SearchedArm,
    (∀ y ∈ searchedSubqueries arms, Has y) →
    ∀ arm ∈ searchedArms ctx arms, arm.test.MadeOf ctx.dialect S ∧ arm.result.MadeOf ctx.dialect S
  | [], _ => by simp [searchedArms]
  | ⟨condition, result⟩ :: arms, hs => by
    rw [searchedSubqueries, forall_mem_append, forall_mem_append] at hs
    obtain ⟨⟨hcondition, hresult⟩, harms⟩ := hs
    have arm := And.intro (condition.madeOf_draft h hcondition) (result.madeOf_operand h hresult)
    exact forall_mem_cons.2 ⟨arm, madeOf_searchedArms h arms harms⟩

theorem madeOf_simpleArms (h : Covers ctx Has S) : ∀ arms : List SimpleArm,
    (∀ y ∈ simpleSubqueries arms, Has y) →
    ∀ arm ∈ simpleArms ctx arms, arm.test.MadeOf ctx.dialect S ∧ arm.result.MadeOf ctx.dialect S
  | [], _ => by simp [simpleArms]
  | ⟨value, result⟩ :: arms, hs => by
    rw [simpleSubqueries, forall_mem_append, forall_mem_append] at hs
    obtain ⟨⟨hvalue, hresult⟩, harms⟩ := hs
    have arm := And.intro (value.madeOf_operand h hvalue).draft (result.madeOf_operand h hresult)
    exact forall_mem_cons.2 ⟨arm, madeOf_simpleArms h arms harms⟩

theorem madeOf_sortKeys (h : Covers ctx Has S) : ∀ items : List SortItem,
    (∀ y ∈ sortSubqueries items, Has y) → ∀ k ∈ sortKeys ctx items, k.key.MadeOf ctx.dialect S
  | [], _ => by simp [sortKeys]
  | ⟨e, _, _⟩ :: items, hs => by
    rw [sortSubqueries, forall_mem_append] at hs
    exact forall_mem_cons.2 ⟨(e.madeOf_operand h hs.1).draft, madeOf_sortKeys h items hs.2⟩

theorem Predicate.madeOf_draft (h : Covers ctx Has S) : ∀ p : Predicate, (∀ y ∈ p.subqueries, Has y) →
    (p.draft ctx).MadeOf ctx.dialect S
  | .boolean e negated, hs => Dialect.madeOf_booleanCondition (e.madeOf_operand h hs).draft negated
  | .comparison lhs op rhs, hs => by
    rw [Predicate.subqueries, forall_mem_append] at hs
    have right := rhs.madeOf_operand h hs.2
    exact h.tests (.comparison lhs op rhs) rfl
      (forall_mem_cons.2 ⟨lhs.madeOf_operand h hs.1, List.forall_mem_singleton.2 right⟩)
  | .inList test list negated, hs => by
    rw [Predicate.subqueries, forall_mem_append] at hs
    have items := madeOf_operands h list hs.2
    rw [operands_eq_map, List.forall_mem_map] at items
    exact h.tests (.inList test list negated) rfl (forall_mem_cons.2 ⟨test.madeOf_operand h hs.1, items⟩)
  | .inArray _ none negated, _ => madeOf_emptyInList negated
  | .inArray test (some array) negated, hs => by
    rw [Predicate.subqueries, forall_mem_append] at hs
    have right := array.madeOf_operand h hs.2
    exact h.tests (.inArray test (some array) negated) rfl
      (forall_mem_cons.2 ⟨test.madeOf_operand h hs.1, List.forall_mem_singleton.2 right⟩)
  | .tupleSubquery row op query, hs => by
    rw [Predicate.subqueries, forall_mem_append] at hs
    have query' := hs.2 query List.mem_cons_self
    have left : ((Expression.tuple row).operand ctx).MadeOf ctx.dialect S := by
      rw [Expression.operand]
      exact .tuple (madeOf_operands h row hs.1)
    have right : ((Expression.subquery query).operand ctx).MadeOf ctx.dialect S := by
      rw [Expression.operand]
      exact h.operand query' (query.madeOf_form h query')
    exact h.tests (.tupleSubquery row op query) rfl
      (forall_mem_cons.2 ⟨left, List.forall_mem_singleton.2 right⟩)
  | .nullCheck e negated, hs => Dialect.madeOf_nullCheck (e.madeOf_operand h hs) negated
  | .junction kind [], _ => kind.madeOf_unit
  | .junction _ [member], hs => member.madeOf_draft h fun y hy => hs y (List.mem_append_left [] hy)
  | .junction kind (first :: second :: rest), hs =>
    madeOf_separated (madeOf_spacedWord (by cases kind <;> rfl))
      (madeOf_memberDrafts h kind (first :: second :: rest) hs)
  | .negated inner, hs => (madeOf_wordSpace rfl).append (madeOf_parens (inner.madeOf_draft h hs))

theorem madeOf_memberDrafts (h : Covers ctx Has S) (kind : JunctionKind) : ∀ ps : List Predicate,
    (∀ y ∈ memberSubqueries ps, Has y) → ∀ x ∈ memberDrafts ctx kind ps, x.MadeOf ctx.dialect S
  | [], _ => by simp [memberDrafts]
  | p :: ps, hs => by
    rw [memberSubqueries, forall_mem_append] at hs
    exact forall_mem_cons.2 ⟨madeOf_parensIf (p.madeOf_draft h hs.1), madeOf_memberDrafts h kind ps hs.2⟩

theorem madeOf_optionalCondition (h : Covers ctx Has S) : ∀ p? : Option Predicate,
    (∀ y ∈ filterSubqueries p?, Has y) → ∀ x ∈ optionalCondition ctx p?, x.MadeOf ctx.dialect S
  | none, _ => by simp [optionalCondition]
  | some p, hs => by simpa [optionalCondition] using p.madeOf_draft h hs

theorem madeOf_selectItems (h : Covers ctx Has S) : ∀ items : List SelectItem,
    (∀ y ∈ items.flatMap (·.expression.subqueries), Has y) →
    ∀ i ∈ selectItems ctx items, i.1.MadeOf ctx.dialect S
  | [], _ => by simp [selectItems]
  | ⟨e, _⟩ :: items, hs => by
    rw [List.flatMap_cons, forall_mem_append] at hs
    exact forall_mem_cons.2 ⟨e.madeOf_operand h hs.1, madeOf_selectItems h items hs.2⟩

theorem madeOf_fetchLimit (h : Covers ctx Has S) : ∀ fetch : Option FetchClause,
    (∀ y ∈ fetch.elim [] (·.count.subqueries), Has y) →
    ∀ x ∈ fetchLimit ctx fetch, x.1.MadeOf ctx.dialect S
  | none, _ => by simp [fetchLimit]
  | some ⟨count, _⟩, hs => by simpa [fetchLimit] using (count.madeOf_operand h hs).draft

theorem madeOf_pathForm (h : Covers ctx Has S) (table : String) : ∀ path : Option SearchPath,
    (∀ y ∈ path.elim [] (fun p => p.seed.subqueries ++ p.step.subqueries), Has y) →
    ∀ p ∈ pathForm ctx table path, p.MadeOf ctx.dialect S
  | none, _ => by simp [pathForm]
  | some ⟨_, seed, step, _⟩, hs => by
    rw [Option.elim_some, forall_mem_append] at hs
    have seed := seed.madeOf_operand h hs.1
    have step := step.madeOf_operand h hs.2
    rintro p ⟨⟩
    exact ⟨seed.draft, step.draft⟩

theorem CommonTable.madeOf_form (h : Covers ctx Has S) : ∀ (t : CommonTable) (x : Query), Has x → t ∈ x.ctes →
    (t.form ctx).draft.MadeOf ctx.dialect S
  | ⟨name, columns, query, recursive, searchPath⟩, x, hx, ht => by
    have form := query.madeOf_form h (h.bodies hx ht)
    have path := madeOf_pathForm h name searchPath (h.paths hx ht)
    have body := h.body hx ht form path
    rw [CommonTable.form]
    refine .append (.append (.append (.token trivial) (madeOf_ite .empty ?_)) (madeOf_spacedWord rfl))
      (madeOf_parens (.part body))
    refine .append madeOf_space (madeOf_parens (madeOf_listed fun x hx => ?_))
    rcases List.mem_append.1 hx with hx | hx
    · obtain ⟨c, -, rfl⟩ := List.mem_map.1 hx
      exact .token trivial
    · split at hx
      · rw [List.mem_singleton.1 hx]
        exact .token trivial
      · cases hx

theorem madeOf_tableForms (h : Covers ctx Has S) (x : Query) (hx : Has x) : ∀ tables : List CommonTable,
    (∀ t ∈ tables, t ∈ x.ctes) → ∀ t ∈ tableForms ctx tables, t.draft.MadeOf ctx.dialect S
  | [], _ => by simp [tableForms]
  | table :: tables, hs => by
    obtain ⟨first, rest⟩ := forall_mem_cons.1 hs
    exact forall_mem_cons.2 ⟨table.madeOf_form h x hx first, madeOf_tableForms h x hx tables rest⟩

theorem madeOf_queryForms (h : Covers ctx Has S) : ∀ queries : List Query, (∀ y ∈ queries, Has y) →
    ∀ q ∈ queryForms ctx queries, q.MadeOf ctx.dialect S
  | [], _ => by simp [queryForms]
  | query :: queries, hs => by
    obtain ⟨first, rest⟩ := forall_mem_cons.1 hs
    exact forall_mem_cons.2 ⟨query.madeOf_form h first, madeOf_queryForms h queries rest⟩

theorem Query.madeOf_form (h : Covers ctx Has S) : ∀ q : Query, Has q → (q.form ctx).MadeOf ctx.dialect S
  | .select ⟨ctes, distinct, items, tables, filter, groupBy, having, orderBy, offset, fetch⟩, hq => by
    have clauses := h.clauses hq
    have limits := h.limits hq
    simp only [Query.clauseQueries, Query.limitQueries, Query.offset, Query.fetch, forall_mem_append]
      at clauses limits
    obtain ⟨⟨⟨⟨hitems, hfilter⟩, hgroupBy⟩, hhaving⟩, horderBy⟩ := clauses
    have offset := madeOf_optionalOperand h offset limits.1
    refine .select ⟨madeOf_tableForms h _ hq ctes fun _ ht => ht, madeOf_selectItems h items hitems,
      madeOf_optionalCondition h filter hfilter, madeOf_operands h groupBy hgroupBy,
      madeOf_optionalCondition h having hhaving, madeOf_sortKeys h orderBy horderBy, fun x hx => ?_,
      madeOf_fetchLimit h fetch limits.2⟩
    obtain ⟨o, ho, rfl⟩ := Option.map_eq_some_iff.1 hx
    exact (offset o ho).draft
  | .set ⟨ctes, operator, parts, orderBy, offset, fetch⟩, hq => by
    have clauses := h.clauses hq
    have limits := h.limits hq
    simp only [Query.clauseQueries, Query.limitQueries, Query.offset, Query.fetch, forall_mem_append]
      at clauses limits
    have offset := madeOf_optionalOperand h offset limits.1
    refine .set ⟨madeOf_tableForms h _ hq ctes fun _ ht => ht, madeOf_sortKeys h orderBy clauses.2,
      fun x hx => ?_, madeOf_fetchLimit h fetch limits.2⟩ (madeOf_queryForms h parts clauses.1)
    obtain ⟨o, ho, rfl⟩ := Option.map_eq_some_iff.1 hx
    exact (offset o ho).draft

end

end Walk

/-- A property that drafts inherit from their parts is one of everything that is written inside any query, if
it is one of tests. -/
theorem Draft.Hereditary.covers {P : Draft → Prop} {ctx : TranslationContext} (hP : Hereditary ctx.dialect P)
    (tests : TestsMadeOf ctx P) : Covers ctx (fun _ => True) P where
  part _ _ := trivial
  inner _ form := hP.inner form
  body _ _ form path := hP.nested (hP.queryDraft false _ path form)
  frame _ form _ hx := hP.existsComparison form hx
  tests := tests

/-- It is one of statements as well, if the word in front of their own tables has it. -/
theorem Draft.Hereditary.statement {P : Draft → Prop} {ctx : TranslationContext} (hP : Hereditary ctx.dialect P)
    (tests : TestsMadeOf ctx P) (withWord : P (word .withWord)) (s : Statement) : P (s.draft ctx) := by
  cases s with
  | select q =>
    have tables := madeOf_tableForms (hP.covers tests) (.select { ctes := q.leadingTables ctx.dialect }) trivial
      _ fun _ ht => ht
    have form := q.madeOf_form (hP.covers tests) trivial
    exact hP.append (hP.withClause withWord tables) (hP.queryDraft true none (by simp) form)

/-! ## Fitting statements -/

section Fitting

variable (ctx : TranslationContext)

theorem testsMadeOf_fits : TestsMadeOf ctx (Draft.Fits ctx.dialect) :=
  Dialect.OperatorsHave.testsMadeOf fun s hs => ctx.dialect.closed_operatorTexts s hs

theorem covers_fits : Covers ctx (fun _ => True) (Draft.Fits ctx.dialect) :=
  hereditary_fits.covers (testsMadeOf_fits ctx)

theorem covers_steady : Covers ctx (fun _ => True) Draft.Steady :=
  hereditary_steady.covers (Dialect.OperatorsHave.testsMadeOf fun _ _ => trivial)

theorem Query.fits_form (q : Query) : (q.form ctx).Fits ctx.dialect := q.madeOf_form (covers_fits ctx) trivial

theorem CommonTable.fits_form (t : CommonTable) : (t.form ctx).draft.Fits ctx.dialect :=
  (t.madeOf_form (covers_fits ctx) (.select { ctes := [t] }) trivial List.mem_cons_self).fits

end Fitting

/-! ## Translations -/

/-- A translation that succeeds carries out the whole draft and writes down the page. -/
theorem Draft.of_translateOn_eq_ok {x : Draft} {d : Dialect} {page : Page} {op : Operation}
    (h : x.translateOn d page = .ok op) :
    (x.run page).1 = none ∧ Token.textOfAll d (x.run page).2.tokens.toList = .ok op.sql ∧
      op.parameters = (x.run page).2.parameters.toList := by
  unfold translateOn at h
  split at h
  · cases h
  · next final hrun =>
    split at h
    · next op' hop =>
      cases h
      rw [hrun]
      unfold Page.operation at hop
      cases htext : Token.textOfAll d final.tokens.toList with
      | error e => simp [htext, bind, Except.bind] at hop
      | ok sql =>
        simp only [htext, bind, Except.bind, Except.ok.injEq] at hop
        subst hop
        exact ⟨rfl, rfl, rfl⟩
    · cases h

namespace Statement

variable (ctx : TranslationContext) (s : Statement)

/-- The acts of the translation of a statement. -/
def acts : List Write := (s.draft ctx).writes .plain 0

/-- The page that the translation of a statement leaves behind. -/
def page : Page := Page.blank.writeAll (s.acts ctx)

theorem run_draft : (s.draft ctx).run .blank = ((s.draft ctx).refusal? .plain 0, s.page ctx) :=
  (s.draft ctx).run_eq .blank

/-- Ordinary tokens, operators and the words that begin a query are all that a statement has. -/
theorem every_draft_of_ordinary {Q : Token → Prop} (ordinary : ∀ t : Token, t.Ordinary ctx.dialect → Q t)
    (operator : ∀ text ∈ ctx.dialect.operatorTexts, Q (.raw text)) (select : Q (.keyword .select))
    (withWord : Q (.keyword .withWord)) : (s.draft ctx).Every Q :=
  (hereditary_every ordinary select fun _ => withWord).statement (Dialect.OperatorsHave.testsMadeOf operator)
    withWord s

/-- The tokens of a statement fit, apart from the word in front of its own tables. -/
theorem every_draft : (s.draft ctx).Every fun t => t = .keyword .withWord ∨ t.Fits ctx.dialect :=
  s.every_draft_of_ordinary ctx (fun _ ordinary => .inr ordinary.fits)
    (fun text h => .inr (ctx.dialect.closed_operatorTexts text h)) (.inr nofun) (.inl rfl)

variable {ctx s}

/-- What stands on the page are placeholders and tokens of the statement. -/
theorem of_mem_page {Q : Token → Prop} (every : (s.draft ctx).Every Q) {t : Token}
    (ht : t ∈ (s.page ctx).tokens) : t = .placeholder ∨ Q t := by
  rw [← Array.mem_toList_iff, page, Page.tokens_writeAll] at ht
  obtain ⟨w, hw, rfl⟩ := List.mem_map.1 (by simpa [Page.blank] using ht)
  rcases every.of_mem_writes hw with ⟨t, rfl, property⟩ | ⟨p, rfl⟩
  · exact .inr property
  · exact .inl rfl

/-- A translation that succeeds gives the text on the page and the parameters recorded there. -/
theorem of_translate_eq_ok {op : Operation} (h : s.translate ctx = .ok op) :
    (s.draft ctx).refusal? .plain 0 = none ∧
      Token.textOfAll ctx.dialect (s.page ctx).tokens.toList = .ok op.sql ∧
      op.parameters = (s.page ctx).parameters.toList := by
  have outcome := Draft.of_translateOn_eq_ok h
  rwa [run_draft] at outcome

end Statement

end SqlDialects
