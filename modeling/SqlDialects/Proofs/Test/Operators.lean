import SqlDialects.Proofs.Test.Spelling

/-!
# Where the operators come from

The texts that stand between the operands of tests stand nowhere else. When such a text is about to be written,
a condition has been reached that is written as a test, and what stands in front of the operator of that test
has just been written (`Draft.OperatorsInTests`). Drafts that are put together from drafts with this property
have it themselves, and conditions have it as well: either they are tests, whose operands have it, or they are
taken apart into conditions over the components of their operands (`testsMadeOf_operatorsInTests`). So it is a
property of every statement (`Statement.test_of_operator`).
-/

namespace SqlDialects

namespace Draft

/-- In the course of the draft a test is reached, and its operator is written on the given page. -/
def ReachesOperator (ctx : TranslationContext) (x : Draft) (page : Page) (text : String) (here : Page) : Prop :=
  ∃ (p : Predicate) (t : Test) (there : Page), x.CarriesOut page (p.draft ctx) there ∧ p.test? ctx = some t ∧
    t.operator = text ∧ here = ((t.front ctx).run there).2

/-- Every operator that is written in the course of the draft is that of a test. -/
def OperatorsInTests (ctx : TranslationContext) (x : Draft) : Prop :=
  ∀ ⦃text : String⦄, text ∈ ctx.dialect.operatorTexts → ∀ ⦃page here : Page⦄,
    x.CarriesOut page (token (.raw text)) here → x.ReachesOperator ctx page text here

section Steps

variable {ctx : TranslationContext} {x y : Draft} {page inner here : Page} {text : String}

theorem ReachesOperator.mono (h : y.ReachesOperator ctx inner text here)
    (lift : ∀ z there, y.CarriesOut inner z there → x.CarriesOut page z there) :
    x.ReachesOperator ctx page text here := by
  obtain ⟨p, t, there, reached, test, operator, place⟩ := h
  exact ⟨p, t, there, lift _ _ reached, test, operator, place⟩

theorem operatorsInTests_token {t : Token} (h : t.Ordinary ctx.dialect) : (token t).OperatorsInTests ctx := by
  intro text operator page here reached
  cases reached
  exact absurd operator (Dialect.Fragment.not_operator h)

theorem operatorsInTests_raw {s : String} (h : s ∉ ctx.dialect.operatorTexts) :
    (raw s).OperatorsInTests ctx := by
  intro text operator page here reached
  unfold raw at reached
  split at reached
  · cases reached
  · cases reached
    exact absurd operator h

theorem OperatorsInTests.append (hx : x.OperatorsInTests ctx) (hy : y.OperatorsInTests ctx) :
    (append x y).OperatorsInTests ctx := by
  intro text operator page here reached
  cases reached with
  | first reached => exact (hx operator reached).mono fun _ _ h => .first h
  | second done reached => exact (hy operator reached).mono fun _ _ h => .second done h

theorem OperatorsInTests.inMode (hx : x.OperatorsInTests ctx) (mode : RenderingMode) :
    (inMode mode x).OperatorsInTests ctx := by
  intro text operator page here reached
  cases reached with
  | inMode reached => exact (hx operator reached).mono fun _ _ h => .inMode h

theorem MadeOf.operatorsInTests (h : x.MadeOf ctx.dialect (OperatorsInTests ctx)) : x.OperatorsInTests ctx := by
  induction h with
  | token ordinary => exact operatorsInTests_token ordinary
  | append _ _ ihf ihs => exact ihf.append ihs
  | inMode _ ih => exact ih.inMode _
  | byMode _ _ _ ihp iht =>
    intro text operator page here reached
    cases reached with
    | plain mode reached => exact (ihp operator reached).mono fun _ _ h => .plain mode h
    | typed mode reached => exact (iht operator reached).mono fun _ _ h => .typed mode h
  | part h => exact h
  | empty | placeholder | refuse =>
    intro text operator page here reached
    cases reached

theorem hereditary_operatorsInTests : Hereditary ctx.dialect (OperatorsInTests ctx) where
  madeOf := MadeOf.operatorsInTests
  append := OperatorsInTests.append
  nested h := by
    intro text operator page here reached
    cases reached with
    | nested reached => exact (h operator reached).mono fun _ _ h => .nested h
  whenNested h := by
    intro text operator page here reached
    cases reached with
    | whenNested inside reached => exact (h operator reached).mono fun _ _ h => .whenNested inside h
  select := by
    intro text operator page here reached
    cases reached
  withWord _ := by
    intro text operator page here reached
    cases reached

/-! ## Tests -/

/-- What is carried out in the first of some drafts in a row is carried out in the whole. -/
theorem CarriesOut.foldl {z : Draft} (h : x.CarriesOut page z here) (ys : List Draft) :
    (ys.foldl append x).CarriesOut page z here := by
  induction ys generalizing x with
  | nil => exact h
  | cons y ys ih => exact ih (.first h)

/-- A token that is written in the course of some drafts in a row is written in one of them. -/
theorem CarriesOut.of_foldl {t : Token} (ys : List Draft) (h : (ys.foldl append x).CarriesOut page (token t) here) :
    x.CarriesOut page (token t) here ∨ ∃ y ∈ ys, ∃ inner, y.CarriesOut inner (token t) here ∧
      ∀ z there, y.CarriesOut inner z there → (ys.foldl append x).CarriesOut page z there := by
  induction ys generalizing x with
  | nil => exact .inl h
  | cons y ys ih =>
    rcases ih h with front | ⟨z, hz, inner, reached, lift⟩
    · cases front with
      | first reached => exact .inl reached
      | second done reached =>
        exact .inr ⟨y, List.mem_cons_self, _, reached, fun _ _ h => CarriesOut.foldl (.second done h) ys⟩
    · exact .inr ⟨z, List.mem_cons_of_mem _ hz, inner, reached, lift⟩

/-- If some drafts in a row are carried out to the end, so is the first of them, and its tokens stand in front. -/
theorem tokens_foldl {mode : RenderingMode} {depth : Nat} (ys : List Draft)
    (h : (ys.foldl append x).refusal? mode depth = none) :
    x.refusal? mode depth = none ∧ x.tokens mode depth <+: (ys.foldl append x).tokens mode depth := by
  induction ys generalizing x with
  | nil => exact ⟨h, List.prefix_rfl⟩
  | cons y ys ih =>
    obtain ⟨both, front⟩ := ih h
    have first := (refusal?_append_eq_none.1 both).1
    refine ⟨first, List.IsPrefix.trans ?_ front⟩
    rw [show append x y = x ++ y from rfl, tokens_append first]
    exact List.prefix_append _ _

/-- The operator of a test that is carried out to its end is written. -/
theorem mem_tokens_test {mode : RenderingMode} {depth : Nat} {t : Test} (ne : t.operator ≠ "")
    (h : (t.draft ctx).refusal? mode depth = none) : .raw t.operator ∈ (t.draft ctx).tokens mode depth := by
  obtain ⟨both, front⟩ := tokens_foldl _ h
  refine front.subset ?_
  rw [tokens_append (refusal?_append_eq_none.1 both).1, raw, if_neg ne]
  exact List.mem_append_right _ List.mem_cons_self

/-- A test whose operands have the property has it. -/
theorem operatorsInTests_test {p : Predicate} {t : Test} (test : p.test? ctx = some t)
    (front : (t.front ctx).OperatorsInTests ctx) (back : ∀ y ∈ t.back ctx, y.OperatorsInTests ctx) :
    (p.draft ctx).OperatorsInTests ctx := by
  intro text operator page here reached
  have form := p.draft_of_test? ctx test
  rw [form, Test.draft] at reached
  have reach : (t.front ctx ++ raw t.operator).CarriesOut page (token (.raw text)) here →
      (p.draft ctx).ReachesOperator ctx page text here := by
    intro reached
    cases reached with
    | first reached =>
      refine (front operator reached).mono fun _ _ h => ?_
      rw [form]
      exact CarriesOut.foldl (.first h) _
    | second done reached =>
      unfold raw at reached
      split at reached
      · cases reached
      · cases reached
        exact ⟨p, t, page, .itself _ _, test, rfl, rfl⟩
  rcases CarriesOut.of_foldl _ reached with reached | ⟨y, hy, inner, reached, lift⟩
  · exact reach reached
  · refine (back y hy operator reached).mono fun z there h => ?_
    rw [form]
    exact lift z there h

end Steps

end Draft

open Draft

section Operands

variable {ctx : TranslationContext} {t : Test}

theorem Dialect.operands_of_arrayTest? {d : Dialect} {test : Expression} {array : RightSide} {negated : Bool}
    (h : d.arrayTest? test array negated = some t) : t.operands = test :: array.operands := by
  unfold arrayTest? at h
  cases d <;> cases h <;> rfl

theorem Dialect.operands_of_comparisonTest? {d : Dialect} {lhs rhs : Expression} {op : ComparisonOperator}
    (h : d.comparisonTest? lhs op rhs = some t) : t.operands = [lhs, rhs] := by
  rw [comparisonTest?, Option.orElse_eq_orElse, Option.orElse_eq_or, Option.or_eq_some_iff] at h
  rcases h with h | ⟨-, h⟩
  · unfold peculiarTest? at h
    split at h
    · split at h
      · cases h
      · split at h
        · cases h
          rfl
        · split at h
          · split at h <;> cases h <;> rfl
          · cases h
    · split at h <;> cases h
      rfl
    · cases h
  · split at h <;> cases h
    rfl

theorem TranslationContext.operands_of_itemsTest? {test : Expression} {list : List Expression} {negated : Bool}
    (h : ctx.itemsTest? test list negated = some t) : ∀ e ∈ t.operands, e ∈ test :: list := by
  unfold itemsTest? at h
  split at h
  · rw [Dialect.operands_of_arrayTest? h]
    simp [RightSide.operands]
  · cases h
    exact fun _ he => he

theorem TranslationContext.operands_of_multiValuedTest? {test : Expression} {name : String} {element : ResolvedType}
    {negated : Bool} (h : ctx.multiValuedTest? test name element negated = some t) : t.operands = [test] := by
  unfold multiValuedTest? at h
  split at h
  · exact Dialect.operands_of_arrayTest? h
  · split at h <;> cases h
    rfl

theorem TranslationContext.operands_of_listTest? {test : Expression} {list : List Expression} {negated : Bool}
    (h : ctx.listTest? test list negated = some t) : ∀ e ∈ t.operands, e ∈ test :: list := by
  obtain ⟨-, none, -⟩ | ⟨name, type, -, same, -⟩ | ⟨-, same, -⟩ := ctx.listTest?_cases test list negated
  · rw [none] at h
    cases h
  · rw [same] at h
    simp [operands_of_multiValuedTest? h]
  · rw [same] at h
    split at h
    · cases h
    · exact operands_of_itemsTest? h

/-- The operands of the test of a condition are expressions that the condition tests. -/
theorem Predicate.operands_of_test? {p : Predicate} (h : p.test? ctx = some t) : ∀ e ∈ t.operands, e ∈ p.sides := by
  unfold test? at h
  split at h
  · rw [Dialect.operands_of_comparisonTest? h]
    exact fun _ he => he
  · exact TranslationContext.operands_of_listTest? h
  · rw [Dialect.operands_of_arrayTest? h]
    exact fun _ he => he
  · rw [Dialect.operands_of_comparisonTest? h]
    exact fun _ he => he
  · cases h

end Operands

section Conditions

variable {ctx : TranslationContext}

/-- The fixed texts in a test are no operators. -/
theorem Dialect.surrounding_not_operator (d : Dialect) : ∀ s ∈ ["not(", " ", ")", "))"], s ∉ d.operatorTexts := by
  cases d <;> decide

/-- What stands on the right is put together from the expressions there. -/
theorem RightSide.madeOf_drafts {S : Draft → Prop} {side : RightSide}
    (h : ∀ e ∈ side.operands, (e.operand ctx).draft.MadeOf ctx.dialect S) :
    ∀ x ∈ side.drafts ctx, x.MadeOf ctx.dialect S := by
  intro x hx
  cases side with
  | expressions es =>
    obtain ⟨e, he, rfl⟩ := List.mem_map.1 hx
    exact h e he
  | array p =>
    rw [List.mem_singleton.1 hx]
    exact .placeholder p
  | elements ps =>
    obtain ⟨p, -, rfl⟩ := List.mem_map.1 hx
    exact madeOf_parameter p

/-- A condition that is a test has its operator where it belongs if its operands have. -/
theorem Predicate.operatorsInTests_of_test? {p : Predicate} {t : Test} (test : p.test? ctx = some t)
    (sides : ∀ e ∈ p.sides, (e.operand ctx).MadeOf ctx.dialect (OperatorsInTests ctx)) :
    (p.draft ctx).OperatorsInTests ctx := by
  have operands : ∀ e ∈ t.operands, (e.operand ctx).draft.MadeOf ctx.dialect (OperatorsInTests ctx) := fun e he =>
    (sides e (p.operands_of_test? test e he)).draft
  have left := (operands t.left List.mem_cons_self).operatorsInTests
  have right : (t.items ctx).OperatorsInTests ctx :=
    (madeOf_listed (RightSide.madeOf_drafts fun e he => operands e (List.mem_cons_of_mem _ he))).operatorsInTests
  have text : ∀ s ∈ ["not(", " ", ")", "))"], (raw s).OperatorsInTests ctx := fun s hs =>
    operatorsInTests_raw (ctx.dialect.surrounding_not_operator s hs)
  have close : (token .rightParen).OperatorsInTests ctx := operatorsInTests_token trivial
  have both {x y : Draft} (hx : x.OperatorsInTests ctx) (hy : y.OperatorsInTests ctx) :
      ∀ z ∈ [x, y], z.OperatorsInTests ctx := List.forall_mem_cons.2 ⟨hx, List.forall_mem_singleton.2 hy⟩
  refine operatorsInTests_test test ?_ ?_
  · unfold Test.front
    split
    · exact (text "not(" (by decide)).append left
    · exact (left.inMode .typed).append (text " " (by decide))
    · exact left
  · unfold Test.back
    split
    · exact List.forall_mem_singleton.2 right
    · exact both right close
    · exact both right (text ")" (by decide))
    · exact both right (text "))" (by decide))
    · exact both right (text ")" (by decide))
    · exact both (text " " (by decide)) (right.inMode .typed)

end Conditions

/-! ## Conditions that are taken apart -/

section TakenApart

variable {ctx : TranslationContext} {S : Draft → Prop}

/-- The tests among the conditions have the property if their operands are put together from such. -/
def TestsHave (ctx : TranslationContext) (S : Draft → Prop) : Prop :=
  ∀ ⦃p t⦄, Predicate.test? ctx p = some t → (∀ e ∈ p.sides, (e.operand ctx).MadeOf ctx.dialect S) →
    S (p.draft ctx)

theorem comparatorsMadeOf_ofPair {pairs : List (Expression × Expression)}
    (h : ∀ c ∈ pairs, ∀ op, ((Predicate.ofPair op c).draft ctx).MadeOf ctx.dialect S) :
    ComparatorsMadeOf ctx.dialect S (pairs.map fun c op => (Predicate.ofPair op c).draft ctx) := by
  intro comparator member op
  obtain ⟨c, hc, rfl⟩ := List.mem_map.1 member
  exact h c hc op

theorem SelectQuery.sizeOf_lt_of_mem_items (s : SelectQuery) {e : Expression}
    (h : e ∈ s.items.map (·.expression)) : sizeOf e < sizeOf s := by
  obtain ⟨item, hitem, rfl⟩ := List.mem_map.1 h
  have first := List.sizeOf_lt_of_mem hitem
  obtain ⟨e, alias?⟩ := item
  obtain ⟨ctes, distinct, items, tables, filter, groupBy, having, orderBy, offset, fetch⟩ := s
  simp only [SelectItem.mk.sizeOf_spec, SelectQuery.mk.sizeOf_spec] at first ⊢
  omega

/-- A row value and a set operation are not compared without a native comparison. -/
theorem Predicate.draft_of_setOperation {xs : List Expression} {op : ComparisonOperator} {g : SetQuery}
    (emulated : ctx.dialect.capabilities.rowValuesWithSubquery = false) :
    (Predicate.comparison (.tuple xs) op (.subquery (.set g))).draft ctx =
      .refuse (.unsupported .tupleAgainstSetOperation ctx.dialect) := by
  rw [draft_comparison_tuple, Predicate.draft, Query.form_set]
  simp only [QueryForm.operand, Dialect.compareWithSubquery, Dialect.rowWithSubquery, emulated]
  rfl

/-- Two row values are compared component by component without a native comparison. -/
theorem Predicate.draft_of_rows {xs ys : List Expression} {op : ComparisonOperator} (lengths : xs.length = ys.length)
    (looks : ctx.dialect.overlooks (.tuple xs) op (.tuple ys) = false)
    (emulated : ctx.dialect.capabilities.rowValues = false) :
    (Predicate.comparison (.tuple xs) op (.tuple ys)).draft ctx = checkedRowComparison op false xs.length ys.length
      ((xs.zip ys).map fun c op => (Predicate.ofPair op c).draft ctx) := by
  have left : (operands ctx xs).length = xs.length := by rw [operands_eq_map, List.length_map]
  have right : (operands ctx ys).length = ys.length := by rw [operands_eq_map, List.length_map]
  rw [draft_of_not_overlooks ctx looks, Expression.operand_tuple, Dialect.standardFrom]
  simp only [Bool.false_eq_true, if_false, left, right, emulated, if_neg (not_not.2 lengths), compareEach_operands]

/-- A comparison that is not written as a test is refused, or is one of rows that are taken apart. -/
theorem Predicate.draft_of_comparisonTest?_eq_none {lhs rhs : Expression} {op : ComparisonOperator}
    (none : ctx.dialect.comparisonTest? lhs op rhs = none) :
    (∃ cause, (Predicate.comparison lhs op rhs).draft ctx = .refuse cause) ∨
    (∃ xs ys, lhs = .tuple xs ∧ rhs = .tuple ys ∧
      (Predicate.comparison lhs op rhs).draft ctx = checkedRowComparison op false xs.length ys.length
        ((xs.zip ys).map fun c op => (Predicate.ofPair op c).draft ctx)) ∨
    ∃ xs s, lhs = .tuple xs ∧ rhs = .subquery (.select s) ∧
      (Predicate.comparison lhs op rhs).draft ctx =
        ctx.dialect.existsComparison ((s.form ctx).frame ctx.dialect)
          (checkedRowComparison op.inverted ctx.dialect.indexesRows s.items.length xs.length
            (((s.items.map (·.expression)).zip xs).map fun c op => (Predicate.ofPair op c).draft ctx)) := by
  rw [Dialect.comparisonTest?, Option.orElse_eq_orElse, Option.orElse_eq_or, Option.or_eq_none_iff] at none
  obtain ⟨noSpelling, notAsIs⟩ := none
  replace notAsIs : ctx.dialect.comparesAsIs lhs rhs = false := by
    cases asIs : ctx.dialect.comparesAsIs lhs rhs with
    | true => simp [asIs] at notAsIs
    | false => rfl
  have mismatch (h : lhs.Mismatches rhs) (looks : ctx.dialect.overlooks lhs op rhs = false) :
      ∃ cause, (Predicate.comparison lhs op rhs).draft ctx = .refuse cause := ⟨_, h.draft_eq_refuse ctx looks⟩
  cases rhs with
  | tuple ys =>
    have looks : ctx.dialect.overlooks lhs op (.tuple ys) = false := by
      rw [← Dialect.isSome_peculiarTest?, noSpelling]
      rfl
    cases lhs with
    | tuple xs =>
      by_cases lengths : xs.length = ys.length
      · have emulated : ctx.dialect.capabilities.rowValues = false := by
          simpa [Dialect.comparesAsIs, lengths] using notAsIs
        exact .inr (.inl ⟨xs, ys, rfl, rfl, draft_of_rows lengths looks emulated⟩)
      · exact .inl (mismatch (.lengths lengths) looks)
    | subquery q =>
      refine .inl ⟨.invalidExpression .tupleWithScalar, ?_⟩
      obtain ⟨draft, frame, items, form⟩ := QueryForm.operand_eq ctx.dialect q.type? (q.form ctx)
      rw [draft_of_not_overlooks ctx looks, Expression.operand, form]
      rfl
    | _ => exact .inl (mismatch (.singleLeft rfl) looks)
  | subquery q =>
    cases lhs with
    | tuple xs =>
      cases q with
      | select s =>
        have drafted := draft_tupleSubquery ctx xs op s notAsIs
        rw [← draft_comparison_tuple] at drafted
        simp only at drafted
        split at drafted
        · exact .inl ⟨_, drafted⟩
        · split at drafted
          · exact .inl ⟨_, drafted⟩
          · exact .inr (.inr ⟨xs, s, rfl, rfl, drafted⟩)
      | set g => exact .inl ⟨_, draft_of_setOperation notAsIs⟩
    | _ => cases notAsIs
  | _ =>
    cases lhs with
    | tuple xs => exact .inl (mismatch (.singleRight rfl) rfl)
    | _ => cases notAsIs

/-- The components of a row value are put together from what it is put together from. -/
theorem Expression.madeOf_component {xs : List Expression}
    (h : ((Expression.tuple xs).operand ctx).MadeOf ctx.dialect S) {e : Expression} (he : e ∈ xs) :
    (e.operand ctx).MadeOf ctx.dialect S := by
  rw [operand_tuple, operands_eq_map] at h
  exact h.components _ (List.mem_map_of_mem he)

/-- A comparison has a property of tests, as far as it is not taken apart, and its components have it. -/
theorem TestsHave.comparison (tests : TestsHave ctx S) (lhs : Expression) (op : ComparisonOperator)
    (rhs : Expression) (left : (lhs.operand ctx).MadeOf ctx.dialect S)
    (right : (rhs.operand ctx).MadeOf ctx.dialect S) :
    ((Predicate.comparison lhs op rhs).draft ctx).MadeOf ctx.dialect S := by
  cases test : ctx.dialect.comparisonTest? lhs op rhs with
  | some t =>
    exact .part (tests (p := .comparison lhs op rhs) test
      (List.forall_mem_cons.2 ⟨left, List.forall_mem_singleton.2 right⟩))
  | none =>
    obtain ⟨cause, drafted⟩ | ⟨xs, ys, hl, hr, drafted⟩ | ⟨xs, s, hl, hr, drafted⟩ :=
      Predicate.draft_of_comparisonTest?_eq_none test
    · rw [drafted]
      exact .refuse cause
    · rw [drafted]
      rw [hl] at left
      rw [hr] at right
      refine madeOf_checkedRowComparison _ _ _ _ (comparatorsMadeOf_ofPair fun c hc op => ?_)
      have hx := (List.of_mem_zip hc).1
      have hy := (List.of_mem_zip hc).2
      exact tests.comparison c.1 op c.2 (Expression.madeOf_component left hx)
        (Expression.madeOf_component right hy)
    · rw [drafted]
      rw [hl] at left
      rw [hr, Expression.operand, Query.form_select] at right
      cases right with
      | subquery _ frame items =>
        rw [SelectQuery.form, selectItems_operands, operands_eq_map] at items
        refine .part (frame _ rfl _ (madeOf_checkedRowComparison _ _ _ _ (comparatorsMadeOf_ofPair fun c hc op => ?_)))
        have hitem := (List.of_mem_zip hc).1
        have hx := (List.of_mem_zip hc).2
        exact tests.comparison c.1 op c.2 (items _ (List.mem_map_of_mem hitem))
          (Expression.madeOf_component left hx)
-- The components of a row value are smaller than it is, and the items of a subquery are smaller than the subquery.
termination_by sizeOf lhs + sizeOf rhs
decreasing_by
  · have first := List.sizeOf_lt_of_mem hx
    have second := List.sizeOf_lt_of_mem hy
    simp only [hl, hr, Expression.tuple.sizeOf_spec]
    omega
  · have first := List.sizeOf_lt_of_mem hx
    have second := s.sizeOf_lt_of_mem_items hitem
    simp only [hl, hr, Expression.tuple.sizeOf_spec, Expression.subquery.sizeOf_spec, Query.select.sizeOf_spec]
    omega

theorem Dialect.madeOf_arrayMembership_of_none {d : Dialect} {test : Expression} {array : RightSide} {negated : Bool}
    (none : d.arrayTest? test array negated = none) (x y : Draft) :
    (d.arrayMembership x y negated).MadeOf d S := by
  cases d with
  | mysql => exact .refuse _
  | ansi | postgres | hsql => cases none

theorem TranslationContext.madeOf_inMultiValued_of_none {test : Expression} {name : String} {element : ResolvedType}
    {negated : Bool} (none : ctx.multiValuedTest? test name element negated = none) (x : Draft) :
    (ctx.inMultiValued x name element negated).MadeOf ctx.dialect S := by
  rw [multiValuedTest?] at none
  rw [inMultiValued]
  by_cases arrays : ctx.bindsArrays = true
  · rw [if_pos arrays] at none ⊢
    exact Dialect.madeOf_arrayMembership_of_none none _ _
  · rw [if_neg arrays] at none ⊢
    cases known : ctx.boundLength? name with
    | none => exact .refuse _
    | some n =>
      rw [known] at none
      cases n with
      | zero => exact madeOf_emptyInList negated
      | succ n => cases none

/-- Membership in a list has a property of tests, as far as it is not taken apart, and comparisons with the rows
of the list have it. -/
theorem TestsHave.inList (tests : TestsHave ctx S) {test : Expression} {list : List Expression} {negated : Bool}
    (sides : ∀ e ∈ test :: list, (e.operand ctx).MadeOf ctx.dialect S) :
    (ctx.inList (test.operand ctx) (operands ctx list) negated).MadeOf ctx.dialect S := by
  cases written : ctx.listTest? test list negated with
  | some t => exact .part (tests (p := .inList test list negated) written sides)
  | none =>
    obtain ⟨-, -, drafted⟩ | ⟨name, type, -, same, drafted⟩ | ⟨-, same, drafted⟩ :=
      ctx.listTest?_cases test list negated
    · rw [drafted]
      exact madeOf_emptyInList negated
    · rw [drafted]
      exact ctx.madeOf_inMultiValued_of_none (same.symm.trans written) _
    · rw [same] at written
      rw [drafted]
      split at written
      · next apart =>
        obtain ⟨row, emulated⟩ := Bool.and_eq_true_iff.1 apart
        cases test with
        | tuple xs =>
          obtain ⟨left, items⟩ := List.forall_mem_cons.1 sides
          rw [Expression.operand_tuple, TranslationContext.inListOfItems, if_neg (by simpa using emulated)]
          refine madeOf_parens (TranslationContext.madeOf_rowItems _ .empty fun values hvalues => ?_)
          rw [operands_eq_map] at hvalues
          obtain ⟨e, he, operand⟩ := List.mem_map.1 hvalues
          obtain ⟨ys, rfl, rfl⟩ := Expression.eq_tuple_of_operand operand
          rw [Dialect.compareRows, compareEach_operands]
          refine madeOf_checkedRowComparison _ _ _ _ (comparatorsMadeOf_ofPair fun c hc op => ?_)
          have hx := (List.of_mem_zip hc).1
          have hy := (List.of_mem_zip hc).2
          exact tests.comparison c.1 op c.2 (Expression.madeOf_component left hx)
            (Expression.madeOf_component (items _ he) hy)
        | _ => cases row
      · next kept =>
        rw [ctx.inListOfItems_eq_inItems (Bool.eq_false_iff.2 kept)]
        rw [TranslationContext.itemsTest?] at written
        rw [TranslationContext.inItems]
        cases bound : if ctx.bindsArrays then arrayOfList? (operands ctx list) else Option.none with
        | some found =>
          rw [bound] at written
          exact Dialect.madeOf_arrayMembership_of_none written _ _
        | none =>
          rw [bound] at written
          cases written

/-- A property of all tests is one of all conditions that are tests or are taken apart into tests. -/
theorem TestsHave.testsMadeOf (tests : TestsHave ctx S) : TestsMadeOf ctx S := by
  intro p test sides
  cases p with
  | comparison lhs op rhs =>
    obtain ⟨left, right⟩ := List.forall_mem_cons.1 sides
    exact tests.comparison lhs op rhs left (right rhs List.mem_cons_self)
  | inList e list negated => exact tests.inList sides
  | inArray e array negated =>
    cases array with
    | none => exact madeOf_emptyInList negated
    | some array =>
      cases written : ctx.dialect.arrayTest? e (.expressions [array]) negated with
      | some t => exact .part (tests (p := .inArray e (some array) negated) written sides)
      | none => exact Dialect.madeOf_arrayMembership_of_none written _ _
  | tupleSubquery row op query =>
    obtain ⟨left, right⟩ := List.forall_mem_cons.1 sides
    rw [← draft_comparison_tuple]
    exact tests.comparison _ op _ left (right _ List.mem_cons_self)
  | _ => cases test

theorem testsMadeOf_operatorsInTests : TestsMadeOf ctx (OperatorsInTests ctx) :=
  TestsHave.testsMadeOf fun _ _ test sides => Predicate.operatorsInTests_of_test? test sides

end TakenApart

/-! ## Statements -/

namespace Statement

variable (ctx : TranslationContext) (s : Statement)

theorem operatorsInTests : (s.draft ctx).OperatorsInTests ctx := by
  refine hereditary_operatorsInTests.statement testsMadeOf_operatorsInTests ?_ s
  intro text operator page here reached
  cases reached

variable {ctx s}

/-- Every operator on the page is that of a test, which is reached in the course of the translation, and stands
where ends what is in front of the operator in this test. -/
theorem test_of_operator {text : String} {i : Nat} (written : (s.page ctx).tokens[i]? = some (.raw text))
    (operator : text ∈ ctx.dialect.operatorTexts) :
    ∃ (p : Predicate) (t : Test) (there : Page), (s.draft ctx).CarriesOut .blank (p.draft ctx) there ∧
      p.test? ctx = some t ∧ t.operator = text ∧ i = ((t.front ctx).run there).2.tokens.size := by
  have page : ((s.draft ctx).run .blank).2 = s.page ctx := congrArg Prod.snd (s.run_draft ctx)
  have ne : Token.raw text ≠ .placeholder := nofun
  rw [← page] at written
  obtain ⟨here, reached, rfl⟩ := exists_carriesOut_of_getElem? ne (Nat.zero_le i) written
  obtain ⟨p, t, there, onTheWay, test, same, rfl⟩ := s.operatorsInTests ctx operator reached
  exact ⟨p, t, there, onTheWay, test, same, rfl⟩

/-- A condition that is reached in the course of a translation that succeeds is written in full. -/
theorem written_of_carriesOut {op : Operation} (success : s.translate ctx = .ok op) {x : Draft} {there : Page}
    (reached : (s.draft ctx).CarriesOut .blank x there) :
    x.refusal? there.mode there.depth = none ∧
      there.tokens.toList ++ x.tokens there.mode there.depth <+: (s.page ctx).tokens.toList := by
  have whole := s.run_draft ctx
  have done : (x.run there).1 = none := by
    cases outcome : (x.run there).1 with
    | none => rfl
    | some cause =>
      have failed := reached.failed outcome
      rw [whole, (of_translate_eq_ok success).1] at failed
      cases failed
  constructor
  · rwa [run_eq] at done
  · have stays := reached.written.tokens
    rwa [whole, run_eq, Page.tokens_writeAll] at stays

/-- The parameters that are recorded on the way stay in the operation, behind those of what was written before. -/
theorem recorded_of_carriesOut {op : Operation} (success : s.translate ctx = .ok op) {x : Draft} {there : Page}
    (reached : (s.draft ctx).CarriesOut .blank x there) :
    there.parameters.toList ++ (x.writes there.mode there.depth).filterMap Write.recorded? <+: op.parameters := by
  have stays := reached.written.parameters
  rwa [s.run_draft ctx, run_eq, Page.parameters_writeAll, ← (of_translate_eq_ok success).2.2] at stays

end Statement

end SqlDialects
