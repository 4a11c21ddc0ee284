import SqlDialects.Proofs.Test.Operators

/-!
# Row values in the tests of HSQL

HSQL cannot compare row values, so conditions with row values are taken apart into comparisons of components,
or refused. There are four kinds of conditions for which that is not done (`Predicate.KeepsRow`): a comparison of
a typed operand with a row value behind it, where the type or the operator has a spelling of its own; membership
in an array; membership in a list that is bound to a parameter; and membership of a single value in a list with
row values. A test on the page has a row value as an operand if it is that of such a condition, and otherwise
not (`Statement.rows_in_tests`).
-/

theorem List.exists_of_mem_mapM {α β : Type} {f : α → Option β} {as : List α} {bs : List β}
    (h : as.mapM f = some bs) {a : α} (ha : a ∈ as) : ∃ b, f a = some b := by
  induction as generalizing bs with
  | nil => cases ha
  | cons first as ih =>
    rw [List.mapM_cons, Option.bind_eq_bind, Option.bind_eq_some_iff] at h
    obtain ⟨b, hb, h⟩ := h
    obtain ⟨rest, hrest, -⟩ := Option.bind_eq_some_iff.1 h
    rcases List.mem_cons.1 ha with rfl | ha
    · exact ⟨b, hb⟩
    · exact ih hrest ha

namespace SqlDialects

open Draft

/-- The condition is written for HSQL with a row value as an operand. -/
inductive Predicate.KeepsRow (ctx : TranslationContext) : Predicate → Prop where
  | comparison {lhs : Expression} {op : ComparisonOperator} {ys : List Expression} :
    Dialect.hsql.overlooks lhs op (.tuple ys) = true → KeepsRow ctx (.comparison lhs op (.tuple ys))
  | array {test array : Expression} {negated : Bool} : test.isRow = true ∨ array.isRow = true →
    KeepsRow ctx (.inArray test (some array) negated)
  | bound {test : Expression} {name : String} {type : ResolvedType} {negated : Bool} : test.isRow = true →
    ctx.bindsArrays = true ∨ (∃ n, ctx.boundLength? name = some (n + 1)) →
    KeepsRow ctx (.inList test [.parameter name type true] negated)
  | items {test : Expression} {list : List Expression} {negated : Bool} : test.isRow = false →
    (∃ e ∈ list, e.isRow = true) → KeepsRow ctx (.inList test list negated)

section Sides

variable {ctx : TranslationContext} {t : Test} {list : List Expression}

theorem Expression.eq_tuple_of_isRow {e : Expression} (h : e.isRow = true) : ∃ es, e = .tuple es := by
  cases e with
  | tuple es => exact ⟨es, rfl⟩
  | _ => cases h

theorem Test.hasRow_iff : t.hasRow = true ↔ ∃ e ∈ t.operands, e.isRow = true := List.any_eq_true

/-- Nothing in a list that is bound as an array is a row value. -/
theorem not_isRow_of_arrayOfList? {found : ParameterSource × ResolvedType}
    (h : arrayOfList? (operands ctx list) = some found) : ∀ e ∈ list, ¬e.isRow = true := by
  intro e he row
  obtain ⟨es, rfl⟩ := e.eq_tuple_of_isRow row
  unfold arrayOfList? at h
  simp only [Option.bind_eq_bind, Option.bind_eq_some_iff] at h
  obtain ⟨first, -, type, -, h⟩ := h
  split at h
  · cases h
  · obtain ⟨items, hitems, -⟩ := Option.bind_eq_some_iff.1 h
    rw [operands_eq_map] at hitems
    obtain ⟨item, hitem⟩ := List.exists_of_mem_mapM hitems (List.mem_map_of_mem he)
    rw [Expression.operand_tuple] at hitem
    cases hitem

theorem TranslationContext.hasRow_of_listTest? {test : Expression} {negated : Bool}
    (h : ctx.listTest? test list negated = some t) :
    t.hasRow = true ↔ ∃ e ∈ test :: list, e.isRow = true := by
  rw [Test.hasRow_iff]
  obtain ⟨-, none, -⟩ | ⟨name, type, rfl, same, -⟩ | ⟨-, same, -⟩ := ctx.listTest?_cases test list negated
  · rw [none] at h
    cases h
  · rw [same] at h
    simp [operands_of_multiValuedTest? h, Expression.isRow]
  · rw [same] at h
    split at h
    · cases h
    · unfold itemsTest? at h
      split at h
      · next found bound =>
        split at bound
        · have single : ∀ e ∈ list, e.isRow = false := fun e he =>
            Bool.eq_false_iff.2 (not_isRow_of_arrayOfList? bound e he)
          simpa [Dialect.operands_of_arrayTest? h, RightSide.operands] using fun e he row =>
            absurd row (Bool.eq_false_iff.1 (single e he))
        · cases bound
      · cases h
        rfl

/-- A test has a row value as an operand if the condition tests one. -/
theorem Predicate.hasRow_of_test? {p : Predicate} (h : p.test? ctx = some t) :
    t.hasRow = true ↔ ∃ e ∈ p.sides, e.isRow = true := by
  unfold test? at h
  split at h
  · rw [Test.hasRow_iff, Dialect.operands_of_comparisonTest? h, sides]
  · exact TranslationContext.hasRow_of_listTest? h
  · rw [Test.hasRow_iff, Dialect.operands_of_arrayTest? h]
    rfl
  · rw [Test.hasRow_iff, Dialect.operands_of_comparisonTest? h, sides]
  · cases h

end Sides

section Hsql

variable {ctx : TranslationContext} {test lhs rhs : Expression} {list : List Expression}
  {op : ComparisonOperator} {negated : Bool}

/-- HSQL compares no row value as it is. -/
theorem Dialect.not_isRow_of_comparesAsIs (h : hsql.comparesAsIs lhs rhs = true) :
    ¬(lhs.isRow = true ∨ rhs.isRow = true) := by
  rintro (left | right)
  · obtain ⟨xs, rfl⟩ := lhs.eq_tuple_of_isRow left
    cases rhs <;> cases h
  · obtain ⟨ys, rfl⟩ := rhs.eq_tuple_of_isRow right
    cases lhs <;> cases h

variable (hsql : ctx.dialect = .hsql)
include hsql

/-! ### Conditions of the four kinds -/

theorem Predicate.exists_test_of_overlooks {ys : List Expression} (h : Dialect.hsql.overlooks lhs op (.tuple ys) = true) :
    ∃ t, (Predicate.comparison lhs op (.tuple ys)).test? ctx = some t := by
  rw [← hsql, ← Dialect.isSome_peculiarTest?] at h
  obtain ⟨t, own⟩ := Option.isSome_iff_exists.1 h
  exact ⟨t, by rw [test?, Dialect.comparisonTest?, own]; rfl⟩

theorem Predicate.exists_test_of_array (array : Expression) :
    ∃ t, (Predicate.inArray test (some array) negated).test? ctx = some t := by
  rw [test?, hsql]
  exact ⟨_, rfl⟩

theorem Predicate.exists_test_of_bound {name : String} {type : ResolvedType}
    (h : ctx.bindsArrays = true ∨ ∃ n, ctx.boundLength? name = some (n + 1)) :
    ∃ t, (Predicate.inList test [.parameter name type true] negated).test? ctx = some t := by
  rw [test?, TranslationContext.listTest?.eq_def]
  simp only [TranslationContext.multiValuedTest?]
  split
  · rw [hsql]
    exact ⟨_, rfl⟩
  · next written =>
    obtain ⟨n, known⟩ := h.resolve_left written
    rw [known]
    exact ⟨_, rfl⟩

theorem Predicate.exists_test_of_items (single : test.isRow = false) (row : ∃ e ∈ list, e.isRow = true) :
    ∃ t, (Predicate.inList test list negated).test? ctx = some t := by
  obtain ⟨e, he, row⟩ := row
  rw [test?]
  obtain ⟨rfl, -, -⟩ | ⟨name, type, rfl, -, -⟩ | ⟨several, same, -⟩ := ctx.listTest?_cases test list negated
  · cases he
  · rw [List.mem_singleton.1 he] at row
    cases row
  · rw [same, single, Bool.false_and, if_neg nofun, TranslationContext.itemsTest?]
    split
    · rw [hsql]
      exact ⟨_, rfl⟩
    · exact ⟨_, rfl⟩

/-! ### Conditions that are written with a row value -/

theorem Predicate.keepsRow_of_comparison {t : Test} (h : (Predicate.comparison lhs op rhs).test? ctx = some t)
    (row : lhs.isRow = true ∨ rhs.isRow = true) : (Predicate.comparison lhs op rhs).KeepsRow ctx := by
  rw [test?, Dialect.comparisonTest?, Option.orElse_eq_orElse, Option.orElse_eq_or, Option.or_eq_some_iff] at h
  obtain own | ⟨-, asIs⟩ := h
  · rcases row with left | right
    · obtain ⟨xs, rfl⟩ := lhs.eq_tuple_of_isRow left
      rw [Dialect.peculiarTest?_tuple] at own
      cases own
    · obtain ⟨ys, rfl⟩ := rhs.eq_tuple_of_isRow right
      refine .comparison ?_
      rw [← hsql, ← Dialect.isSome_peculiarTest?, own]
      rfl
  · split at asIs
    · next same =>
      rw [hsql] at same
      exact absurd row (Dialect.not_isRow_of_comparesAsIs same)
    · cases asIs

theorem Predicate.keepsRow_of_inList {t : Test} (h : (Predicate.inList test list negated).test? ctx = some t)
    (row : ∃ e ∈ test :: list, e.isRow = true) : (Predicate.inList test list negated).KeepsRow ctx := by
  rw [test?] at h
  obtain ⟨-, none, -⟩ | ⟨name, type, rfl, same, -⟩ | ⟨-, same, -⟩ := ctx.listTest?_cases test list negated
  · rw [none] at h
    cases h
  · have row : test.isRow = true := by simpa [Expression.isRow] using row
    refine .bound row ?_
    rw [same] at h
    unfold TranslationContext.multiValuedTest? at h
    split at h
    · next arrays => exact .inl arrays
    · split at h
      · cases h
      · cases h
      · next n positive known =>
        obtain ⟨m, rfl⟩ := Nat.exists_eq_succ_of_ne_zero positive
        exact .inr ⟨m, known⟩
  · rw [same] at h
    split at h
    · cases h
    · next kept =>
      have single : ¬test.isRow = true := by simpa [hsql, Dialect.capabilities] using kept
      obtain ⟨e, he, row⟩ := row
      refine .items (Bool.eq_false_iff.2 single) ⟨e, ?_, row⟩
      rcases List.mem_cons.1 he with rfl | he
      · exact absurd row single
      · exact he

/-- HSQL has no test that compares a row value with a subquery. -/
theorem Predicate.test?_tupleSubquery (row : List Expression) (op : ComparisonOperator) (query : Query) :
    (Predicate.tupleSubquery row op query).test? ctx = none := by
  rw [test?, Dialect.comparisonTest?, Dialect.peculiarTest?_tuple, hsql]
  rfl

/-- Among the conditions that test row values, those of the four kinds are written as a test. -/
theorem Predicate.keepsRow_iff (p : Predicate) :
    p.KeepsRow ctx ↔ (∃ e ∈ p.sides, e.isRow = true) ∧ ∃ t, p.test? ctx = some t := by
  constructor
  · intro kept
    cases kept with
    | comparison overlooked =>
      exact ⟨⟨_, List.mem_cons_of_mem _ List.mem_cons_self, rfl⟩, exists_test_of_overlooks hsql overlooked⟩
    | @array e array negated row =>
      exact ⟨by simpa [sides] using row, exists_test_of_array hsql array⟩
    | bound row list => exact ⟨⟨_, List.mem_cons_self, row⟩, exists_test_of_bound hsql list⟩
    | items single row =>
      obtain ⟨e, he, isRow⟩ := row
      exact ⟨⟨e, List.mem_cons_of_mem _ he, isRow⟩, exists_test_of_items hsql single ⟨e, he, isRow⟩⟩
  · rintro ⟨row, t, test⟩
    cases p with
    | comparison lhs op rhs => exact keepsRow_of_comparison hsql test (by simpa [sides] using row)
    | inList e list negated => exact keepsRow_of_inList hsql test row
    | inArray e array negated =>
      cases array with
      | none => cases test
      | some array => exact .array (by simpa [sides] using row)
    | tupleSubquery xs op query =>
      rw [test?_tupleSubquery hsql] at test
      cases test
    | _ => cases test

end Hsql

/-! ## Statements -/

/-- What a translation for HSQL has in its tests. Every operator on the page is that of a test, and the test has
a row value as an operand if its condition is of one of the four kinds, and not otherwise. A condition over row
values is written as a test, in full and where it is reached, if it is of one of these kinds; otherwise it is no
test, and what is written for it are the tests of other conditions, into which it was taken apart. -/
theorem Statement.rows_in_tests {ctx : TranslationContext} {s : Statement} {op : Operation}
    (hsql : ctx.dialect = .hsql) (success : s.translate ctx = .ok op) :
    Token.textOfAll .hsql (s.page ctx).tokens.toList = .ok op.sql ∧
    (∀ (i : Nat) (text : String), (s.page ctx).tokens[i]? = some (.raw text) → text ∈ Dialect.hsql.operatorTexts →
      ∃ (p : Predicate) (t : Test) (there : Page), (s.draft ctx).CarriesOut .blank (p.draft ctx) there ∧
        p.test? ctx = some t ∧ t.operator = text ∧ i = ((t.front ctx).run there).2.tokens.size ∧
        (t.hasRow = true ↔ p.KeepsRow ctx)) ∧
    ∀ (p : Predicate) (there : Page), (s.draft ctx).CarriesOut .blank (p.draft ctx) there →
      (∃ e ∈ p.sides, e.isRow = true) →
      (p.KeepsRow ctx → ∃ t, p.test? ctx = some t ∧ t.hasRow = true ∧ p.draft ctx = t.draft ctx ∧
        there.tokens.toList ++ (t.draft ctx).tokens there.mode there.depth <+: (s.page ctx).tokens.toList) ∧
      (¬p.KeepsRow ctx → p.test? ctx = none) := by
  refine ⟨?_, fun i text written operator => ?_, fun p there reached row => ⟨fun kept => ?_, fun lost => ?_⟩⟩
  · have text := (of_translate_eq_ok success).2.1
    rwa [hsql] at text
  · rw [← hsql] at operator
    obtain ⟨p, t, there, reached, test, same, place⟩ := test_of_operator written operator
    refine ⟨p, t, there, reached, test, same, place, ?_⟩
    rw [Predicate.hasRow_of_test? test, p.keepsRow_iff hsql]
    exact ⟨fun row => ⟨row, t, test⟩, And.left⟩
  · obtain ⟨-, t, test⟩ := (p.keepsRow_iff hsql).1 kept
    have form := p.draft_of_test? ctx test
    have stays := (written_of_carriesOut success reached).2
    rw [form] at stays
    exact ⟨t, test, (Predicate.hasRow_of_test? test).2 row, form, stays⟩
  · cases test : p.test? ctx with
    | none => rfl
    | some t => exact absurd ((p.keepsRow_iff hsql).2 ⟨row, t, test⟩) lost

/-- The condition that a row value is in an array. -/
def Predicate.pairInArray : Predicate :=
  .inArray (.tuple [.column none "a" none, .column none "b" none]) (some (.column none "pairs" none)) false

/-- A query for the rows in which a row value is in an array. -/
def SelectQuery.asksForPair : SelectQuery where
  items := [⟨.column none "id" none, none⟩]
  tables := [⟨"t", none⟩]
  filter := some .pairInArray

/-- HSQL is asked whether a row value is in an array, and the row value stands in front of the operator. -/
theorem Statement.rows_in_tests_of_asksForPair :
    let ctx := TranslationContext.ofDialect .hsql
    let s := Statement.select (.select .asksForPair)
    let front : List Token := [.keyword .select, .space, .qualifiedName none "id", .space, .keyword .fromWord,
      .space, .name "t", .space, .keyword .whereWord, .space]
    (∃ op, s.translate ctx = .ok op) ∧ ∃ t, Predicate.pairInArray.test? ctx = some t ∧ t.hasRow = true ∧
      front ++ (t.draft ctx).tokens .plain 0 <+: (s.page ctx).tokens.toList := by
  intro ctx s front
  have reached : (s.draft ctx).CarriesOut .blank (Predicate.pairInArray.draft ctx) ⟨front.toArray, #[], [], 0⟩ := by
    refine .second rfl (.second rfl ?_)
    exact .first (.first (.first (.first (.second rfl (.second rfl (.itself _ _))))))
  have hsql : ctx.dialect = .hsql := rfl
  have success : s.translate ctx = .ok _ := rfl
  obtain ⟨-, -, conditions⟩ := rows_in_tests hsql success
  obtain ⟨t, test, row, -, written⟩ := (conditions _ _ reached ⟨_, List.mem_cons_self, rfl⟩).1 (.array (.inl rfl))
  exact ⟨⟨_, rfl⟩, t, test, row, written⟩

end SqlDialects
