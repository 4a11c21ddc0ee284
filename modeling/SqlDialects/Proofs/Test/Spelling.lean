import SqlDialects.Proofs.Row.Mismatch

/-!
# Tests as they are written

A condition that compares expressions, or asks whether one is in a list or an array, is a test. Unless it is
refused or taken apart, one operator is written for it, between its operands and in one of a few spellings
(`Test.draft`). Which test that is depends on the dialect, on types, and on what is bound how
(`Predicate.test?`), and what is drafted for the condition is that test (`Predicate.draft_of_test?`).
-/

namespace SqlDialects

open Draft

/-- What a test has around its operator and its operands. -/
inductive Spelling where
  | bare
  /-- A parenthesis behind the right side. -/
  | bracketed
  /-- A closing text behind the right side. -/
  | closed
  /-- A text that closes twice. -/
  | doublyClosed
  /-- The whole is turned into its opposite. -/
  | negated
  /-- Parameters in the operands have their types, and there are blanks around the operator. -/
  | typed

/-- What stands on the right of a test. -/
inductive RightSide where
  | expressions (es : List Expression)
  /-- A placeholder for a whole array. -/
  | array (p : Parameter)
  /-- Placeholders for the elements of a value. -/
  | elements (ps : List Parameter)

namespace RightSide

/-- The expressions on the right. -/
def operands : RightSide → List Expression
  | expressions es => es
  | _ => []

/-- What stands on the right, one by one. -/
def drafts (ctx : TranslationContext) : RightSide → List Draft
  | expressions es => es.map fun e => (e.operand ctx).draft
  | array p => [placeholder p]
  | elements ps => ps.map (parameter ctx.dialect)

end RightSide

/-- A test as it is written. -/
structure Test where
  left : Expression
  operator : String
  right : RightSide
  spelling : Spelling := .bare

namespace Test

variable (ctx : TranslationContext) (t : Test)

/-- The expressions on both sides. -/
def operands : List Expression := t.left :: t.right.operands

/-- One of the operands is a row value. -/
def hasRow : Bool := t.operands.any (·.isRow)

/-- What stands on the right, separated by commas. -/
def items : Draft := listed (t.right.drafts ctx)

/-- What stands in front of the operator. -/
def front : Draft :=
  match t.spelling with
  | .negated => raw "not(" ++ (t.left.operand ctx).draft
  | .typed => inMode .typed (t.left.operand ctx).draft ++ raw " "
  | _ => (t.left.operand ctx).draft

/-- What stands behind the operator. -/
def back : List Draft :=
  match t.spelling with
  | .bare => [t.items ctx]
  | .bracketed => [t.items ctx, token .rightParen]
  | .closed => [t.items ctx, raw ")"]
  | .doublyClosed => [t.items ctx, raw "))"]
  | .negated => [t.items ctx, raw ")"]
  | .typed => [raw " ", inMode .typed (t.items ctx)]

/-- The test as it is written. -/
def draft : Draft := (t.back ctx).foldl append (t.front ctx ++ raw t.operator)

end Test

/-! ## The test of a condition -/

namespace Dialect

variable (d : Dialect)

/-- The operands are compared as they are. -/
def comparesAsIs : Expression → Expression → Bool
  | .tuple xs, .tuple ys => d.capabilities.rowValues && xs.length == ys.length
  | .tuple _, .subquery _ => d.capabilities.rowValuesWithSubquery
  | .tuple _, _ => false
  | _, .tuple _ => false
  | _, _ => true

/-- The test that a comparison is in a spelling that is peculiar to the dialect. -/
def peculiarTest? (lhs : Expression) (op : ComparisonOperator) (rhs : Expression) : Option Test :=
  match d with
  | hsql =>
    match lhs.type? with
    | none => none
    | some type =>
      if type.descriptor.hasArrayCode && op.isEquality then
        some ⟨lhs, if op = .equal then " IN(" else " NOT IN(", .expressions [rhs], .closed⟩
      else if op.isDistinction then
        some (if type.descriptor.isArrayCapable then
          ⟨lhs, if op = .distinctFrom then "<>" else "=", .expressions [rhs], .bare⟩
        else ⟨lhs, op.text, .expressions [rhs], .typed⟩)
      else none
  | mysql =>
    if op.isDistinction && !(lhs.isRow || rhs.isRow) then
      some ⟨lhs, " <=> ", .expressions [rhs], if op = .distinctFrom then .negated else .bare⟩
    else none
  | _ => none

/-- The test that is written for a comparison. -/
def comparisonTest? (lhs : Expression) (op : ComparisonOperator) (rhs : Expression) : Option Test :=
  d.peculiarTest? lhs op rhs <|>
    if d.comparesAsIs lhs rhs then some ⟨lhs, op.spacedText, .expressions [rhs], .bare⟩ else none

/-- The test for membership in an array. -/
def arrayTest? (test : Expression) (array : RightSide) (negated : Bool) : Option Test :=
  match d with
  | mysql => none
  | hsql => some ⟨test, if negated then " NOT IN(UNNEST(" else " IN(UNNEST(", array, .doublyClosed⟩
  | _ => some ⟨test, if negated then " <> ALL(" else " = ANY(", array, .bracketed⟩

end Dialect

/-- The test for membership in a list that is written out. -/
def Test.writtenList (test : Expression) (list : RightSide) (negated : Bool) : Test :=
  ⟨test, if negated then " not in(" else " in(", list, .bracketed⟩

namespace TranslationContext

variable (ctx : TranslationContext)

/-- The test for membership in the elements bound to one parameter. -/
def multiValuedTest? (test : Expression) (name : String) (element : ResolvedType) (negated : Bool) :
    Option Test :=
  if ctx.bindsArrays then ctx.dialect.arrayTest? test (.array ⟨.named name, .arrayOf element⟩) negated
  else match ctx.boundLength? name with
    | none => none
    | some 0 => none
    | some n => some (.writtenList test (.elements ((List.range n).map fun i => ⟨.element name i, element⟩)) negated)

/-- The test for membership in a list of items. -/
def itemsTest? (test : Expression) (list : List Expression) (negated : Bool) : Option Test :=
  match if ctx.bindsArrays then arrayOfList? (operands ctx list) else none with
  | some (source, element) => ctx.dialect.arrayTest? test (.array ⟨source, .arrayOf element⟩) negated
  | none => some (.writtenList test (.expressions list) negated)

/-- The test that is written for membership in a list. -/
def listTest? (test : Expression) (list : List Expression) (negated : Bool) : Option Test :=
  match list with
  | [] => none
  | [.parameter name type true] => ctx.multiValuedTest? test name type negated
  | list =>
    if test.isRow && !ctx.dialect.capabilities.rowValuesInList then none
    else ctx.itemsTest? test list negated

end TranslationContext

/-- The test that is written for a condition, unless it is refused or taken apart. -/
def Predicate.test? (ctx : TranslationContext) : Predicate → Option Test
  | comparison lhs op rhs => ctx.dialect.comparisonTest? lhs op rhs
  | inList test list opposite => ctx.listTest? test list opposite
  | inArray test (some array) opposite => ctx.dialect.arrayTest? test (.expressions [array]) opposite
  | tupleSubquery row op query => ctx.dialect.comparisonTest? (.tuple row) op (.subquery query)
  | _ => none

/-! ## What is drafted for it -/

section Drafts

variable (ctx : TranslationContext) {t : Test}

namespace Dialect

theorem peculiarComparison?_operand (d : Dialect) (lhs : Expression) (op : ComparisonOperator)
    (rhs : Expression) : d.peculiarComparison? (lhs.operand ctx) op (rhs.operand ctx) =
      (d.peculiarTest? lhs op rhs).map (·.draft ctx) := by
  rw [peculiarComparison?.eq_def, peculiarTest?.eq_def]
  cases d with
  | ansi | postgres => rfl
  | mysql =>
    simp only [Expression.isTuple_operand]
    cases lhs.isRow || rhs.isRow
    · cases op <;> rfl
    · simp
  | hsql =>
    simp only [Expression.type?_operand]
    cases lhs.type? with
    | none => rfl
    | some type =>
      simp only
      cases type.descriptor.hasArrayCode <;> cases type.descriptor.isArrayCapable <;> cases op <;> rfl

/-- A row value on the right has a spelling of its own where it is overlooked. -/
theorem isSome_peculiarTest? (lhs : Expression) (op : ComparisonOperator) (ys : List Expression) :
    (ctx.dialect.peculiarTest? lhs op (.tuple ys)).isSome = ctx.dialect.overlooks lhs op (.tuple ys) := by
  rw [← ctx.isSome_peculiarComparison?, ← Expression.operand_tuple, peculiarComparison?_operand, Option.isSome_map]

/-- A row value on the left has none. -/
theorem peculiarTest?_tuple (xs : List Expression) (op : ComparisonOperator) (rhs : Expression) :
    ctx.dialect.peculiarTest? (.tuple xs) op rhs = none := by
  have none := ctx.dialect.peculiarComparison?_tuple (operands ctx xs) op (rhs.operand ctx)
  rwa [← Expression.operand_tuple, peculiarComparison?_operand, Option.map_eq_none_iff] at none

theorem standardCompare_of_not_isTuple (d : Dialect) {x y : Operand} (hx : x.isTuple = false)
    (hy : y.isTuple = false) (op : ComparisonOperator) :
    d.standardCompare x op y = plainComparison x.draft op y.draft := by
  cases x with
  | tuple _ => cases hx
  | scalar _ _ _ | subquery _ _ _ _ =>
    cases y with
    | tuple _ => cases hy
    | _ => rfl

theorem standardCompare_of_comparesAsIs (d : Dialect) {lhs rhs : Expression}
    (asIs : d.comparesAsIs lhs rhs = true) (op : ComparisonOperator) :
    d.standardCompare (lhs.operand ctx) op (rhs.operand ctx) =
      plainComparison (lhs.operand ctx).draft op (rhs.operand ctx).draft := by
  unfold comparesAsIs at asIs
  split at asIs
  · next xs ys =>
    obtain ⟨rows, lengths⟩ := Bool.and_eq_true_iff.1 asIs
    have same : ¬(operands ctx xs).length ≠ (operands ctx ys).length := by
      rw [operands_eq_map, operands_eq_map, List.length_map, List.length_map]
      exact not_not.2 (beq_iff_eq.1 lengths)
    rw [Expression.operand_tuple, Expression.operand_tuple, standardCompare, standardFrom]
    simp only [Bool.false_eq_true, if_false, if_neg same, rows, if_true]
  · next xs q =>
    obtain ⟨draft, frame, items, form⟩ := QueryForm.operand_eq ctx.dialect q.type? (q.form ctx)
    rw [Expression.operand_tuple, Expression.operand, form, standardCompare, standardFrom]
    simp only [Bool.false_eq_true, if_false]
    rw [rowWithSubquery.eq_def, if_pos asIs]
    rfl
  · cases asIs
  · cases asIs
  · next noLeft noRight _ _ =>
    refine standardCompare_of_not_isTuple d ?_ ?_ op
    · rw [Expression.isTuple_operand]
      cases lhs <;> first | rfl | exact (noLeft _ rfl).elim
    · rw [Expression.isTuple_operand]
      cases rhs <;> first | rfl | exact (noRight _ rfl).elim

theorem arrayMembership_of_arrayTest? (d : Dialect) {test : Expression} {array : RightSide} {negated : Bool}
    (h : d.arrayTest? test array negated = some t) :
    d.arrayMembership (test.operand ctx).draft (listed (array.drafts ctx)) negated = t.draft ctx := by
  unfold arrayTest? at h
  cases d with
  | mysql => cases h
  | ansi | postgres | hsql =>
    cases h
    rfl

end Dialect

namespace TranslationContext

theorem inMultiValued_of_multiValuedTest? {test : Expression} {name : String} {element : ResolvedType}
    {negated : Bool} (h : ctx.multiValuedTest? test name element negated = some t) :
    ctx.inMultiValued (test.operand ctx).draft name element negated = t.draft ctx := by
  rw [multiValuedTest?] at h
  rw [inMultiValued]
  by_cases arrays : ctx.bindsArrays = true
  · rw [if_pos arrays] at h ⊢
    exact ctx.dialect.arrayMembership_of_arrayTest? ctx h
  · rw [if_neg arrays] at h ⊢
    cases known : ctx.boundLength? name with
    | none =>
      rw [known] at h
      cases h
    | some n =>
      rw [known] at h
      cases n with
      | zero => cases h
      | succ n =>
        cases h
        rw [Test.draft, Test.writtenList, Test.back, Test.items, Test.front, RightSide.drafts, List.map_map]
        rfl

theorem inItems_of_itemsTest? {test : Expression} {list : List Expression} {negated : Bool}
    (h : ctx.itemsTest? test list negated = some t) :
    ctx.inItems (test.operand ctx) (operands ctx list) negated = t.draft ctx := by
  rw [itemsTest?] at h
  rw [inItems]
  cases bound : if ctx.bindsArrays then arrayOfList? (operands ctx list) else none with
  | some found =>
    obtain ⟨source, element⟩ := found
    rw [bound] at h
    exact ctx.dialect.arrayMembership_of_arrayTest? ctx h
  | none =>
    rw [bound] at h
    cases h
    rw [Operand.drafts_eq_map, operands_eq_map, List.map_map]
    rfl

/-- Membership in a list: none without items, that in the values of a multi-valued parameter, or that in a
list of items. -/
theorem listTest?_cases (test : Expression) (list : List Expression) (negated : Bool) :
    (list = [] ∧ ctx.listTest? test list negated = none ∧
      ctx.inList (test.operand ctx) (operands ctx list) negated = emptyInList negated) ∨
    (∃ name type, list = [.parameter name type true] ∧
      ctx.listTest? test list negated = ctx.multiValuedTest? test name type negated ∧
      ctx.inList (test.operand ctx) (operands ctx list) negated =
        ctx.inMultiValued (test.operand ctx).draft name type negated) ∨
    (¬∃ name type, list = [.parameter name type true]) ∧
      ctx.listTest? test list negated =
        (if test.isRow && !ctx.dialect.capabilities.rowValuesInList then none
          else ctx.itemsTest? test list negated) ∧
      ctx.inList (test.operand ctx) (operands ctx list) negated =
        ctx.inListOfItems (test.operand ctx) (operands ctx list) negated := by
  unfold listTest?
  split
  · exact .inl ⟨rfl, rfl, rfl⟩
  · next name type =>
    refine .inr (.inl ⟨name, type, rfl, rfl, ?_⟩)
    rw [operands, operands, Expression.operand]
    rfl
  · next items single =>
    refine .inr (.inr ⟨?_, rfl, inList_of_items ?_ ?_⟩)
    · rintro ⟨name, type, rfl⟩
      exact single name type rfl
    · rw [operands_eq_map]
      exact fun none => items (List.map_eq_nil_iff.1 none)
    · rintro ⟨name, type, x, form⟩
      exact single name type (eq_parameter_of_operands form)

theorem inListOfItems_eq_inItems {test : Expression} {list : List Operand} {negated : Bool}
    (kept : (test.isRow && !ctx.dialect.capabilities.rowValuesInList) = false) :
    ctx.inListOfItems (test.operand ctx) list negated = ctx.inItems (test.operand ctx) list negated := by
  rw [← test.isTuple_operand ctx] at kept
  unfold inListOfItems
  split
  · next row operand =>
    rw [operand] at kept
    exact if_pos (by simpa [Operand.isTuple] using kept)
  · rfl

theorem inList_of_listTest? {test : Expression} {list : List Expression} {negated : Bool}
    (h : ctx.listTest? test list negated = some t) :
    ctx.inList (test.operand ctx) (operands ctx list) negated = t.draft ctx := by
  obtain ⟨rfl, none, -⟩ | ⟨name, type, rfl, same, drafted⟩ | ⟨-, same, drafted⟩ :=
    ctx.listTest?_cases test list negated
  · rw [none] at h
    cases h
  · rw [drafted]
    exact ctx.inMultiValued_of_multiValuedTest? (same.symm.trans h)
  · rw [same] at h
    split at h
    · cases h
    · next kept =>
      rw [drafted, ctx.inListOfItems_eq_inItems (Bool.eq_false_iff.2 kept)]
      exact ctx.inItems_of_itemsTest? h

end TranslationContext

theorem Predicate.draft_of_comparisonTest? {lhs rhs : Expression} {op : ComparisonOperator}
    (h : ctx.dialect.comparisonTest? lhs op rhs = some t) :
    (Predicate.comparison lhs op rhs).draft ctx = t.draft ctx := by
  have peculiar := ctx.dialect.peculiarComparison?_operand ctx lhs op rhs
  rw [Predicate.draft, Dialect.compare, Dialect.orPeculiar]
  simp only [Bool.false_eq_true, if_false, peculiar]
  rw [Dialect.comparisonTest?, Option.orElse_eq_orElse, Option.orElse_eq_or, Option.or_eq_some_iff] at h
  rcases h with own | ⟨none, standard⟩
  · rw [own]
    rfl
  · rw [none, Option.map_none, Option.getD_none]
    split at standard
    · next asIs =>
      cases standard
      exact ctx.dialect.standardCompare_of_comparesAsIs ctx asIs op
    · cases standard

/-- What is drafted for a condition that is a test is this test. -/
theorem Predicate.draft_of_test? {p : Predicate} (h : p.test? ctx = some t) : p.draft ctx = t.draft ctx := by
  unfold test? at h
  split at h
  · exact draft_of_comparisonTest? ctx h
  · next test list negated => exact ctx.inList_of_listTest? h
  · exact ctx.dialect.arrayMembership_of_arrayTest? ctx h
  · next row op query =>
    rw [← draft_comparison_tuple]
    exact draft_of_comparisonTest? ctx h
  · cases h

end Drafts

end SqlDialects
