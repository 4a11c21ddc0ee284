import SqlDialects.Proofs.Draft.Frame
import SqlDialects.Proofs.Draft.Operands
import SqlDialects.Proofs.Row.Exists
import SqlDialects.Proofs.Translation.Modes

/-!
# Comparisons whose operands do not fit

A row value can be compared with a row value of the same length and with a subquery of as many items, and
with nothing else. A comparison that breaks this rule (`Expression.Mismatches`) is refused on the spot, before
anything of it is written, unless the dialect does not look at the shapes of the operands at all: that is so
for a row in front of a subquery where the dialect has such comparisons, and for a row behind a typed operand
where HSQL has a spelling of its own (`Dialect.overlooks`). Such a comparison is refused only if one of its
operands is. Wherever a comparison is reached in the course of a statement, this decides about the whole
(`Statement.mismatch_of_carriesOut`).
-/

namespace SqlDialects

/-- The operator tells values apart, nulls included. -/
def ComparisonOperator.isDistinction : ComparisonOperator → Bool
  | distinctFrom => true
  | notDistinctFrom => true
  | _ => false

/-- The operator is = or <>. -/
def ComparisonOperator.isEquality : ComparisonOperator → Bool
  | equal => true
  | notEqual => true
  | _ => false

/-- The operands of a comparison do not fit each other. -/
inductive Expression.Mismatches : Expression → Expression → Prop where
  | lengths {xs ys : List Expression} : xs.length ≠ ys.length → Mismatches (.tuple xs) (.tuple ys)
  | singleRight {xs : List Expression} {e : Expression} : e.isSingle = true → Mismatches (.tuple xs) e
  | singleLeft {xs : List Expression} {e : Expression} : e.isSingle = true → Mismatches e (.tuple xs)
  | itemsRight {xs : List Expression} {s : SelectQuery} : xs.length ≠ s.items.length →
    Mismatches (.tuple xs) (.subquery (.select s))
  | itemsLeft {xs : List Expression} {s : SelectQuery} : xs.length ≠ s.items.length →
    Mismatches (.subquery (.select s)) (.tuple xs)

/-- The condition compares two expressions. -/
inductive Predicate.Compares : Predicate → Expression → ComparisonOperator → Expression → Prop where
  | comparison (lhs : Expression) (op : ComparisonOperator) (rhs : Expression) :
    Compares (.comparison lhs op rhs) lhs op rhs
  | tupleSubquery (row : List Expression) (op : ComparisonOperator) (query : Query) :
    Compares (.tupleSubquery row op query) (.tuple row) op (.subquery query)

/-- The SELECT has an OFFSET or a FETCH clause. -/
def SelectQuery.isLimited (s : SelectQuery) : Bool := s.offset.isSome || s.fetch.isSome

namespace Dialect

/-- The dialect writes the comparison without a look at the shapes of its operands. -/
def overlooks (d : Dialect) (lhs : Expression) (op : ComparisonOperator) (rhs : Expression) : Bool :=
  match rhs with
  | .subquery _ => lhs.isRow && d.capabilities.rowValuesWithSubquery
  | .tuple _ => d == hsql && lhs.type?.any fun type =>
      op.isDistinction || op.isEquality && type.descriptor.hasArrayCode
  | _ => false

/-- Why a comparison is refused whose operands do not fit. A row limit of the subquery is found first. -/
def mismatchError (d : Dialect) (lhs rhs : Expression) : TranslationError :=
  match lhs, rhs with
  | .tuple xs, .tuple ys => .invalidExpression (.arity xs.length ys.length)
  | .tuple xs, .subquery (.select s) =>
    if s.isLimited then .unsupported .tupleAgainstLimitedSubquery d
    else .invalidExpression (.arity xs.length s.items.length)
  | _, _ => .invalidExpression .tupleWithScalar

end Dialect

/-! ## Comparisons that are refused -/

theorem Predicate.Compares.draft_eq {ctx : TranslationContext} {p : Predicate} {lhs rhs : Expression}
    {op : ComparisonOperator} (h : p.Compares lhs op rhs) :
    p.draft ctx = (Predicate.comparison lhs op rhs).draft ctx := by
  cases h with
  | comparison => rfl
  | tupleSubquery row op query => exact (draft_comparison_tuple ctx row op query).symm

theorem SelectQuery.limited_frame (ctx : TranslationContext) (s : SelectQuery) :
    ((s.form ctx).frame ctx.dialect).limited = s.isLimited := by
  obtain ⟨ctes, distinct, items, tables, filter, groupBy, having, orderBy, offset, fetch⟩ := s
  cases offset with
  | none =>
    cases fetch with
    | none => rfl
    | some clause =>
      obtain ⟨⟩ := clause
      rfl
  | some e => rfl

section Refused

variable (ctx : TranslationContext) {lhs rhs : Expression} {op : ComparisonOperator}

/-- A row on the left has no spelling of its own in any dialect. -/
theorem Dialect.peculiarComparison?_tuple (d : Dialect) (xs : List Operand) (op : ComparisonOperator)
    (y : Operand) : d.peculiarComparison? (.tuple xs) op y = none := by
  unfold peculiarComparison?
  split <;> rfl

/-- A row on the right has a spelling of its own where it is overlooked, and nowhere else. -/
theorem TranslationContext.isSome_peculiarComparison? (lhs : Expression) (op : ComparisonOperator)
    (ys : List Expression) :
    (ctx.dialect.peculiarComparison? (lhs.operand ctx) op (.tuple (operands ctx ys))).isSome =
      ctx.dialect.overlooks lhs op (.tuple ys) := by
  have type := lhs.type?_operand ctx
  rw [Dialect.overlooks, Dialect.peculiarComparison?.eq_def]
  cases ctx.dialect with
  | ansi | postgres => rfl
  | mysql => simp [Operand.isTuple]
  | hsql =>
    simp only [type]
    cases lhs.type? with
    | none => rfl
    | some t =>
      cases op <;> cases array : t.descriptor.hasArrayCode <;> cases capable : t.descriptor.isArrayCapable <;>
        simp [array, capable, Dialect.arrayEquality?, Dialect.arrayDistinction?,
          Dialect.typedDistinction?, ComparisonOperator.isDistinction, ComparisonOperator.isEquality]

/-- The comparison with a row on the right, if it is not overlooked. -/
theorem Predicate.draft_of_not_overlooks {ys : List Expression}
    (looks : ctx.dialect.overlooks lhs op (.tuple ys) = false) :
    (Predicate.comparison lhs op (.tuple ys)).draft ctx =
      ctx.dialect.standardFrom false op (lhs.operand ctx) (.tuple (operands ctx ys)) := by
  rw [← ctx.isSome_peculiarComparison?, Option.isSome_eq_false_iff, Option.isNone_iff_eq_none] at looks
  rw [Predicate.draft, Expression.operand_tuple, Dialect.compare, Dialect.orPeculiar]
  simp only [looks, Bool.false_eq_true, if_false]
  rfl

/-- A comparison whose operands do not fit is a refusal, unless it is overlooked. -/
theorem Expression.Mismatches.draft_eq_refuse (h : lhs.Mismatches rhs)
    (looks : ctx.dialect.overlooks lhs op rhs = false) :
    (Predicate.comparison lhs op rhs).draft ctx = .refuse (ctx.dialect.mismatchError lhs rhs) := by
  cases h with
  | @lengths xs ys different =>
    have lengths : (operands ctx xs).length ≠ (operands ctx ys).length := by
      rwa [operands_eq_map, operands_eq_map, List.length_map, List.length_map]
    rw [Predicate.draft_of_not_overlooks ctx looks, Expression.operand_tuple, Dialect.standardFrom]
    simp only [Bool.false_eq_true, if_false, if_pos lengths]
    rw [operands_eq_map, operands_eq_map, List.length_map, List.length_map]
    rfl
  | @singleRight xs _ single =>
    obtain ⟨shape, type, draft, operand⟩ := rhs.operand_of_isSingle ctx single
    rw [Predicate.draft, Expression.operand_tuple, operand, Dialect.compare, Dialect.orPeculiar]
    simp only [Dialect.peculiarComparison?_tuple, Bool.false_eq_true, if_false]
    cases rhs <;> first | rfl | cases single
  | @singleLeft xs _ single =>
    obtain ⟨shape, type, draft, operand⟩ := lhs.operand_of_isSingle ctx single
    rw [Predicate.draft_of_not_overlooks ctx looks, operand]
    cases lhs <;> first | rfl | cases single
  | @itemsRight xs s different =>
    have emulated : ctx.dialect.capabilities.rowValuesWithSubquery = false := looks
    rw [draft_comparison_tuple, draft_tupleSubquery ctx xs op s emulated]
    simp only [SelectQuery.limited_frame, Dialect.mismatchError]
    split
    · rfl
    · rw [if_pos (Ne.symm different)]
      rfl
  | @itemsLeft xs s different =>
    obtain ⟨draft, frame, items, form⟩ :=
      QueryForm.operand_eq ctx.dialect (Query.select s).type? ((Query.select s).form ctx)
    rw [Predicate.draft_of_not_overlooks ctx looks, Expression.operand, form]
    rfl

end Refused

/-! ## Comparisons that are overlooked -/

section Overlooked

variable {mode : RenderingMode} {depth : Nat}

/-- A draft is refused where the first of the given drafts is that is refused, and nowhere else. -/
def Draft.RefusedWith (mode : RenderingMode) (depth : Nat) (x : Draft) (parts : List Draft) : Prop :=
  x.refusal? mode depth = parts.findSome? (·.refusal? mode depth)

namespace Draft.RefusedWith

theorem self (x : Draft) : x.RefusedWith mode depth [x] := by
  simp [RefusedWith]

theorem raw (s : String) : (Draft.raw s).RefusedWith mode depth [] := by
  unfold Draft.raw
  split <;> rfl

theorem append {x y : Draft} {xs ys : List Draft} (hx : x.RefusedWith mode depth xs)
    (hy : y.RefusedWith mode depth ys) : (x ++ y).RefusedWith mode depth (xs ++ ys) := by
  rw [RefusedWith, List.findSome?_append, ← hx, ← hy]
  rfl

/-- The mode does not matter for a steady draft. -/
theorem inMode {x : Draft} (steady : x.Steady) (other : RenderingMode) :
    (Draft.inMode other x).RefusedWith mode depth [x] := by
  rw [RefusedWith, List.findSome?_singleton]
  exact steady.refusal?_modes other mode depth

theorem plainComparison (x : Draft) (op : ComparisonOperator) (y : Draft) :
    (Draft.plainComparison x op y).RefusedWith mode depth [x, y] :=
  ((self x).append (raw _)).append (self y)

end Draft.RefusedWith

namespace Dialect

open Draft

variable {d : Dialect} {x y : Operand} {op : ComparisonOperator} {z : Draft}

/-- A spelling that is peculiar to a dialect is refused only with its operands. -/
theorem refusedWith_of_mem_peculiarComparison? (hx : x.draft.Steady) (hy : y.draft.Steady)
    (h : z ∈ hsql.peculiarComparison? x op y) : z.RefusedWith mode depth [x.draft, y.draft] := by
  have ends : ∀ a b : String, (x.draft ++ raw a ++ y.draft ++ raw b).RefusedWith mode depth
      [x.draft, y.draft] := fun a b =>
    (((RefusedWith.self x.draft).append (.raw a)).append (.self y.draft)).append (.raw b)
  have between : ∀ a : String, (x.draft ++ raw a ++ y.draft).RefusedWith mode depth
      [x.draft, y.draft] := fun a => ((RefusedWith.self x.draft).append (.raw a)).append (.self y.draft)
  have typed : (inMode .typed x.draft ++ raw " " ++ raw op.text ++ raw " " ++ inMode .typed y.draft).RefusedWith
      mode depth [x.draft, y.draft] :=
    ((((RefusedWith.inMode hx .typed).append (.raw _)).append (.raw _)).append (.raw _)).append (.inMode hy .typed)
  unfold peculiarComparison? at h
  simp only at h
  split at h
  · cases h
  · next type _ =>
    cases op <;> cases array : type.descriptor.hasArrayCode <;>
      cases capable : type.descriptor.isArrayCapable <;>
      simp [array, capable, arrayEquality?, arrayDistinction?, typedDistinction?] at h <;> subst h <;>
      first | exact ends _ _ | exact between _ | exact typed

end Dialect

/-- A comparison that is overlooked is refused only with its operands. -/
theorem Predicate.refusal?_of_overlooks (ctx : TranslationContext) {lhs rhs : Expression}
    {op : ComparisonOperator} (looks : ctx.dialect.overlooks lhs op rhs = true) :
    ((Predicate.comparison lhs op rhs).draft ctx).RefusedWith mode depth
      [(lhs.operand ctx).draft, (rhs.operand ctx).draft] := by
  have left := lhs.steady_draft ctx
  have right := rhs.steady_draft ctx
  unfold Dialect.overlooks at looks
  split at looks
  · next q =>
    obtain ⟨row, native⟩ := Bool.and_eq_true_iff.1 looks
    cases lhs with
    | tuple xs =>
      obtain ⟨draft, frame, items, form⟩ := QueryForm.operand_eq ctx.dialect q.type? (q.form ctx)
      rw [Predicate.draft, Expression.operand_tuple, Expression.operand, form, Dialect.compare, Dialect.orPeculiar]
      simp only [Dialect.peculiarComparison?_tuple, Bool.false_eq_true, if_false]
      rw [Option.getD_none, Dialect.standardCompare, Dialect.standardFrom]
      simp only [Bool.false_eq_true, if_false]
      rw [Dialect.rowWithSubquery.eq_def, if_pos native, Operand.draft]
      exact .plainComparison _ op _
    | _ => cases row
  · next ys =>
    have looks : ctx.dialect.overlooks lhs op (.tuple ys) = true := looks
    have peculiar := ctx.isSome_peculiarComparison? lhs op ys
    rw [looks] at peculiar
    obtain ⟨z, hz⟩ := Option.isSome_iff_exists.1 peculiar
    have hsql : ctx.dialect = .hsql := by
      simp only [Dialect.overlooks, Bool.and_eq_true, beq_iff_eq] at looks
      exact looks.1
    rw [Predicate.draft, Expression.operand_tuple, Dialect.compare, Dialect.orPeculiar]
    simp only [hz, Bool.false_eq_true, if_false, Option.getD_some]
    rw [hsql] at hz
    rw [Expression.operand_tuple] at right
    exact Dialect.refusedWith_of_mem_peculiarComparison? left right hz
  · cases looks

end Overlooked

/-! ## Statements -/

/-- A statement in the course of which a comparison is reached whose operands do not fit. The comparison is
refused before anything of it is written, and so is the statement, unless it is overlooked: then it is refused
only if one of its operands is, for the cause for which the first of them is. -/
theorem Statement.mismatch_of_carriesOut {ctx : TranslationContext} {s : Statement} {p : Predicate}
    {lhs rhs : Expression} {op : ComparisonOperator} {there : Page} (compares : p.Compares lhs op rhs)
    (mismatch : lhs.Mismatches rhs) (reached : (s.draft ctx).CarriesOut .blank (p.draft ctx) there) :
    (ctx.dialect.overlooks lhs op rhs = false →
      s.translate ctx = .error (.rejected (ctx.dialect.mismatchError lhs rhs)) ∧
      (s.page ctx).tokens = there.tokens ∧ (s.page ctx).parameters = there.parameters) ∧
    (ctx.dialect.overlooks lhs op rhs = true →
      ((p.draft ctx).run there).1 =
        [(lhs.operand ctx).draft, (rhs.operand ctx).draft].findSome? (·.refusal? there.mode there.depth)) := by
  constructor
  · intro looks
    have refusal : p.draft ctx = .refuse (ctx.dialect.mismatchError lhs rhs) :=
      compares.draft_eq.trans (mismatch.draft_eq_refuse ctx looks)
    have gaveUp : ((p.draft ctx).run there) = (some (ctx.dialect.mismatchError lhs rhs), there) := by
      rw [refusal]
      rfl
    have whole := reached.failed (congrArg Prod.fst gaveUp)
    rw [gaveUp] at whole
    constructor
    · rw [translate, Draft.translateOn, whole]
    · have page : s.page ctx = there.backTo .blank := by
        rw [s.run_draft ctx] at whole
        exact congrArg Prod.snd whole
      rw [page]
      exact ⟨rfl, rfl⟩
  · intro looks
    rw [Draft.run_eq, compares.draft_eq]
    exact Predicate.refusal?_of_overlooks ctx looks

/-- A query for the rows in which a row value of one component is equal to a column. -/
def SelectQuery.comparesRowWithColumn : SelectQuery where
  items := [⟨.column none "id" none, none⟩]
  tables := [⟨"t", none⟩]
  filter := some (.comparison (.tuple [.column none "a" none]) .equal (.column none "b" none))

/-- A row value and a column do not fit, and MySQL refuses the statement behind the word WHERE. -/
theorem Statement.mismatch_of_comparesRowWithColumn :
    (Statement.select (.select .comparesRowWithColumn)).translate (.ofDialect .mysql) =
      .error (.rejected (.invalidExpression .tupleWithScalar)) := by
  let ctx := TranslationContext.ofDialect .mysql
  let front : List Token := [.keyword .select, .space, .qualifiedName none "id", .space, .keyword .fromWord, .space,
    .name "t", .space, .keyword .whereWord, .space]
  have reached : ((Statement.select (.select .comparesRowWithColumn)).draft ctx).CarriesOut .blank
      ((Predicate.comparison (.tuple [.column none "a" none]) .equal (.column none "b" none)).draft ctx)
      ⟨front.toArray, #[], [], 0⟩ := by
    refine .second rfl (.second rfl ?_)
    exact .first (.first (.first (.first (.second rfl (.second rfl (.itself _ _))))))
  exact ((mismatch_of_carriesOut (.comparison _ _ _) (.singleRight rfl) reached).1 rfl).1

end SqlDialects
