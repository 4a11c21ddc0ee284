import Mathlib.Data.List.Lex
import Mathlib.Order.Lattice
import SqlDialects.Sql.Operator

/-!
# Truth values of comparisons

SQL has a third truth value for what is not known, and a comparison with null is not known unless it
is null-safe. Rows are compared component by component: they are equal if all components are, and an
ordering is decided by the first components that are not known to be equal. Rows without nulls compare
as lists do (`ComparisonOperator.rowTruth_of_values`).
-/

namespace SqlDialects

/-- A truth value of SQL. -/
inductive Truth where
  | no
  | unknown
  | yes
deriving DecidableEq, Repr

namespace Truth

/-- A truth value that is known. -/
def ofBool : Bool → Truth
  | true => yes
  | false => no

/-- The opposite; what is not known stays so. -/
def not : Truth → Truth
  | no => yes
  | unknown => unknown
  | yes => no

/-- Both of two conditions. -/
def and : Truth → Truth → Truth
  | no, _ => no
  | _, no => no
  | yes, yes => yes
  | _, _ => unknown

/-- One of two conditions. -/
def or : Truth → Truth → Truth
  | yes, _ => yes
  | _, yes => yes
  | no, no => no
  | _, _ => unknown

/-- All of some conditions. -/
def all (ts : List Truth) : Truth := ts.foldr and yes

/-- One of some conditions. -/
def any (ts : List Truth) : Truth := ts.foldr or no

section Laws

variable (a b c : Truth) (s t : Bool) (ts us : List Truth)

@[simp] theorem and_yes : a.and yes = a := by cases a <;> rfl
@[simp] theorem yes_and : yes.and a = a := by cases a <;> rfl
@[simp] theorem no_and : no.and a = no := rfl
@[simp] theorem or_no : a.or no = a := by cases a <;> rfl
@[simp] theorem no_or : no.or a = a := by cases a <;> rfl
@[simp] theorem yes_or : yes.or a = yes := rfl

@[simp] theorem unknown_or_unknown_and : unknown.or (unknown.and a) = unknown := by cases a <;> rfl
@[simp] theorem unknown_and_unknown_or : unknown.and (unknown.or a) = unknown := by cases a <;> rfl

theorem and_assoc : (a.and b).and c = a.and (b.and c) := by
  cases a <;> cases b <;> cases c <;> rfl

theorem or_assoc : (a.or b).or c = a.or (b.or c) := by
  cases a <;> cases b <;> cases c <;> rfl

theorem not_and : (a.and b).not = a.not.or b.not := by
  cases a <;> cases b <;> rfl

theorem not_or : (a.or b).not = a.not.and b.not := by
  cases a <;> cases b <;> rfl

theorem and_eq_yes : a.and b = yes ↔ a = yes ∧ b = yes := by
  cases a <;> cases b <;> decide

@[simp] theorem ofBool_eq_yes : ofBool s = yes ↔ s = true := by
  cases s <;> decide

@[simp] theorem not_ofBool : (ofBool s).not = ofBool (!s) := by
  cases s <;> rfl

@[simp] theorem ofBool_and_ofBool : (ofBool s).and (ofBool t) = ofBool (s && t) := by
  cases s <;> cases t <;> rfl

@[simp] theorem all_nil : all [] = yes := rfl
@[simp] theorem any_nil : any [] = no := rfl
@[simp] theorem all_cons : all (a :: ts) = a.and (all ts) := rfl
@[simp] theorem any_cons : any (a :: ts) = a.or (any ts) := rfl

theorem all_append : all (ts ++ us) = (all ts).and (all us) := by
  induction ts with
  | nil => simp
  | cons t ts ih => simp [ih, and_assoc]

theorem any_append : any (ts ++ us) = (any ts).or (any us) := by
  induction ts with
  | nil => simp
  | cons t ts ih => simp [ih, or_assoc]

theorem not_all : (all ts).not = any (ts.map not) := by
  induction ts with
  | nil => rfl
  | cons t ts ih => simp [not_and, ih]

theorem not_any : (any ts).not = all (ts.map not) := by
  induction ts with
  | nil => rfl
  | cons t ts ih => simp [not_or, ih]

theorem all_replicate_yes (n : Nat) : all (List.replicate n yes) = yes := by
  induction n with
  | zero => rfl
  | succ n ih => rw [List.replicate_succ, all_cons, ih, and_yes]

end Laws

end Truth

namespace ComparisonOperator

variable {α : Type} [LinearOrder α]

/-- The operator holds between two values. -/
def holds (op : ComparisonOperator) (a b : α) : Bool :=
  match op with
  | equal => a = b
  | notDistinctFrom => a = b
  | notEqual => a ≠ b
  | distinctFrom => a ≠ b
  | lessThan => a < b
  | lessThanOrEqual => a ≤ b
  | greaterThan => b < a
  | greaterThanOrEqual => b ≤ a

/-- The comparison of two scalars. No value is null, and a null is like another one and unlike every
value to the null-safe operators only. -/
def truth (op : ComparisonOperator) (x y : Option α) : Truth :=
  match op, x, y with
  | distinctFrom, x, y => .ofBool (x ≠ y)
  | notDistinctFrom, x, y => .ofBool (x = y)
  | op, some a, some b => .ofBool (op.holds a b)
  | _, _, _ => .unknown

/-- The ordering of two rows, given as the pairs of their components: the first pair that is not known
to be equal decides, and rows that are equal throughout are in order if the operator admits that. -/
def orderTruth (op : ComparisonOperator) (ps : List (Option α × Option α)) : Truth :=
  match ps.find? fun p => equal.truth p.1 p.2 ≠ .yes with
  | some (x, y) => op.truth x y
  | none => .ofBool (op.loose = op)

/-- The comparison of two rows, given as the pairs of their components. -/
def rowTruth (op : ComparisonOperator) (ps : List (Option α × Option α)) : Truth :=
  match op with
  | equal => .all (ps.map fun p => equal.truth p.1 p.2)
  | notEqual => (Truth.all (ps.map fun p => equal.truth p.1 p.2)).not
  | notDistinctFrom => .all (ps.map fun p => notDistinctFrom.truth p.1 p.2)
  | distinctFrom => .any (ps.map fun p => distinctFrom.truth p.1 p.2)
  | op => op.orderTruth ps

section Laws

variable {op : ComparisonOperator}

@[simp] theorem truth_some (op : ComparisonOperator) (a b : α) :
    op.truth (some a) (some b) = .ofBool (op.holds a b) := by
  cases op <;> simp [truth, holds]

theorem holds_negated (op : ComparisonOperator) (a b : α) : op.negated.holds a b = !op.holds a b := by
  cases op <;> grind [negated, holds]

theorem truth_negated (op : ComparisonOperator) (x y : Option α) :
    op.negated.truth x y = (op.truth x y).not := by
  cases x with
  | none => cases op <;> cases y <;> rfl
  | some a =>
    cases y with
    | none => cases op <;> rfl
    | some b => rw [truth_some, truth_some, holds_negated, Truth.not_ofBool]

/-- Operands that change sides are compared by the inverted operator. -/
theorem truth_inverted (op : ComparisonOperator) (x y : Option α) :
    op.inverted.truth y x = op.truth x y := by
  cases op <;> cases x <;> cases y <;> simp [inverted, truth, holds, eq_comm]

/-- Two operands cannot be compared, or they are equal, or they are in strict order one way or the
other. -/
theorem truth_of_isOrdering (ordering : op.isOrdering = true) (x y : Option α) :
    (equal.truth x y = .unknown ∧ op.strict.truth x y = .unknown ∧ op.loose.truth x y = .unknown ∧
      op.truth x y = .unknown) ∨
    (equal.truth x y = .yes ∧ op.strict.truth x y = .no ∧ op.loose.truth x y = .yes ∧
      op.truth x y = .ofBool (op.loose = op)) ∨
    ∃ b, equal.truth x y = .no ∧ op.strict.truth x y = .ofBool b ∧ op.loose.truth x y = .ofBool b ∧
      op.truth x y = .ofBool b := by
  match x, y with
  | none, y =>
    left
    cases op <;> cases y <;> trivial
  | some a, none =>
    left
    cases op <;> trivial
  | some a, some b =>
    right
    simp only [truth_some]
    by_cases same : a = b
    · left
      cases op <;> grind [holds, strict, loose, isOrdering, Truth.ofBool]
    · refine .inr ⟨op.holds a b, ?_⟩
      cases op <;> grind [holds, strict, loose, isOrdering, Truth.ofBool]

/-- The leading components decide, and leave it to the others if they are equal. -/
theorem orderTruth_cons (x y : Option α) (ps : List (Option α × Option α)) :
    op.orderTruth ((x, y) :: ps) =
      if equal.truth x y = .yes then op.orderTruth ps else op.truth x y := by
  by_cases h : equal.truth x y = .yes <;> simp [orderTruth, h]

theorem orderTruth_singleton (ordering : op.isOrdering = true) (x y : Option α) :
    op.orderTruth [(x, y)] = op.truth x y := by
  rw [orderTruth_cons]
  rcases truth_of_isOrdering ordering x y with ⟨eq, -⟩ | ⟨eq, -, -, own⟩ | ⟨b, eq, -⟩
  · simp [eq]
  · rw [if_pos eq, own]
    rfl
  · simp [eq]

/-- The leading components are in strict order, or they are equal and the others are in order. -/
theorem orderTruth_cons_eq_or (ordering : op.isOrdering = true) (x y : Option α)
    (ps : List (Option α × Option α)) :
    op.orderTruth ((x, y) :: ps) =
      (op.strict.truth x y).or ((equal.truth x y).and (op.orderTruth ps)) := by
  rw [orderTruth_cons]
  rcases truth_of_isOrdering ordering x y with ⟨eq, strict, -, own⟩ | ⟨eq, strict, -⟩ | ⟨b, eq, strict, -, own⟩
  · simp [eq, strict, own]
  · simp [eq, strict]
  · simp [eq, strict, own]

/-- The leading components are in order, and they are so strictly or the others are in order. -/
theorem orderTruth_cons_eq_and (ordering : op.isOrdering = true) (x y : Option α)
    (ps : List (Option α × Option α)) :
    op.orderTruth ((x, y) :: ps) =
      (op.loose.truth x y).and ((op.strict.truth x y).or (op.orderTruth ps)) := by
  rw [orderTruth_cons]
  rcases truth_of_isOrdering ordering x y with ⟨eq, strict, loose, own⟩ | ⟨eq, strict, loose, -⟩ |
    ⟨b, eq, strict, loose, own⟩
  · simp [eq, strict, loose, own]
  · simp [eq, strict, loose]
  · cases b <;> simp [eq, strict, loose, own, Truth.ofBool]

/-- Rows are unequal if some components are. -/
theorem rowTruth_notEqual (ps : List (Option α × Option α)) :
    notEqual.rowTruth ps = .any (ps.map fun p => notEqual.truth p.1 p.2) := by
  rw [rowTruth, Truth.not_all, List.map_map]
  exact congrArg _ (List.map_congr_left fun p _ => (truth_negated equal p.1 p.2).symm)

theorem orderTruth_inverted (op : ComparisonOperator) (ps : List (Option α × Option α)) :
    op.inverted.orderTruth (ps.map Prod.swap) = op.orderTruth ps := by
  induction ps with
  | nil => cases op <;> rfl
  | cons p ps ih =>
    obtain ⟨x, y⟩ := p
    have equality : equal.truth y x = equal.truth x y := truth_inverted equal x y
    rw [List.map_cons, Prod.swap_prod_mk, orderTruth_cons, orderTruth_cons, ih, truth_inverted, equality]

/-- Rows that change sides are compared by the inverted operator. -/
theorem rowTruth_inverted (op : ComparisonOperator) (ps : List (Option α × Option α)) :
    op.inverted.rowTruth (ps.map Prod.swap) = op.rowTruth ps := by
  have components (op : ComparisonOperator) :
      (ps.map Prod.swap).map (fun p => op.inverted.truth p.1 p.2) = ps.map fun p => op.truth p.1 p.2 := by
    rw [List.map_map]
    exact List.map_congr_left fun p _ => truth_inverted op p.1 p.2
  cases op with
  | equal => exact congrArg Truth.all (components equal)
  | notEqual => exact congrArg (fun ts => (Truth.all ts).not) (components equal)
  | distinctFrom => exact congrArg Truth.any (components distinctFrom)
  | notDistinctFrom => exact congrArg Truth.all (components notDistinctFrom)
  | _ => exact orderTruth_inverted _ ps

theorem holds_cons (ordering : op.isOrdering = true) (a b : α) (as bs : List α) :
    op.holds (a :: as) (b :: bs) = if a = b then op.holds as bs else op.holds a b := by
  split
  · next same =>
    subst same
    cases op with
    | lessThan | lessThanOrEqual | greaterThan | greaterThanOrEqual =>
      simp [holds, ← not_lt]
    | _ => cases ordering
  · next different =>
    have other : b ≠ a := fun h => different h.symm
    cases op with
    | lessThan | lessThanOrEqual | greaterThan | greaterThanOrEqual =>
      simp [holds, ← not_lt, List.cons_lt_cons_iff, different, other]
    | _ => cases ordering

theorem orderTruth_of_values (ordering : op.isOrdering = true) (as bs : List α)
    (h : as.length = bs.length) :
    op.orderTruth ((as.zip bs).map fun p => (some p.1, some p.2)) = .ofBool (op.holds as bs) := by
  induction as generalizing bs with
  | nil =>
    obtain rfl := List.length_eq_zero_iff.1 h.symm
    cases op with
    | lessThan | lessThanOrEqual | greaterThan | greaterThanOrEqual => simp [holds, orderTruth, loose]
    | _ => cases ordering
  | cons a as ih =>
    cases bs with
    | nil => cases h
    | cons b bs =>
      have rest := ih bs (Nat.succ.inj h)
      rw [List.zip_cons_cons, List.map_cons, orderTruth_cons, rest, holds_cons ordering, truth_some,
        truth_some]
      simp only [Truth.ofBool_eq_yes, holds, decide_eq_true_eq]
      split <;> rfl

theorem all_equal_of_values (as bs : List α) (h : as.length = bs.length) :
    Truth.all (((as.zip bs).map fun p => (some p.1, some p.2)).map fun p => equal.truth p.1 p.2) =
      .ofBool (equal.holds as bs) := by
  induction as generalizing bs with
  | nil =>
    obtain rfl := List.length_eq_zero_iff.1 h.symm
    simp [holds, Truth.ofBool]
  | cons a as ih =>
    cases bs with
    | nil => cases h
    | cons b bs =>
      have rest := ih bs (Nat.succ.inj h)
      have step : equal.holds (a :: as) (b :: bs) = (equal.holds a b && equal.holds as bs) := by
        rw [Bool.eq_iff_iff]
        simp [holds]
      rw [List.zip_cons_cons, List.map_cons, List.map_cons, Truth.all_cons, rest, truth_some,
        Truth.ofBool_and_ofBool, step]

/-- Rows without nulls compare as lists do. -/
theorem rowTruth_of_values (op : ComparisonOperator) (as bs : List α) (h : as.length = bs.length) :
    op.rowTruth ((as.zip bs).map fun p => (some p.1, some p.2)) = .ofBool (op.holds as bs) := by
  -- the null-safe operators do on values what the others do
  have components (safe op : ComparisonOperator) (same : ∀ a b : α, safe.holds a b = op.holds a b) :
      ((as.zip bs).map fun p => (some p.1, some p.2)).map (fun p => safe.truth p.1 p.2) =
        ((as.zip bs).map fun p => (some p.1, some p.2)).map fun p => op.truth p.1 p.2 := by
    simp only [List.map_map, Function.comp_def, truth_some, same]
  have unequal : notEqual.rowTruth ((as.zip bs).map fun p => (some p.1, some p.2)) =
      .ofBool (notEqual.holds as bs) := by
    rw [rowTruth, all_equal_of_values as bs h, Truth.not_ofBool, ← holds_negated]
    rfl
  cases op with
  | equal => exact all_equal_of_values as bs h
  | notEqual => exact unequal
  | notDistinctFrom =>
    rw [rowTruth, components notDistinctFrom equal fun _ _ => rfl, all_equal_of_values as bs h]
    rfl
  | distinctFrom =>
    rw [rowTruth, components distinctFrom notEqual fun _ _ => rfl, ← rowTruth_notEqual, unequal]
    rfl
  | _ => exact orderTruth_of_values rfl as bs h

end Laws

end ComparisonOperator

end SqlDialects
