import SqlDialects.Proofs.Row.Layout

/-!
# The rows of a subquery

What a SELECT gives is decided by its clauses one after the other: WHERE keeps rows, GROUP BY makes
groups of them, and HAVING keeps groups. An EXISTS over the rows of a subquery that compare as required
with a row has the same clauses with the comparison joined to one of them. It has to be HAVING if the
subquery is grouped (`wantedBody`); where it is put is `existsBody`. The two agree unless a subquery without
GROUP BY is grouped for another reason (`SelectQuery.existsBody_eq_iff`), and precisely when they agree the
EXISTS is about the rows of the subquery (`SelectQuery.isKeptBy_existsBody_iff`).
-/

namespace SqlDialects

/-! ## Aggregates -/

mutual

/-- The expression has an aggregate of its own, outside of subqueries. -/
def Expression.hasAggregate : Expression → Bool
  | .column _ _ _ => false
  | .literal _ _ => false
  | .parameter _ _ _ => false
  | .arithmetic _ lhs rhs => lhs.hasAggregate || rhs.hasAggregate
  | .caseSearched ⟨arms, otherwise⟩ => searchedHaveAggregate arms || optionalHasAggregate otherwise
  | .caseSimple ⟨subject, arms, otherwise⟩ =>
    subject.hasAggregate || simpleHaveAggregate arms || optionalHasAggregate otherwise
  | .tuple items => someHasAggregate items
  | .summarization _ groupings => someHasAggregate groupings
  | .function _ args _ => someHasAggregate args
  | .aggregate _ => true
  | .windowed ⟨function, partitions, order⟩ =>
    function.hasInnerAggregate || someHasAggregate partitions || sortHasAggregate order
  | .subquery _ => false

/-- A function over a window has an aggregate in its arguments; the function itself is none there. -/
def Expression.hasInnerAggregate : Expression → Bool
  | .aggregate ⟨_, args, _, filter, _⟩ => someHasAggregate args || filterHasAggregate filter
  | .function _ args _ => someHasAggregate args
  | _ => false

/-- One of some expressions has an aggregate. -/
def someHasAggregate : List Expression → Bool
  | [] => false
  | e :: es => e.hasAggregate || someHasAggregate es

/-- An expression that may be absent has an aggregate. -/
def optionalHasAggregate : Option Expression → Bool
  | none => false
  | some e => e.hasAggregate

/-- An arm of a choice by conditions has an aggregate. -/
def searchedHaveAggregate : List SearchedArm → Bool
  | [] => false
  | ⟨condition, result⟩ :: arms =>
    condition.hasAggregate || result.hasAggregate || searchedHaveAggregate arms

/-- An arm of a choice by values has an aggregate. -/
def simpleHaveAggregate : List SimpleArm → Bool
  | [] => false
  | ⟨value, result⟩ :: arms => value.hasAggregate || result.hasAggregate || simpleHaveAggregate arms

/-- A key of a sort list has an aggregate. -/
def sortHasAggregate : List SortItem → Bool
  | [] => false
  | ⟨e, _, _⟩ :: items => e.hasAggregate || sortHasAggregate items

/-- A condition that may be absent has an aggregate. -/
def filterHasAggregate : Option Predicate → Bool
  | none => false
  | some p => p.hasAggregate

/-- The condition has an aggregate of its own, outside of subqueries. -/
def Predicate.hasAggregate : Predicate → Bool
  | .boolean e _ => e.hasAggregate
  | .comparison lhs _ rhs => lhs.hasAggregate || rhs.hasAggregate
  | .inList test list _ => test.hasAggregate || someHasAggregate list
  | .inArray test array _ => test.hasAggregate || optionalHasAggregate array
  | .tupleSubquery tuple _ _ => someHasAggregate tuple
  | .nullCheck e _ => e.hasAggregate
  | .junction _ members => memberHasAggregate members
  | .negated inner => inner.hasAggregate

/-- A member of a junction has an aggregate. -/
def memberHasAggregate : List Predicate → Bool
  | [] => false
  | p :: ps => p.hasAggregate || memberHasAggregate ps

end

/-- The SELECT gives a row for each group of rows. -/
def SelectQuery.isGrouped (s : SelectQuery) : Bool :=
  !s.groupBy.isEmpty || s.having.isSome || s.items.any (·.expression.hasAggregate)

/-! ## Restrictions -/

/-- What a clause of an EXISTS asks for: a condition of the subquery, and the comparison of the rows. -/
structure Restriction where
  own : Option Predicate
  compares : Bool

namespace Restriction

/-- Nothing is asked for, and the clause is absent. -/
def isAbsent (r : Restriction) : Bool := r.own.isNone && !r.compares

/-- The truth value of a restriction. -/
def truth (own : Predicate → Truth) (comparison : Truth) (r : Restriction) : Truth :=
  (r.own.elim .yes own).and (if r.compares then comparison else .yes)

/-- The pieces of a restriction, with the condition of the subquery as one of them. -/
def pieces (comparison : RowLayout (Expression × Expression)) (r : Restriction) : List ConditionPiece :=
  match r.own, r.compares with
  | none, false => []
  | none, true => comparison.pieces .ofPair
  | some p, false => [.atom p]
  | some p, true =>
    bracketedPieces true [.atom p] ++ JunctionKind.conjunction.jointPieces ++ comparison.pieces .ofPair

/-- The truth values of the atoms of a restriction, in order. -/
def atomTruths (own : Predicate → Truth) (components : List Truth) (r : Restriction) : List Truth :=
  r.own.toList.map own ++ if r.compares then components else []

/-- A restriction is read as what it asks for. -/
theorem exists_reading (op : ComparisonOperator) (indexed : Bool) (c : Expression × Expression)
    (cs : List (Expression × Expression)) {r : Restriction} (present : r.isAbsent = false) :
    ∃ f, readCondition (r.pieces (.ofRow op indexed c cs)) = some f ∧
      ∀ (own : Predicate → Truth) (α : Type) [LinearOrder α] (p : Option α × Option α)
        (ps : List (Option α × Option α)), ps.length = cs.length →
          f.truth (nthTruth (r.atomTruths own (RowLayout.ofRow op indexed p ps).componentTruths)) =
            r.truth own (op.rowTruth (p :: ps)) := by
  have comparison := (RowLayout.ofRow op indexed c cs).takes_pieces .ofPair
  have row {α : Type} [LinearOrder α] {p : Option α × Option α} {ps : List (Option α × Option α)}
      (lengths : ps.length = cs.length) {v : Nat → Truth} {n : Nat}
      (assigns : Assigns v n (RowLayout.ofRow op indexed p ps).componentTruths) :
      ((RowLayout.ofRow op indexed c cs).level n).formula.truth v = op.rowTruth (p :: ps) := by
    rw [RowLayout.level_ofRow_congr op indexed lengths.symm c p]
    exact RowLayout.truth_level_ofRow p ps op indexed assigns
  match r with
  | ⟨none, false⟩ => cases present
  | ⟨none, true⟩ =>
    refine ⟨_, comparison.readCondition, fun own α _ p ps lengths => ?_⟩
    exact (row lengths (assigns_nthTruth _)).trans (Truth.yes_and _).symm
  | ⟨some q, false⟩ =>
    refine ⟨_, (Reader.takes_atom q).readCondition, fun own α _ p ps lengths => ?_⟩
    rw [Level.truth_factor]
    exact (Truth.and_yes (own q)).symm
  | ⟨some q, true⟩ =>
    have both := ((Reader.takes_atom q).bracketed true).joined .conjunction comparison
    refine ⟨_, both.readCondition, fun own α _ p ps lengths => ?_⟩
    have single := RowLayout.ended_level (RowLayout.isSingle_ofRow op indexed c cs) (0 + 1)
    have assigns := assigns_nthTruth ([own q] ++ (RowLayout.ofRow op indexed p ps).componentTruths)
    obtain ⟨first, rest⟩ := assigns_append.1 assigns
    rw [JunctionKind.jointLevel, Level.append_start, Level.truth_append rfl single]
    refine congrArg₂ Truth.and ?_ (row lengths rest)
    rw [Level.bracketed, if_pos rfl, Level.truth_factor, Level.truth_factor]
    exact first 0 Nat.one_pos

end Restriction

/-! ## Bodies of an EXISTS -/

/-- The clauses of an EXISTS that restrict its rows. -/
structure ExistsBody where
  filter : Restriction
  groupBy : List Expression
  having : Restriction

namespace SelectQuery

/-- Where the comparison is put: to HAVING if there is a GROUP BY clause, and otherwise to WHERE, without
the HAVING clause of the subquery. -/
def existsBody (s : SelectQuery) : ExistsBody :=
  if s.groupBy.isEmpty then ⟨⟨s.filter, true⟩, [], ⟨none, false⟩⟩
  else ⟨⟨s.filter, false⟩, s.groupBy, ⟨s.having, true⟩⟩

/-- Where the comparison belongs: to HAVING if the subquery is grouped, and otherwise to WHERE. -/
def wantedBody (s : SelectQuery) : ExistsBody :=
  ⟨⟨s.filter, !s.isGrouped⟩, s.groupBy, ⟨s.having, s.isGrouped⟩⟩

/-- The subquery is grouped by a GROUP BY clause, if at all. -/
def isPlainlyGrouped (s : SelectQuery) : Bool := !s.groupBy.isEmpty || !s.isGrouped

theorem clauses_of_isGrouped {s : SelectQuery} (ungrouped : s.isGrouped = false) :
    s.groupBy = [] ∧ s.having = none := by
  simp only [isGrouped, Bool.or_eq_false_iff] at ungrouped
  obtain ⟨⟨groupBy, having⟩, -⟩ := ungrouped
  exact ⟨by simpa using groupBy, by simpa using having⟩

theorem existsBody_eq_iff (s : SelectQuery) :
    s.existsBody = s.wantedBody ↔ s.isPlainlyGrouped = true := by
  unfold existsBody wantedBody isPlainlyGrouped
  cases none : s.groupBy.isEmpty with
  | true =>
    cases grouped : s.isGrouped with
    | true => simp
    | false =>
      obtain ⟨groupBy, having⟩ := clauses_of_isGrouped grouped
      simp [groupBy, having]
  | false =>
    have grouped : s.isGrouped = true := by simp [isGrouped, none]
    simp [grouped]

end SelectQuery

/-! ## Rows and groups -/

/-- The rows that a FROM clause gives, and what conditions and expressions come to for groups of them. A
row that belongs to no group stands for itself. -/
structure RowSource (ρ α : Type) where
  rows : List ρ
  truth : Predicate → List ρ → Truth
  value : Expression → List ρ → Option α
  groups : List Expression → List ρ → List (List ρ)

namespace RowSource

variable {ρ α : Type} (source : RowSource ρ α)

/-- The groups that are made of the rows that were kept: those of a GROUP BY clause, or all rows, or each
row for itself. -/
def gathered (groupBy : List Expression) (whole : Bool) (kept : List ρ) : List (List ρ) :=
  if groupBy.isEmpty then if whole then [kept] else kept.map fun r => [r]
  else source.groups groupBy kept

/-- The groups for which a SELECT gives a row. -/
def selected (s : SelectQuery) : List (List ρ) :=
  let kept := source.rows.filter fun r => s.filter.elim .yes (source.truth · [r]) = .yes
  (source.gathered s.groupBy s.isGrouped kept).filter fun g =>
    s.having.elim .yes (source.truth · g) = .yes

/-- The groups that the body of an EXISTS finds, with the truth value of the comparison for each group. -/
def found (comparison : List ρ → Truth) (b : ExistsBody) : List (List ρ) :=
  let kept := source.rows.filter fun r => b.filter.truth (source.truth · [r]) (comparison [r]) = .yes
  (source.gathered b.groupBy (!b.having.isAbsent) kept).filter fun g =>
    b.having.truth (source.truth · g) (comparison g) = .yes

/-- The comparison of a row with the items of a subquery, by their values. -/
def compared [LinearOrder α] (s : SelectQuery) (op : ComparisonOperator) (row : List (Option α))
    (g : List ρ) : Truth :=
  op.rowTruth (row.zip (s.items.map fun i => source.value i.expression g))

/-- Where the comparison belongs, it finds what the subquery gives and what compares as required. -/
theorem found_wantedBody (s : SelectQuery) (comparison : List ρ → Truth) :
    source.found comparison s.wantedBody ≠ [] ↔ ∃ g ∈ source.selected s, comparison g = .yes := by
  cases grouped : s.isGrouped with
  | true =>
    have together : source.found comparison s.wantedBody =
        (source.selected s).filter fun g => comparison g = .yes := by
      simp [found, selected, SelectQuery.wantedBody, grouped, Restriction.truth, Restriction.isAbsent,
        List.filter_filter, Truth.and_eq_yes, and_comm]
    simp [together, List.filter_eq_nil_iff]
  | false =>
    obtain ⟨groupBy, having⟩ := SelectQuery.clauses_of_isGrouped grouped
    simp [found, selected, gathered, SelectQuery.wantedBody, grouped, having, groupBy, Restriction.truth,
      Restriction.isAbsent, Truth.and_eq_yes, and_assoc]

end RowSource

/-- For every operator there are values such that rows made of them compare as it asks for. -/
theorem ComparisonOperator.exists_rowTruth_eq_yes (op : ComparisonOperator) (n : Nat) :
    ∃ x y : ℕ, op.rowTruth (List.replicate (n + 1) (some x, some y)) = .yes := by
  have equal (op : ComparisonOperator) (h : op.truth (some 0) (some 0) = .yes) :
      Truth.all ((List.replicate (n + 1) (some 0, some 0)).map fun p => op.truth p.1 p.2) = .yes := by
    rw [List.map_replicate, h]
    exact Truth.all_replicate_yes (n + 1)
  cases op with
  | equal => exact ⟨0, 0, equal .equal rfl⟩
  | notDistinctFrom => exact ⟨0, 0, equal .notDistinctFrom rfl⟩
  | notEqual => exact ⟨0, 1, by rw [rowTruth_notEqual]; rfl⟩
  | distinctFrom => exact ⟨0, 1, rfl⟩
  | lessThan | lessThanOrEqual => exact ⟨0, 1, rfl⟩
  | greaterThan | greaterThanOrEqual => exact ⟨1, 0, rfl⟩

namespace SelectQuery

/-- The body of an EXISTS finds something whenever the subquery gives a row that compares as required, and
only then, whatever the rows and values are. -/
def IsKeptBy (s : SelectQuery) (op : ComparisonOperator) (b : ExistsBody) : Prop :=
  ∀ (ρ α : Type) [LinearOrder α] (source : RowSource ρ α) (row : List (Option α)),
    row.length = s.items.length →
      (source.found (source.compared s op row) b ≠ [] ↔
        ∃ g ∈ source.selected s, source.compared s op row g = .yes)

theorem isKeptBy_existsBody_iff (s : SelectQuery) (op : ComparisonOperator) (nonempty : s.items ≠ []) :
    s.IsKeptBy op s.existsBody ↔ s.isPlainlyGrouped = true := by
  constructor
  · intro kept
    cases plain : s.isPlainlyGrouped with
    | true => rfl
    | false =>
      -- a group without rows is selected, and there is no row for which WHERE could hold
      obtain ⟨n, length⟩ := Nat.exists_eq_add_one_of_ne_zero (mt List.length_eq_zero_iff.1 nonempty)
      obtain ⟨x, y, compares⟩ := op.exists_rowTruth_eq_yes n
      let source : RowSource Unit ℕ := ⟨[], fun _ _ => .yes, fun _ _ => some y, fun _ _ => []⟩
      obtain ⟨groupBy, grouped⟩ : s.groupBy = [] ∧ s.isGrouped = true := by
        simpa [isPlainlyGrouped] using plain
      have found : source.found (source.compared s op (List.replicate (n + 1) (some x))) s.existsBody = [] := by
        simp [RowSource.found, RowSource.gathered, existsBody, groupBy, Restriction.isAbsent, source]
      have selected : [] ∈ source.selected s := by
        cases having : s.having <;>
          simp [RowSource.selected, RowSource.gathered, groupBy, grouped, having, source]
      have compared : source.compared s op (List.replicate (n + 1) (some x)) [] = .yes := by
        rw [RowSource.compared, List.map_const', length, List.zip_replicate', compares]
      have rows : (List.replicate (n + 1) (some x)).length = s.items.length := by
        rw [List.length_replicate, length]
      have some := (kept Unit ℕ source (List.replicate (n + 1) (some x)) rows).2
        ⟨[], selected, compared⟩
      exact absurd found some
  · intro plain
    rw [(s.existsBody_eq_iff).2 plain]
    exact fun ρ α _ source row _ => source.found_wantedBody s _

end SelectQuery

end SqlDialects
