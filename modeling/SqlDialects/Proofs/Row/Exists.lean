import SqlDialects.Proofs.Draft.Statements
import SqlDialects.Proofs.Row.Expansion
import SqlDialects.Proofs.Row.Selection

/-!
# Comparisons of a row with a subquery

A dialect that cannot compare a row with a subquery asks whether there EXISTS a row of the subquery whose
items compare as required. `SelectQuery.existsTokens` is the text of that EXISTS for given restrictions, and
`SelectQuery.existsBody` are the restrictions that are written. Together with the reading of the
restrictions and with what the body finds, this is `Predicate.exists_of_run`.
-/

namespace SqlDialects

open Draft

/-! ## Operands on either side -/

namespace Dialect

variable (d : Dialect)

mutual

/-- Operands can be given in either order, if it is told which one stands on the right. -/
theorem standardFrom_swap (op : ComparisonOperator) (swapped : Bool) : ∀ x y : Operand,
    d.standardFrom (!swapped) op x y = d.standardFrom swapped op y x
  | .scalar _ _ _, .scalar _ _ _ => by cases swapped <;> rfl
  | .scalar _ _ _, .tuple _ => by cases swapped <;> rfl
  | .scalar _ _ _, .subquery _ _ _ _ => by cases swapped <;> rfl
  | .tuple _, .scalar _ _ _ => by cases swapped <;> rfl
  | .subquery _ _ _ _, .scalar _ _ _ => by cases swapped <;> rfl
  | .subquery _ _ _ _, .subquery _ _ _ _ => by cases swapped <;> rfl
  | .tuple xs, .tuple ys => by
    have each := compareEach_swap swapped xs ys
    cases swapped <;> simp_all [standardFrom]
  | .tuple xs, .subquery _ _ _ items => by
    have each := compareEach_swap (!swapped) xs items
    cases swapped <;> simp_all [standardFrom]
  | .subquery _ _ _ items, .tuple ys => by
    have each := compareEach_swap (!swapped) items ys
    cases swapped <;> simp_all [standardFrom]

theorem compareEach_swap (swapped : Bool) : ∀ xs ys : List Operand,
    d.compareEach (!swapped) xs ys = d.compareEach swapped ys xs
  | [], ys => by simp [compareEach]
  | _ :: _, [] => by simp [compareEach]
  | x :: xs, y :: ys => by
    have each := compareEach_swap swapped xs ys
    have first := fun op => standardFrom_swap op swapped x y
    cases swapped <;> simp_all [compareEach, orPeculiar]

end

end Dialect

/-! ## Forms of a SELECT -/

theorem selectItems_operands (ctx : TranslationContext) (items : List SelectItem) :
    (selectItems ctx items).map (·.1) = operands ctx (items.map (·.expression)) := by
  induction items with
  | nil => rfl
  | cons i items ih =>
    obtain ⟨e, alias?⟩ := i
    rw [selectItems, List.map_cons, ih, List.map_cons, operands]

/-! ## The tokens of an EXISTS -/

section Tokens

variable {ctx : TranslationContext} {mode : RenderingMode} {depth : Nat}

/-- A draft that is carried out to its end writes the given tokens. -/
def Draft.Writes (mode : RenderingMode) (depth : Nat) (x : Draft) (ts : List Token) : Prop :=
  x.refusal? mode depth = none → x.tokens mode depth = ts

theorem Draft.Writes.append {x y : Draft} {ts us : List Token} (hx : x.Writes mode depth ts)
    (hy : y.Writes mode depth us) : (x ++ y).Writes mode depth (ts ++ us) := by
  intro h
  obtain ⟨first, second⟩ := refusal?_append_eq_none.1 h
  rw [tokens_append first, hx first, hy second]

theorem Draft.writes_tokens (x : Draft) : x.Writes mode depth (x.tokens mode depth) := fun _ => rfl

/-- A clause with the given pieces behind its word. -/
def clausePieces (word : Keyword) (ps : List ConditionPiece) : List ConditionPiece :=
  [.token .space, .token (.keyword word), .token .space] ++ ps

/-- The tokens of a clause that asks for a restriction, none if it is absent. -/
def Restriction.clauseTokens (ctx : TranslationContext) (mode : RenderingMode) (depth : Nat)
    (comparison : RowLayout (Expression × Expression)) (word : Keyword) (r : Restriction) : List Token :=
  if r.isAbsent then []
  else (clausePieces word (r.pieces comparison)).flatMap (ConditionPiece.tokens ctx mode depth)

/-- The tokens of an EXISTS over the rows of a SELECT, with the given restrictions. -/
def SelectQuery.existsTokens (ctx : TranslationContext) (mode : RenderingMode) (depth : Nat)
    (comparison : RowLayout (Expression × Expression)) (s : SelectQuery) (b : ExistsBody) : List Token :=
  let d := ctx.dialect
  [.keyword .existsWord, .space, .leftParen]
    ++ (if d.capabilities.withInSubquery then (d.withClause (tableForms ctx s.ctes)).tokens mode depth else [])
    ++ [.keyword .select, .space, .literal (.integer 1)]
    ++ ((s.form ctx).fromClause d false).tokens mode depth
    ++ b.filter.clauseTokens ctx mode depth comparison .whereWord
    ++ (Draft.optional (d.groupByClause? (operands ctx b.groupBy))).tokens mode depth
    ++ b.having.clauseTokens ctx mode depth comparison .having
    ++ [.rightParen]

variable {comparison : RowLayout (Expression × Expression)} {x : Draft}

theorem Predicate.spells_atom (p : Predicate) : (p.draft ctx).Spells ctx mode depth [.atom p] := by
  intro _
  simp [ConditionPiece.tokens]

theorem spells_spacedWord (word : Keyword) : (spacedWord word).Spells ctx mode depth
    [.token .space, .token (.keyword word), .token .space] :=
  ((spells_token .space).append (spells_token _)).append (spells_token .space)

/-- The clause in which rows are compared. -/
theorem spells_existsRestriction (hx : x.Spells ctx mode depth (comparison.pieces .ofPair)) (word : Keyword)
    (own : Option Predicate) :
    (Dialect.existsRestriction word (optionalCondition ctx own) x).Spells ctx mode depth
      (clausePieces word (Restriction.pieces comparison ⟨own, true⟩)) := by
  have start : (spacedWord word).Spells ctx mode depth
      [.token .space, .token (.keyword word), .token .space] := spells_spacedWord word
  have nothing : Draft.empty.Spells ctx mode depth [] := fun _ => rfl
  cases own with
  | none => exact (start.append nothing).append hx
  | some p =>
    have both := (start.append ((p.spells_atom.parensIf true).append (spells_spacedWord .and))).append hx
    rwa [List.append_assoc] at both

theorem writes_existsRestriction (hx : x.Spells ctx mode depth (comparison.pieces .ofPair)) (word : Keyword)
    (own : Option Predicate) :
    (Dialect.existsRestriction word (optionalCondition ctx own) x).Writes mode depth
      (Restriction.clauseTokens ctx mode depth comparison word ⟨own, true⟩) := by
  have present : Restriction.isAbsent ⟨own, true⟩ = false := by cases own <;> rfl
  rw [Restriction.clauseTokens, present]
  exact spells_existsRestriction hx word own

/-- A clause that keeps a condition of the subquery as it is. -/
theorem writes_ownRestriction (word : Keyword) (own : Option Predicate) :
    (Draft.optional ((optionalCondition ctx own).map fun p => spacedWord word ++ p)).Writes mode depth
      (Restriction.clauseTokens ctx mode depth comparison word ⟨own, false⟩) := by
  cases own with
  | none => exact fun _ => rfl
  | some p =>
    have clause : (spacedWord word ++ p.draft ctx).Spells ctx mode depth (clausePieces word [.atom p]) :=
      (spells_spacedWord word).append p.spells_atom
    exact clause

/-- What follows the FROM clause of an EXISTS. -/
theorem writes_restrictions (s : SelectQuery) (hx : x.Spells ctx mode depth (comparison.pieces .ofPair)) :
    (((s.form ctx).frame ctx.dialect).restriction x).Writes mode depth
      (s.existsBody.filter.clauseTokens ctx mode depth comparison .whereWord
        ++ (Draft.optional (ctx.dialect.groupByClause? (operands ctx s.existsBody.groupBy))).tokens mode depth
        ++ s.existsBody.having.clauseTokens ctx mode depth comparison .having) := by
  let f := (s.form ctx).frame ctx.dialect
  cases groupBy : s.groupBy with
  | nil =>
    have clause : f.groupBy = none := by
      simp [f, SelectForm.frame, SelectQuery.form, groupBy, operands, Dialect.groupByClause?]
    have body : s.existsBody = ⟨⟨s.filter, true⟩, [], ⟨none, false⟩⟩ := by
      simp [SelectQuery.existsBody, groupBy]
    rw [SubqueryFrame.restriction, clause, body]
    intro success
    refine (writes_existsRestriction hx .whereWord s.filter success).trans ?_
    exact ((List.append_nil _).trans (List.append_nil _)).symm
  | cons e es =>
    have clause : f.groupBy = some (.spacedWord .groupBy
        ++ .listed ((operands ctx (e :: es)).map ctx.dialect.partitionItem)) := by
      simp [f, SelectForm.frame, SelectQuery.form, groupBy, operands, Dialect.groupByClause?]
    have body : s.existsBody = ⟨⟨s.filter, false⟩, e :: es, ⟨s.having, true⟩⟩ := by
      simp [SelectQuery.existsBody, groupBy]
    rw [SubqueryFrame.restriction, clause, body]
    exact ((writes_ownRestriction .whereWord s.filter).append (Draft.writes_tokens _)).append
      (writes_existsRestriction hx .having s.having)

/-- The EXISTS over the rows of a SELECT writes the clauses of its body. -/
theorem writes_existsComparison (s : SelectQuery)
    (hx : x.Spells ctx mode (depth + 1) (comparison.pieces .ofPair)) :
    (ctx.dialect.existsComparison ((s.form ctx).frame ctx.dialect) x).Writes mode depth
      (s.existsTokens ctx mode (depth + 1) comparison s.existsBody) := by
  have tables : (if ctx.dialect.capabilities.withInSubquery then ((s.form ctx).frame ctx.dialect).withClause
      else .empty).Writes mode (depth + 1) (if ctx.dialect.capabilities.withInSubquery then
        (ctx.dialect.withClause (tableForms ctx s.ctes)).tokens mode (depth + 1) else []) := by
    split <;> exact Draft.writes_tokens _
  have words : (wordSpace .existsWord).Writes mode (depth + 1) [.keyword .existsWord, .space] := fun _ => rfl
  have select : (wordSpace .select).Writes mode (depth + 1) [.keyword .select, .space] := fun _ => rfl
  have one : (token (.literal (.integer 1))).Writes mode (depth + 1) [.literal (.integer 1)] := fun _ => rfl
  have source : ((s.form ctx).fromClause ctx.dialect false).Writes mode (depth + 1)
      (((s.form ctx).fromClause ctx.dialect false).tokens mode (depth + 1)) := Draft.writes_tokens _
  have inner := (((tables.append select).append one).append source).append (writes_restrictions s hx)
  have left : (token .leftParen).Writes mode (depth + 1) [.leftParen] := fun _ => rfl
  have right : (token .rightParen).Writes mode (depth + 1) [.rightParen] := fun _ => rfl
  have all := words.append ((left.append inner).append right)
  intro success
  refine (all success).trans ?_
  simp only [SelectQuery.existsTokens, List.append_assoc]
  rfl

end Tokens

/-! ## A row and a subquery -/

/-- Each item of the subquery is compared, on the left, with a component of the row. -/
theorem compareEach_items (ctx : TranslationContext) (row items : List Expression) :
    ctx.dialect.compareEach true (operands ctx row) (operands ctx items) =
      (items.zip row).map fun p op => (Predicate.ofPair op p).draft ctx := by
  rw [← compareEach_operands]
  exact ctx.dialect.compareEach_swap false _ _

/-- A subquery in a comparison with a row, as far as the comparison is concerned. -/
theorem draft_tupleSubquery (ctx : TranslationContext) (row : List Expression) (op : ComparisonOperator)
    (s : SelectQuery) (emulated : ctx.dialect.capabilities.rowValuesWithSubquery = false) :
    (Predicate.tupleSubquery row op (.select s)).draft ctx =
      let f := (s.form ctx).frame ctx.dialect
      if f.limited then .refuse (.unsupported .tupleAgainstLimitedSubquery ctx.dialect)
      else if s.items.length ≠ row.length then .malformed (.arity row.length s.items.length)
      else ctx.dialect.existsComparison f (.checkedRowComparison op.inverted ctx.dialect.indexesRows
        s.items.length row.length
        (((s.items.map (·.expression)).zip row).map fun p op => (Predicate.ofPair op p).draft ctx)) := by
  have items : (operands ctx (s.items.map (·.expression))).length = s.items.length := by
    rw [operands_eq_map, List.length_map, List.length_map]
  have components : (operands ctx row).length = row.length := by rw [operands_eq_map, List.length_map]
  rw [Predicate.draft, Query.form_select]
  simp only [QueryForm.operand, Dialect.compareWithSubquery, Dialect.rowWithSubquery, emulated]
  rw [SelectQuery.form, selectItems_operands, compareEach_items, items, components]
  rfl

/-- A row value is compared with a subquery in the same way wherever the comparison stands. -/
theorem draft_comparison_tuple (ctx : TranslationContext) (row : List Expression) (op : ComparisonOperator)
    (q : Query) :
    (Predicate.comparison (.tuple row) op (.subquery q)).draft ctx =
      (Predicate.tupleSubquery row op q).draft ctx := by
  rw [Predicate.draft, Predicate.draft, Expression.operand, Expression.operand]
  generalize (q.form ctx) = form
  have peculiar (y : Operand) : ctx.dialect.peculiarComparison? (.tuple (operands ctx row)) op y = none := by
    unfold Dialect.peculiarComparison?
    split <;> rfl
  rw [Dialect.compare, Dialect.orPeculiar]
  simp only [peculiar, Bool.false_eq_true, if_false]
  cases form <;> rfl

theorem limits_of_form {ctx : TranslationContext} {s : SelectQuery} (h : (s.form ctx).limit.isEmpty = true) :
    s.offset = none ∧ s.fetch = none := by
  rw [SelectQuery.form, RowLimit.isEmpty, Bool.and_eq_true] at h
  obtain ⟨offset, fetch⟩ := h
  refine ⟨?_, ?_⟩
  · cases given : s.offset with
    | none => rfl
    | some e => simp [given, optionalOperand] at offset
  · cases given : s.fetch with
    | none => rfl
    | some clause =>
      obtain ⟨count, kind⟩ := clause
      simp [given, fetchLimit] at fetch

/-- An EXISTS is given up where the comparison in it is. -/
theorem Dialect.refusal?_of_existsComparison {d : Dialect} {f : SubqueryFrame} {x : Draft}
    {mode : RenderingMode} {depth : Nat} (h : (d.existsComparison f x).refusal? mode depth = none) :
    x.refusal? mode (depth + 1) = none := by
  have inner := refusal?_append_eq_none.1 (refusal?_append_eq_none.1 (refusal?_append_eq_none.1 h).2).1
  have restriction := (refusal?_append_eq_none.1 inner.2).2
  cases groupBy : f.groupBy with
  | none =>
    simp only [groupBy] at restriction
    exact (refusal?_append_eq_none.1 restriction).2
  | some g =>
    simp only [groupBy] at restriction
    exact (refusal?_append_eq_none.1 (refusal?_append_eq_none.1 restriction).2).2

/-- A row that is compared with a subquery by an EXISTS, wherever the comparison stands. The subquery has no
row limit and as many items as the row has components, and the text is an EXISTS with the clauses of its
body. Each restriction there is read as the condition of the subquery and the comparison of the row with the
items, nulls included. The comparison stands where it belongs if and only if the subquery is grouped by a
GROUP BY clause or not at all, and then, and only then, the EXISTS finds something whenever the subquery
gives a row that compares as required, whatever the rows and values are. -/
theorem Predicate.exists_of_run (ctx : TranslationContext) (row : List Expression) (op : ComparisonOperator)
    (s : SelectQuery) {page final : Page}
    (emulated : ctx.dialect.capabilities.rowValuesWithSubquery = false)
    (h : ((Predicate.tupleSubquery row op (.select s)).draft ctx).run page = (none, final)) :
    (Predicate.comparison (.tuple row) op (.subquery (.select s))).draft ctx =
        (Predicate.tupleSubquery row op (.select s)).draft ctx ∧
    s.offset = none ∧ s.fetch = none ∧ s.items.length = row.length ∧
    (∃ c cs, (s.items.map (·.expression)).zip row = c :: cs ∧
      final.tokens.toList = page.tokens.toList ++ s.existsTokens ctx page.mode (page.depth + 1)
        (.ofRow op.inverted ctx.dialect.indexesRows c cs) s.existsBody ∧
      ∀ r : Restriction, r.isAbsent = false →
        ∃ f, readCondition (r.pieces (.ofRow op.inverted ctx.dialect.indexesRows c cs)) = some f ∧
          ∀ (own : Predicate → Truth) (α : Type) [LinearOrder α] (p : Option α × Option α)
            (ps : List (Option α × Option α)), ps.length = cs.length →
              f.truth (nthTruth (r.atomTruths own
                (RowLayout.ofRow op.inverted ctx.dialect.indexesRows p ps).componentTruths)) =
                  r.truth own (op.rowTruth ((p :: ps).map Prod.swap))) ∧
    (s.existsBody = s.wantedBody ↔ s.isPlainlyGrouped = true) ∧
    (s.IsKeptBy op s.existsBody ↔ s.isPlainlyGrouped = true) := by
  rw [Draft.run_eq, Prod.mk.injEq] at h
  obtain ⟨success, rfl⟩ := h
  refine ⟨draft_comparison_tuple ctx row op (.select s), ?_⟩
  rw [draft_tupleSubquery ctx row op s emulated] at success ⊢
  cases limited : ((s.form ctx).frame ctx.dialect).limited with
  | true => simp [limited, refusal?] at success
  | false =>
    by_cases lengths : s.items.length = row.length
    · have unlimited : (s.form ctx).limit.isEmpty = true := by
        simpa [SelectForm.frame] using limited
      simp only [limited, lengths, ne_eq, not_true_eq_false, if_false, Bool.false_eq_true] at success ⊢
      have compared := Dialect.refusal?_of_existsComparison success
      have nonempty : row.length ≠ 0 := by
        intro none
        simp [checkedRowComparison, none, malformed, refusal?] at compared
      have some : s.items ≠ [] := by
        rintro none
        rw [none] at lengths
        exact nonempty lengths.symm
      have pairs : ((s.items.map (·.expression)).zip row).length ≠ 0 := by
        rwa [List.length_zip, List.length_map, lengths, Nat.min_self]
      obtain ⟨c, cs, zipped⟩ := List.exists_cons_of_length_pos (Nat.pos_of_ne_zero pairs)
      obtain ⟨offset, fetch⟩ := limits_of_form unlimited
      refine ⟨offset, fetch, trivial, ⟨c, cs, zipped, ?_, fun r present => ?_⟩, s.existsBody_eq_iff,
        s.isKeptBy_existsBody_iff op some⟩
      · rw [zipped] at success ⊢
        have written := writes_existsComparison s
          (renders_checkedRowComparison op.inverted ctx.dialect.indexesRows nonempty c cs).spells success
        rw [Page.tokens_writeAll, ← written, Draft.tokens]
      · obtain ⟨f, read, truth⟩ := r.exists_reading op.inverted ctx.dialect.indexesRows c cs present
        refine ⟨f, read, fun own α _ p ps length => ?_⟩
        rw [truth own α p ps length, ← ComparisonOperator.rowTruth_inverted op.inverted,
          ComparisonOperator.inverted_inverted]
    · simp [limited, lengths, malformed, refusal?] at success

/-- A subquery of two columns that gives a row if there are enough of them. -/
def SelectQuery.countsRows : SelectQuery where
  items := [⟨.column none "x" none, none⟩, ⟨.column none "y" none, none⟩]
  tables := [⟨"s", none⟩]
  having := some (.comparison (.aggregate ⟨"count", [], false, none, none⟩) .greaterThan (.column none "n" none))

/-- The EXISTS over the subquery that counts rows does without its HAVING clause, and finds something else. -/
theorem Predicate.exists_of_countsRows :
    let row : List Expression := [.column none "a" none, .column none "b" none]
    let run := ((Predicate.tupleSubquery row .equal (.select .countsRows)).draft (.ofDialect .hsql)).run .blank
    run.1 = none ∧ SelectQuery.countsRows.existsBody.having.isAbsent = true ∧
      SelectQuery.countsRows.existsBody ≠ SelectQuery.countsRows.wantedBody ∧
      ¬SelectQuery.countsRows.IsKeptBy .equal SelectQuery.countsRows.existsBody := by
  intro row run
  have success : run = (none, run.2) := rfl
  obtain ⟨-, -, -, -, -, body, kept⟩ := exists_of_run (.ofDialect .hsql) row .equal .countsRows rfl success
  exact ⟨rfl, rfl, fun same => absurd (body.1 same) (by decide), fun same => absurd (kept.1 same) (by decide)⟩

end SqlDialects
