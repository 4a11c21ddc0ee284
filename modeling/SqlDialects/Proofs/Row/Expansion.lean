import SqlDialects.Proofs.Row.Layout

/-!
# Row comparisons without row values

The draft of a comparison of rows, component by component, writes the pieces of its layout, and gives up
for the cause for which the first of its comparisons does. So the text is read as the comparison of the
rows whatever the operands and their values are (`Dialect.reading_of_compareRows`).
-/

namespace SqlDialects

/-- Why a piece is given up, if it is. -/
def ConditionPiece.refusal? (ctx : TranslationContext) (mode : RenderingMode) (depth : Nat) :
    ConditionPiece → Option TranslationError
  | .token _ => none
  | .atom p => (p.draft ctx).refusal? mode depth

/-- The condition of a piece, if it is one. -/
def ConditionPiece.atom? : ConditionPiece → Option Predicate
  | .token _ => none
  | .atom p => some p

namespace Draft

variable {ctx : TranslationContext} {mode : RenderingMode} {depth : Nat}

/-- A draft writes some pieces, and gives up for the cause for which the first of them does. -/
structure Renders (ctx : TranslationContext) (mode : RenderingMode) (depth : Nat) (x : Draft)
    (ps : List ConditionPiece) : Prop where
  refusal : x.refusal? mode depth = ps.findSome? (ConditionPiece.refusal? ctx mode depth)
  spells : x.Spells ctx mode depth ps

theorem Renders.append {x y : Draft} {ps qs : List ConditionPiece} (hx : x.Renders ctx mode depth ps)
    (hy : y.Renders ctx mode depth qs) : (x ++ y).Renders ctx mode depth (ps ++ qs) where
  refusal := by
    rw [List.findSome?_append, ← hx.refusal, ← hy.refusal]
    rfl
  spells := hx.spells.append hy.spells

theorem renders_empty : empty.Renders ctx mode depth [] := ⟨rfl, fun _ => rfl⟩

theorem renders_token (t : Token) : (token t).Renders ctx mode depth [.token t] := ⟨rfl, spells_token t⟩

theorem Renders.parens {x : Draft} {ps : List ConditionPiece} (h : x.Renders ctx mode depth ps) :
    (parens x).Renders ctx mode depth (bracketedPieces true ps) :=
  ((renders_token .leftParen).append h).append (renders_token .rightParen)

theorem renders_joint (kind : JunctionKind) :
    (spacedWord kind.joint).Renders ctx mode depth kind.jointPieces :=
  ((renders_token .space).append (renders_token _)).append (renders_token .space)

section Components

variable {ι : Type} {component : ι → Comparator} {condition : ComparisonOperator → ι → Predicate}
  (renders : ∀ op c, (component c op).Renders ctx mode depth [.atom (condition op c)])
  (op : ComparisonOperator) (indexed : Bool) (kind : JunctionKind) (c : ι) (cs : List ι)

include renders

theorem renders_separated :
    (separated (spacedWord kind.joint) ((c :: cs).map fun c => component c op)).Renders ctx mode depth
      ((RowLayout.chain op kind c cs).pieces condition) := by
  induction cs generalizing c with
  | nil => exact renders op c
  | cons d ds ih => exact ((renders op c).append (renders_joint kind)).append (ih d)

theorem renders_chain :
    (chain op kind.joint ((c :: cs).map component)).Renders ctx mode depth
      ((RowLayout.bracketedChain op kind c cs).pieces condition) := by
  have joined := renders_separated renders op kind c cs
  rw [chain, List.map_map]
  cases cs with
  | nil => exact joined
  | cons d ds =>
    have several : decide (1 < ((c :: d :: ds).map component).length) = true := by simp
    rw [several]
    exact joined.parens

theorem renders_lexicographic :
    (lexicographic op ((c :: cs).map component)).Renders ctx mode depth
      ((RowLayout.lexicographic op c cs).pieces condition) := by
  induction cs generalizing c with
  | nil => exact renders op c
  | cons d ds ih =>
    have strict := (renders op.strict c).append (renders_joint .disjunction)
    have equal := (strict.append (renders .equal c)).append (renders_joint .conjunction)
    have all := (equal.append (ih d)).parens
    simp only [List.append_assoc] at all
    rw [RowLayout.lexicographic, RowLayout.pieces, RowLayout.pieces, RowLayout.pieces, RowLayout.pieces,
      RowLayout.pieces, List.append_assoc, List.append_assoc]
    exact all

theorem renders_lexicographicIndexed :
    (lexicographicIndexed op ((c :: cs).map component)).Renders ctx mode depth
      ((RowLayout.lexicographicIndexed op c cs).pieces condition) := by
  induction cs generalizing c with
  | nil => exact renders op c
  | cons d ds ih =>
    have strict := (renders op.strict c).append (renders_joint .disjunction)
    have loose := (renders op.loose c).append (renders_joint .conjunction)
    exact loose.append (strict.append (ih d)).parens

theorem renders_rowComparison :
    (rowComparison op indexed ((c :: cs).map component)).Renders ctx mode depth
      ((RowLayout.ofRow op indexed c cs).pieces condition) := by
  have order : (if indexed then parens (lexicographicIndexed op ((c :: cs).map component))
      else lexicographic op ((c :: cs).map component)).Renders ctx mode depth
        ((if indexed then .bracketed (RowLayout.lexicographicIndexed op c cs)
          else RowLayout.lexicographic op c cs).pieces condition) := by
    cases indexed with
    | true => exact (renders_lexicographicIndexed renders op c cs).parens
    | false => exact renders_lexicographic renders op c cs
  cases op with
  | equal | notDistinctFrom => exact renders_chain renders _ .conjunction c cs
  | notEqual | distinctFrom => exact renders_chain renders _ .disjunction c cs
  | _ => exact order

end Components

end Draft

/-! ## Rows of expressions -/

theorem Dialect.compareEach_eq (d : Dialect) (swapped : Bool) (xs ys : List Operand) :
    d.compareEach swapped xs ys = (xs.zip ys).map fun p op =>
      d.orPeculiar swapped op p.1 p.2 (d.standardFrom swapped op p.1 p.2) := by
  induction xs generalizing ys with
  | nil => simp [compareEach]
  | cons x xs ih =>
    cases ys with
    | nil => simp [compareEach]
    | cons y ys => rw [compareEach, ih, List.zip_cons_cons, List.map_cons]

/-- The components of rows of expressions are compared like single expressions. -/
theorem compareEach_operands (ctx : TranslationContext) (ls rs : List Expression) :
    ctx.dialect.compareEach false (operands ctx ls) (operands ctx rs) =
      (ls.zip rs).map fun p op => (Predicate.ofPair op p).draft ctx := by
  rw [Dialect.compareEach_eq, operands_eq_map, operands_eq_map, List.zip_map, List.map_map]
  refine List.map_congr_left fun p _ => funext fun op => ?_
  rw [Predicate.ofPair, Predicate.draft]
  rfl

theorem Dialect.compareRows_operands (ctx : TranslationContext) (op : ComparisonOperator) (indexed : Bool)
    (ls rs : List Expression) :
    ctx.dialect.compareRows op indexed (operands ctx ls) (operands ctx rs) =
      .checkedRowComparison op indexed ls.length rs.length
        ((ls.zip rs).map fun p op => (Predicate.ofPair op p).draft ctx) := by
  rw [compareRows, compareEach_operands, operands_eq_map, operands_eq_map, List.length_map, List.length_map]

theorem RowLayout.atoms_pieces {ι : Type} (condition : ComparisonOperator → ι → Predicate)
    (l : RowLayout ι) :
    (l.pieces condition).filterMap ConditionPiece.atom? = l.comparisons.map fun c => condition c.1 c.2 := by
  induction l with
  | comparison op c => rfl
  | joined kind first second ihf ihs =>
    have joint : kind.jointPieces.filterMap ConditionPiece.atom? = [] := rfl
    rw [pieces, List.filterMap_append, List.filterMap_append, ihf, ihs, joint, List.append_nil,
      comparisons, List.map_append]
  | bracketed inner ih =>
    rw [pieces, bracketedPieces, if_pos rfl, List.filterMap_append, List.filterMap_cons, ih, comparisons]
    exact List.append_nil _

/-- Rows with the same number of components, which is not zero, are compared over these. -/
theorem Draft.renders_checkedRowComparison {ctx : TranslationContext} {mode : RenderingMode} {depth n : Nat}
    (op : ComparisonOperator) (indexed : Bool) (nonempty : n ≠ 0) (c : Expression × Expression)
    (cs : List (Expression × Expression)) :
    (checkedRowComparison op indexed n n
      ((c :: cs).map fun p op => (Predicate.ofPair op p).draft ctx)).Renders ctx mode depth
        ((RowLayout.ofRow op indexed c cs).pieces .ofPair) := by
  rw [checkedRowComparison, if_neg (not_not.2 rfl), if_neg nonempty]
  refine renders_rowComparison (fun op p => ⟨?_, fun _ => ?_⟩) op indexed c cs
  · simp [ConditionPiece.refusal?]
  · simp [ConditionPiece.tokens]

theorem Dialect.renders_compareRows (ctx : TranslationContext) {mode : RenderingMode} {depth : Nat}
    (op : ComparisonOperator) (indexed : Bool) {ls rs : List Expression} {c : Expression × Expression}
    {cs : List (Expression × Expression)} (same : ls.length = rs.length) (rows : ls.zip rs = c :: cs) :
    (ctx.dialect.compareRows op indexed (operands ctx ls) (operands ctx rs)).Renders ctx mode depth
      ((RowLayout.ofRow op indexed c cs).pieces .ofPair) := by
  have nonempty : rs.length ≠ 0 := by
    intro none
    rw [List.length_eq_zero_iff.1 none, List.zip_nil_right] at rows
    cases rows
  rw [compareRows_operands, rows, same]
  exact Draft.renders_checkedRowComparison op indexed nonempty c cs

/-- A comparison of rows, spelled out over their components. Rows of different lengths and rows without
components are refused. Otherwise the comparison is given up for the cause for which the first comparison
of components is, and if it is carried out, it adds the tokens of pieces that are read as a formula: under
all values of the components, nulls included, this has the truth value of the comparison of the rows. -/
theorem Dialect.reading_of_compareRows (ctx : TranslationContext) (op : ComparisonOperator) (indexed : Bool)
    (ls rs : List Expression) (page : Page) :
    let run := (ctx.dialect.compareRows op indexed (operands ctx ls) (operands ctx rs)).run page
    (ls.length ≠ rs.length → run = (some (.invalidExpression (.arity ls.length rs.length)), page)) ∧
    (ls = [] → rs = [] → run = (some (.invalidExpression .emptyTuples), page)) ∧
    ∀ c cs, ls.length = rs.length → ls.zip rs = c :: cs →
      let layout := RowLayout.ofRow op indexed c cs
      let pieces := layout.pieces Predicate.ofPair
      run.1 = pieces.findSome? (ConditionPiece.refusal? ctx page.mode page.depth) ∧
      (run.1 = none → run.2.tokens.toList =
        page.tokens.toList ++ pieces.flatMap (ConditionPiece.tokens ctx page.mode page.depth)) ∧
      pieces.filterMap ConditionPiece.atom? = layout.comparisons.map (fun c => .ofPair c.1 c.2) ∧
      ∃ f, readCondition pieces = some f ∧
        ∀ (α : Type) [LinearOrder α] (p : Option α × Option α) (ps : List (Option α × Option α)),
          ps.length = cs.length →
            f.truth (nthTruth (RowLayout.ofRow op indexed p ps).componentTruths) = op.rowTruth (p :: ps) := by
  intro run
  have draft := compareRows_operands ctx op indexed ls rs
  refine ⟨fun different => ?_, fun noLeft noRight => ?_, ?_⟩
  · simp only [run, draft, Draft.checkedRowComparison, if_pos different]
    rfl
  · subst noLeft noRight
    simp only [run, draft, Draft.checkedRowComparison]
    rfl
  · intro c cs same rows layout pieces
    have renders : (ctx.dialect.compareRows op indexed (operands ctx ls) (operands ctx rs)).Renders ctx
        page.mode page.depth pieces := renders_compareRows ctx op indexed same rows
    have outcome := Draft.run_eq (ctx.dialect.compareRows op indexed (operands ctx ls) (operands ctx rs)) page
    refine ⟨?_, fun success => ?_, layout.atoms_pieces _, _, (layout.takes_pieces _).readCondition, ?_⟩
    · rw [← renders.refusal]
      exact congrArg Prod.fst outcome
    · have written := renders.spells ((congrArg Prod.fst outcome).symm.trans success)
      rw [← written, Draft.tokens, ← Page.tokens_writeAll]
      exact congrArg (fun r => r.2.tokens.toList) outcome
    · intro α _ p ps lengths
      rw [RowLayout.level_ofRow_congr op indexed lengths.symm c p]
      exact RowLayout.truth_level_ofRow p ps op indexed (assigns_nthTruth _)

end SqlDialects
