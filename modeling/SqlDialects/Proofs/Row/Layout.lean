import SqlDialects.Proofs.Condition.Pieces
import SqlDialects.Proofs.Row.Truth

/-!
# Layouts of row comparisons

Where a dialect has no row values, a comparison of rows is spelled out over the comparisons of their
components. `RowLayout.ofRow` is the layout of that text: which components are compared by which
operators, what joins them, and where there are parentheses. As long as AND joins nothing that has an OR
outside of parentheses (`RowLayout.isBracketed`), the text is read as the layout means it, and both
layouts of an ordering mean the comparison of the rows (`RowLayout.truth_ofRow`), nulls included.
-/

namespace SqlDialects

/-! ## Formulas in three truth values -/

mutual

/-- The truth value of a formula under one of each atom, which need not be known. -/
def Formula.truth (v : Nat → Truth) : Formula → Truth
  | .atom n => v n
  | .not f => (f.truth v).not
  | .all fs => .all (truths v fs)
  | .any fs => .any (truths v fs)

/-- The truth values of some formulas. -/
def truths (v : Nat → Truth) : List Formula → List Truth
  | [] => []
  | f :: fs => f.truth v :: truths v fs

end

theorem truths_eq_map (v : Nat → Truth) (fs : List Formula) : truths v fs = fs.map (·.truth v) := by
  induction fs with
  | nil => rfl
  | cons f fs ih => rw [truths, ih, List.map_cons]

namespace Level

variable {v : Nat → Truth} {l r : Level}

theorem truth_formula (l : Level) :
    l.formula.truth v = .any (l.alternatives.map fun fs => .all (fs.map (·.truth v))) := by
  rw [formula, Formula.truth, truths_eq_map, List.map_map]
  refine congrArg Truth.any (List.map_congr_left fun fs _ => ?_)
  simp only [Function.comp_apply, Formula.truth, truths_eq_map]

@[simp] theorem truth_factor (f : Formula) : (factor f).formula.truth v = f.truth v := by
  simp [truth_formula, alternatives, factor]

theorem truth_append_or (l r : Level) :
    (l ++ or ++ r).formula.truth v = (l.formula.truth v).or (r.formula.truth v) := by
  rw [truth_formula, alternatives_append_or, List.map_append, Truth.any_append, truth_formula,
    truth_formula]

/-- Levels of a single alternative can stand side by side. -/
theorem truth_append (hl : l.ended = []) (hr : r.ended = []) :
    (l ++ r).formula.truth v = (l.formula.truth v).and (r.formula.truth v) := by
  simp [truth_formula, alternatives, append_eq, append, hl, hr, Truth.all_append]

end Level

/-- The truth values that are given for the atoms from the `n`-th one on. -/
def Assigns (v : Nat → Truth) (n : Nat) (ts : List Truth) : Prop :=
  ∀ i (hi : i < ts.length), v (n + i) = ts[i]

theorem assigns_append {v : Nat → Truth} {n : Nat} {ts us : List Truth} :
    Assigns v n (ts ++ us) ↔ Assigns v n ts ∧ Assigns v (n + ts.length) us := by
  constructor
  · intro h
    refine ⟨fun i hi => ?_, fun i hi => ?_⟩
    · have here := h i (by rw [List.length_append]; omega)
      rwa [List.getElem_append_left hi] at here
    · have here := h (ts.length + i) (by rw [List.length_append]; omega)
      rw [List.getElem_append_right (by omega)] at here
      simpa [Nat.add_assoc] using here
  · rintro ⟨left, right⟩ i hi
    rcases Nat.lt_or_ge i ts.length with before | behind
    · rw [List.getElem_append_left before]
      exact left i before
    · rw [List.getElem_append_right behind, ← right (i - ts.length)]
      exact congrArg v (by omega)

/-- The truth value of each atom, given as a list. -/
def nthTruth (ts : List Truth) (n : Nat) : Truth := ts.getD n .unknown

theorem assigns_nthTruth (ts : List Truth) : Assigns (nthTruth ts) 0 ts := by
  intro i hi
  rw [Nat.zero_add, nthTruth, List.getD_eq_getElem?_getD, List.getElem?_eq_getElem hi, Option.getD_some]

/-! ## Reading -/

namespace Reader

/-- An atom is taken for a factor. -/
theorem takes_atom (p : Predicate) : Takes [.atom p] 1 fun n => .factor (.atom n) := by
  intro r wanted negations
  simp [readAll, step, operand, behind, wanted, negations, Formula.negated]

/-- Pieces that are taken for what they say on a level are read as the formula of that level. -/
theorem Takes.readCondition {ps : List ConditionPiece} {count : Nat} {level : Nat → Level}
    (h : Takes ps count level) : readCondition ps = some (level 0).formula := by
  rw [SqlDialects.readCondition, h .initial rfl rfl]
  simp [behind, initial, formula?, Level.start_append]

end Reader

/-! ## Layouts -/

/-- The condition that compares two expressions. -/
def Predicate.ofPair (op : ComparisonOperator) (p : Expression × Expression) : Predicate :=
  .comparison p.1 op p.2

/-- A text made of comparisons of components. -/
inductive RowLayout (ι : Type) where
  | comparison (op : ComparisonOperator) (c : ι)
  | joined (kind : JunctionKind) (first second : RowLayout ι)
  | bracketed (inner : RowLayout ι)

namespace RowLayout

variable {ι κ : Type}

/-- The comparisons in the order in which they are written. -/
def comparisons : RowLayout ι → List (ComparisonOperator × ι)
  | comparison op c => [(op, c)]
  | joined _ first second => first.comparisons ++ second.comparisons
  | bracketed inner => inner.comparisons

/-- The pieces of the text, with the given condition for each comparison. -/
def pieces (condition : ComparisonOperator → ι → Predicate) : RowLayout ι → List ConditionPiece
  | comparison op c => [.atom (condition op c)]
  | joined kind first second => first.pieces condition ++ kind.jointPieces ++ second.pieces condition
  | bracketed inner => bracketedPieces true (inner.pieces condition)

/-- What the text says on a level, with its comparisons numbered from `n` on. -/
def level (n : Nat) : RowLayout ι → Level
  | comparison _ _ => .factor (.atom n)
  | joined kind first second =>
    first.level n ++ kind.jointLevel ++ second.level (n + first.comparisons.length)
  | bracketed inner => .factor (inner.level n).formula

/-- What the text is meant to say, with a truth value for each comparison. -/
def truth (value : ComparisonOperator → ι → Truth) : RowLayout ι → Truth
  | comparison op c => value op c
  | joined .conjunction first second => (first.truth value).and (second.truth value)
  | joined .disjunction first second => (first.truth value).or (second.truth value)
  | bracketed inner => inner.truth value

/-- No OR stands outside of parentheses. -/
def isSingle : RowLayout ι → Bool
  | comparison _ _ => true
  | joined .conjunction first second => first.isSingle && second.isSingle
  | joined .disjunction _ _ => false
  | bracketed _ => true

/-- AND joins only what has no OR outside of parentheses. -/
def isBracketed : RowLayout ι → Bool
  | comparison _ _ => true
  | joined .conjunction first second =>
    first.isSingle && second.isSingle && first.isBracketed && second.isBracketed
  | joined .disjunction first second => first.isBracketed && second.isBracketed
  | bracketed inner => inner.isBracketed

/-- The same text over other components. -/
def map (f : ι → κ) : RowLayout ι → RowLayout κ
  | comparison op c => comparison op (f c)
  | joined kind first second => joined kind (first.map f) (second.map f)
  | bracketed inner => bracketed (inner.map f)

theorem comparisons_map (f : ι → κ) (l : RowLayout ι) :
    (l.map f).comparisons = l.comparisons.map fun c => (c.1, f c.2) := by
  induction l with
  | comparison op c => rfl
  | joined kind first second ihf ihs => rw [map, comparisons, ihf, ihs, comparisons, List.map_append]
  | bracketed inner ih => rw [map, comparisons, ih, comparisons]

/-- What a text says on a level does not depend on its components. -/
theorem level_map (f : ι → κ) (l : RowLayout ι) (n : Nat) : (l.map f).level n = l.level n := by
  induction l generalizing n with
  | comparison op c => rfl
  | joined kind first second ihf ihs =>
    rw [map, level, ihf, ihs, comparisons_map, List.length_map, level]
  | bracketed inner ih => rw [map, level, ih, level]

/-! ## What is read -/

/-- The text is taken for what it says on a level. -/
theorem takes_pieces (condition : ComparisonOperator → ι → Predicate) (l : RowLayout ι) :
    Reader.Takes (l.pieces condition) l.comparisons.length fun n => l.level n := by
  induction l with
  | comparison op c => exact Reader.takes_atom _
  | joined kind first second ihf ihs =>
    rw [comparisons, List.length_append]
    exact ihf.joined kind ihs
  | bracketed inner ih => exact ih.bracketed true

theorem ended_level {l : RowLayout ι} (single : l.isSingle = true) (n : Nat) : (l.level n).ended = [] := by
  induction l generalizing n with
  | comparison op c => rfl
  | joined kind first second ihf ihs =>
    cases kind with
    | conjunction =>
      obtain ⟨hf, hs⟩ := Bool.and_eq_true_iff.1 single
      rw [level, JunctionKind.jointLevel, Level.append_start, Level.append_eq, Level.append, ihs hs, ihf hf]
    | disjunction => cases single
  | bracketed inner ih => rfl

/-- A bracketed text is read as it is meant. -/
theorem truth_level {l : RowLayout ι} (h : l.isBracketed = true) {value : ComparisonOperator → ι → Truth}
    {v : Nat → Truth} {n : Nat} (assigns : Assigns v n (l.comparisons.map fun c => value c.1 c.2)) :
    (l.level n).formula.truth v = l.truth value := by
  induction l generalizing n with
  | comparison op c =>
    rw [level, Level.truth_factor, Formula.truth, truth]
    exact assigns 0 Nat.one_pos
  | joined kind first second ihf ihs =>
    rw [comparisons, List.map_append, assigns_append, List.length_map] at assigns
    cases kind with
    | conjunction =>
      simp only [isBracketed, Bool.and_eq_true] at h
      obtain ⟨⟨⟨singleFirst, singleSecond⟩, hf⟩, hs⟩ := h
      have side := Level.truth_append (v := v) (ended_level singleFirst n)
        (ended_level singleSecond (n + first.comparisons.length))
      rw [level, JunctionKind.jointLevel, Level.append_start, side, ihf hf assigns.1, ihs hs assigns.2, truth]
    | disjunction =>
      simp only [isBracketed, Bool.and_eq_true] at h
      rw [level, JunctionKind.jointLevel, Level.truth_append_or, ihf h.1 assigns.1, ihs h.2 assigns.2, truth]
  | bracketed inner ih =>
    rw [level, Level.truth_factor, truth]
    exact ih h assigns

/-! ## Layouts of rows -/

/-- The components of a row, all compared by the operator. -/
def chain (op : ComparisonOperator) (kind : JunctionKind) (c : ι) : List ι → RowLayout ι
  | [] => .comparison op c
  | d :: ds => .joined kind (.comparison op c) (chain op kind d ds)

/-- Rows in order: `(l1 < r1 OR l1 = r1 AND rest)`. -/
def lexicographic (op : ComparisonOperator) (c : ι) : List ι → RowLayout ι
  | [] => .comparison op c
  | d :: ds =>
    .bracketed (.joined .disjunction (.comparison op.strict c)
      (.joined .conjunction (.comparison .equal c) (lexicographic op d ds)))

/-- Rows in order, with the leading component in front: `l1 <= r1 AND (l1 < r1 OR rest)`. -/
def lexicographicIndexed (op : ComparisonOperator) (c : ι) : List ι → RowLayout ι
  | [] => .comparison op c
  | d :: ds =>
    .joined .conjunction (.comparison op.loose c)
      (.bracketed (.joined .disjunction (.comparison op.strict c) (lexicographicIndexed op d ds)))

/-- What joins the components of rows that are compared by an operator other than an ordering. -/
def joint : ComparisonOperator → JunctionKind
  | .notEqual => .disjunction
  | .distinctFrom => .disjunction
  | _ => .conjunction

/-- A chain between parentheses, unless it is a single comparison. -/
def bracketedChain (op : ComparisonOperator) (kind : JunctionKind) (c : ι) (cs : List ι) : RowLayout ι :=
  if cs.isEmpty then .comparison op c else .bracketed (chain op kind c cs)

/-- The text of a comparison of rows, given their components. -/
def ofRow (op : ComparisonOperator) (indexed : Bool) (c : ι) (cs : List ι) : RowLayout ι :=
  if op.isOrdering then
    if indexed then .bracketed (lexicographicIndexed op c cs) else lexicographic op c cs
  else bracketedChain op (joint op) c cs

section Map

variable (f : ι → κ) (op : ComparisonOperator) (indexed : Bool) (kind : JunctionKind) (c : ι) (cs : List ι)

theorem map_chain : (chain op kind c cs).map f = chain op kind (f c) (cs.map f) := by
  induction cs generalizing c with
  | nil => rfl
  | cons d ds ih => rw [chain, map, map, ih, List.map_cons, chain]

theorem map_lexicographic : (lexicographic op c cs).map f = lexicographic op (f c) (cs.map f) := by
  induction cs generalizing c with
  | nil => rfl
  | cons d ds ih =>
    rw [lexicographic, List.map_cons, lexicographic, ← ih]
    rfl

theorem map_lexicographicIndexed :
    (lexicographicIndexed op c cs).map f = lexicographicIndexed op (f c) (cs.map f) := by
  induction cs generalizing c with
  | nil => rfl
  | cons d ds ih =>
    rw [lexicographicIndexed, List.map_cons, lexicographicIndexed, ← ih]
    rfl

theorem map_ofRow : (ofRow op indexed c cs).map f = ofRow op indexed (f c) (cs.map f) := by
  unfold ofRow bracketedChain
  cases op.isOrdering with
  | true =>
    cases indexed with
    | true => exact congrArg bracketed (map_lexicographicIndexed f op c cs)
    | false => exact map_lexicographic f op c cs
  | false =>
    cases cs with
    | nil => rfl
    | cons d ds => exact congrArg bracketed (map_chain f op (joint op) c (d :: ds))

/-- What the text of a comparison of rows says on a level depends on the number of components only. -/
theorem level_ofRow_congr {cs : List ι} {ds : List κ} (h : cs.length = ds.length) (c : ι) (d : κ) (n : Nat) :
    (ofRow op indexed c cs).level n = (ofRow op indexed d ds).level n := by
  rw [← level_map (fun _ => ()) (ofRow op indexed c cs), ← level_map (fun _ => ()) (ofRow op indexed d ds),
    map_ofRow, map_ofRow, List.map_const', List.map_const', h]

end Map

section Bracketed

variable (op : ComparisonOperator) (indexed : Bool) (kind : JunctionKind) (c : ι) (cs : List ι)

theorem isSingle_lexicographic : (lexicographic op c cs).isSingle = true := by
  cases cs <;> rfl

theorem isBracketed_lexicographic : (lexicographic op c cs).isBracketed = true := by
  induction cs generalizing c with
  | nil => rfl
  | cons d ds ih => simp [lexicographic, isBracketed, isSingle, isSingle_lexicographic, ih]

theorem isBracketed_lexicographicIndexed : (lexicographicIndexed op c cs).isBracketed = true := by
  induction cs generalizing c with
  | nil => rfl
  | cons d ds ih => simp [lexicographicIndexed, isBracketed, isSingle, ih]

theorem isSingle_chain_conjunction : (chain op .conjunction c cs).isSingle = true := by
  induction cs generalizing c with
  | nil => rfl
  | cons d ds ih => simp [chain, isSingle, ih]

theorem isBracketed_chain : (chain op kind c cs).isBracketed = true := by
  induction cs generalizing c with
  | nil => rfl
  | cons d ds ih => cases kind <;> simp [chain, isBracketed, isSingle, isSingle_chain_conjunction, ih]

/-- A comparison of rows has no OR outside of parentheses, so that AND can join it with other conditions. -/
theorem isSingle_ofRow : (ofRow op indexed c cs).isSingle = true := by
  unfold ofRow bracketedChain
  split
  · split
    · rfl
    · exact isSingle_lexicographic op c cs
  · split <;> rfl

/-- AND joins nothing in a comparison of rows that has an OR outside of parentheses. -/
theorem isBracketed_ofRow : (ofRow op indexed c cs).isBracketed = true := by
  unfold ofRow bracketedChain
  split
  · split
    · exact isBracketed_lexicographicIndexed op c cs
    · exact isBracketed_lexicographic op c cs
  · split
    · rfl
    · exact isBracketed_chain op _ c cs

end Bracketed

/-! ## Truth of rows -/

section Truth

variable {α : Type} [LinearOrder α] {op : ComparisonOperator}
  (p : Option α × Option α) (ps : List (Option α × Option α))

/-- The truth value of a comparison of components, given as the pair of their values. -/
def pairTruth (op : ComparisonOperator) (p : Option α × Option α) : Truth := op.truth p.1 p.2

theorem truth_chain_conjunction :
    (chain op .conjunction p ps).truth pairTruth = .all ((p :: ps).map (pairTruth op)) := by
  induction ps generalizing p with
  | nil => exact (Truth.and_yes _).symm
  | cons q qs ih =>
    rw [chain, truth, ih]
    rfl

theorem truth_chain_disjunction :
    (chain op .disjunction p ps).truth pairTruth = .any ((p :: ps).map (pairTruth op)) := by
  induction ps generalizing p with
  | nil => exact (Truth.or_no _).symm
  | cons q qs ih =>
    rw [chain, truth, ih]
    rfl

theorem truth_lexicographic (ordering : op.isOrdering = true) :
    (lexicographic op p ps).truth pairTruth = op.orderTruth (p :: ps) := by
  induction ps generalizing p with
  | nil => exact (ComparisonOperator.orderTruth_singleton ordering p.1 p.2).symm
  | cons q qs ih =>
    rw [ComparisonOperator.orderTruth_cons_eq_or ordering, ← ih q]
    rfl

theorem truth_lexicographicIndexed (ordering : op.isOrdering = true) :
    (lexicographicIndexed op p ps).truth pairTruth = op.orderTruth (p :: ps) := by
  induction ps generalizing p with
  | nil => exact (ComparisonOperator.orderTruth_singleton ordering p.1 p.2).symm
  | cons q qs ih =>
    rw [ComparisonOperator.orderTruth_cons_eq_and ordering, ← ih q]
    rfl

theorem truth_bracketedChain (kind : JunctionKind) :
    (bracketedChain op kind p ps).truth pairTruth = (chain op kind p ps).truth pairTruth := by
  cases ps <;> rfl

/-- Both texts of a comparison of rows mean that comparison. -/
theorem truth_ofRow (op : ComparisonOperator) (indexed : Bool) :
    (ofRow op indexed p ps).truth pairTruth = op.rowTruth (p :: ps) := by
  have order (ordering : op.isOrdering = true) :
      (ofRow op indexed p ps).truth pairTruth = op.orderTruth (p :: ps) := by
    rw [ofRow, if_pos ordering]
    cases indexed with
    | true => exact truth_lexicographicIndexed p ps ordering
    | false => exact truth_lexicographic p ps ordering
  cases op with
  | equal | notDistinctFrom => exact (truth_bracketedChain p ps _).trans (truth_chain_conjunction p ps)
  | notEqual =>
    rw [ComparisonOperator.rowTruth_notEqual]
    exact (truth_bracketedChain p ps _).trans (truth_chain_disjunction p ps)
  | distinctFrom => exact (truth_bracketedChain p ps _).trans (truth_chain_disjunction p ps)
  | _ => exact order rfl

/-- The truth values of the comparisons in a text, in order. -/
def componentTruths (l : RowLayout (Option α × Option α)) : List Truth :=
  l.comparisons.map fun c => pairTruth c.1 c.2

/-- A comparison of rows is read as that comparison. -/
theorem truth_level_ofRow (op : ComparisonOperator) (indexed : Bool) {v : Nat → Truth} {n : Nat}
    (assigns : Assigns v n (ofRow op indexed p ps).componentTruths) :
    ((ofRow op indexed p ps).level n).formula.truth v = op.rowTruth (p :: ps) := by
  rw [truth_level (isBracketed_ofRow op indexed p ps) assigns, truth_ofRow]

end Truth

end RowLayout

end SqlDialects
