import SqlDialects.Render.Translate
import SqlDialects.Proofs.Draft.Operands
import SqlDialects.Proofs.Row.Expansion

/-!
# Rows in lists of rows

Where a dialect has no row values in IN lists, membership of a row is spelled out as a disjunction of
comparisons with the items, and the absence of it as a conjunction of the opposite comparisons. As no comparison of
rows has an OR outside of parentheses, the text is read item by item, and it has the truth value of the membership,
nulls included (`TranslationContext.reading_of_rowInList`). Items are looked at one after the other: one that is no
row of the right length is found only when the comparisons in front of it could be written.
-/

namespace SqlDialects

namespace RowLayout

variable {ι κ : Type}

/-- Texts that are joined one after the other. -/
def join (kind : JunctionKind) (l : RowLayout ι) : List (RowLayout ι) → RowLayout ι
  | [] => l
  | m :: ms => .joined kind l (join kind m ms)

/-- The text of a comparison of rows, given by the first components and the others. -/
def ofItem (op : ComparisonOperator) (row : ι × List ι) : RowLayout ι := ofRow op false row.1 row.2

/-- The text of several comparisons of rows. -/
def ofItems (op : ComparisonOperator) (kind : JunctionKind) (row : ι × List ι) (rows : List (ι × List ι)) :
    RowLayout ι :=
  join kind (ofItem op row) (rows.map (ofItem op))

section Join

variable (kind : JunctionKind) (l : RowLayout ι) (ls : List (RowLayout ι))

theorem map_join (f : ι → κ) : (join kind l ls).map f = join kind (l.map f) (ls.map (map f)) := by
  induction ls generalizing l with
  | nil => rfl
  | cons m ms ih => rw [join, map, ih, List.map_cons, join]

theorem comparisons_join : (join kind l ls).comparisons = (l :: ls).flatMap comparisons := by
  induction ls generalizing l with
  | nil => simp [join]
  | cons m ms ih => rw [join, comparisons, ih, List.flatMap_cons (x := l)]

/-- No OR can stand outside of parentheses in texts that are joined by AND. -/
theorem isBracketed_join (single : ∀ m ∈ l :: ls, m.isSingle = true)
    (h : ∀ m ∈ l :: ls, m.isBracketed = true) :
    (join kind l ls).isBracketed = true ∧ (kind = .conjunction → (join kind l ls).isSingle = true) := by
  induction ls generalizing l with
  | nil => exact ⟨h l List.mem_cons_self, fun _ => single l List.mem_cons_self⟩
  | cons m ms ih =>
    obtain ⟨singleFirst, single⟩ := List.forall_mem_cons.1 single
    obtain ⟨first, h⟩ := List.forall_mem_cons.1 h
    obtain ⟨rest, singleRest⟩ := ih m single h
    cases kind with
    | conjunction => simp [join, isBracketed, isSingle, singleFirst, first, rest, singleRest rfl]
    | disjunction => simp [join, isBracketed, first, rest]

theorem truth_join_conjunction (value : ComparisonOperator → ι → Truth) :
    (join .conjunction l ls).truth value = .all ((l :: ls).map (truth value)) := by
  induction ls generalizing l with
  | nil => exact (Truth.and_yes _).symm
  | cons m ms ih =>
    rw [join, truth, ih]
    rfl

theorem truth_join_disjunction (value : ComparisonOperator → ι → Truth) :
    (join .disjunction l ls).truth value = .any ((l :: ls).map (truth value)) := by
  induction ls generalizing l with
  | nil => exact (Truth.or_no _).symm
  | cons m ms ih =>
    rw [join, truth, ih]
    rfl

end Join

section Items

variable (op : ComparisonOperator) (kind : JunctionKind)

theorem comparisons_chain (c : ι) (cs : List ι) :
    (chain op kind c cs).comparisons = (c :: cs).map (Prod.mk op) := by
  induction cs generalizing c with
  | nil => rfl
  | cons d ds ih => rw [chain, comparisons, ih, comparisons, List.map_cons (a := c), List.singleton_append]

variable {op} in
/-- Rows that are compared by another operator than an ordering are compared by it component by component. -/
theorem comparisons_ofItem (other : op.isOrdering = false) (row : ι × List ι) :
    (ofItem op row).comparisons = (row.1 :: row.2).map (Prod.mk op) := by
  obtain ⟨c, cs⟩ := row
  rw [ofItem, ofRow, if_neg (Bool.eq_false_iff.1 other)]
  cases cs with
  | nil => rfl
  | cons d ds => exact comparisons_chain op (joint op) c (d :: ds)

variable {op} in
theorem comparisons_ofItems (other : op.isOrdering = false) (row : ι × List ι) (rows : List (ι × List ι)) :
    (ofItems op kind row rows).comparisons = (row :: rows).flatMap fun r => (r.1 :: r.2).map (Prod.mk op) := by
  rw [ofItems, comparisons_join, ← List.map_cons, List.flatMap_map]
  exact List.flatMap_congr fun r _ => comparisons_ofItem other r

theorem isBracketed_ofItems (row : ι × List ι) (rows : List (ι × List ι)) :
    (ofItems op kind row rows).isBracketed = true := by
  refine (isBracketed_join kind _ _ ?_ ?_).1
  · rw [← List.map_cons]
    exact List.forall_mem_map.2 fun r _ => isSingle_ofRow op false r.1 r.2
  · rw [← List.map_cons]
    exact List.forall_mem_map.2 fun r _ => isBracketed_ofRow op false r.1 r.2

/-- Rows of one length are laid out alike, whatever their components are. -/
theorem map_unit_ofItems {n : Nat} {row : ι × List ι} {rows : List (ι × List ι)}
    (lengths : ∀ r ∈ row :: rows, r.2.length = n) :
    (ofItems op kind row rows).map (fun _ => ()) =
      ofItems op kind ((), .replicate n ()) (.replicate rows.length ((), .replicate n ())) := by
  obtain ⟨first, rest⟩ := List.forall_mem_cons.1 lengths
  have each (r : ι × List ι) (h : r.2.length = n) :
      (ofItem op r).map (fun _ => ()) = ofItem op ((), .replicate n ()) := by
    rw [ofItem, map_ofRow, List.map_const', h, ofItem]
  rw [ofItems, map_join, each row first, List.map_map, ofItems, List.map_replicate, ← List.map_const']
  exact congrArg _ (List.map_congr_left fun r hr => each r (rest r hr))

theorem level_ofItems_congr {n : Nat} {row : ι × List ι} {rows : List (ι × List ι)} {row' : κ × List κ}
    {rows' : List (κ × List κ)} (same : rows.length = rows'.length)
    (lengths : ∀ r ∈ row :: rows, r.2.length = n) (lengths' : ∀ r ∈ row' :: rows', r.2.length = n) (m : Nat) :
    (ofItems op kind row rows).level m = (ofItems op kind row' rows').level m := by
  rw [← level_map (fun _ => ()) (ofItems op kind row rows), map_unit_ofItems op kind lengths,
    ← level_map (fun _ => ()) (ofItems op kind row' rows'), map_unit_ofItems op kind lengths', same]

end Items

end RowLayout

/-- The operator that a row is compared by with the items of a list. -/
def ComparisonOperator.ofMembership (negated : Bool) : ComparisonOperator := if negated then notEqual else equal

theorem ComparisonOperator.isOrdering_ofMembership (negated : Bool) : (ofMembership negated).isOrdering = false := by
  cases negated <;> rfl

/-- What joins the comparisons of a row with the items of a list. -/
def JunctionKind.ofMembership (negated : Bool) : JunctionKind := if negated then conjunction else disjunction

/-- The truth value of membership in a list, or of the absence from it, given those of the equality with each
item. -/
def Truth.membership (negated : Bool) (ts : List Truth) : Truth := if negated then (any ts).not else any ts

/-- A text that compares a row with the items of a list means the membership. -/
theorem RowLayout.truth_ofItems {α : Type} [LinearOrder α] (negated : Bool)
    (row : (Option α × Option α) × List (Option α × Option α))
    (rows : List ((Option α × Option α) × List (Option α × Option α))) :
    (ofItems (.ofMembership negated) (.ofMembership negated) row rows).truth pairTruth =
      .membership negated ((row :: rows).map fun r => ComparisonOperator.equal.rowTruth (r.1 :: r.2)) := by
  have each (op : ComparisonOperator) : ((row :: rows).map (ofItem op)).map (truth pairTruth) =
      (row :: rows).map fun r => op.rowTruth (r.1 :: r.2) := by
    rw [List.map_map]
    exact List.map_congr_left fun r _ => truth_ofRow r.1 r.2 op false
  cases negated with
  | false => exact (truth_join_disjunction _ _ _).trans (congrArg Truth.any (each .equal))
  | true =>
    refine (truth_join_conjunction _ _ _).trans (.trans (congrArg Truth.all ?_) (Truth.not_any _).symm)
    rw [List.map_map]
    exact each .notEqual

/-! ## Items of a list -/

namespace Expression

/-- The components of a row value. -/
def components : Expression → List Expression
  | tuple items => items
  | _ => []

/-- Why an item of a list cannot be compared with a row, if it cannot. -/
def misfit? (row : List Expression) : Expression → Option Malformed
  | tuple values => if row.length = values.length then none else some (.arity row.length values.length)
  | _ => some .listWithoutTuples

/-- The comparisons of the components of a row with those of an item. -/
def comparisonsWith (op : ComparisonOperator) (row : List Expression) (item : Expression) : List Predicate :=
  (row.zip item.components).map (.ofPair op)

theorem exists_of_misfit?_eq_none {row : List Expression} {item : Expression} (h : item.misfit? row = none) :
    ∃ values, item = .tuple values ∧ row.length = values.length := by
  cases item with
  | tuple values =>
    rw [misfit?] at h
    split at h
    · next same => exact ⟨values, rfl, same⟩
    · cases h
  | _ => cases h

end Expression

/-- Why the first of some conditions is given up that is given up, if one is. -/
def firstRefusal? (ctx : TranslationContext) (mode : RenderingMode) (depth : Nat) (ps : List Predicate) :
    Option TranslationError :=
  ps.findSome? fun p => (p.draft ctx).refusal? mode depth

namespace TranslationContext

variable {ctx : TranslationContext} {mode : RenderingMode} {depth : Nat} {row : List Expression} {negated : Bool}

/-- The keyword between the comparisons of a row with the items of a list. -/
theorem ite_ofMembership (negated : Bool) :
    (if ComparisonOperator.ofMembership negated = .equal then Keyword.or else .and) =
      (JunctionKind.ofMembership negated).joint := by
  cases negated <;> rfl

/-- Rows that fit are compared one after the other. -/
theorem renders_rowItems {item : Expression} {items : List Expression}
    {r : (Expression × Expression) × List (Expression × Expression)}
    {rs : List ((Expression × Expression) × List (Expression × Expression))} {joint : Draft}
    {ps : List ConditionPiece} (hjoint : joint.Renders ctx mode depth ps)
    (fits : ∀ x ∈ item :: items, x.misfit? row = none)
    (rows : (item :: items).map (fun x => row.zip x.components) = (r :: rs).map fun r => r.1 :: r.2) :
    (rowItems ctx.dialect (.ofMembership negated) joint (operands ctx row) (operands ctx (item :: items))).Renders ctx
      mode depth (ps ++ (RowLayout.ofItems (.ofMembership negated) (.ofMembership negated) r rs).pieces .ofPair) := by
  induction items generalizing item r rs joint ps with
  | nil =>
    obtain ⟨own, others⟩ := List.cons.inj rows
    obtain rfl := List.map_eq_nil_iff.1 others.symm
    obtain ⟨values, rfl, same⟩ := Expression.exists_of_misfit?_eq_none (fits item List.mem_cons_self)
    have first := hjoint.append (Dialect.renders_compareRows ctx (.ofMembership negated) false same own)
    rw [operands, Expression.operand_tuple, operands, rowItems, rowItems]
    have all := first.append Draft.renders_empty
    rwa [List.append_nil] at all
  | cons next items ih =>
    obtain ⟨own, others⟩ := List.cons.inj rows
    obtain ⟨values, rfl, same⟩ := Expression.exists_of_misfit?_eq_none (fits item List.mem_cons_self)
    cases rs with
    | nil => cases others
    | cons s rs =>
      have first := hjoint.append (Dialect.renders_compareRows ctx (.ofMembership negated) false same own)
      have rest := ih (Draft.renders_joint (.ofMembership negated)) (List.forall_mem_cons.1 fits).2 others
      rw [operands, Expression.operand_tuple, rowItems, ite_ofMembership, RowLayout.ofItems, List.map_cons,
        RowLayout.join, RowLayout.pieces, List.append_assoc, ← List.append_assoc]
      exact first.append rest

/-- The draft of a list that fits writes the text that compares the row with its items. -/
theorem renders_rowInList {list : List Expression}
    {r : (Expression × Expression) × List (Expression × Expression)}
    {rs : List ((Expression × Expression) × List (Expression × Expression))}
    (fits : ∀ x ∈ list, x.misfit? row = none)
    (rows : list.map (fun x => row.zip x.components) = (r :: rs).map fun r => r.1 :: r.2) :
    (rowInList ctx.dialect (operands ctx row) (operands ctx list) negated).Renders ctx mode depth
      ((RowLayout.ofItems (.ofMembership negated) (.ofMembership negated) r rs).bracketed.pieces .ofPair) := by
  cases list with
  | nil => cases rows
  | cons item items => exact (renders_rowItems Draft.renders_empty fits rows).parens

theorem firstRefusal?_append (ps qs : List Predicate) : firstRefusal? ctx mode depth (ps ++ qs) =
    (firstRefusal? ctx mode depth ps).or (firstRefusal? ctx mode depth qs) :=
  List.findSome?_append

/-- Pieces are given up for the cause for which the first of their conditions is. -/
theorem findSome?_refusal? (ps : List ConditionPiece) :
    ps.findSome? (ConditionPiece.refusal? ctx mode depth) =
      firstRefusal? ctx mode depth (ps.filterMap ConditionPiece.atom?) := by
  induction ps with
  | nil => rfl
  | cons piece ps ih =>
    cases piece with
    | token t => exact ih
    | atom p =>
      change List.findSome? _ ([.atom p] ++ ps) = firstRefusal? ctx mode depth ([p] ++ _)
      rw [List.findSome?_append, ih, firstRefusal?_append, List.findSome?_singleton]
      exact congrArg (Option.or · _) List.findSome?_singleton.symm

/-- The comparison with an item that fits is given up for the cause for which the first of its components is. -/
theorem refusal?_compareRows {values : List Expression} (nonempty : row ≠ []) (same : row.length = values.length) :
    (ctx.dialect.compareRows (.ofMembership negated) false (operands ctx row) (operands ctx values)).refusal?
        mode depth =
      firstRefusal? ctx mode depth (Expression.comparisonsWith (.ofMembership negated) row (.tuple values)) := by
  cases rows : row.zip values with
  | nil =>
    rcases List.zip_eq_nil_iff.1 rows with none | none
    · exact absurd none nonempty
    · rw [none] at same
      exact absurd (List.length_eq_zero_iff.1 same) nonempty
  | cons c cs =>
    have comparisons := RowLayout.comparisons_ofItem (ComparisonOperator.isOrdering_ofMembership negated) (c, cs)
    rw [(Dialect.renders_compareRows ctx _ false same rows).refusal, findSome?_refusal?,
      RowLayout.atoms_pieces, Expression.comparisonsWith, Expression.components, rows]
    rw [RowLayout.ofItem] at comparisons
    rw [comparisons, List.map_map]
    rfl

theorem rowItems_of_not_isRow {item : Expression} (single : item.isRow = false) (d : Dialect)
    (op : ComparisonOperator) (joint : Draft) (row items : List Operand) :
    rowItems d op joint row (item.operand ctx :: items) = .malformed .listWithoutTuples := by
  rw [← item.isTuple_operand ctx] at single
  cases h : item.operand ctx with
  | tuple => simp [h, Operand.isTuple] at single
  | _ => rfl

/-- An item that does not fit is found when the comparisons with the items in front of it have been made. -/
theorem refusal?_rowItems {before after : List Expression} {item : Expression} {fault : Malformed} {joint : Draft}
    (nonempty : row ≠ []) (hjoint : joint.refusal? mode depth = none)
    (fits : ∀ x ∈ before, x.misfit? row = none) (misfit : item.misfit? row = some fault) :
    (rowItems ctx.dialect (.ofMembership negated) joint (operands ctx row)
        (operands ctx (before ++ item :: after))).refusal? mode depth =
      some ((firstRefusal? ctx mode depth
          (before.flatMap (Expression.comparisonsWith (.ofMembership negated) row))).getD
        (.invalidExpression fault)) := by
  induction before generalizing joint with
  | nil =>
    rw [List.nil_append, operands]
    cases item with
    | tuple values =>
      rw [Expression.misfit?] at misfit
      split at misfit
      · cases misfit
      · next different =>
        obtain rfl := Option.some.inj misfit
        rw [Expression.operand_tuple, rowItems, Dialect.compareRows_operands, Draft.checkedRowComparison,
          if_pos different]
        change ((joint.refusal? mode depth).or _).or _ = _
        rw [hjoint]
        rfl
    | _ =>
      obtain rfl := Option.some.inj misfit
      rw [rowItems_of_not_isRow rfl]
      rfl
  | cons x before ih =>
    obtain ⟨own, others⟩ := List.forall_mem_cons.1 fits
    obtain ⟨values, rfl, same⟩ := Expression.exists_of_misfit?_eq_none own
    have connected : (Draft.spacedWord (JunctionKind.ofMembership negated).joint).refusal? mode depth = none := rfl
    have rest := ih connected others
    rw [List.cons_append, operands, Expression.operand_tuple, rowItems, ite_ofMembership]
    change ((joint.refusal? mode depth).or _).or _ = _
    rw [hjoint, rest, Option.none_or, refusal?_compareRows nonempty same, List.flatMap_cons, firstRefusal?_append]
    generalize firstRefusal? ctx mode depth (Expression.comparisonsWith _ row (.tuple values)) = own
    cases own <;> rfl

theorem refusal?_rowInList {before after : List Expression} {item : Expression} {fault : Malformed}
    (nonempty : row ≠ []) (fits : ∀ x ∈ before, x.misfit? row = none) (misfit : item.misfit? row = some fault) :
    (rowInList ctx.dialect (operands ctx row) (operands ctx (before ++ item :: after)) negated).refusal? mode depth =
      some ((firstRefusal? ctx mode depth
          (before.flatMap (Expression.comparisonsWith (.ofMembership negated) row))).getD
        (.invalidExpression fault)) := by
  change ((none : Option TranslationError).or _).or none = _
  rw [Option.none_or, Option.or_none]
  exact refusal?_rowItems nonempty rfl fits misfit

/-- Rows of one length that is not zero have a first component each. -/
theorem exists_heads {ι : Type} {n : Nat} {L : List (List ι)} (lengths : ∀ l ∈ L, l.length = n + 1) :
    ∃ rows : List (ι × List ι), L = rows.map (fun r => r.1 :: r.2) ∧ ∀ r ∈ rows, r.2.length = n := by
  induction L with
  | nil => exact ⟨[], rfl, nofun⟩
  | cons l L ih =>
    obtain ⟨first, others⟩ := List.forall_mem_cons.1 lengths
    obtain ⟨rows, rfl, rest⟩ := ih others
    obtain ⟨c, cs, rfl⟩ := List.exists_cons_of_length_eq_add_one first
    exact ⟨(c, cs) :: rows, rfl, List.forall_mem_cons.2 ⟨Nat.succ.inj first, rest⟩⟩

/-- A row is compared with each item that fits by its first components and the others. -/
theorem exists_rows {list : List Expression} (nonempty : row ≠ []) (items : list ≠ [])
    (fits : ∀ x ∈ list, x.misfit? row = none) :
    ∃ (n : Nat) (r : (Expression × Expression) × List (Expression × Expression))
      (rs : List ((Expression × Expression) × List (Expression × Expression))), row.length = n + 1 ∧
        list.map (fun x => row.zip x.components) = (r :: rs).map (fun r => r.1 :: r.2) ∧
        ∀ x ∈ r :: rs, x.2.length = n := by
  obtain ⟨n, count⟩ := Nat.exists_eq_succ_of_ne_zero (mt List.length_eq_zero_iff.1 nonempty)
  have counts : ∀ l ∈ list.map fun x => row.zip x.components, l.length = n + 1 := by
    refine List.forall_mem_map.2 fun x hx => ?_
    obtain ⟨values, rfl, same⟩ := Expression.exists_of_misfit?_eq_none (fits x hx)
    rw [Expression.components, List.length_zip, ← same, Nat.min_self, count]
  obtain ⟨rows, heads, lengths⟩ := exists_heads counts
  cases rows with
  | nil => exact absurd (List.map_eq_nil_iff.1 heads) items
  | cons r rs => exact ⟨n, r, rs, count, heads, lengths⟩

/-- The conditions in the text that compares a row with the items of a list, in order. -/
theorem atoms_ofItems {list : List Expression} {r : (Expression × Expression) × List (Expression × Expression)}
    {rs : List ((Expression × Expression) × List (Expression × Expression))}
    (rows : list.map (fun x => row.zip x.components) = (r :: rs).map fun r => r.1 :: r.2) :
    ((RowLayout.ofItems (.ofMembership negated) (.ofMembership negated) r rs).bracketed.pieces .ofPair).filterMap
        ConditionPiece.atom? =
      list.flatMap (Expression.comparisonsWith (.ofMembership negated) row) := by
  have each : list.flatMap (Expression.comparisonsWith (.ofMembership negated) row) =
      (list.map fun x => row.zip x.components).flatMap (List.map (.ofPair (.ofMembership negated))) := by
    rw [List.flatMap_map]
    rfl
  rw [each, rows, RowLayout.atoms_pieces, RowLayout.comparisons,
    RowLayout.comparisons_ofItems _ (ComparisonOperator.isOrdering_ofMembership negated), List.map_flatMap,
    List.flatMap_map]
  exact List.flatMap_congr fun r _ => List.map_map

/-- Without row values in lists, membership of a row in a list of items is taken apart. -/
theorem draft_inList_of_emulated {list : List Expression}
    (emulated : ctx.dialect.capabilities.rowValuesInList = false) (items : list ≠ [])
    (single : ¬ ∃ name type, list = [.parameter name type true]) :
    (Predicate.inList (.tuple row) list negated).draft ctx =
      rowInList ctx.dialect (operands ctx row) (operands ctx list) negated := by
  have several : operands ctx list ≠ [] := by
    rw [operands_eq_map]
    exact mt List.map_eq_nil_iff.1 items
  have alone : ¬ ∃ name type x, operands ctx list = [.scalar (.parameter name true) (some type) x] := by
    rintro ⟨name, type, x, h⟩
    exact single ⟨name, type, eq_parameter_of_operands h⟩
  rw [Predicate.draft, inList_of_items several alone, Expression.operand_tuple, inListOfItems, emulated]
  rfl

/-- The text that compares a row with the items of a list is read as the membership, whatever the values are. -/
theorem truth_level_ofItems {ι α : Type} [LinearOrder α] {n : Nat} {r : ι × List ι} {rs : List (ι × List ι)}
    (lengths : ∀ x ∈ r :: rs, x.2.length = n) (negated : Bool) {L : List (List (Option α × Option α))}
    (number : L.length = (r :: rs).length) (values : ∀ l ∈ L, l.length = n + 1) :
    ((RowLayout.ofItems (.ofMembership negated) (.ofMembership negated) r rs).level 0).formula.truth
        (nthTruth (L.flatMap (List.map (RowLayout.pairTruth (.ofMembership negated))))) =
      .membership negated (L.map ComparisonOperator.equal.rowTruth) := by
  obtain ⟨rows, rfl, lengths'⟩ := exists_heads values
  cases rows with
  | nil => simp at number
  | cons r' rs' =>
    have same : rs.length = rs'.length := by simpa using number.symm
    let layout := RowLayout.ofItems (.ofMembership negated) (.ofMembership negated) r' rs'
    have truths : layout.componentTruths =
        ((r' :: rs').map fun r => r.1 :: r.2).flatMap (List.map (RowLayout.pairTruth (.ofMembership negated))) := by
      rw [RowLayout.componentTruths,
        RowLayout.comparisons_ofItems _ (ComparisonOperator.isOrdering_ofMembership negated), List.map_flatMap,
        List.flatMap_map]
      refine List.flatMap_congr fun r _ => ?_
      rw [List.map_map]
      rfl
    rw [← truths, RowLayout.level_ofItems_congr _ _ same lengths lengths',
      RowLayout.truth_level (RowLayout.isBracketed_ofItems _ _ r' rs') (assigns_nthTruth layout.componentTruths),
      RowLayout.truth_ofItems, List.map_map]
    rfl

/-- Membership of a row in a list, taken apart. In a dialect without row values in lists this is what becomes of
the condition, unless the list is empty or stands for a multi-valued parameter.

The items are looked at in order. At the first one that is no row of the same length the draft is given up for
that, unless a comparison with an item in front of it is given up. If all items fit, the draft is given up for
the cause for which the first of its comparisons is, and if it is carried out, it adds the tokens of pieces that
are read as a formula: under all values of the components, nulls included, this has the truth value of the
membership, or of the opposite. -/
theorem reading_of_rowInList (ctx : TranslationContext) (row list : List Expression) (negated : Bool) (page : Page) :
    let op := ComparisonOperator.ofMembership negated
    let run := (rowInList ctx.dialect (operands ctx row) (operands ctx list) negated).run page
    (ctx.dialect.capabilities.rowValuesInList = false → list ≠ [] →
      (¬ ∃ name type, list = [.parameter name type true]) →
      (Predicate.inList (.tuple row) list negated).draft ctx =
        rowInList ctx.dialect (operands ctx row) (operands ctx list) negated) ∧
    (∀ before item after fault, row ≠ [] → list = before ++ item :: after →
      (∀ x ∈ before, x.misfit? row = none) → item.misfit? row = some fault →
      run.1 = some ((firstRefusal? ctx page.mode page.depth (before.flatMap (Expression.comparisonsWith op row))).getD
        (.invalidExpression fault))) ∧
    (row ≠ [] → list ≠ [] → (∀ x ∈ list, x.misfit? row = none) → ∃ pieces f,
      run.1 = firstRefusal? ctx page.mode page.depth (list.flatMap (Expression.comparisonsWith op row)) ∧
      (run.1 = none → run.2.tokens.toList =
        page.tokens.toList ++ pieces.flatMap (ConditionPiece.tokens ctx page.mode page.depth)) ∧
      pieces.filterMap ConditionPiece.atom? = list.flatMap (Expression.comparisonsWith op row) ∧
      readCondition pieces = some f ∧
      ∀ (α : Type) [LinearOrder α] (xs : List (Option α)) (yss : List (List (Option α))),
        xs.length = row.length → yss.length = list.length → (∀ ys ∈ yss, ys.length = row.length) →
          f.truth (nthTruth (yss.flatMap fun ys => (xs.zip ys).map (RowLayout.pairTruth op))) =
            .membership negated (yss.map fun ys => ComparisonOperator.equal.rowTruth (xs.zip ys))) := by
  intro op run
  have outcome := Draft.run_eq (rowInList ctx.dialect (operands ctx row) (operands ctx list) negated) page
  have cause : run.1 = (rowInList ctx.dialect (operands ctx row) (operands ctx list) negated).refusal? page.mode
      page.depth := congrArg Prod.fst outcome
  refine ⟨draft_inList_of_emulated, ?_, fun nonempty items fits => ?_⟩
  · rintro before item after fault nonempty rfl fits misfit
    exact cause.trans (refusal?_rowInList nonempty fits misfit)
  · obtain ⟨n, r, rs, count, rows, lengths⟩ := exists_rows nonempty items fits
    let layout := (RowLayout.ofItems op (.ofMembership negated) r rs).bracketed
    have renders : (rowInList ctx.dialect (operands ctx row) (operands ctx list) negated).Renders ctx page.mode
        page.depth (layout.pieces .ofPair) := renders_rowInList fits rows
    refine ⟨layout.pieces .ofPair, _, ?_, fun success => ?_, atoms_ofItems rows,
      (layout.takes_pieces _).readCondition, ?_⟩
    · rw [cause, renders.refusal, findSome?_refusal?, atoms_ofItems rows]
    · have written := renders.spells (cause.symm.trans success)
      rw [← written, Draft.tokens, ← Page.tokens_writeAll]
      exact congrArg (fun r => r.2.tokens.toList) outcome
    · intro α _ xs yss left number right
      have items : (yss.map xs.zip).length = (r :: rs).length := by
        rw [List.length_map, number, ← List.length_map (fun x => row.zip x.components), rows, List.length_map]
      have values : ∀ l ∈ yss.map xs.zip, l.length = n + 1 := List.forall_mem_map.2 fun ys hys => by
        rw [List.length_zip, left, right ys hys, Nat.min_self, count]
      have meaning := truth_level_ofItems lengths negated items values
      rw [List.flatMap_map, List.map_map] at meaning
      rw [RowLayout.level, Level.truth_factor]
      exact meaning

/-- The absence of a row in a list, without row values in lists. -/
example :
    let column (name : String) : Expression := .column none name none
    let s : Statement := .select (.select
      { items := [⟨column "id", none⟩]
        tables := [⟨"t", none⟩]
        filter := some (.inList (.tuple [column "a", column "b"])
          [.tuple [column "c", column "d"], .tuple [column "e", column "f"]] true) })
    s.translate (.ofDialect .hsql) = .ok ⟨"SELECT \"id\" FROM \"t\" " ++
      "WHERE ((\"a\" <> \"c\" OR \"b\" <> \"d\") AND (\"a\" <> \"e\" OR \"b\" <> \"f\"))", []⟩ := by
  rfl

/-- An item that is no row is not the reason that is given if a row in front of it holds a text that is no decimal. -/
theorem rowInList_refused_in_front :
    let numeric : ResolvedType := ⟨"big_decimal", .ofCode .numeric⟩
    let row : List Expression := [.column none "a" none, .column none "b" none]
    let front : Expression := .tuple [.literal (.decimal "x") numeric, .column none "d" none]
    let single : Expression := .column none "c" none
    let s : Statement := .select (.select
      { items := [⟨.column none "id" none, none⟩]
        tables := [⟨"t", none⟩]
        filter := some (.inList (.tuple row) [front, single] false) })
    single.misfit? row = some .listWithoutTuples ∧
      s.translate (.ofDialect .hsql) =
        .error (.rejected (.marshal (.conversionFailed "BigDecimal" (.notDecimal "x")))) ∧
      ∀ fault, s.translate (.ofDialect .hsql) ≠ .error (.rejected (.invalidExpression fault)) := by
  intro numeric row front single s
  have refused : s.translate (.ofDialect .hsql) =
      .error (.rejected (.marshal (.conversionFailed "BigDecimal" (.notDecimal "x")))) := by rfl
  refine ⟨rfl, refused, fun fault other => ?_⟩
  rw [refused] at other
  cases other

end TranslationContext

end SqlDialects
