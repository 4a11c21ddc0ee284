import SqlDialects.Proofs.Condition.Brackets
import SqlDialects.Proofs.Condition.Canonical

/-!
# What is written and read back

A condition is faithful if what its pieces are read as has the same truth value under all truth values of
its atoms. The atoms of both formulas stand in order, so that canonical forms decide on it
(`Predicate.isFaithful_iff`). Bracketed conditions are faithful; others can be so only by constants, that
is, by empty junctions.
-/

namespace SqlDialects

/-! ## Atoms in order -/

theorem atomsOfAll_append (fs gs : List Formula) :
    atomsOfAll (fs ++ gs) = atomsOfAll fs ++ atomsOfAll gs := by
  induction fs with
  | nil => rfl
  | cons f fs ih => rw [List.cons_append, atomsOfAll, ih, atomsOfAll, List.append_assoc]

theorem Level.atoms_formula (l : Level) : l.formula.atoms = l.alternatives.flatMap atomsOfAll := by
  rw [formula, Formula.atoms]
  induction l.alternatives with
  | nil => rfl
  | cons fs rest ih => rw [List.map_cons, atomsOfAll, ih, Formula.atoms, List.flatMap_cons]

/-- A text that goes on another one brings its atoms behind those of the other one. -/
theorem Level.atoms_append (l r : Level) : (l ++ r).formula.atoms = l.formula.atoms ++ r.formula.atoms := by
  obtain ⟨first, rest, split, joined⟩ := exists_alternatives_append l r
  rw [atoms_formula, atoms_formula, atoms_formula, split, joined, alternatives]
  simp [atomsOfAll_append]

theorem Level.atoms_bracketed (wanted : Bool) (l : Level) :
    (l.bracketed wanted).formula.atoms = l.formula.atoms := by
  cases wanted with
  | false => rfl
  | true => simp [bracketed, atoms_formula, alternatives, factor, atomsOfAll]

theorem JunctionKind.atoms_joined (kind : JunctionKind) (ls : List Level) :
    (kind.joined ls).formula.atoms = ls.flatMap (·.formula.atoms) := by
  induction ls with
  | nil => rfl
  | cons l ls ih =>
    have joint : kind.jointLevel.formula.atoms = [] := by
      cases kind <;> rfl
    cases ls with
    | nil => simp [joined]
    | cons m ls =>
      rw [joined_cons_cons, Level.atoms_append, Level.atoms_append, joint, ih, List.append_nil]
      rfl

theorem atoms_memberFormulas (n : Nat) {ps : List Predicate}
    (h : ∀ p ∈ ps, ∀ n, (p.formula n).atoms = List.range' n p.atomCount) :
    atomsOfAll (memberFormulas n ps) = List.range' n (memberAtomCount ps) := by
  induction ps generalizing n with
  | nil => rfl
  | cons p ps ih =>
    obtain ⟨hp, hps⟩ := List.forall_mem_cons.1 h
    rw [memberFormulas, atomsOfAll, hp, ih _ hps, memberAtomCount, List.range'_append_1]

theorem atoms_memberLevels (kind : JunctionKind) (n : Nat) {ps : List Predicate}
    (h : ∀ p ∈ ps, ∀ n, (p.level n).formula.atoms = List.range' n p.atomCount) :
    (memberLevels kind n ps).flatMap (·.formula.atoms) = List.range' n (memberAtomCount ps) := by
  induction ps generalizing n with
  | nil => rfl
  | cons p ps ih =>
    obtain ⟨hp, hps⟩ := List.forall_mem_cons.1 h
    rw [memberLevels, List.flatMap_cons, Level.atoms_bracketed, hp, ih _ hps, memberAtomCount,
      List.range'_append_1]

/-- A condition means a formula of its atoms in order. -/
theorem Predicate.atoms_formula (p : Predicate) (n : Nat) :
    (p.formula n).atoms = List.range' n p.atomCount := by
  induction p using Predicate.byStructure generalizing n with
  | atom p h =>
    rw [formula_of_isAtomic h, atomCount_of_isAtomic h]
    rfl
  | junction kind members ih =>
    rw [formula, atomCount, ← atoms_memberFormulas n ih]
    cases kind <;> rfl
  | negated inner ih =>
    rw [formula, Formula.atoms, ih, atomCount]

/-- A condition is read as a formula of its atoms in order. -/
theorem Predicate.atoms_level (p : Predicate) (n : Nat) :
    (p.level n).formula.atoms = List.range' n p.atomCount := by
  induction p using Predicate.byStructure generalizing n with
  | atom p h =>
    rw [level_of_isAtomic h, atomCount_of_isAtomic h]
    rfl
  | junction kind members ih =>
    rw [atomCount, ← atoms_memberLevels kind n ih]
    cases members with
    | nil => cases kind <;> rfl
    | cons first rest =>
      cases rest with
      | nil => simp [level, memberLevels, Level.atoms_bracketed]
      | cons second rest => rw [level, JunctionKind.atoms_joined]
  | negated inner ih =>
    rw [level, atomCount, ← ih]
    simp [Level.atoms_formula, Level.factor, Level.alternatives, atomsOfAll, Formula.atoms]

/-! ## Faithful conditions -/

/-- What a condition is read as has the canonical form of what it means. -/
def Predicate.isFaithful (p : Predicate) : Bool :=
  (p.level 0).formula.canonical true == (p.formula 0).canonical true

theorem Predicate.isFaithful_iff (p : Predicate) :
    p.isFaithful = true ↔ ∀ v, (p.level 0).formula.holds v = (p.formula 0).holds v := by
  have orderedLevel : (p.level 0).formula.atoms.Pairwise (· < ·) := by
    rw [atoms_level]
    exact List.pairwise_lt_range' 1 (by decide)
  have orderedFormula : (p.formula 0).atoms.Pairwise (· < ·) := by
    rw [atoms_formula]
    exact List.pairwise_lt_range' 1 (by decide)
  rw [isFaithful, beq_iff_eq, Formula.canonical_eq_iff orderedLevel orderedFormula]

theorem Predicate.isFaithful_of_isBracketed {p : Predicate} (h : p.isBracketed = true) :
    p.isFaithful = true :=
  p.isFaithful_iff.2 fun _ => p.holds_level_of_isBracketed h 0

/-- The truth values of a list, for the atoms from the first one on. -/
theorem gives_getD (bs : List Bool) : Gives (fun i => bs.getD i false) 0 bs := by
  intro i hi
  simp [hi]

theorem Predicate.isBracketed_of_isFaithful {p : Predicate} (populated : p.isPopulated = true)
    (h : p.isFaithful = true) : p.isBracketed = true := by
  cases bracketed : p.isBracketed with
  | true => rfl
  | false =>
    obtain ⟨bs, -, differs⟩ := p.exists_difference populated bracketed
    exact absurd (p.isFaithful_iff.1 h _) (differs _ 0 (gives_getD bs))

/-- A column as a truth value. -/
def Predicate.flag (name : String) : Predicate := .boolean (.column none name none) false

/-- An OR outside of parentheses is harmless in front of nothing but a condition that is always true. -/
example :
    let inner := Predicate.junction .conjunction [.junction .disjunction [.flag "a", .flag "b"]]
    let p := Predicate.junction .conjunction [inner, .junction .conjunction []]
    p.isBracketed = false ∧ p.isFaithful = true := by decide

/-! ## What is written -/

/-- A condition that is rendered adds the tokens of its pieces to the page, and these are read as a
formula. The formula has the truth value of the condition under all truth values of the atoms if and only
if the condition is faithful. Bracketed conditions are faithful, and among the conditions without empty
junctions no others are. -/
theorem Predicate.reading_of_run (ctx : TranslationContext) (p : Predicate) {page final : Page}
    (h : (p.draft ctx).run page = (none, final)) :
    final.tokens.toList =
        page.tokens.toList ++ p.pieces.flatMap (ConditionPiece.tokens ctx page.mode page.depth) ∧
      (∃ f, readCondition p.pieces = some f ∧
        ((∀ v, f.holds v = (p.formula 0).holds v) ↔ p.isFaithful = true)) ∧
      (p.isBracketed = true → p.isFaithful = true) ∧
      (p.isPopulated = true → (p.isFaithful = true ↔ p.isBracketed = true)) := by
  rw [Draft.run_eq, Prod.mk.injEq] at h
  obtain ⟨success, rfl⟩ := h
  refine ⟨?_, ⟨(p.level 0).formula, p.readCondition_pieces, p.isFaithful_iff.symm⟩,
    isFaithful_of_isBracketed, fun populated => ?_⟩
  · rw [Page.tokens_writeAll, ← p.spells_draft success, Draft.tokens]
  · exact ⟨isBracketed_of_isFaithful populated, isFaithful_of_isBracketed⟩

/-- A disjunction inside a junction of one member, inside a conjunction of two. -/
def Predicate.hiddenDisjunction : Predicate :=
  .junction .conjunction
    [.junction .conjunction [.junction .disjunction [flag "a", flag "b"]], flag "c"]

/-- The hidden disjunction is written without its parentheses and read as something else. -/
theorem Predicate.reading_of_hiddenDisjunction :
    let run := (hiddenDisjunction.draft (.ofDialect .postgres)).run .blank
    run.1 = none ∧ ∃ f, readCondition hiddenDisjunction.pieces = some f ∧
      ¬∀ v, f.holds v = (hiddenDisjunction.formula 0).holds v := by
  intro run
  have success : run = (none, run.2) := rfl
  obtain ⟨-, ⟨f, read, same⟩, -, exact⟩ := reading_of_run (.ofDialect .postgres) hiddenDisjunction success
  exact ⟨rfl, f, read, fun always => absurd ((exact rfl).1 (same.1 always)) (by decide)⟩

end SqlDialects
