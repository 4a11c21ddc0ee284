import SqlDialects.Proofs.Condition.Pieces

/-!
# Members of a junction, one after the other

What the members of a junction say on a level is put together from what each of them says. Those of a
disjunction stay apart, so that one of them has to hold; those of a conjunction run into each other, and
only if each of them has a single alternative, all of them have to hold.
-/

namespace SqlDialects

variable {kind : JunctionKind} {v : Nat → Bool} {b : Bool} {ls rs : List Level}

theorem Level.holds_bracketed (wanted : Bool) (l : Level) :
    (l.bracketed wanted).formula.holds v = l.formula.holds v := by
  cases wanted with
  | false => rfl
  | true => exact Level.holds_factor l.formula

theorem Level.Uniform.bracketed {l : Level} (h : l.Uniform v b) (wanted : Bool) :
    (l.bracketed wanted).Uniform v b := by
  cases wanted with
  | false => exact h
  | true => exact Level.uniform_factor.2 h.holds

theorem JunctionKind.joined_cons_cons (kind : JunctionKind) (l m : Level) (ls : List Level) :
    kind.joined (l :: m :: ls) = l ++ kind.jointLevel ++ kind.joined (m :: ls) := rfl

theorem JunctionKind.joined_cons_conjunction (l : Level) (ls : List Level) :
    conjunction.joined (l :: ls) = l ++ conjunction.joined ls := by
  cases ls with
  | nil => exact (l.append_start).symm
  | cons m ls => rw [joined_cons_cons, jointLevel, Level.append_start]

theorem JunctionKind.joined_append_conjunction (ls rs : List Level) :
    conjunction.joined (ls ++ rs) = conjunction.joined ls ++ conjunction.joined rs := by
  induction ls with
  | nil => exact (Level.start_append _).symm
  | cons l ls ih =>
    rw [List.cons_append, joined_cons_conjunction, ih, joined_cons_conjunction, Level.append_assoc]

/-- A conjunction has a single alternative if its members have. -/
theorem JunctionKind.ended_joined_conjunction :
    (conjunction.joined ls).ended = [] ↔ ∀ l ∈ ls, l.ended = [] := by
  induction ls with
  | nil => simp [joined, Level.start]
  | cons l ls ih =>
    rw [joined_cons_conjunction, List.forall_mem_cons, ← ih]
    generalize conjunction.joined ls = rest
    obtain ⟨ended, current⟩ := rest
    cases ended <;> simp [Level.append_eq, Level.append]

theorem JunctionKind.holds_joined_conjunction (h : ∀ l ∈ ls, l.ended = []) :
    (conjunction.joined ls).formula.holds v = (ls.map (·.formula.holds v)).all id := by
  induction ls with
  | nil => simp [joined, Level.holds_formula, Level.alternatives, Level.start]
  | cons l ls ih =>
    obtain ⟨hl, hls⟩ := List.forall_mem_cons.1 h
    rw [joined_cons_conjunction, Level.holds_append hl (ended_joined_conjunction.2 hls), ih hls]
    rfl

theorem JunctionKind.holds_joined_disjunction (nonempty : ls ≠ []) :
    (disjunction.joined ls).formula.holds v = (ls.map (·.formula.holds v)).any id := by
  induction ls with
  | nil => exact absurd rfl nonempty
  | cons l ls ih =>
    cases ls with
    | nil => simp [joined]
    | cons m ls =>
      rw [joined_cons_cons, jointLevel, Level.holds_append_or, ih (List.cons_ne_nil m ls)]
      rfl

/-- The OR between members is outside of parentheses. -/
theorem JunctionKind.ended_joined_disjunction (l m : Level) (ls : List Level) :
    (disjunction.joined (l :: m :: ls)).ended ≠ [] := by
  rw [joined_cons_cons, jointLevel, Level.append_assoc]
  generalize disjunction.joined (m :: ls) = rest
  obtain ⟨ended, current⟩ := rest
  cases ended <;> simp [Level.append_eq, Level.append, Level.or]

theorem JunctionKind.uniform_joined (kind : JunctionKind) (nonempty : ls ≠ [])
    (h : ∀ l ∈ ls, l.Uniform v b) : (kind.joined ls).Uniform v b := by
  induction ls with
  | nil => exact absurd rfl nonempty
  | cons l ls ih =>
    obtain ⟨hl, hls⟩ := List.forall_mem_cons.1 h
    cases ls with
    | nil => exact hl
    | cons m ls =>
      have rest := ih (List.cons_ne_nil m ls) hls
      rw [joined_cons_cons]
      cases kind with
      | conjunction =>
        rw [jointLevel, Level.append_start]
        exact hl.append rest
      | disjunction => exact hl.append_or rest

theorem JunctionKind.holds_formula_conjunction (fs : List Formula) :
    (conjunction.formula fs).holds v = (fs.map (·.holds v)).all id := by
  rw [formula, Formula.holds, allHold_eq, List.all_map]
  rfl

theorem JunctionKind.holds_formula_disjunction (fs : List Formula) :
    (disjunction.formula fs).holds v = (fs.map (·.holds v)).any id := by
  rw [formula, Formula.holds, someHolds_eq, List.any_map]
  rfl

theorem JunctionKind.holds_formula_singleton (kind : JunctionKind) (f : Formula) :
    (kind.formula [f]).holds v = f.holds v := by
  cases kind <;> simp [formula, Formula.holds, allHold, someHolds]

/-- A junction of formulas that have the same value has that value. -/
theorem JunctionKind.holds_formula_of_forall (kind : JunctionKind) {fs : List Formula} (nonempty : fs ≠ [])
    (h : ∀ f ∈ fs, f.holds v = b) : (kind.formula fs).holds v = b := by
  have values : fs.map (·.holds v) = List.replicate fs.length b := by
    rw [List.eq_replicate_iff]
    simpa using h
  have several : fs.length ≠ 0 := fun none => nonempty (List.length_eq_zero_iff.1 none)
  cases kind with
  | conjunction => rw [holds_formula_conjunction, values]; simp [several]
  | disjunction => rw [holds_formula_disjunction, values]; simp [several]

theorem memberAtomCount_append (ps qs : List Predicate) :
    memberAtomCount (ps ++ qs) = memberAtomCount ps + memberAtomCount qs := by
  induction ps with
  | nil => simp [memberAtomCount]
  | cons p ps ih => simp [memberAtomCount, ih, Nat.add_assoc]

theorem memberLevels_append (kind : JunctionKind) (n : Nat) (ps qs : List Predicate) :
    memberLevels kind n (ps ++ qs) =
      memberLevels kind n ps ++ memberLevels kind (n + memberAtomCount ps) qs := by
  induction ps generalizing n with
  | nil => rfl
  | cons p ps ih => simp [memberLevels, memberAtomCount, ih, Nat.add_assoc]

theorem memberFormulas_append (n : Nat) (ps qs : List Predicate) :
    memberFormulas n (ps ++ qs) =
      memberFormulas n ps ++ memberFormulas (n + memberAtomCount ps) qs := by
  induction ps generalizing n with
  | nil => rfl
  | cons p ps ih => simp [memberFormulas, memberAtomCount, ih, Nat.add_assoc]

theorem length_memberLevels (kind : JunctionKind) (n : Nat) (ps : List Predicate) :
    (memberLevels kind n ps).length = ps.length := by
  induction ps generalizing n with
  | nil => rfl
  | cons p ps ih => simp [memberLevels, ih]

theorem length_memberFormulas (n : Nat) (ps : List Predicate) :
    (memberFormulas n ps).length = ps.length := by
  induction ps generalizing n with
  | nil => rfl
  | cons p ps ih => simp [memberFormulas, ih]

end SqlDialects
