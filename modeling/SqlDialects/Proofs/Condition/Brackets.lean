import SqlDialects.Proofs.Condition.Members

/-!
# Which conditions keep their structure

The rule for parentheses looks at the member of a junction and not below it, and a junction of a single
member is not written. So a disjunction inside such a junction can come to stand on the level of a
conjunction. `Predicate.isBracketed` says that this happens nowhere in a condition: then it is read as
what it means. Otherwise, if no junction is empty, there are truth values of its atoms under which it is
read as something else.
-/

namespace SqlDialects

mutual

/-- An OR of the condition stands outside of parentheses. -/
def Predicate.isOpen : Predicate → Bool
  | .junction kind members =>
    match members with
    | [] => false
    | [member] => member.isOpen
    | first :: second :: rest => kind == .disjunction || membersOpen kind (first :: second :: rest)
  | _ => false

/-- An OR of a member stands outside of parentheses. -/
def membersOpen (kind : JunctionKind) : List Predicate → Bool
  | [] => false
  | p :: ps => (p.isOpen && !p.needsParens kind) || membersOpen kind ps

end

mutual

/-- In a conjunction of several members, no OR stands outside of parentheses. -/
def Predicate.isBracketed : Predicate → Bool
  | .junction kind members =>
    (kind == .disjunction || decide (members.length < 2) || !membersOpen kind members)
      && membersBracketed members
  | .negated inner => inner.isBracketed
  | _ => true

/-- The members of a junction are bracketed. -/
def membersBracketed : List Predicate → Bool
  | [] => true
  | p :: ps => p.isBracketed && membersBracketed ps

end

mutual

/-- No junction in the condition is empty. -/
def Predicate.isPopulated : Predicate → Bool
  | .junction _ members => !members.isEmpty && membersPopulated members
  | .negated inner => inner.isPopulated
  | _ => true

/-- No junction in the members of a junction is empty. -/
def membersPopulated : List Predicate → Bool
  | [] => true
  | p :: ps => p.isPopulated && membersPopulated ps

end

namespace Predicate

variable {p : Predicate}

theorem isOpen_of_isAtomic (h : p.isAtomic = true) : p.isOpen = false := by
  cases p with
  | junction => cases h
  | negated => cases h
  | _ => simp [isOpen]

theorem isBracketed_of_isAtomic (h : p.isAtomic = true) : p.isBracketed = true := by
  cases p with
  | junction => cases h
  | negated => cases h
  | _ => simp [isBracketed]

end Predicate

theorem membersOpen_eq (kind : JunctionKind) (ps : List Predicate) :
    membersOpen kind ps = ps.any fun p => p.isOpen && !p.needsParens kind := by
  induction ps with
  | nil => rfl
  | cons p ps ih => rw [membersOpen, ih, List.any_cons]

theorem membersBracketed_eq (ps : List Predicate) : membersBracketed ps = ps.all (·.isBracketed) := by
  induction ps with
  | nil => rfl
  | cons p ps ih => rw [membersBracketed, ih, List.all_cons]

theorem membersPopulated_eq (ps : List Predicate) : membersPopulated ps = ps.all (·.isPopulated) := by
  induction ps with
  | nil => rfl
  | cons p ps ih => rw [membersPopulated, ih, List.all_cons]

/-! ## Bracketed conditions -/

theorem ended_memberLevels_of_forall (kind : JunctionKind) (n : Nat) {ps : List Predicate}
    (h : ∀ p ∈ ps, ∀ n, (p.level n).ended = [] ↔ p.isOpen = false) :
    (∀ l ∈ memberLevels kind n ps, l.ended = []) ↔ membersOpen kind ps = false := by
  induction ps generalizing n with
  | nil => simp [memberLevels, membersOpen]
  | cons p ps ih =>
    obtain ⟨hp, hps⟩ := List.forall_mem_cons.1 h
    rw [memberLevels, List.forall_mem_cons, membersOpen, Bool.or_eq_false_iff, ih _ hps]
    cases p.needsParens kind <;> simp [Level.bracketed, Level.factor, hp]

/-- A condition without an open OR has a single alternative. -/
theorem Predicate.ended_level (p : Predicate) (n : Nat) : (p.level n).ended = [] ↔ p.isOpen = false := by
  induction p using Predicate.byStructure generalizing n with
  | atom p h => simp [level_of_isAtomic h, Level.factor, isOpen_of_isAtomic h]
  | junction kind members ih =>
    cases members with
    | nil => simp [level, Level.factor, isOpen]
    | cons first rest =>
      cases rest with
      | nil => simpa [level, isOpen] using ih first (by simp) n
      | cons second rest =>
        rw [level, isOpen]
        cases kind with
        | conjunction =>
          exact JunctionKind.ended_joined_conjunction.trans (ended_memberLevels_of_forall _ n ih)
        | disjunction => exact iff_of_false (JunctionKind.ended_joined_disjunction _ _ _) (by simp)
  | negated inner ih => simp [level, Level.factor, isOpen]

/-- Members without an open OR have a single alternative each. -/
theorem ended_memberLevels (kind : JunctionKind) (n : Nat) (ps : List Predicate) :
    (∀ l ∈ memberLevels kind n ps, l.ended = []) ↔ membersOpen kind ps = false :=
  ended_memberLevels_of_forall kind n fun p _ n => p.ended_level n

/-- Members that are read as what they mean, each on its own, are so between others. -/
theorem holds_memberLevels {v : Nat → Bool} (kind : JunctionKind) (n : Nat) {ps : List Predicate}
    (h : ∀ p ∈ ps, ∀ n, (p.level n).formula.holds v = (p.formula n).holds v) :
    (memberLevels kind n ps).map (·.formula.holds v) = (memberFormulas n ps).map (·.holds v) := by
  induction ps generalizing n with
  | nil => rfl
  | cons p ps ih =>
    obtain ⟨hp, hps⟩ := List.forall_mem_cons.1 h
    simp only [memberLevels, memberFormulas, List.map_cons, Level.holds_bracketed, hp, ih _ hps]

/-- A bracketed condition is read as what it means. -/
theorem Predicate.holds_level_of_isBracketed {v : Nat → Bool} (p : Predicate) (h : p.isBracketed = true)
    (n : Nat) : (p.level n).formula.holds v = (p.formula n).holds v := by
  induction p using Predicate.byStructure generalizing n with
  | atom p atomic => rw [level_of_isAtomic atomic, formula_of_isAtomic atomic, Level.holds_factor]
  | junction kind members ih =>
    rw [isBracketed, Bool.and_eq_true, membersBracketed_eq, List.all_eq_true] at h
    obtain ⟨closed, bracketed⟩ := h
    have each : ∀ p ∈ members, ∀ n, (p.level n).formula.holds v = (p.formula n).holds v :=
      fun p hp n => ih p hp (bracketed p hp) n
    cases members with
    | nil => rw [level, formula, memberFormulas, Level.holds_factor]
    | cons first rest =>
      cases rest with
      | nil =>
        rw [level, formula, memberFormulas, memberFormulas, JunctionKind.holds_formula_singleton]
        exact each first (by simp) n
      | cons second rest =>
        have members := holds_memberLevels kind n each
        rw [level, formula]
        cases kind with
        | conjunction =>
          have several : ¬rest.length + 1 + 1 < 2 := by omega
          have single : membersOpen .conjunction (first :: second :: rest) = false := by
            simpa [several] using closed
          have alone := (ended_memberLevels .conjunction n _).2 single
          rw [JunctionKind.holds_joined_conjunction alone, JunctionKind.holds_formula_conjunction, members]
        | disjunction =>
          rw [JunctionKind.holds_joined_disjunction (by simp [memberLevels]),
            JunctionKind.holds_formula_disjunction, members]
  | negated inner ih =>
    rw [isBracketed] at h
    rw [level, formula, Level.holds_factor, Formula.holds, Formula.holds, ih h n]

/-! ## Conditions with all atoms alike -/

mutual

/-- Truth values for the atoms of a condition, in order, that give it the value `b` whatever its
junctions are. -/
def Predicate.steady (b : Bool) : Predicate → List Bool
  | .junction _ members => membersSteady b members
  | .negated inner => inner.steady (!b)
  | _ => [b]

/-- Truth values for the atoms of members of a junction. -/
def membersSteady (b : Bool) : List Predicate → List Bool
  | [] => []
  | p :: ps => p.steady b ++ membersSteady b ps

end

theorem Predicate.steady_of_isAtomic {p : Predicate} (h : p.isAtomic = true) (b : Bool) : p.steady b = [b] := by
  cases p with
  | junction => cases h
  | negated => cases h
  | _ => simp [steady]

/-- The atoms from `n` on have the given truth values. -/
def Gives (v : Nat → Bool) (n : Nat) (bs : List Bool) : Prop :=
  ∀ (i : Nat) (h : i < bs.length), v (n + i) = bs[i]

theorem gives_append {v : Nat → Bool} {n : Nat} {bs cs : List Bool} :
    Gives v n (bs ++ cs) ↔ Gives v n bs ∧ Gives v (n + bs.length) cs := by
  constructor
  · refine fun h => ⟨fun i hi => ?_, fun i hi => ?_⟩
    · have value := h i (by rw [List.length_append]; omega)
      rwa [List.getElem_append_left hi] at value
    · have value := h (bs.length + i) (by rw [List.length_append]; omega)
      rw [List.getElem_append_right (by omega)] at value
      simpa [Nat.add_assoc] using value
  · rintro ⟨left, right⟩ i hi
    rw [List.length_append] at hi
    by_cases first : i < bs.length
    · rw [List.getElem_append_left first]
      exact left i first
    · rw [List.getElem_append_right (by omega)]
      have value := right (i - bs.length) (by omega)
      rwa [Nat.add_assoc, Nat.add_sub_cancel' (by omega)] at value

theorem length_membersSteady {b : Bool} {ps : List Predicate}
    (h : ∀ p ∈ ps, ∀ b, (p.steady b).length = p.atomCount) :
    (membersSteady b ps).length = memberAtomCount ps := by
  induction ps with
  | nil => rfl
  | cons p ps ih =>
    obtain ⟨hp, hps⟩ := List.forall_mem_cons.1 h
    rw [membersSteady, memberAtomCount, List.length_append, hp, ih hps]

theorem Predicate.length_steady (p : Predicate) (b : Bool) : (p.steady b).length = p.atomCount := by
  induction p using Predicate.byStructure generalizing b with
  | atom p h => rw [steady_of_isAtomic h, atomCount_of_isAtomic h, List.length_singleton]
  | junction kind members ih => exact length_membersSteady ih
  | negated inner ih => exact ih !b

/-- What the members of a junction are read as, and what they mean, if their atoms are steady. -/
theorem uniform_memberLevels {v : Nat → Bool} {b : Bool} (kind : JunctionKind) {n : Nat}
    {ps : List Predicate}
    (h : ∀ p ∈ ps, ∀ n, Gives v n (p.steady b) → (p.level n).Uniform v b ∧ (p.formula n).holds v = b)
    (gives : Gives v n (membersSteady b ps)) :
    (∀ l ∈ memberLevels kind n ps, l.Uniform v b) ∧ ∀ f ∈ memberFormulas n ps, f.holds v = b := by
  induction ps generalizing n with
  | nil => exact ⟨by simp [memberLevels], by simp [memberFormulas]⟩
  | cons p ps ih =>
    obtain ⟨hp, hps⟩ := List.forall_mem_cons.1 h
    rw [membersSteady, gives_append, p.length_steady] at gives
    obtain ⟨level, formula⟩ := hp n gives.1
    obtain ⟨levels, formulas⟩ := ih hps gives.2
    exact ⟨List.forall_mem_cons.2 ⟨level.bracketed _, levels⟩, List.forall_mem_cons.2 ⟨formula, formulas⟩⟩

/-- Steady atoms make every factor of a condition without empty junctions steady. -/
theorem Predicate.uniform_level {v : Nat → Bool} (p : Predicate) (h : p.isPopulated = true) {b : Bool}
    {n : Nat} (gives : Gives v n (p.steady b)) :
    (p.level n).Uniform v b ∧ (p.formula n).holds v = b := by
  induction p using Predicate.byStructure generalizing b n with
  | atom p atomic =>
    rw [steady_of_isAtomic atomic] at gives
    have value : v n = b := gives 0 (by simp)
    rw [level_of_isAtomic atomic, formula_of_isAtomic atomic, Level.uniform_factor]
    exact ⟨value, value⟩
  | junction kind members ih =>
    rw [isPopulated, Bool.and_eq_true, membersPopulated_eq, List.all_eq_true] at h
    rw [steady] at gives
    have each : ∀ p ∈ members, ∀ n, Gives v n (p.steady b) →
        (p.level n).Uniform v b ∧ (p.formula n).holds v = b :=
      fun p hp n gives => ih p hp (h.2 p hp) gives
    obtain ⟨levels, formulas⟩ := uniform_memberLevels kind each gives
    cases members with
    | nil => simp at h
    | cons first rest =>
      have value := kind.holds_formula_of_forall (by simp [memberFormulas]) formulas
      cases rest with
      | nil =>
        rw [membersSteady, gives_append] at gives
        exact ⟨(each first (by simp) n gives.1).1, value⟩
      | cons second rest => exact ⟨kind.uniform_joined (by simp [memberLevels]) levels, value⟩
  | negated inner ih =>
    rw [isPopulated] at h
    obtain ⟨level, formula⟩ := ih h gives
    rw [Predicate.level, Predicate.formula, Level.uniform_factor, Formula.holds, Formula.holds, level.holds,
      formula]
    simp

/-! ## Conditions that are not bracketed -/

section Distinct

variable {v : Nat → Bool} {n : Nat}

/-- Members with steady atoms. -/
theorem steady_memberLevels (kind : JunctionKind) {b : Bool} {ps : List Predicate}
    (h : ∀ p ∈ ps, p.isPopulated = true) (gives : Gives v n (membersSteady b ps)) :
    (∀ l ∈ memberLevels kind n ps, l.Uniform v b) ∧ ∀ f ∈ memberFormulas n ps, f.holds v = b :=
  uniform_memberLevels kind (fun p hp _ gives => p.uniform_level (h p hp) gives) gives

theorem length_membersSteady_eq (b : Bool) (ps : List Predicate) :
    (membersSteady b ps).length = memberAtomCount ps :=
  length_membersSteady fun p _ b => p.length_steady b

/-- What OR ends among the first members of a conjunction stays an alternative of the whole. -/
theorem holds_joined_append {ls rs : List Level}
    (uniform : (JunctionKind.conjunction.joined ls).Uniform v true)
    (ended : (JunctionKind.conjunction.joined ls).ended ≠ []) :
    (JunctionKind.conjunction.joined (ls ++ rs)).formula.holds v = true := by
  obtain ⟨fs, hfs⟩ := List.exists_mem_of_ne_nil _ ended
  rw [JunctionKind.joined_append_conjunction]
  refine Level.holds_of_mem (List.mem_append_left _ (Level.mem_ended_append hfs _)) ?_
  exact (uniform fs (List.mem_append_left _ hfs)).2

/-- What OR leaves open in the last member of a conjunction is an alternative of the whole. -/
theorem holds_joined_concat {ls : List Level} {l : Level} (uniform : l.Uniform v true)
    (ended : l.ended ≠ []) : (JunctionKind.conjunction.joined (ls ++ [l])).formula.holds v = true := by
  rw [JunctionKind.joined_append_conjunction]
  refine Level.holds_of_mem (List.mem_append_right _ (List.mem_singleton.2 rfl)) ?_
  rw [Level.current_append (by simpa [JunctionKind.joined] using ended)]
  exact (uniform l.current (by simp [Level.alternatives])).2

/-- A conjunction is false if one of its members is. -/
theorem holds_formula_conjunction_of_mem {fs : List Formula} {f : Formula} (hf : f ∈ fs)
    (h : f.holds v = false) : (JunctionKind.conjunction.formula fs).holds v = false := by
  rw [JunctionKind.holds_formula_conjunction, List.all_eq_false]
  exact ⟨f.holds v, List.mem_map_of_mem hf, by simp [h]⟩

/-- If an OR of a member of a conjunction is outside of parentheses, the conjunction can be read as true
where it means false: if the members up to that one are true and those behind it false, or, if there are
none behind it, if that one is true and those in front of it false. -/
theorem exists_holds_of_membersOpen {ps : List Predicate} (several : 2 ≤ ps.length)
    (populated : ∀ p ∈ ps, p.isPopulated = true) (isOpen : membersOpen .conjunction ps = true) :
    ∃ bs : List Bool, bs.length = memberAtomCount ps ∧ ∀ v n, Gives v n bs →
      (JunctionKind.conjunction.joined (memberLevels .conjunction n ps)).formula.holds v = true ∧
      (JunctionKind.conjunction.formula (memberFormulas n ps)).holds v = false := by
  rw [membersOpen_eq, List.any_eq_true] at isOpen
  obtain ⟨m, hm, openMember⟩ := isOpen
  obtain ⟨front, behind, rfl⟩ := List.append_of_mem hm
  have frontPopulated : ∀ p ∈ front, p.isPopulated = true := fun p hp => populated p (by simp [hp])
  have memberPopulated : ∀ p ∈ [m], p.isPopulated = true := fun p hp =>
    populated p (by simp [List.mem_singleton.1 hp])
  cases behind with
  | nil =>
    refine ⟨membersSteady false front ++ membersSteady true [m], ?_, fun v n gives => ?_⟩
    · simp [length_membersSteady_eq, memberAtomCount_append]
    · rw [gives_append, length_membersSteady_eq] at gives
      obtain ⟨-, formulas⟩ := steady_memberLevels .conjunction frontPopulated gives.1
      obtain ⟨levels, -⟩ := steady_memberLevels .conjunction memberPopulated gives.2
      rw [memberLevels_append, memberFormulas_append]
      constructor
      · refine holds_joined_concat (levels _ (by simp [memberLevels])) fun single => ?_
        have closed := (ended_memberLevels .conjunction (n + memberAtomCount front) [m]).1
          (by simpa [memberLevels] using single)
        simp [membersOpen, openMember] at closed
      · cases front with
        | nil => simp at several
        | cons p ps =>
          exact holds_formula_conjunction_of_mem (List.mem_append_left _ List.mem_cons_self)
            (formulas _ List.mem_cons_self)
  | cons q qs =>
    have restPopulated : ∀ p ∈ q :: qs, p.isPopulated = true := fun p hp => populated p (by simp [hp])
    have upTo : ∀ p ∈ front ++ [m], p.isPopulated = true := fun p hp =>
      (List.mem_append.1 hp).elim (frontPopulated p) (memberPopulated p)
    have regroup : front ++ m :: q :: qs = (front ++ [m]) ++ (q :: qs) := by simp
    rw [regroup]
    refine ⟨membersSteady true (front ++ [m]) ++ membersSteady false (q :: qs), ?_, fun v n gives => ?_⟩
    · rw [List.length_append, length_membersSteady_eq, length_membersSteady_eq,
        memberAtomCount_append (front ++ [m])]
    · rw [gives_append, length_membersSteady_eq] at gives
      obtain ⟨levels, -⟩ := steady_memberLevels .conjunction upTo gives.1
      obtain ⟨-, formulas⟩ := steady_memberLevels .conjunction restPopulated gives.2
      rw [memberLevels_append _ _ (front ++ [m]), memberFormulas_append _ (front ++ [m])]
      constructor
      · refine holds_joined_append (JunctionKind.uniform_joined _ ?_ levels) fun single => ?_
        · simp [memberLevels_append, memberLevels]
        · have closed := (ended_memberLevels .conjunction n (front ++ [m])).1
            (JunctionKind.ended_joined_conjunction.1 single)
          simp [membersOpen_eq, openMember] at closed
      · exact holds_formula_conjunction_of_mem (List.mem_append_right _ List.mem_cons_self)
          (formulas _ List.mem_cons_self)

/-- The values of members with steady atoms, as they are read and as they are meant. -/
theorem map_steady (kind : JunctionKind) {b : Bool} {ps : List Predicate}
    (h : ∀ p ∈ ps, p.isPopulated = true) (gives : Gives v n (membersSteady b ps)) :
    (memberLevels kind n ps).map (·.formula.holds v) = List.replicate ps.length b ∧
      (memberFormulas n ps).map (·.holds v) = List.replicate ps.length b := by
  obtain ⟨levels, formulas⟩ := steady_memberLevels kind h gives
  constructor
  · rw [List.eq_replicate_iff, List.length_map, length_memberLevels]
    refine ⟨rfl, fun c hc => ?_⟩
    obtain ⟨l, hl, rfl⟩ := List.mem_map.1 hc
    exact (levels l hl).holds
  · rw [List.eq_replicate_iff, List.length_map, length_memberFormulas]
    refine ⟨rfl, fun c hc => ?_⟩
    obtain ⟨f, hf, rfl⟩ := List.mem_map.1 hc
    exact formulas f hf

/-- If a member can be read as something else than it means, so it can be among members that all have the
value `b`. -/
theorem exists_single_difference (kind : JunctionKind) (b : Bool) {ps : List Predicate} {m : Predicate}
    (hm : m ∈ ps) (populated : ∀ p ∈ ps, p.isPopulated = true)
    (different : ∃ bs : List Bool, bs.length = m.atomCount ∧ ∀ v n, Gives v n bs →
      (m.level n).formula.holds v ≠ (m.formula n).holds v) :
    ∃ bs : List Bool, bs.length = memberAtomCount ps ∧ ∀ v n, Gives v n bs → ∃ x i j,
      (memberLevels kind n ps).map (·.formula.holds v) = List.replicate i b ++ x :: List.replicate j b ∧
      (memberFormulas n ps).map (·.holds v) = List.replicate i b ++ (!x) :: List.replicate j b := by
  obtain ⟨front, behind, rfl⟩ := List.append_of_mem hm
  obtain ⟨bs, length, differs⟩ := different
  refine ⟨membersSteady b front ++ (bs ++ membersSteady b behind), ?_, fun v n gives => ?_⟩
  · simp [length_membersSteady_eq, memberAtomCount_append, memberAtomCount, length]
  · rw [gives_append, gives_append, length_membersSteady_eq, length] at gives
    obtain ⟨frontLevels, frontFormulas⟩ := map_steady kind (fun p hp => populated p (by simp [hp])) gives.1
    obtain ⟨behindLevels, behindFormulas⟩ := map_steady kind (fun p hp => populated p (by simp [hp])) gives.2.2
    have here := Bool.eq_not_of_ne (differs v _ gives.2.1).symm
    refine ⟨(m.level (n + memberAtomCount front)).formula.holds v, front.length, behind.length, ?_, ?_⟩
    · rw [memberLevels_append, memberLevels, List.map_append, List.map_cons, Level.holds_bracketed,
        frontLevels, behindLevels]
    · rw [memberFormulas_append, memberFormulas, List.map_append, List.map_cons, frontFormulas,
        behindFormulas, here]

/-- If a member of a junction can be read as something else than it means, so can the junction, provided
that the members of a conjunction have a single alternative each. -/
theorem exists_difference_of_mem {kind : JunctionKind} {ps : List Predicate} {m : Predicate}
    (nonempty : ps ≠ []) (hm : m ∈ ps) (populated : ∀ p ∈ ps, p.isPopulated = true)
    (single : kind = .conjunction → membersOpen .conjunction ps = false)
    (different : ∃ bs : List Bool, bs.length = m.atomCount ∧ ∀ v n, Gives v n bs →
      (m.level n).formula.holds v ≠ (m.formula n).holds v) :
    ∃ bs : List Bool, bs.length = memberAtomCount ps ∧ ∀ v n, Gives v n bs →
      (kind.joined (memberLevels kind n ps)).formula.holds v ≠ (kind.formula (memberFormulas n ps)).holds v := by
  -- All other members get the value that makes no difference in the junction.
  obtain ⟨bs, length, values⟩ := exists_single_difference kind (kind == .conjunction) hm populated different
  refine ⟨bs, length, fun v n gives => ?_⟩
  obtain ⟨x, i, j, levels, formulas⟩ := values v n gives
  cases kind with
  | conjunction =>
    have alone := (ended_memberLevels .conjunction n ps).2 (single rfl)
    rw [JunctionKind.holds_joined_conjunction alone, JunctionKind.holds_formula_conjunction, levels, formulas]
    cases x <;> simp
  | disjunction =>
    have some : memberLevels .disjunction n ps ≠ [] := by
      rwa [← List.length_pos_iff, length_memberLevels, List.length_pos_iff]
    rw [JunctionKind.holds_joined_disjunction some, JunctionKind.holds_formula_disjunction, levels, formulas]
    cases x <;> simp

/-- A condition that is not bracketed, and has no empty junctions, is read as something else than it means
under some truth values of its atoms. -/
theorem Predicate.exists_difference (p : Predicate) (populated : p.isPopulated = true)
    (unbracketed : p.isBracketed = false) :
    ∃ bs : List Bool, bs.length = p.atomCount ∧ ∀ v n, Gives v n bs →
      (p.level n).formula.holds v ≠ (p.formula n).holds v := by
  induction p using Predicate.byStructure with
  | atom p atomic =>
    rw [isBracketed_of_isAtomic atomic] at unbracketed
    cases unbracketed
  | junction kind members ih =>
    rw [isPopulated, Bool.and_eq_true, membersPopulated_eq, List.all_eq_true] at populated
    have each := populated.2
    cases members with
    | nil => simp at populated
    | cons first rest =>
      cases rest with
      | nil =>
        obtain ⟨bs, length, differs⟩ := ih first (by simp) (each first (by simp))
          (by simpa [isBracketed, membersBracketed] using unbracketed)
        refine ⟨bs, by simp [atomCount, memberAtomCount, length], fun v n gives => ?_⟩
        rw [level, formula, memberFormulas, memberFormulas, JunctionKind.holds_formula_singleton]
        exact differs v n gives
      | cons second rest =>
        by_cases isOpen : kind = .conjunction ∧ membersOpen .conjunction (first :: second :: rest) = true
        · obtain ⟨rfl, isOpen⟩ := isOpen
          obtain ⟨bs, length, values⟩ := exists_holds_of_membersOpen (by simp) each isOpen
          refine ⟨bs, length, fun v n gives same => ?_⟩
          obtain ⟨read, meant⟩ := values v n gives
          rw [level, formula, read, meant] at same
          cases same
        · have single : kind = .conjunction → membersOpen .conjunction (first :: second :: rest) = false :=
            fun same => Bool.eq_false_iff.2 fun h => isOpen ⟨same, h⟩
          have closed : (kind == .disjunction || decide ((first :: second :: rest).length < 2)
              || !membersOpen kind (first :: second :: rest)) = true := by
            cases kind with
            | conjunction => simp [single rfl]
            | disjunction => rfl
          rw [isBracketed, closed, Bool.true_and, membersBracketed_eq, List.all_eq_false] at unbracketed
          obtain ⟨m, hm, inner⟩ := unbracketed
          have different := ih m hm (each m hm) (Bool.eq_false_iff.2 inner)
          exact exists_difference_of_mem (by simp) hm each single different
  | negated inner ih =>
    rw [isPopulated] at populated
    rw [isBracketed] at unbracketed
    obtain ⟨bs, length, differs⟩ := ih populated unbracketed
    refine ⟨bs, length, fun v n gives => ?_⟩
    rw [level, formula, Level.holds_factor, Formula.holds, Formula.holds]
    simpa using differs v n gives

end Distinct

end SqlDialects
