import SqlDialects.Sql.Operator
import SqlDialects.Proofs.Condition.Formula

/-!
# Canonical formulas

Negations can be moved to the atoms of a formula, its constants folded, and its junctions written as
chains that do not start with a junction of their own kind. If every atom occurs once, and the atoms
stand in order, nothing else can be changed without changing the truth value for some values of the
atoms: two such formulas mean the same if and only if they have the same canonical form
(`Formula.canonical_eq_iff`).
-/

namespace SqlDialects

namespace JunctionKind

/-- The truth value of a junction of two. -/
def apply : JunctionKind → Bool → Bool → Bool
  | conjunction => and
  | disjunction => or

/-- The truth value that makes no difference in a junction. -/
def neutral : JunctionKind → Bool
  | conjunction => true
  | disjunction => false

/-- The other kind. -/
def opposite : JunctionKind → JunctionKind
  | conjunction => disjunction
  | disjunction => conjunction

variable (kind : JunctionKind) (b : Bool)

@[simp] theorem apply_neutral_left : kind.apply kind.neutral b = b := by
  cases kind <;> cases b <;> rfl

@[simp] theorem apply_neutral_right : kind.apply b kind.neutral = b := by
  cases kind <;> cases b <;> rfl

@[simp] theorem apply_absorbing_left : kind.apply (!kind.neutral) b = !kind.neutral := by
  cases kind <;> cases b <;> rfl

@[simp] theorem apply_absorbing_right : kind.apply b (!kind.neutral) = !kind.neutral := by
  cases kind <;> cases b <;> rfl

@[simp] theorem apply_self : kind.apply b b = b := by
  cases kind <;> cases b <;> rfl

@[simp] theorem neutral_opposite : kind.opposite.neutral = !kind.neutral := by
  cases kind <;> rfl

theorem apply_assoc (x y z : Bool) : kind.apply (kind.apply x y) z = kind.apply x (kind.apply y z) := by
  cases kind <;> cases x <;> rfl

/-- A junction has the neutral value only if both of its members have. -/
theorem apply_eq_neutral {x y : Bool} :
    kind.apply x y = kind.neutral ↔ x = kind.neutral ∧ y = kind.neutral := by
  cases kind <;> cases x <;> simp [apply, neutral]

theorem eq_opposite_of_ne {kind other : JunctionKind} (h : other ≠ kind) : other = kind.opposite := by
  revert h
  cases kind <;> cases other <;> decide

end JunctionKind

/-- A formula of signed atoms, constants, and chains of junctions. -/
inductive Canonical where
  | constant (b : Bool)
  | literal (n : Nat) (b : Bool)
  | join (kind : JunctionKind) (first rest : Canonical)
deriving DecidableEq, Repr

/-- Some atoms have the truth values `v`, the others have the truth values `w`. -/
def splice (ns : List Nat) (v w : Nat → Bool) (n : Nat) : Bool := if n ∈ ns then v n else w n

namespace Canonical

/-- The truth value under one of each atom. -/
def holds (v : Nat → Bool) : Canonical → Bool
  | constant b => b
  | literal n b => v n == b
  | join kind first rest => kind.apply (first.holds v) (rest.holds v)

/-- The atoms, from left to right. -/
def atoms : Canonical → List Nat
  | constant _ => []
  | literal n _ => [n]
  | join _ first rest => first.atoms ++ rest.atoms

/-- The formula is a constant. -/
def isConstant : Canonical → Bool
  | constant _ => true
  | _ => false

/-- The formula is a junction of a kind. -/
def joins (kind : JunctionKind) : Canonical → Bool
  | join other _ _ => other == kind
  | _ => false

/-- No junction has constants in it, or a junction of its own kind in front. -/
def Reduced : Canonical → Prop
  | constant _ => True
  | literal _ _ => True
  | join kind first rest =>
    first.Reduced ∧ rest.Reduced ∧ first.isConstant = false ∧ rest.isConstant = false
      ∧ first.joins kind = false

/-- The formula is reduced, and every atom occurs once. -/
structure ReadOnce (c : Canonical) : Prop where
  reduced : c.Reduced
  distinct : c.atoms.Nodup

/-- What is known of the members of a junction in which every atom occurs once. -/
structure Members (kind : JunctionKind) (c d : Canonical) : Prop where
  first : c.ReadOnce
  rest : d.ReadOnce
  firstVaries : c.isConstant = false
  restVaries : d.isConstant = false
  other : c.joins kind = false
  apart : ∀ n ∈ d.atoms, n ∉ c.atoms

theorem ReadOnce.members {kind : JunctionKind} {c d : Canonical} (h : (join kind c d).ReadOnce) :
    Members kind c d := by
  obtain ⟨⟨hfirst, hrest, firstVaries, restVaries, other⟩, distinct⟩ := h
  obtain ⟨firstDistinct, restDistinct, apart⟩ := List.nodup_append.1 distinct
  exact ⟨⟨hfirst, firstDistinct⟩, ⟨hrest, restDistinct⟩, firstVaries, restVaries, other,
    fun n hn mem => apart n mem n hn rfl⟩

variable {c c' d d' first rest : Canonical} {kind : JunctionKind} {v w : Nat → Bool} {ns ms : List Nat}
  {n : Nat}

theorem atoms_ne_nil (hc : c.Reduced) (varies : c.isConstant = false) : c.atoms ≠ [] := by
  induction c with
  | constant b => cases varies
  | literal n b => exact List.cons_ne_nil n []
  | join kind first rest ihf _ => exact fun none => ihf hc.1 hc.2.2.1 (List.append_eq_nil_iff.1 none).1

theorem length_atoms_join_ne_one (h : (join kind first rest).Reduced) :
    (join kind first rest).atoms.length ≠ 1 := by
  have front := List.length_pos_iff.2 (atoms_ne_nil h.1 h.2.2.1)
  have behind := List.length_pos_iff.2 (atoms_ne_nil h.2.1 h.2.2.2.1)
  rw [atoms, List.length_append]
  omega

/-! ## Values of some of the atoms -/

theorem holds_congr (h : ∀ n ∈ c.atoms, v n = w n) : c.holds v = c.holds w := by
  induction c with
  | constant b => rfl
  | literal n b => rw [holds, holds, h n (by simp [atoms])]
  | join kind first rest ihf ihr =>
    rw [holds, holds, ihf fun n hn => h n (List.mem_append_left _ hn),
      ihr fun n hn => h n (List.mem_append_right _ hn)]

theorem holds_splice_of_subset (h : c.atoms ⊆ ns) : c.holds (splice ns v w) = c.holds v :=
  holds_congr fun _ hn => if_pos (h hn)

theorem holds_splice_of_disjoint (h : ∀ n ∈ c.atoms, n ∉ ns) : c.holds (splice ns v w) = c.holds w :=
  holds_congr fun n hn => if_neg (h n hn)

/-- The members of a junction take their values independently of each other. -/
theorem holds_join_splice (apart : ∀ n ∈ rest.atoms, n ∉ first.atoms) :
    (join kind first rest).holds (splice first.atoms v w) = kind.apply (first.holds v) (rest.holds w) := by
  rw [holds, holds_splice_of_subset (List.Subset.refl _), holds_splice_of_disjoint apart]

/-- What is not a constant has both truth values. -/
theorem exists_holds (hc : c.ReadOnce) (varies : c.isConstant = false) (b : Bool) : ∃ v, c.holds v = b := by
  induction c with
  | constant b => cases varies
  | literal n sign => exact ⟨fun _ => b == sign, by cases b <;> cases sign <;> rfl⟩
  | join kind first rest ihf ihr =>
    have members := hc.members
    obtain ⟨v, hv⟩ := ihf members.first members.firstVaries
    obtain ⟨w, hw⟩ := ihr members.rest members.restVaries
    exact ⟨splice first.atoms v w, by rw [holds_join_splice members.apart, hv, hw, JunctionKind.apply_self]⟩

/-- Every atom makes the difference for some values of the others. -/
theorem exists_pivot (hc : c.ReadOnce) (hn : n ∈ c.atoms) :
    ∃ v sign, ∀ x, c.holds (splice [n] (fun _ => x) v) = (x == sign) := by
  induction c with
  | constant b => cases hn
  | literal m sign =>
    obtain rfl : n = m := List.mem_singleton.1 hn
    exact ⟨fun _ => true, sign, fun x => by simp [holds, splice]⟩
  | join kind first rest ihf ihr =>
    -- The member without the atom gets the value that makes no difference.
    have members := hc.members
    rcases List.mem_append.1 hn with here | here
    · obtain ⟨v, sign, pivot⟩ := ihf members.first here
      obtain ⟨w, hw⟩ := exists_holds members.rest members.restVaries kind.neutral
      refine ⟨splice first.atoms v w, sign, fun x => ?_⟩
      have nested : splice [n] (fun _ => x) (splice first.atoms v w) =
          splice first.atoms (splice [n] (fun _ => x) v) w := by
        funext m
        by_cases same : m = n
        · simp [splice, same, here]
        · simp [splice, same]
      rw [nested, holds_join_splice members.apart, pivot, hw, JunctionKind.apply_neutral_right]
    · obtain ⟨w, sign, pivot⟩ := ihr members.rest here
      obtain ⟨v, hv⟩ := exists_holds members.first members.firstVaries kind.neutral
      refine ⟨splice first.atoms v w, sign, fun x => ?_⟩
      have nested : splice [n] (fun _ => x) (splice first.atoms v w) =
          splice first.atoms v (splice [n] (fun _ => x) w) := by
        funext m
        by_cases same : m = n
        · simp [splice, same, members.apart n here]
        · simp [splice, same]
      rw [nested, holds_join_splice members.apart, hv, pivot, JunctionKind.apply_neutral_left]

/-- The truth value cannot be found without looking at one of the atoms. -/
theorem not_ignored {p : (Nat → Bool) → Bool} (hc : c.ReadOnce) (hn : n ∈ c.atoms)
    (ignores : ∀ v w, (∀ m, m ≠ n → v m = w m) → p v = p w) (same : ∀ v, c.holds v = p v) : False := by
  obtain ⟨v, sign, pivot⟩ := exists_pivot hc hn
  have fixed : ∀ x, p v = (x == sign) := by
    intro x
    rw [← pivot x, same]
    exact ignores _ _ fun m other => (if_neg fun one => other (List.mem_singleton.1 one)).symm
  have both := (fixed true).symm.trans (fixed false)
  cases sign <;> cases both

/-! ## Formulas with the same truth values -/

/-- Formulas with the same truth values have the same atoms. -/
theorem mem_atoms_of_holds (hc : c.ReadOnce) (same : ∀ v, c.holds v = d.holds v) (hn : n ∈ c.atoms) :
    n ∈ d.atoms := by
  by_cases mem : n ∈ d.atoms
  · exact mem
  · refine (not_ignored hc hn (fun v w agree => holds_congr fun m hm => agree m ?_) same).elim
    rintro rfl
    exact mem hm

theorem atoms_eq_of_holds (hc : c.ReadOnce) (hd : d.ReadOnce) (orderedC : c.atoms.Pairwise (· < ·))
    (orderedD : d.atoms.Pairwise (· < ·)) (same : ∀ v, c.holds v = d.holds v) : c.atoms = d.atoms := by
  have mem : ∀ n, n ∈ c.atoms ↔ n ∈ d.atoms := fun n =>
    ⟨mem_atoms_of_holds hc same, mem_atoms_of_holds hd fun v => (same v).symm⟩
  have perm := (List.perm_ext_iff_of_nodup hc.distinct hd.distinct).2 mem
  exact perm.eq_of_pairwise (fun a b _ _ ab ba => absurd ab (Nat.lt_asymm ba)) orderedC orderedD

/-- A junction cannot be split into a junction of the other kind, with some first atoms `ns` in one of its
members and the remaining atoms in the other one. -/
theorem not_split {p q : (Nat → Bool) → Bool} (whole : (join kind.opposite first rest).ReadOnce)
    (atoms : first.atoms ++ rest.atoms = ns ++ ms) (nonempty : ms ≠ [])
    (inFront : ∀ v w, (∀ n ∈ ns, v n = w n) → p v = p w)
    (behind : ∀ v w, (∀ n, n ∉ ns → v n = w n) → q v = q w) (varies : ∃ v, p v = !kind.neutral)
    (same : ∀ v, (join kind.opposite first rest).holds v = kind.apply (p v) (q v)) : False := by
  have members := whole.members
  rcases List.append_eq_append_iff.1 atoms with ⟨more, hns, -⟩ | ⟨more, hfront, -⟩
  · -- The first member decides about the junction for some values of `ns`, so that `q` is neutral.
    obtain ⟨v, hv⟩ := exists_holds members.first members.firstVaries kind.neutral
    have absorbed : kind.neutral = !kind.opposite.neutral := by simp
    have neutral : ∀ w, q w = kind.neutral := by
      intro w
      have decided := same (splice first.atoms v w)
      rw [holds_join_splice members.apart, hv, absorbed, JunctionKind.apply_absorbing_left,
        ← absorbed] at decided
      rw [← ((JunctionKind.apply_eq_neutral kind).1 decided.symm).2]
      exact behind _ _ fun n hn => (if_neg fun mem => hn (by simp [hns, mem])).symm
    obtain ⟨n, hn⟩ := List.exists_mem_of_ne_nil _ nonempty
    have distinct := whole.distinct
    rw [Canonical.atoms, atoms] at distinct
    have late : n ∉ ns := fun mem => (List.nodup_append.1 distinct).2.2 n mem n hn rfl
    have early : n ∈ (join kind.opposite first rest).atoms := by
      rw [Canonical.atoms, atoms]
      exact List.mem_append_right _ hn
    refine not_ignored whole early (fun v w agree => inFront v w fun m hm => agree m ?_) fun v => ?_
    · rintro rfl
      exact late hm
    · rw [same, neutral, JunctionKind.apply_neutral_right]
  · -- For some values of `ns`, the junction has the value that is neutral for it, and so its rest has.
    obtain ⟨v, hv⟩ := varies
    obtain ⟨w, hw⟩ := exists_holds members.rest members.restVaries kind.neutral
    have absorbed : (join kind.opposite first rest).holds (splice ns v w) = kind.opposite.neutral := by
      rw [same, inFront (splice ns v w) v fun n hn => if_pos hn, hv, JunctionKind.apply_absorbing_left,
        JunctionKind.neutral_opposite]
    have value := ((JunctionKind.apply_eq_neutral _).1 absorbed).2
    have disjoint : ∀ n ∈ rest.atoms, n ∉ ns := fun n hn mem => members.apart n hn (by simp [hfront, mem])
    rw [holds_splice_of_disjoint disjoint, hw, JunctionKind.neutral_opposite] at value
    cases kind <;> cases value

/-- The first member of a junction does not extend beyond that of another junction of its kind with the
same truth values. -/
theorem eq_nil_of_atoms_eq_append {more : List Nat} (hc : (join kind c c').ReadOnce)
    (hd : (join kind d d').ReadOnce) (same : ∀ v, (join kind c c').holds v = (join kind d d').holds v)
    (longer : d.atoms = c.atoms ++ more) : more = [] := by
  have membersC := hc.members
  have membersD := hd.members
  by_cases none : more = []
  · exact none
  exfalso
  cases d with
  | constant b => cases membersD.firstVaries
  | literal n b =>
    rcases List.append_eq_singleton_iff.1 longer.symm with ⟨empty, -⟩ | ⟨-, empty⟩
    · exact atoms_ne_nil membersC.first.reduced membersC.firstVaries empty
    · exact none empty
  | join inner first rest =>
    obtain rfl : inner = kind.opposite := by
      refine JunctionKind.eq_opposite_of_ne fun same => ?_
      have other := membersD.other
      simp [joins, same] at other
    -- With the remaining members neutral, the inner junction is one of the other kind.
    obtain ⟨w, hw⟩ := exists_holds membersD.rest membersD.restVaries kind.neutral
    let within := (join kind.opposite first rest).atoms
    refine not_split (p := c.holds) (q := fun v => c'.holds (splice within v w)) membersD.first longer none
      (fun _ _ => holds_congr) (fun u v agree => holds_congr fun n hn => ?_)
      (exists_holds membersC.first membersC.firstVaries _) fun v => ?_
    · simp only [splice, agree n (membersC.apart n hn)]
    · have inside : c.atoms ⊆ within := by
        intro n hn
        rw [show within = c.atoms ++ more from longer]
        exact List.mem_append_left _ hn
      have whole := same (splice within v w)
      rw [holds_join_splice membersD.apart, hw, JunctionKind.apply_neutral_right, holds,
        holds_splice_of_subset inside] at whole
      exact whole.symm

/-- If the first members of two junctions with the same truth values have the same atoms, the members have
the same truth values. -/
theorem holds_eq_of_atoms_eq (hc : (join kind c c').ReadOnce) (hd : (join kind d d').ReadOnce)
    (same : ∀ v, (join kind c c').holds v = (join kind d d').holds v) (front : c.atoms = d.atoms) :
    (∀ v, c.holds v = d.holds v) ∧ ∀ v, c'.holds v = d'.holds v := by
  have members := hd.members
  have parts : ∀ v w, kind.apply (c.holds v) (c'.holds w) = kind.apply (d.holds v) (d'.holds w) := by
    intro v w
    have whole := same (splice d.atoms v w)
    rw [holds_join_splice members.apart, ← front, holds_join_splice hc.members.apart] at whole
    exact whole
  obtain ⟨v, hv⟩ := exists_holds members.first members.firstVaries kind.neutral
  obtain ⟨w, hw⟩ := exists_holds members.rest members.restVaries kind.neutral
  have neutral := parts v w
  rw [hv, hw, JunctionKind.apply_self, JunctionKind.apply_eq_neutral] at neutral
  refine ⟨fun u => ?_, fun u => ?_⟩
  · have value := parts u w
    rwa [neutral.2, hw, JunctionKind.apply_neutral_right, JunctionKind.apply_neutral_right] at value
  · have value := parts v u
    rwa [neutral.1, hv, JunctionKind.apply_neutral_left, JunctionKind.apply_neutral_left] at value

/-- The first members of two junctions of a kind with the same truth values have the same atoms. -/
theorem first_atoms_eq (hc : (join kind c c').ReadOnce) (hd : (join kind d d').ReadOnce)
    (same : ∀ v, (join kind c c').holds v = (join kind d d').holds v)
    (atoms : c.atoms ++ c'.atoms = d.atoms ++ d'.atoms) : c.atoms = d.atoms := by
  rcases List.append_eq_append_iff.1 atoms with ⟨more, longer, -⟩ | ⟨more, longer, -⟩
  · rw [eq_nil_of_atoms_eq_append hc hd same longer, List.append_nil] at longer
    exact longer.symm
  · rw [eq_nil_of_atoms_eq_append hd hc (fun v => (same v).symm) longer, List.append_nil] at longer
    exact longer

/-- Reduced formulas with their atoms in order are the same if they have the same truth values. -/
theorem eq_of_holds (reducedC : c.Reduced) (reducedD : d.Reduced) (orderedC : c.atoms.Pairwise (· < ·))
    (orderedD : d.atoms.Pairwise (· < ·)) (same : ∀ v, c.holds v = d.holds v) : c = d := by
  have hc : c.ReadOnce := ⟨reducedC, orderedC.imp Nat.ne_of_lt⟩
  have hd : d.ReadOnce := ⟨reducedD, orderedD.imp Nat.ne_of_lt⟩
  have atoms := atoms_eq_of_holds hc hd orderedC orderedD same
  clear reducedC reducedD orderedC orderedD
  induction c generalizing d with
  | constant b =>
    cases d with
    | constant b' => rw [show b = b' from same fun _ => true]
    | literal n sign => cases atoms
    | join kind' d d' => exact absurd atoms.symm (atoms_ne_nil hd.reduced rfl)
  | literal n sign =>
    cases d with
    | constant b => cases atoms
    | literal m sign' =>
      obtain rfl : n = m := List.singleton_inj.1 atoms
      have signs : sign = sign' := by simpa [holds] using same fun _ => true
      rw [signs]
    | join kind' d d' => exact absurd (congrArg List.length atoms.symm) (length_atoms_join_ne_one hd.reduced)
  | join kind c c' ihc ihc' =>
    cases d with
    | constant b => exact absurd atoms (atoms_ne_nil hc.reduced rfl)
    | literal m sign' => exact absurd (congrArg List.length atoms) (length_atoms_join_ne_one hc.reduced)
    | join kind' d d' =>
      have membersC := hc.members
      have membersD := hd.members
      by_cases kinds : kind' = kind
      · subst kinds
        have front := first_atoms_eq hc hd same atoms
        have behind : c'.atoms = d'.atoms := by
          rw [Canonical.atoms, Canonical.atoms, front] at atoms
          exact List.append_cancel_left atoms
        obtain ⟨first, rest⟩ := holds_eq_of_atoms_eq hc hd same front
        rw [ihc first membersC.first membersD.first front, ihc' rest membersC.rest membersD.rest behind]
      · obtain rfl := JunctionKind.eq_opposite_of_ne kinds
        have some := atoms_ne_nil membersC.rest.reduced membersC.restVaries
        refine (not_split (p := c.holds) (q := c'.holds) hd atoms.symm some (fun _ _ => holds_congr)
          (fun v w agree => holds_congr fun n hn => agree n (membersC.apart n hn))
          (exists_holds membersC.first membersC.firstVaries _) fun v => (same v).symm).elim

/-! ## The canonical form of a formula -/

/-- A junction of reduced formulas, with constants folded and the first member put in front of the chain. -/
def joined (kind : JunctionKind) : Canonical → Canonical → Canonical
  | constant b, d => if b = kind.neutral then d else constant b
  | c, constant b => if b = kind.neutral then c else constant b
  | join other first rest, d =>
    if other = kind then join kind first (rest.joined kind d) else join kind (join other first rest) d
  | literal n b, d => join kind (literal n b) d

theorem holds_joined (kind : JunctionKind) (c d : Canonical) :
    (c.joined kind d).holds v = kind.apply (c.holds v) (d.holds v) := by
  fun_induction joined kind c d with
  | case1 d => simp [holds]
  | case2 b d absorbing =>
    have absorbed : b = !kind.neutral := Bool.eq_not_of_ne absorbing
    simp [holds, absorbed]
  | case3 c => simp [holds]
  | case4 c b _ absorbing =>
    have absorbed : b = !kind.neutral := Bool.eq_not_of_ne absorbing
    simp [holds, absorbed]
  | case5 first rest d _ ih => rw [holds, ih, holds, JunctionKind.apply_assoc]
  | case6 => rfl
  | case7 => rfl

theorem isConstant_of_forall_ne (h : ∀ b, c = constant b → False) : c.isConstant = false := by
  cases c with
  | constant b => exact (h b rfl).elim
  | literal n b => rfl
  | join kind first rest => rfl

theorem isConstant_joined (hc : c.isConstant = false) (hd : d.isConstant = false) :
    (c.joined kind d).isConstant = false := by
  fun_induction joined kind c d with
  | case1 => cases hc
  | case2 => cases hc
  | case3 => exact hc
  | case4 => cases hd
  | case5 => rfl
  | case6 => rfl
  | case7 => rfl

theorem reduced_joined (hc : c.Reduced) (hd : d.Reduced) : (c.joined kind d).Reduced := by
  fun_induction joined kind c d with
  | case1 d => exact hd
  | case2 b d => trivial
  | case3 c => exact hc
  | case4 c b => trivial
  | case5 first rest d varies ih =>
    obtain ⟨hfirst, hrest, firstVaries, restVaries, other⟩ := hc
    have chain : (rest.joined kind d).isConstant = false :=
      isConstant_joined restVaries (isConstant_of_forall_ne varies)
    exact ⟨hfirst, ih hrest hd, firstVaries, chain, other⟩
  | case6 other first rest d varies different =>
    exact ⟨hc, hd, rfl, isConstant_of_forall_ne varies, beq_false_of_ne different⟩
  | case7 d n b varies => exact ⟨hc, hd, rfl, isConstant_of_forall_ne varies, rfl⟩

theorem atoms_joined (kind : JunctionKind) (c d : Canonical) :
    (c.joined kind d).atoms.Sublist (c.atoms ++ d.atoms) := by
  fun_induction joined kind c d with
  | case1 d => simp [atoms]
  | case2 b d => simp [atoms]
  | case3 c => simp [atoms]
  | case4 c b => simp [atoms]
  | case5 first rest d _ ih =>
    rw [atoms, atoms, List.append_assoc]
    exact ih.append_left _
  | case6 => exact List.Sublist.refl _
  | case7 => exact List.Sublist.refl _

end Canonical

/-- The kind of a junction, or of its negation. -/
def JunctionKind.signed (kind : JunctionKind) (sign : Bool) : JunctionKind :=
  if sign then kind else kind.opposite

mutual

/-- The atoms of a formula, from left to right. -/
def Formula.atoms : Formula → List Nat
  | .atom n => [n]
  | .not f => f.atoms
  | .all fs => atomsOfAll fs
  | .any fs => atomsOfAll fs

/-- The atoms of some formulas. -/
def atomsOfAll : List Formula → List Nat
  | [] => []
  | f :: fs => f.atoms ++ atomsOfAll fs

end

mutual

/-- The canonical form of a formula, or of its negation. -/
def Formula.canonical (sign : Bool) : Formula → Canonical
  | .atom n => .literal n sign
  | .not f => f.canonical !sign
  | .all fs => canonicalOfAll sign (JunctionKind.conjunction.signed sign) fs
  | .any fs => canonicalOfAll sign (JunctionKind.disjunction.signed sign) fs

/-- The canonical form of a junction of formulas, or of their negations. -/
def canonicalOfAll (sign : Bool) (kind : JunctionKind) : List Formula → Canonical
  | [] => .constant kind.neutral
  | f :: fs => (f.canonical sign).joined kind (canonicalOfAll sign kind fs)

end

mutual

theorem Formula.holds_canonical (v : Nat → Bool) : ∀ (f : Formula) (sign : Bool),
    (f.canonical sign).holds v = (f.holds v == sign)
  | .atom _, _ => rfl
  | .not f, sign => by
    rw [Formula.canonical, f.holds_canonical v, Formula.holds]
    cases f.holds v <;> cases sign <;> rfl
  | .all fs, sign => (holds_canonicalOfAll v fs sign).1
  | .any fs, sign => (holds_canonicalOfAll v fs sign).2

theorem holds_canonicalOfAll (v : Nat → Bool) : ∀ (fs : List Formula) (sign : Bool),
    (canonicalOfAll sign (JunctionKind.conjunction.signed sign) fs).holds v = (allHold v fs == sign) ∧
      (canonicalOfAll sign (JunctionKind.disjunction.signed sign) fs).holds v = (someHolds v fs == sign)
  | [], sign => by cases sign <;> exact ⟨rfl, rfl⟩
  | f :: fs, sign => by
    obtain ⟨all, any⟩ := holds_canonicalOfAll v fs sign
    simp only [canonicalOfAll, Canonical.holds_joined, f.holds_canonical v, all, any, allHold, someHolds]
    cases f.holds v <;> cases sign <;> simp [JunctionKind.signed, JunctionKind.apply, JunctionKind.opposite]

end

mutual

theorem Formula.reduced_canonical : ∀ (f : Formula) (sign : Bool), (f.canonical sign).Reduced
  | .atom _, _ => trivial
  | .not f, sign => f.reduced_canonical !sign
  | .all fs, sign => reduced_canonicalOfAll _ fs sign
  | .any fs, sign => reduced_canonicalOfAll _ fs sign

theorem reduced_canonicalOfAll (kind : JunctionKind) : ∀ (fs : List Formula) (sign : Bool),
    (canonicalOfAll sign kind fs).Reduced
  | [], _ => trivial
  | f :: fs, sign => Canonical.reduced_joined (f.reduced_canonical sign) (reduced_canonicalOfAll kind fs sign)

end

mutual

/-- Folding constants can drop atoms, but does not move them. -/
theorem Formula.atoms_canonical : ∀ (f : Formula) (sign : Bool), (f.canonical sign).atoms.Sublist f.atoms
  | .atom _, _ => List.Sublist.refl _
  | .not f, sign => f.atoms_canonical !sign
  | .all fs, sign => atoms_canonicalOfAll _ fs sign
  | .any fs, sign => atoms_canonicalOfAll _ fs sign

theorem atoms_canonicalOfAll (kind : JunctionKind) : ∀ (fs : List Formula) (sign : Bool),
    (canonicalOfAll sign kind fs).atoms.Sublist (atomsOfAll fs)
  | [], _ => List.Sublist.refl _
  | f :: fs, sign => (Canonical.atoms_joined kind _ _).trans
    ((f.atoms_canonical sign).append (atoms_canonicalOfAll kind fs sign))

end

/-- Formulas with their atoms in order have the same truth values if and only if they have the same
canonical form. -/
theorem Formula.canonical_eq_iff {f g : Formula} (orderedF : f.atoms.Pairwise (· < ·))
    (orderedG : g.atoms.Pairwise (· < ·)) :
    f.canonical true = g.canonical true ↔ ∀ v, f.holds v = g.holds v := by
  constructor
  · intro same v
    have value : (f.holds v == true) = (g.holds v == true) := by
      rw [← f.holds_canonical v, ← g.holds_canonical v, same]
    simpa using value
  · intro same
    refine Canonical.eq_of_holds (f.reduced_canonical true) (g.reduced_canonical true)
      (orderedF.sublist (f.atoms_canonical true)) (orderedG.sublist (g.atoms_canonical true)) fun v => ?_
    rw [f.holds_canonical v, g.holds_canonical v, same v]

end SqlDialects
