import SqlDialects.Render.Expression
import SqlDialects.Proofs.Draft.Writes
import SqlDialects.Proofs.Condition.Reader

/-!
# The pieces of a condition

Conditions are trees of junctions and negations over atomic conditions. `Predicate.pieces` is what is
written for such a tree, with the fragments of the atoms left closed, `Predicate.formula` is what the
tree means, and `Predicate.level` is what its pieces say to a reader who comes upon them on some level.
-/

namespace SqlDialects

/-- The condition is neither a junction nor a negation. -/
def Predicate.isAtomic : Predicate → Bool
  | .junction _ _ => false
  | .negated _ => false
  | _ => true

mutual

/-- Conditions by their structure: atoms, junctions and negations. -/
theorem Predicate.byStructure {motive : Predicate → Prop}
    (atom : ∀ p, p.isAtomic = true → motive p)
    (junction : ∀ kind members, (∀ m ∈ members, motive m) → motive (.junction kind members))
    (negated : ∀ inner, motive inner → motive (.negated inner)) : ∀ p, motive p
  | .junction kind members => junction kind members (membersByStructure atom junction negated members)
  | .negated inner => negated inner (inner.byStructure atom junction negated)
  | .boolean _ _ => atom _ rfl
  | .comparison _ _ _ => atom _ rfl
  | .inList _ _ _ => atom _ rfl
  | .inArray _ _ _ => atom _ rfl
  | .tupleSubquery _ _ _ => atom _ rfl
  | .nullCheck _ _ => atom _ rfl

/-- The members of a junction by their structure. -/
theorem membersByStructure {motive : Predicate → Prop}
    (atom : ∀ p, p.isAtomic = true → motive p)
    (junction : ∀ kind members, (∀ m ∈ members, motive m) → motive (.junction kind members))
    (negated : ∀ inner, motive inner → motive (.negated inner)) : ∀ ps : List Predicate, ∀ p ∈ ps, motive p
  | [] => List.forall_mem_nil _
  | p :: ps => List.forall_mem_cons.2
    ⟨p.byStructure atom junction negated, membersByStructure atom junction negated ps⟩

end

namespace JunctionKind

/-- The token of a junction without members. -/
def unitToken : JunctionKind → Token
  | conjunction => .raw "1=1"
  | disjunction => .raw "1=0"

/-- The pieces between two members. -/
def jointPieces (kind : JunctionKind) : List ConditionPiece :=
  [.token .space, .token (.keyword kind.joint), .token .space]

/-- The formula of a junction. -/
def formula : JunctionKind → List Formula → Formula
  | conjunction => .all
  | disjunction => .any

/-- What the keyword between members says on a level. -/
def jointLevel : JunctionKind → Level
  | conjunction => .start
  | disjunction => .or

/-- What members of a junction say on a level, one after the other. -/
def joined (kind : JunctionKind) : List Level → Level
  | [] => .start
  | [l] => l
  | l :: ls => l ++ kind.jointLevel ++ kind.joined ls

/-- The pieces of members of a junction, one after the other. -/
def joinedPieces (kind : JunctionKind) : List (List ConditionPiece) → List ConditionPiece
  | [] => []
  | [ps] => ps
  | ps :: pss => ps ++ kind.jointPieces ++ kind.joinedPieces pss

end JunctionKind

/-- Pieces between parentheses, where these are wanted. -/
def bracketedPieces (wanted : Bool) (ps : List ConditionPiece) : List ConditionPiece :=
  if wanted then .token .leftParen :: ps ++ [.token .rightParen] else ps

/-- What is between parentheses is a single factor. -/
def Level.bracketed (wanted : Bool) (l : Level) : Level := if wanted then .factor l.formula else l

mutual

/-- The pieces that are written for a condition. -/
def Predicate.pieces : Predicate → List ConditionPiece
  | .junction kind members =>
    match members with
    | [] => [.token kind.unitToken]
    | [member] => member.pieces
    | first :: second :: rest => kind.joinedPieces (memberPieces kind (first :: second :: rest))
  | .negated inner =>
    [.token (.keyword .not), .token .space] ++ bracketedPieces true inner.pieces
  | p => [.atom p]

/-- The pieces that are written for each member of a junction. -/
def memberPieces (kind : JunctionKind) : List Predicate → List (List ConditionPiece)
  | [] => []
  | p :: ps => bracketedPieces (p.needsParens kind) p.pieces :: memberPieces kind ps

end

mutual

/-- Number of atoms in a condition. -/
def Predicate.atomCount : Predicate → Nat
  | .junction _ members => memberAtomCount members
  | .negated inner => inner.atomCount
  | _ => 1

/-- Number of atoms in the members of a junction. -/
def memberAtomCount : List Predicate → Nat
  | [] => 0
  | p :: ps => p.atomCount + memberAtomCount ps

end

mutual

/-- The formula that a condition means, with its atoms numbered from `n` on. -/
def Predicate.formula (n : Nat) : Predicate → Formula
  | .junction kind members => kind.formula (memberFormulas n members)
  | .negated inner => .not (inner.formula n)
  | _ => .atom n

/-- The formulas of the members of a junction. -/
def memberFormulas (n : Nat) : List Predicate → List Formula
  | [] => []
  | p :: ps => p.formula n :: memberFormulas (n + p.atomCount) ps

end

mutual

/-- What the pieces of a condition say on a level, with its atoms numbered from `n` on. -/
def Predicate.level (n : Nat) : Predicate → Level
  | .junction kind members =>
    match members with
    | [] => .factor (kind.formula [])
    | [member] => member.level n
    | first :: second :: rest => kind.joined (memberLevels kind n (first :: second :: rest))
  | .negated inner => .factor (.not (inner.level n).formula)
  | _ => .factor (.atom n)

/-- What the pieces of each member of a junction say on a level. -/
def memberLevels (kind : JunctionKind) (n : Nat) : List Predicate → List Level
  | [] => []
  | p :: ps =>
    (p.level n).bracketed (p.needsParens kind) :: memberLevels kind (n + p.atomCount) ps

end

/-- The tokens of a piece in a text that is written in the given surroundings. -/
def ConditionPiece.tokens (ctx : TranslationContext) (mode : RenderingMode) (depth : Nat) :
    ConditionPiece → List Token
  | .token t => [t]
  | .atom p => (p.draft ctx).tokens mode depth

namespace Predicate

variable {p : Predicate}

theorem pieces_of_isAtomic (h : p.isAtomic = true) : p.pieces = [.atom p] := by
  cases p with
  | junction => cases h
  | negated => cases h
  | _ => simp [pieces]

theorem atomCount_of_isAtomic (h : p.isAtomic = true) : p.atomCount = 1 := by
  cases p with
  | junction => cases h
  | negated => cases h
  | _ => simp [atomCount]

theorem formula_of_isAtomic (h : p.isAtomic = true) (n : Nat) : p.formula n = .atom n := by
  cases p with
  | junction => cases h
  | negated => cases h
  | _ => simp [formula]

theorem level_of_isAtomic (h : p.isAtomic = true) (n : Nat) : p.level n = .factor (.atom n) := by
  cases p with
  | junction => cases h
  | negated => cases h
  | _ => simp [level]

end Predicate

/-! ## What is written -/

section Written

variable {ctx : TranslationContext} {mode : RenderingMode} {depth : Nat}

/-- A draft that is carried out to its end adds the tokens of some pieces. -/
def Draft.Spells (ctx : TranslationContext) (mode : RenderingMode) (depth : Nat) (x : Draft)
    (ps : List ConditionPiece) : Prop :=
  x.refusal? mode depth = none → x.tokens mode depth = ps.flatMap (ConditionPiece.tokens ctx mode depth)

theorem Draft.Spells.append {x y : Draft} {ps qs : List ConditionPiece} (hx : x.Spells ctx mode depth ps)
    (hy : y.Spells ctx mode depth qs) : (x ++ y).Spells ctx mode depth (ps ++ qs) := by
  intro h
  obtain ⟨first, second⟩ := Draft.refusal?_append_eq_none.1 h
  rw [Draft.tokens_append first, hx first, hy second, List.flatMap_append]

theorem Draft.spells_token (t : Token) : (Draft.token t).Spells ctx mode depth [.token t] := fun _ => rfl

theorem Draft.Spells.parensIf {x : Draft} {ps : List ConditionPiece} (h : x.Spells ctx mode depth ps)
    (wanted : Bool) : (Draft.parensIf wanted x).Spells ctx mode depth (bracketedPieces wanted ps) := by
  cases wanted with
  | false => exact h
  | true => exact ((spells_token .leftParen).append h).append (spells_token .rightParen)

theorem spells_memberDrafts (kind : JunctionKind) {ps : List Predicate}
    (h : ∀ p ∈ ps, (p.draft ctx).Spells ctx mode depth p.pieces) :
    (Draft.separated (.spacedWord kind.joint) (memberDrafts ctx kind ps)).Spells ctx mode depth
      (kind.joinedPieces (memberPieces kind ps)) := by
  have joint : (Draft.spacedWord kind.joint).Spells ctx mode depth kind.jointPieces :=
    ((Draft.spells_token .space).append (Draft.spells_token _)).append (Draft.spells_token .space)
  induction ps with
  | nil => exact fun _ => rfl
  | cons p ps ih =>
    obtain ⟨hp, hps⟩ := List.forall_mem_cons.1 h
    cases ps with
    | nil => exact hp.parensIf _
    | cons q qs => exact ((hp.parensIf _).append joint).append (ih hps)

/-- The draft of a condition writes the tokens of its pieces. -/
theorem Predicate.spells_draft (p : Predicate) : (p.draft ctx).Spells ctx mode depth p.pieces := by
  induction p using Predicate.byStructure with
  | atom p h =>
    rw [pieces_of_isAtomic h]
    intro _
    simp [ConditionPiece.tokens]
  | junction kind members ih =>
    cases members with
    | nil => cases kind <;> exact Draft.spells_token _
    | cons first rest =>
      cases rest with
      | nil => exact ih first List.mem_cons_self
      | cons second rest => exact spells_memberDrafts kind ih
  | negated inner ih =>
    have word : (Draft.wordSpace .not).Spells ctx mode depth [.token (.keyword .not), .token .space] :=
      (Draft.spells_token _).append (Draft.spells_token .space)
    exact word.append (ih.parensIf true)

end Written

/-! ## What is read -/

namespace Reader

variable {r : Reader} {ps qs : List ConditionPiece} {count more : Nat} {level next : Nat → Level}

/-- A reader that waits for an operand takes pieces for a text that stands on its level. -/
def Takes (ps : List ConditionPiece) (count : Nat) (level : Nat → Level) : Prop :=
  ∀ r : Reader, r.wanted = true → r.negations = 0 →
    r.readAll ps = some (r.behind count (level r.atoms))

/-- Pieces between parentheses are taken for an operand, whatever negations stand in front. -/
theorem Takes.readAll_bracketed (h : Takes ps count level) (wanted : r.wanted = true) :
    r.readAll (bracketedPieces true ps) =
      operand { r with atoms := r.atoms + count } (level r.atoms).formula := by
  obtain ⟨atoms, l, negations, around, _⟩ := r
  cases wanted
  have inside := h ⟨atoms, .start, 0, (l, negations) :: around, true⟩ rfl rfl
  change (enter ⟨atoms, l, negations, around, true⟩).bind (·.readAll (ps ++ [.token .rightParen])) = _
  rw [enter, if_pos rfl, Option.bind_some, readAll_append, inside, Option.bind_some, readAll, step]
  simp [behind, leave, Level.start_append, readAll, operand]

theorem Takes.bracketed (h : Takes ps count level) (wanted : Bool) :
    Takes (bracketedPieces wanted ps) count fun n => (level n).bracketed wanted := by
  cases wanted with
  | false => exact h
  | true =>
    intro r wanted negations
    rw [h.readAll_bracketed wanted]
    simp [operand, wanted, negations, behind, Level.bracketed, Formula.negated]

theorem Takes.negated (h : Takes ps count level) :
    Takes ([.token (.keyword .not), .token .space] ++ bracketedPieces true ps) count fun n =>
      .factor (.not (level n).formula) := by
  intro r wanted negations
  have inside := h.readAll_bracketed (r := { r with negations := r.negations + 1 }) wanted
  rw [readAll_append, readAll, step, if_pos wanted]
  simp only [readAll, step, Option.bind_some]
  rw [inside]
  simp [operand, wanted, negations, behind, Formula.negated]

theorem readAll_jointPieces (kind : JunctionKind) (wanted : r.wanted = false) :
    r.readAll kind.jointPieces = some { r with level := r.level ++ kind.jointLevel, wanted := true } := by
  cases kind <;>
    simp [JunctionKind.jointPieces, JunctionKind.joint, JunctionKind.jointLevel, readAll, step, wanted,
      Level.append_start]

theorem Takes.joined (kind : JunctionKind) (hp : Takes ps count level) (hq : Takes qs more next) :
    Takes (ps ++ kind.jointPieces ++ qs) (count + more) fun n =>
      level n ++ kind.jointLevel ++ next (n + count) := by
  intro r wanted negations
  have rest := hq { r.behind count (level r.atoms ++ kind.jointLevel) with wanted := true } rfl negations
  rw [readAll_append, readAll_append, hp r wanted negations, Option.bind_some,
    readAll_jointPieces kind rfl, Option.bind_some]
  simpa [behind, Level.append_assoc, Nat.add_assoc] using rest

end Reader

theorem takes_memberPieces (kind : JunctionKind) {ps : List Predicate} (nonempty : ps ≠ [])
    (h : ∀ p ∈ ps, Reader.Takes p.pieces p.atomCount fun n => p.level n) :
    Reader.Takes (kind.joinedPieces (memberPieces kind ps)) (memberAtomCount ps) fun n =>
      kind.joined (memberLevels kind n ps) := by
  induction ps with
  | nil => exact absurd rfl nonempty
  | cons p ps ih =>
    obtain ⟨hp, hps⟩ := List.forall_mem_cons.1 h
    cases ps with
    | nil => exact hp.bracketed _
    | cons q qs => exact (hp.bracketed _).joined kind (ih (List.cons_ne_nil q qs) hps)

/-- The pieces of a condition are taken for what they say on a level. -/
theorem Predicate.takes_pieces (p : Predicate) :
    Reader.Takes p.pieces p.atomCount fun n => p.level n := by
  induction p using Predicate.byStructure with
  | atom p h =>
    intro r wanted negations
    simp [pieces_of_isAtomic h, atomCount_of_isAtomic h, level_of_isAtomic h, Reader.readAll, Reader.step,
      Reader.operand, Reader.behind, wanted, negations, Formula.negated]
  | junction kind members ih =>
    cases members with
    | nil =>
      intro r wanted negations
      cases kind <;>
        simp [pieces, JunctionKind.unitToken, Reader.readAll, Reader.step, Reader.operand, wanted,
          negations, Reader.behind, atomCount, memberAtomCount, level, JunctionKind.formula,
          Formula.negated]
    | cons first rest =>
      cases rest with
      | nil => exact ih first List.mem_cons_self
      | cons second rest => exact takes_memberPieces kind (List.cons_ne_nil _ _) ih
  | negated inner ih => exact ih.negated

/-- The pieces of a condition are read as the formula of its level. -/
theorem Predicate.readCondition_pieces (p : Predicate) :
    readCondition p.pieces = some (p.level 0).formula := by
  rw [readCondition, p.takes_pieces .initial rfl rfl]
  simp [Reader.behind, Reader.initial, Reader.formula?, Level.start_append]

end SqlDialects
