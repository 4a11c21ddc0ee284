import SqlDialects.Sql.Syntax
import SqlDialects.Sql.Token
import SqlDialects.Proofs.Condition.Formula

/-!
# Reading conditions

A condition is read from its tokens, with the fragment of each atomic condition taken as one piece. NOT
binds more closely than AND and AND more closely than OR; parentheses are respected, `1=1` is true and
`1=0` is false. Atoms are numbered in the order in which they are read.
-/

namespace SqlDialects

/-- A piece of a condition: a token, or the fragment of an atomic condition. -/
inductive ConditionPiece where
  | token (t : Token)
  | atom (p : Predicate)

/-- A reader of a condition on its way. -/
structure Reader where
  /-- Number of atoms read so far. -/
  atoms : Nat
  /-- The innermost open level, and the number of negations in front of what comes next. -/
  level : Level
  negations : Nat
  /-- The levels around it, the innermost one first, with the negations in front of their parentheses. -/
  around : List (Level × Nat)
  /-- An operand has to come next. -/
  wanted : Bool

namespace Reader

/-- The reader in front of a condition. -/
def initial : Reader := ⟨0, .start, 0, [], true⟩

/-- Takes an operand together with the negations in front of it. -/
def operand (r : Reader) (f : Formula) : Option Reader :=
  if r.wanted then
    some { r with level := r.level ++ .factor (f.negated r.negations), negations := 0, wanted := false }
  else none

/-- Opens a level. -/
def enter (r : Reader) : Option Reader :=
  if r.wanted then
    some { r with level := .start, negations := 0, around := (r.level, r.negations) :: r.around }
  else none

/-- Closes the innermost level, which becomes an operand of the one around it. -/
def leave (r : Reader) : Option Reader :=
  match r.around with
  | [] => none
  | (level, negations) :: around =>
    if r.wanted then none else operand ⟨r.atoms, level, negations, around, true⟩ r.level.formula

/-- Reads a piece. -/
def step (r : Reader) : ConditionPiece → Option Reader
  | .atom _ => operand { r with atoms := r.atoms + 1 } (.atom r.atoms)
  | .token .space => some r
  | .token .leftParen => r.enter
  | .token .rightParen => r.leave
  | .token (.keyword .not) => if r.wanted then some { r with negations := r.negations + 1 } else none
  | .token (.keyword .and) => if r.wanted then none else some { r with wanted := true }
  | .token (.keyword .or) =>
    if r.wanted then none else some { r with level := r.level ++ .or, wanted := true }
  | .token (.raw "1=1") => r.operand (.all [])
  | .token (.raw "1=0") => r.operand (.any [])
  | .token _ => none

/-- Reads some pieces, one after the other. -/
def readAll (r : Reader) : List ConditionPiece → Option Reader
  | [] => some r
  | p :: ps => (r.step p).bind (·.readAll ps)

/-- The formula that has been read, if nothing is missing. -/
def formula? (r : Reader) : Option Formula :=
  if r.wanted || !r.around.isEmpty then none else some r.level.formula

theorem readAll_append (r : Reader) (ps qs : List ConditionPiece) :
    r.readAll (ps ++ qs) = (r.readAll ps).bind (·.readAll qs) := by
  induction ps generalizing r with
  | nil => rfl
  | cons p ps ih =>
    rw [List.cons_append, readAll, readAll]
    cases r.step p with
    | none => rfl
    | some r => exact ih r

/-- The reader behind a text that stands on its level. -/
def behind (r : Reader) (atoms : Nat) (l : Level) : Reader :=
  { r with atoms := r.atoms + atoms, level := r.level ++ l, wanted := false }

end Reader

/-- The formula that the pieces of a condition are read as. -/
def readCondition (ps : List ConditionPiece) : Option Formula := (Reader.initial.readAll ps).bind (·.formula?)

end SqlDialects
