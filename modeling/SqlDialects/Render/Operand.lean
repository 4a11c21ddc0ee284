import SqlDialects.Render.Draft

/-!
# Operands

An expression as the rules for clauses see it: its resolved type, its draft, and as much of its shape
as a rule may look at. The components of a row value and the select list of a subquery are operands
themselves, so that a comparison can go on with them.
-/

namespace SqlDialects

/-- The shape of an expression that is neither a row value nor a subquery. -/
inductive ScalarShape where
  | literal (value : Value)
  | parameter (name : String) (multiValued : Bool)
  | summarization
  | other

/-- The clauses of a SELECT that are kept when a comparison with it becomes an EXISTS. -/
structure SubqueryFrame where
  withClause : Draft
  fromClause : Draft
  filter : Option Draft
  /-- The GROUP BY clause, if there is one. -/
  groupBy : Option Draft
  having : Option Draft
  /-- The SELECT has an OFFSET or a FETCH clause. -/
  limited : Bool

/-- An expression with its draft. -/
inductive Operand where
  | scalar (shape : ScalarShape) (type : Option ResolvedType) (draft : Draft)
  | tuple (components : List Operand)
  /-- A subquery with the items of its select list; set operations have no frame. -/
  | subquery (type : Option ResolvedType) (draft : Draft) (frame : Option SubqueryFrame)
      (items : List Operand)

namespace Operand

mutual

/-- The draft of an operand. -/
def draft : Operand → Draft
  | scalar _ _ d => d
  | tuple components => .parens (.listed (drafts components))
  | subquery _ d _ _ => d

/-- The drafts of operands. -/
def drafts : List Operand → List Draft
  | [] => []
  | o :: os => o.draft :: drafts os

end

/-- The resolved type of an operand, if it has one. -/
def type? : Operand → Option ResolvedType
  | scalar _ type _ => type
  | tuple _ => none
  | subquery type _ _ _ => type

/-- The operand is a row value. -/
def isTuple : Operand → Bool
  | tuple _ => true
  | _ => false

/-- The operand is a parameter. -/
def isParameter : Operand → Bool
  | scalar (.parameter _ _) _ _ => true
  | _ => false

/-- The operand is a literal. -/
def isLiteral : Operand → Bool
  | scalar (.literal _) _ _ => true
  | _ => false

/-- The operand is the null literal. -/
def isNullLiteral : Operand → Bool
  | scalar (.literal v) _ _ => v.isNull
  | _ => false

/-- The operand inside a cast to its own type; parameters in it stay plain. An untyped operand is left
as it is. -/
def casted (d : Dialect) (o : Operand) : Draft :=
  match o.type? with
  | some type => .castAs d type (.inMode .plain o.draft)
  | none => o.draft

theorem drafts_eq_map (os : List Operand) : drafts os = os.map draft := by
  induction os with
  | nil => rfl
  | cons o os ih => rw [drafts, ih, List.map_cons]

end Operand

end SqlDialects
