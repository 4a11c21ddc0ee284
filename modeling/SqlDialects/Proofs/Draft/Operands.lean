import SqlDialects.Render.Expression

/-!
# Expressions as operands

What an operand tells of the expression it was made of: its type, and whether it is a row value, a subquery, a
parameter or a literal.
-/

namespace SqlDialects

/-- The expression is a row value. -/
def Expression.isRow : Expression → Bool
  | tuple _ => true
  | _ => false

/-- The expression is neither a row value nor a subquery. -/
def Expression.isSingle : Expression → Bool
  | tuple _ => false
  | subquery _ => false
  | _ => true

section Operands

variable (ctx : TranslationContext)

theorem Expression.operand_tuple (xs : List Expression) :
    (Expression.tuple xs).operand ctx = .tuple (operands ctx xs) := by
  rw [Expression.operand]

theorem QueryForm.operand_eq (d : Dialect) (type : Option ResolvedType) (q : QueryForm) :
    ∃ draft frame items, q.operand d type = .subquery type draft frame items := by
  cases q with
  | select f => exact ⟨_, _, _, rfl⟩
  | set f parts => exact ⟨_, _, _, rfl⟩

/-- An expression that is neither a row value nor a subquery is a scalar. -/
theorem Expression.operand_of_isSingle {e : Expression} (h : e.isSingle = true) :
    ∃ shape type draft, e.operand ctx = .scalar shape type draft := by
  cases e with
  | tuple => cases h
  | subquery => cases h
  | caseSearched c | caseSimple c | aggregate c | windowed c =>
    obtain ⟨⟩ := c
    exact ⟨_, _, _, Expression.operand.eq_def _ _⟩
  | _ => exact ⟨_, _, _, Expression.operand.eq_def _ _⟩

/-- The type of an expression is that of its operand. -/
theorem Expression.type?_operand (e : Expression) : (e.operand ctx).type? = e.type? := by
  cases e with
  | caseSearched c | caseSimple c | aggregate c | windowed c =>
    obtain ⟨⟩ := c
    rw [Expression.operand, Expression.type?, Operand.type?]
  | subquery q =>
    obtain ⟨draft, frame, items, form⟩ := QueryForm.operand_eq ctx.dialect q.type? (q.form ctx)
    rw [Expression.operand, Expression.type?, form, Operand.type?]
  | _ => rw [Expression.operand, Expression.type?, Operand.type?]

/-- An expression is a row value if its operand is one. -/
theorem Expression.isTuple_operand (e : Expression) : (e.operand ctx).isTuple = e.isRow := by
  by_cases single : e.isSingle = true
  · obtain ⟨shape, type, draft, operand⟩ := e.operand_of_isSingle ctx single
    rw [operand]
    cases e <;> first | rfl | cases single
  · cases e with
    | tuple xs =>
      rw [operand_tuple]
      rfl
    | subquery q =>
      obtain ⟨draft, frame, items, form⟩ := QueryForm.operand_eq ctx.dialect q.type? (q.form ctx)
      rw [Expression.operand, form]
      rfl
    | _ => exact absurd rfl single

end Operands

/-- Only a row value is an operand of that shape. -/
theorem Expression.eq_tuple_of_operand {ctx : TranslationContext} {e : Expression} {os : List Operand}
    (h : e.operand ctx = .tuple os) : ∃ es, e = .tuple es ∧ os = operands ctx es := by
  have row := e.isTuple_operand ctx
  rw [h] at row
  cases e with
  | tuple es =>
    rw [operand_tuple] at h
    exact ⟨es, rfl, (Operand.tuple.inj h).symm⟩
  | _ => cases row

/-- Only a parameter is an operand of that shape. -/
theorem Expression.eq_parameter_of_operand {ctx : TranslationContext} {name : String} {multiValued : Bool}
    {type : ResolvedType} {x : Draft} : ∀ {e : Expression},
    e.operand ctx = .scalar (.parameter name multiValued) (some type) x → e = .parameter name type multiValued
  | .parameter _ _ _, rfl => rfl
  | .caseSearched ⟨_, _⟩, h => by simp [Expression.operand] at h
  | .caseSimple ⟨_, _, _⟩, h => by simp [Expression.operand] at h
  | .aggregate ⟨_, _, _, _, _⟩, h => by simp [Expression.operand] at h
  | .windowed ⟨_, _, _⟩, h => by simp [Expression.operand] at h
  | .subquery q, h => by
    rw [Expression.operand] at h
    cases hq : q.form ctx <;> simp [hq, QueryForm.operand] at h

/-- Only a literal is an operand of that shape, and it is drafted as one. -/
theorem Expression.eq_literal_of_operand {ctx : TranslationContext} {value : Value} {type : ResolvedType}
    {x : Draft} : ∀ {e : Expression}, e.operand ctx = .scalar (.literal value) (some type) x →
    x = ctx.literalDraft value type
  | .literal _ _, rfl => rfl
  | .caseSearched ⟨_, _⟩, h => by simp [Expression.operand] at h
  | .caseSimple ⟨_, _, _⟩, h => by simp [Expression.operand] at h
  | .aggregate ⟨_, _, _, _, _⟩, h => by simp [Expression.operand] at h
  | .windowed ⟨_, _, _⟩, h => by simp [Expression.operand] at h
  | .subquery q, h => by
    rw [Expression.operand] at h
    cases hq : q.form ctx <;> simp [hq, QueryForm.operand] at h

/-- A list that is one operand for a multi-valued parameter consists of that parameter. -/
theorem eq_parameter_of_operands {ctx : TranslationContext} {list : List Expression} {name : String}
    {type : ResolvedType} {x : Draft}
    (h : operands ctx list = [.scalar (.parameter name true) (some type) x]) :
    list = [.parameter name type true] := by
  cases list with
  | nil => simp [operands] at h
  | cons e es =>
    rw [operands] at h
    obtain ⟨he, hes⟩ := List.cons.inj h
    cases es with
    | nil => rw [Expression.eq_parameter_of_operand he]
    | cons _ _ => simp [operands] at hes

end SqlDialects
