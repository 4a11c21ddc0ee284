import Mathlib.Data.List.Forall2
import SqlDialects.Render.Operand

/-!
# Corresponding drafts

What is drafted for a statement in two contexts is put together in the same way from the same pieces, but for
the few pieces that the difference of the contexts is about. A relation of drafts that holds of such pieces
and is kept by everything that drafts are put together from (`Draft.Congruence`) is one of whole statements.
The two dialects are the same, or the standard and Postgres, which only part at casts and row limits
(`Dialect.Like`). Operands correspond if they have the same shape and type and their drafts correspond.
-/

/-! ## Optional parts and lists -/

theorem Option.Rel.map {α β γ δ : Type} {A : α → β → Prop} {B : γ → δ → Prop} {f : α → γ} {f' : β → δ}
    (hf : ∀ a b, A a b → B (f a) (f' b)) {a? : Option α} {b? : Option β} (h : Option.Rel A a? b?) :
    Option.Rel B (a?.map f) (b?.map f') := by
  cases h with
  | none => exact .none
  | some hab => exact .some (hf _ _ hab)

theorem List.Forall₂.isEmpty_eq {α β : Type} {A : α → β → Prop} {xs : List α} {ys : List β}
    (h : List.Forall₂ A xs ys) : ys.isEmpty = xs.isEmpty := by
  cases h <;> rfl

theorem Option.Rel.isNone_eq {α β : Type} {A : α → β → Prop} {a? : Option α} {b? : Option β}
    (h : Option.Rel A a? b?) : b?.isNone = a?.isNone := by
  cases h <;> rfl

namespace SqlDialects

/-! ## Congruences -/

/-- The dialects draft alike but for casts and row limits: they are the same, or the first one is the
standard that Postgres follows. -/
def Dialect.Like (d d' : Dialect) : Prop := d' = d ∨ d = .ansi ∧ d' = .postgres

/-- A relation that holds of equal drafts and is kept by what drafts are put together from. Only HSQL drafts
differently by mode. -/
structure Draft.Congruence (d d' : Dialect) (R : Draft → Draft → Prop) : Prop where
  like : d.Like d'
  refl (x : Draft) : R x x
  append {x x' y y' : Draft} : R x x' → R y y' → R (x ++ y) (x' ++ y')
  nested {x x' : Draft} : R x x' → R (.nested x) (.nested x')
  whenNested {x x' : Draft} : R x x' → R (.whenNested x) (.whenNested x')
  inMode {x x' : Draft} (mode : RenderingMode) : d = .hsql → R x x' → R (.inMode mode x) (.inMode mode x')
  byMode {x x' y y' : Draft} : d = .hsql → R x x' → R y y' → R (.byMode x y) (.byMode x' y')

variable {d d' : Dialect} {R : Draft → Draft → Prop}

theorem Draft.rel_ite {x x' y y' : Draft} {p : Prop} [Decidable p] (hx : R x x') (hy : R y y') :
    R (if p then x else y) (if p then x' else y') := by
  split
  · exact hx
  · exact hy

namespace Draft.Congruence

variable {x x' y y' : Draft} {xs xs' : List Draft} (h : Congruence d d' R)
include h

theorem append_left {z : Draft} (hx : R x x') : R (z ++ x) (z ++ x') := h.append (h.refl z) hx

theorem append_right {z : Draft} (hx : R x x') : R (x ++ z) (x' ++ z) := h.append hx (h.refl z)

theorem parens (hx : R x x') : R (.parens x) (.parens x') := h.append_right (h.append_left hx)

theorem parensIf (wanted : Bool) (hx : R x x') : R (.parensIf wanted x) (.parensIf wanted x') := by
  cases wanted with
  | false => exact hx
  | true => exact h.parens hx

theorem separated {separator : Draft} (hxs : List.Forall₂ R xs xs') :
    R (.separated separator xs) (.separated separator xs') := by
  induction hxs with
  | nil => exact h.refl _
  | cons hx hxs ih =>
    cases hxs with
    | nil => exact hx
    | cons hy hys => exact h.append (h.append_right hx) ih

theorem listed (hxs : List.Forall₂ R xs xs') : R (.listed xs) (.listed xs') := h.separated hxs

theorem listed_map {α β : Type} {A : α → β → Prop} {f : α → Draft} {f' : β → Draft}
    (hf : ∀ a b, A a b → R (f a) (f' b)) {as : List α} {bs : List β} (hab : List.Forall₂ A as bs) :
    R (.listed (as.map f)) (.listed (bs.map f')) :=
  h.listed (List.rel_map (fun a b => hf a b) hab)

theorem optional {x? x'? : Option Draft} (hx : Option.Rel R x? x'?) : R (.optional x?) (.optional x'?) := by
  cases hx with
  | none => exact h.refl _
  | some hx => exact hx

theorem optional_map {α β : Type} {A : α → β → Prop} {f : α → Draft} {f' : β → Draft}
    (hf : ∀ a b, A a b → R (f a) (f' b)) {a? : Option α} {b? : Option β} (hab : Option.Rel A a? b?) :
    R (.optional (a?.map f)) (.optional (b?.map f')) :=
  h.optional (hab.map hf)

theorem castAs (hd : d' = d) (type : ResolvedType) (hx : R x x') :
    R (.castAs d type x) (.castAs d' type x') := by
  rw [hd]
  exact h.append_right (h.append_left hx)

/-- HSQL stands for itself only. -/
theorem eq_of_hsql (hd : d = .hsql) : d' = d := by
  rcases h.like with same | ⟨standard, -⟩
  · exact same
  · rw [hd] at standard
    cases standard

end Draft.Congruence

/-! ## Operands -/

/-- The clauses that an EXISTS keeps correspond one by one. -/
structure SubqueryFrame.Related (R : Draft → Draft → Prop) (f f' : SubqueryFrame) : Prop where
  withClause : R f.withClause f'.withClause
  fromClause : R f.fromClause f'.fromClause
  filter : Option.Rel R f.filter f'.filter
  groupBy : Option.Rel R f.groupBy f'.groupBy
  having : Option.Rel R f.having f'.having
  limited : f'.limited = f.limited

/-- Operands of the same shape and type whose drafts correspond. -/
inductive Operand.Related (R : Draft → Draft → Prop) : Operand → Operand → Prop where
  | scalar {shape : ScalarShape} {type : Option ResolvedType} {x x' : Draft} :
    R x x' → Related R (.scalar shape type x) (.scalar shape type x')
  | tuple {os os' : List Operand} : List.Forall₂ (Related R) os os' → Related R (.tuple os) (.tuple os')
  | subquery {type : Option ResolvedType} {x x' : Draft} {frame frame' : Option SubqueryFrame}
    {items items' : List Operand} :
    R x x' → Option.Rel (SubqueryFrame.Related R) frame frame' → List.Forall₂ (Related R) items items' →
      Related R (.subquery type x frame items) (.subquery type x' frame' items')

namespace Operand.Related

variable {o o' : Operand}

theorem type?_eq (ho : o.Related R o') : o'.type? = o.type? := by
  cases ho <;> rfl

theorem isTuple_eq (ho : o.Related R o') : o'.isTuple = o.isTuple := by
  cases ho <;> rfl

theorem isParameter_eq (ho : o.Related R o') : o'.isParameter = o.isParameter := by
  cases ho with
  | @scalar shape _ _ _ _ => cases shape <;> rfl
  | tuple _ => rfl
  | subquery _ _ _ => rfl

theorem isLiteral_eq (ho : o.Related R o') : o'.isLiteral = o.isLiteral := by
  cases ho with
  | @scalar shape _ _ _ _ => cases shape <;> rfl
  | tuple _ => rfl
  | subquery _ _ _ => rfl

theorem isNullLiteral_eq (ho : o.Related R o') : o'.isNullLiteral = o.isNullLiteral := by
  cases ho with
  | @scalar shape _ _ _ _ => cases shape <;> rfl
  | tuple _ => rfl
  | subquery _ _ _ => rfl

end Operand.Related

namespace Draft.Congruence

mutual

theorem operand (h : Congruence d d' R) : ∀ {o o' : Operand}, o.Related R o' → R o.draft o'.draft
  | .scalar _ _ _, .scalar _ _ _, .scalar hx => hx
  | .tuple os, .tuple os', .tuple hos => by
    rw [Operand.draft, Operand.draft]
    exact h.parens (h.listed (h.drafts hos))
  | .subquery _ _ _ _, .subquery _ _ _ _, .subquery hx _ _ => hx

theorem drafts (h : Congruence d d' R) : ∀ {os os' : List Operand},
    List.Forall₂ (Operand.Related R) os os' → List.Forall₂ R (Operand.drafts os) (Operand.drafts os')
  | [], [], .nil => .nil
  | _ :: _, _ :: _, .cons ho hos => .cons (h.operand ho) (h.drafts hos)

end

theorem casted (h : Congruence d d' R) {o o' : Operand} (hmode : d = .hsql) (ho : o.Related R o') :
    R (o.casted d) (o'.casted d') := by
  unfold Operand.casted
  rw [ho.type?_eq]
  split
  · exact h.castAs (h.eq_of_hsql hmode) _ (h.inMode .plain hmode (h.operand ho))
  · exact h.operand ho

end Draft.Congruence

end SqlDialects
