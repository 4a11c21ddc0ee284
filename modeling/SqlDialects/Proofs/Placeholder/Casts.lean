import SqlDialects.Proofs.Draft.Operands
import SqlDialects.Proofs.Nesting.Expressions
import SqlDialects.Proofs.Translation.Modes

/-!
# Placeholders with a type

Where casts are asked for, the database has to be told the type of every placeholder. What a well-formed draft
writes there is guarded (`Guarded`): each placeholder stands directly inside a cast to the type of its own
parameter, and this cast not directly inside another one, or it is the placeholder of a list that is bound as an
array. So it is for every expression, however deep a parameter stands in it (`Expression.casts_of_run`), and HSQL
writes no bare placeholder as an operand of arithmetic or of a null-safe comparison.
-/

namespace SqlDialects

/-! ## Guarded placeholders -/

/-- The placeholder between the acts is directly inside a cast to the type of its parameter, and that cast is not
directly inside another one. -/
def Dialect.CastsAlone (d : Dialect) (front : List Write) (p : Parameter) (back : List Write) : Prop :=
  ∃ outer rest, front = outer ++ [.token .castOpening] ∧ back = .token (d.castClosing p.type) :: rest ∧
    outer.getLast? ≠ some (.token .castOpening)

/-- The placeholder behind the acts is the array in a test for membership. -/
def BoundAsArray (front : List Write) (p : Parameter) : Prop :=
  ∃ outer opening element, front = outer ++ [.token (.raw opening)] ∧ opening ∈ Dialect.arrayOpenings ∧
    p.type = .arrayOf element

/-- The acts add no placeholder but inside casts to their types and as arrays. Only at their end, if they are not
whole, a cast may be open. -/
inductive Guarded (d : Dialect) (arrays : Bool) : Bool → List Write → Prop where
  | nil {whole : Bool} : Guarded d arrays whole []
  | token {whole : Bool} {t : Token} {ws : List Write} : t.isInert = true → Guarded d arrays whole ws →
    Guarded d arrays whole (.token t :: ws)
  | cast {whole : Bool} {ws : List Write} (p : Parameter) : Guarded d arrays whole ws →
    Guarded d arrays whole (.token .castOpening :: .placeholder p :: .token (d.castClosing p.type) :: ws)
  | constant {whole : Bool} {t : Token} {ws : List Write} : t.isInert = true → Guarded d arrays whole ws →
    Guarded d arrays whole (.token .castOpening :: .token t :: ws)
  | array {whole : Bool} {s : String} {ws : List Write} (source : ParameterSource) (element : ResolvedType) :
    arrays = true → s ∈ Dialect.arrayOpenings → Guarded d arrays whole ws →
    Guarded d arrays whole (.token (.raw s) :: .placeholder ⟨source, .arrayOf element⟩ :: ws)
  | opening : Guarded d arrays false [.token .castOpening]

theorem Dialect.isInert_castClosing (d : Dialect) (type : ResolvedType) : (d.castClosing type).isInert = true := by
  refine bne_iff_ne.2 fun same => ?_
  have letters := congrArg String.toList same
  simp [String.toList_append] at letters

theorem Token.ne_castOpening_of_isInert {t : Token} (h : t.isInert = true) : t ≠ castOpening := by
  rintro rfl
  cases h

namespace Guarded

variable {d : Dialect} {arrays whole : Bool} {ws vs : List Write}

theorem append (hw : Guarded d arrays true ws) (hv : Guarded d arrays whole vs) :
    Guarded d arrays whole (ws ++ vs) := by
  generalize complete : true = c at hw
  induction hw with
  | nil => exact hv
  | token inert _ ih => exact .token inert (ih complete)
  | cast p _ ih => exact .cast p (ih complete)
  | constant inert _ ih => exact .constant inert (ih complete)
  | array source element binds operator _ ih => exact .array source element binds operator (ih complete)
  | opening => cases complete

/-- More acts in front make no difference, unless the last one of them opens a cast. -/
theorem prepend (more : List Write) {front back : List Write} {p : Parameter}
    (last : more.getLast? ≠ some (.token .castOpening))
    (h : d.CastsAlone front p back ∨ arrays = true ∧ BoundAsArray front p) :
    d.CastsAlone (more ++ front) p back ∨ arrays = true ∧ BoundAsArray (more ++ front) p := by
  rcases h with ⟨outer, rest, rfl, rfl, alone⟩ | ⟨binds, outer, opening, element, rfl, operator, type⟩
  · refine .inl ⟨more ++ outer, rest, (List.append_assoc _ _ _).symm, rfl, ?_⟩
    rw [List.getLast?_append]
    cases h : outer.getLast? with
    | none => exact last
    | some w =>
      rw [h] at alone
      exact alone
  · exact .inr ⟨binds, more ++ outer, opening, element, (List.append_assoc _ _ _).symm, operator, type⟩

/-- Every placeholder among guarded acts is inside a cast of its own, or it is an array. -/
theorem placeholder (h : Guarded d arrays whole ws) {front back : List Write} {p : Parameter}
    (split : ws = front ++ .placeholder p :: back) :
    d.CastsAlone front p back ∨ arrays = true ∧ BoundAsArray front p := by
  induction h generalizing front with
  | nil => simp at split
  | @token _ t ws inert _ ih =>
    cases front with
    | nil => cases split
    | cons w front =>
      obtain ⟨rfl, rest⟩ := List.cons.inj split
      have other : t ≠ .castOpening := Token.ne_castOpening_of_isInert inert
      exact prepend [.token t] (by simpa using other) (ih rest)
  | @cast _ ws q _ ih =>
    rcases front with _ | ⟨a, _ | ⟨b, _ | ⟨c, front⟩⟩⟩
    · cases split
    · cases split
      exact .inl ⟨[], ws, rfl, rfl, by simp⟩
    · cases split
    · simp only [List.cons_append, List.cons.injEq] at split
      obtain ⟨rfl, rfl, rfl, rest⟩ := split
      have other : d.castClosing q.type ≠ .castOpening :=
        Token.ne_castOpening_of_isInert (d.isInert_castClosing q.type)
      exact prepend [.token .castOpening, .placeholder q, .token (d.castClosing q.type)] (by simpa using other) (ih rest)
  | @constant _ t ws inert _ ih =>
    rcases front with _ | ⟨a, _ | ⟨b, front⟩⟩
    · cases split
    · cases split
    · simp only [List.cons_append, List.cons.injEq] at split
      obtain ⟨rfl, rfl, rest⟩ := split
      have other : t ≠ .castOpening := Token.ne_castOpening_of_isInert inert
      exact prepend [.token .castOpening, .token t] (by simpa using other) (ih rest)
  | @array _ s ws source element binds operator _ ih =>
    rcases front with _ | ⟨a, _ | ⟨b, front⟩⟩
    · cases split
    · cases split
      exact .inr ⟨binds, [], s, element, rfl, operator, rfl⟩
    · simp only [List.cons_append, List.cons.injEq] at split
      obtain ⟨rfl, rfl, rest⟩ := split
      exact prepend [.token (.raw s), .placeholder ⟨source, .arrayOf element⟩] (by simp) (ih rest)
  | opening =>
    rcases front with _ | ⟨a, front⟩
    · cases split
    · simp at split

/-- Guarded acts do not come to a bare placeholder. -/
theorem ne_placeholder (h : Guarded d arrays whole ws) : ws.map Write.added ≠ [.placeholder] := by
  intro bare
  obtain ⟨w, rfl, added⟩ := List.map_eq_singleton_iff.1 bare
  cases w with
  | token t =>
    cases h with
    | token inert _ =>
      cases added
      cases inert
    | opening => cases added
  | placeholder p =>
    have alone := (List.nil_append [Write.placeholder p]).symm
    rcases h.placeholder alone with ⟨outer, _, front, -⟩ | ⟨-, outer, _, _, front, -⟩
    · simp at front
    · simp at front

end Guarded

/-! ## What is written -/

namespace Draft

variable {d : Dialect} {arrays : Bool} {region : Region} {i j : Nat} {x : Draft}

/-- Where casts are asked for, a well-formed draft guards its placeholders. -/
theorem Formed.guarded (h : x.Formed d arrays region i j) (depth : Nat) :
    Guarded d arrays (x.refusal? .typed depth).isNone (x.writes .typed depth) := by
  induction h generalizing depth with
  | empty => exact .nil
  | token inert _ _ => exact .token inert .nil
  | refuse cause => exact .nil
  | @append i j k first second _ _ ihFirst ihSecond =>
    have front := ihFirst depth
    rw [refusal?, writes]
    cases success : first.refusal? .typed depth with
    | none =>
      rw [success] at front
      exact front.append (ihSecond depth)
    | some cause =>
      rw [success] at front
      simpa using front
  | typed _ ih => exact ih depth
  | byMode _ _ _ ihTyped => exact ihTyped depth
  | nested _ ih => exact ih (depth + 1)
  | @whenNested i x _ ih =>
    rw [refusal?, writes]
    split
    · exact .nil
    · exact ih depth
  | @parameter i p =>
    change Guarded d arrays ((castAs d p.type (placeholder p)).refusal? .typed depth).isNone
      ((castAs d p.type (placeholder p)).writes .typed depth)
    rw [writes_castAs, refusal?_castAs]
    exact .cast p .nil
  | castParameter p =>
    rw [writes_castAs, refusal?_castAs]
    exact .cast p .nil
  | castToken type inert _ =>
    rw [writes_castAs, refusal?_castAs]
    exact .constant inert (.token (d.isInert_castClosing type) .nil)
  | castRefusal type cause =>
    rw [writes_castAs, refusal?_castAs]
    exact .opening
  | @arrayBound i j k x s source element binds operator _ _ ih =>
    have front := ih depth
    have list : Guarded d arrays true [.token (.raw s), .placeholder ⟨source, .arrayOf element⟩] :=
      .array source element binds operator .nil
    simp only [arrayPlaceholder, refusal?, writes, Option.or_none, List.append_assoc]
    cases success : x.refusal? .typed depth with
    | none =>
      rw [success] at front
      exact front.append list
    | some cause =>
      rw [success] at front
      simpa using front

end Draft

open Draft

section Hsql

variable {o p : Operand} {op : ComparisonOperator} {x y : Draft}

/-- HSQL asks for casts in the operands of arithmetic, apart from the remainder. -/
theorem Dialect.arithmetic_typed {op : ArithmeticOperator} (h : op ≠ .modulo) (x y : Draft) :
    hsql.arithmetic op x y =
      raw "(" ++ inMode .typed x ++ raw " " ++ raw op.text ++ raw " " ++ inMode .typed y ++ raw ")" :=
  if_neg h

/-- HSQL asks for casts on both sides of a null-safe comparison, if the left side has the type of a scalar. -/
theorem Dialect.compare_typed (h : op = .distinctFrom ∨ op = .notDistinctFrom) {type : ResolvedType}
    (typed : o.type? = some type) (scalar : type.descriptor.isArrayCapable = false) :
    hsql.compare o op p =
      inMode .typed o.draft ++ raw " " ++ raw op.text ++ raw " " ++ inMode .typed p.draft := by
  have peculiar : hsql.peculiarComparison? o op p =
      some (inMode .typed o.draft ++ raw " " ++ raw op.text ++ raw " " ++ inMode .typed p.draft) := by
    unfold peculiarComparison?
    rcases h with rfl | rfl <;> simp [typed, scalar, arrayEquality?, typedDistinction?]
  rw [compare, orPeculiar, if_neg Bool.false_ne_true, peculiar]
  rfl

/-- What is written for an operator that HSQL puts between two operands. -/
theorem Draft.tokens_operator {text : String} (nonempty : text ≠ "") {mode : RenderingMode} {depth : Nat}
    (h : (x ++ raw " " ++ raw text ++ raw " " ++ y).refusal? mode depth = none) :
    (x ++ raw " " ++ raw text ++ raw " " ++ y).tokens mode depth =
      x.tokens mode depth ++ [.raw " ", .raw text, .raw " "] ++ y.tokens mode depth := by
  obtain ⟨toBlank, -⟩ := refusal?_append_eq_none.1 h
  obtain ⟨toText, -⟩ := refusal?_append_eq_none.1 toBlank
  obtain ⟨toGap, -⟩ := refusal?_append_eq_none.1 toText
  obtain ⟨left, -⟩ := refusal?_append_eq_none.1 toGap
  rw [tokens_append toBlank, tokens_append toText, tokens_append toGap, tokens_append left, tokens_raw nonempty,
    tokens_raw (by decide)]
  simp only [List.append_assoc, List.cons_append, List.nil_append]

end Hsql

/-- Wherever an expression is written in the mode that asks for casts, and however far the writing comes, each
placeholder stands directly inside a cast to the type of its own parameter and this cast not directly inside
another one; or it is the placeholder of an IN list that is bound as an array. In HSQL, no operand of arithmetic
is a bare placeholder, apart from the remainder, and none of a null-safe comparison whose left side has the type
of a scalar. -/
theorem Expression.casts_of_run (ctx : TranslationContext) (page : Page) :
    let typed (e : Expression) := (e.operand ctx).draft.tokens .typed page.depth
    (∀ e : Expression, ∃ ws, ((inMode .typed (e.operand ctx).draft).run page).2 = page.writeAll ws ∧
      ∀ front p back, ws = front ++ .placeholder p :: back →
        ctx.dialect.CastsAlone front p back ∨ ctx.bindsArrays = true ∧ BoundAsArray front p) ∧
    (ctx.dialect = .hsql → ∀ lhs rhs after,
      (∀ op, op ≠ .modulo → ((Expression.arithmetic op lhs rhs).operand ctx).draft.run page = (none, after) →
        after.tokens.toList = page.tokens.toList ++ ([.raw "("] ++ typed lhs
          ++ [.raw " ", .raw op.text, .raw " "] ++ typed rhs ++ [.raw ")"])) ∧
      (∀ op, op = .distinctFrom ∨ op = .notDistinctFrom → ∀ type, lhs.type? = some type →
        type.descriptor.isArrayCapable = false →
        ((Predicate.comparison lhs op rhs).draft ctx).run page = (none, after) →
        after.tokens.toList = page.tokens.toList ++ (typed lhs ++ [.raw " ", .raw op.text, .raw " "] ++ typed rhs)) ∧
      typed lhs ≠ [.placeholder] ∧ typed rhs ≠ [.placeholder]) := by
  intro typed
  have guarded := fun e : Expression => (e.formed_operand ctx).flat 0 |>.guarded page.depth
  refine ⟨fun e => ⟨_, congrArg Prod.snd (run_inMode_eq .typed page), fun front p back split =>
    (guarded e).placeholder split⟩, fun hsql lhs rhs after => ⟨fun op other success => ?_,
    fun op distinct type known scalar success => ?_, (guarded lhs).ne_placeholder, (guarded rhs).ne_placeholder⟩⟩
  · have draft : ((Expression.arithmetic op lhs rhs).operand ctx).draft =
        raw "(" ++ inMode .typed (lhs.operand ctx).draft ++ raw " " ++ raw op.text ++ raw " "
          ++ inMode .typed (rhs.operand ctx).draft ++ raw ")" := by
      rw [Expression.operand, hsql]
      exact Dialect.arithmetic_typed other _ _
    have operator : op.text ≠ "" := by cases op <;> decide
    obtain ⟨written, tokens⟩ := tokens_of_run success
    rw [draft] at written tokens
    obtain ⟨operands, -⟩ := refusal?_append_eq_none.1 written
    have opening : (raw "(" ++ inMode .typed (lhs.operand ctx).draft).tokens page.mode page.depth =
        [.raw "("] ++ typed lhs := by
      rw [tokens_append (refusal?_raw _), tokens_raw (by decide)]
      rfl
    rw [tokens, tokens_append operands, tokens_operator operator operands, opening, tokens_raw (by decide)]
    rfl
  · have draft : (Predicate.comparison lhs op rhs).draft ctx =
        inMode .typed (lhs.operand ctx).draft ++ raw " " ++ raw op.text ++ raw " "
          ++ inMode .typed (rhs.operand ctx).draft := by
      rw [Predicate.draft, hsql]
      exact Dialect.compare_typed distinct ((lhs.type?_operand ctx).trans known) scalar
    have operator : op.text ≠ "" := by cases op <;> decide
    obtain ⟨written, tokens⟩ := tokens_of_run success
    rw [draft] at written tokens
    rw [tokens, tokens_operator operator written]
    rfl

/-- HSQL writes the sum of two parameters with a cast around each of them. -/
theorem Expression.casts_of_run_sum :
    let ctx := TranslationContext.ofDialect .hsql
    let parameter (name : String) := Expression.parameter name ⟨"integer", .ofCode .integer⟩ false
    let sum := ((Expression.arithmetic .add (parameter "a") (parameter "b")).operand ctx).draft.run .blank
    sum.1 = none ∧ sum.2.tokens.toList =
      [.raw "(", .raw "cast(", .placeholder, .raw " as integer)", .raw " ", .raw "+", .raw " ", .raw "cast(",
        .placeholder, .raw " as integer)", .raw ")"] := by
  intro ctx parameter sum
  have success : sum.1 = none := rfl
  have hsql := (Expression.casts_of_run ctx .blank).2 rfl (parameter "a") (parameter "b") sum.2
  have written := hsql.1 .add (by decide) (Prod.ext success rfl)
  refine ⟨success, written.trans ?_⟩
  rfl

end SqlDialects
