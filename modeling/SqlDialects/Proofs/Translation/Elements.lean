import SqlDialects.Proofs.Test.Operators
import SqlDialects.Proofs.Translation.Arrays
import SqlDialects.Proofs.Translation.Lengths

/-!
# The elements of multi-valued parameters

Where lists are not bound as arrays, a list over a multi-valued parameter gets a placeholder for each element of the
value that is known, and a parameter is recorded with it that says which element this is. How many elements there
are is counted in the course of the translation, and which value an element has is found when the parameters are
bound. The two agree: each element that is counted has a value, and each one that has a value is counted
(`Statement.elements_of_carriesOut`).
-/

namespace SqlDialects

/-- The parameters for the elements of a bound value. -/
def elementParameters (name : String) (type : ResolvedType) (v : Value) : List Parameter :=
  (List.range v.boundLength).map fun i => ⟨.element name i, type⟩

/-- Each element of the bound value is what the parameter for it stands for. -/
theorem resolve_elementParameters {b : Bindings} {name : String} {v : Value} (type : ResolvedType)
    (h : b.get? name = some v) :
    List.Forall₂ (fun p u => p.source.resolve b = .ok u) (elementParameters name type v) v.boundElements := by
  refine List.forall₂_iff_get.2 ⟨by simp [elementParameters, v.boundLength_eq], fun i _ hi => ?_⟩
  have element : v.boundElement? i = some v.boundElements[i] := by
    rw [v.boundElement?_eq, List.getElem?_eq_getElem]
  simp [elementParameters, ParameterSource.resolve, h, element]

/-- What is written for a list behind its test, given the parameters in it. -/
def listActs (d : Dialect) (mode : RenderingMode) (negated : Bool) (ps : List Parameter) : List Write :=
  .token (.raw (if negated then " not in(" else " in("))
    :: [.token .comma, .token .space].intercalate (ps.map fun p => (Draft.parameter d p).writes mode 0)
    ++ [.token .rightParen]

/-- The parameters in a list are recorded in order. -/
theorem recorded_listActs (d : Dialect) (mode : RenderingMode) (negated : Bool) (ps : List Parameter) :
    (listActs d mode negated ps).filterMap Write.recorded? = ps := by
  have gap : [Write.token .comma, .token .space].filterMap Write.recorded? = [] := rfl
  rw [listActs, List.cons_append, List.filterMap_cons_none rfl, List.filterMap_append,
    filterMap_recorded?_intercalate gap, List.flatMap_map]
  simp only [Draft.recorded_parameter, List.flatMap_singleton']
  exact List.append_nil _

namespace TranslationContext

variable {ctx : TranslationContext} {b : Bindings} {mode : RenderingMode} {depth : Nat} {name : String}
  {type : ResolvedType} {negated : Bool}

/-- A list over a multi-valued parameter is written out as far as the value of the parameter has elements. -/
theorem writes_inMultiValued (written : ctx.bindsArrays = false) (known : ctx.bindings? = some b) {x : Draft}
    (success : (ctx.inMultiValued x name type negated).refusal? mode depth = none) :
    ∃ v, b.get? name = some v ∧
      (v.boundLength = 0 → (ctx.inMultiValued x name type negated).writes mode depth =
        [.token (.raw (if negated then "1=1" else "1=0"))]) ∧
      (v.boundLength ≠ 0 → (ctx.inMultiValued x name type negated).writes mode depth =
        x.writes mode depth ++ listActs ctx.dialect mode negated (elementParameters name type v)) := by
  have length : ctx.boundLength? name = (b.get? name).map Value.boundLength := by rw [boundLength?, known]; rfl
  unfold inMultiValued at success ⊢
  rw [written, length] at success ⊢
  simp only [Bool.false_eq_true, if_false] at success ⊢
  cases bound : b.get? name with
  | none =>
    rw [bound] at success
    cases success
  | some v =>
    rw [bound] at success
    refine ⟨v, rfl, ?_, ?_⟩
    · intro none
      rw [Option.map_some, none]
      cases negated <;> rfl
    · intro some
      obtain ⟨n, count⟩ := Nat.exists_eq_succ_of_ne_zero some
      rw [Option.map_some, count] at success ⊢
      obtain ⟨first, items⟩ := Draft.refusal?_writtenInList.1 success
      have elements := Draft.writes_elements items
      rw [ArrayList.elementsOf, List.map_map] at elements
      refine (Draft.writes_writtenInList first items).trans ?_
      rw [elements, listActs, elementParameters, count, List.map_map]
      rfl

end TranslationContext

namespace Statement

/-- Each time when, in a translation that succeeds with lists written out and some values known, a list over a
multi-valued parameter is reached, the parameter is bound to one of them. If that has no elements, the list is
written as a condition that is false, or true when negated, and no placeholder is. Otherwise the placeholders of the
test are followed by one for each element, in order, and by no other; and each of these stands for the element at
its index. All this is in the operation in the place where the list was reached. -/
theorem elements_of_carriesOut {ctx : TranslationContext} {s : Statement} {op : Operation} {b : Bindings}
    (written : ctx.bindsArrays = false) (known : ctx.bindings? = some b) (success : s.translate ctx = .ok op)
    {test : Expression} {name : String} {type : ResolvedType} {negated : Bool} {there : Page}
    (reached : (s.draft ctx).CarriesOut .blank
      ((Predicate.inList test [.parameter name type true] negated).draft ctx) there) :
    ∃ v acts, b.get? name = some v ∧
      ((Predicate.inList test [.parameter name type true] negated).draft ctx).run there =
        (none, there.writeAll acts) ∧
      (v.boundLength = 0 → acts = [.token (.raw (if negated then "1=1" else "1=0"))]) ∧
      (v.boundLength ≠ 0 →
        acts = (test.operand ctx).draft.writes there.mode there.depth
          ++ listActs ctx.dialect there.mode negated (elementParameters name type v) ∧
        acts.filterMap Write.recorded? =
          ((test.operand ctx).draft.writes there.mode there.depth).filterMap Write.recorded?
            ++ elementParameters name type v) ∧
      List.Forall₂ (fun p u => p.source.resolve b = .ok u) (elementParameters name type v) v.boundElements ∧
      there.tokens.toList ++ acts.map Write.added <+: (s.page ctx).tokens.toList ∧
      there.parameters.toList ++ acts.filterMap Write.recorded? <+: op.parameters ∧
      Token.textOfAll ctx.dialect (s.page ctx).tokens.toList = .ok op.sql := by
  obtain ⟨done, tokens⟩ := written_of_carriesOut success reached
  have parameters := recorded_of_carriesOut success reached
  have run := ((Predicate.inList test [.parameter name type true] negated).draft ctx).run_eq there
  rw [done] at run
  rw [TranslationContext.draft_inList_multiValued] at done
  obtain ⟨v, bound, empty, several⟩ := TranslationContext.writes_inMultiValued written known done
  rw [← TranslationContext.draft_inList_multiValued] at empty several
  refine ⟨v, _, bound, run, empty, fun nonempty => ⟨several nonempty, ?_⟩, resolve_elementParameters type bound,
    tokens, parameters, (of_translate_eq_ok success).2.1⟩
  rw [several nonempty, List.filterMap_append, recorded_listActs]

/-- Two numbers get a placeholder each, which stands for the first and the second one. -/
theorem elements_of_carriesOut_selectsByIds :
    let one : Value := .integer .int ⟨1, by decide⟩
    let two : Value := .integer .int ⟨2, by decide⟩
    let b : Bindings := [("ids", .collection [one, two])]
    let ctx := (TranslationContext.ofDialect .ansi).withBindings b
    let integer : ResolvedType := ⟨"integer", .ofCode .integer⟩
    (∃ op, selectsByIds.translate ctx = .ok op ∧
      [⟨.element "ids" 0, integer⟩, ⟨.element "ids" 1, integer⟩] <+: op.parameters) ∧
    (ParameterSource.element "ids" 0).resolve b = .ok one ∧
    (ParameterSource.element "ids" 1).resolve b = .ok two := by
  intro one two b ctx integer
  let front : List Token := [.keyword .select, .space, .qualifiedName none "id", .space, .keyword .fromWord,
    .space, .name "t", .space, .keyword .whereWord, .space]
  let list := Predicate.inList (.column none "id" none) [.parameter "ids" integer true] false
  have reached : (selectsByIds.draft ctx).CarriesOut .blank (list.draft ctx) ⟨front.toArray, #[], [], 0⟩ := by
    refine .second rfl (.second rfl ?_)
    exact .first (.first (.first (.first (.second rfl (.second rfl (.itself _ _))))))
  have success : selectsByIds.translate ctx = .ok _ := rfl
  obtain ⟨v, acts, bound, -, -, several, resolves, -, parameters, -⟩ :=
    elements_of_carriesOut (b := b) rfl rfl success reached
  obtain rfl : .collection [one, two] = v := Option.some.inj bound
  rw [(several nofun).2] at parameters
  refine ⟨⟨_, success, parameters⟩, ?_⟩
  cases resolves with
  | cons first rest =>
    cases rest with
    | cons second _ => exact ⟨first, second⟩

/-- Without elements there is nothing to stand for. -/
example : let none : Bindings := [("ids", .collection [])]
    selectsByIds.translate ((TranslationContext.ofDialect .ansi).withBindings none) =
      .ok ⟨"SELECT \"id\" FROM \"t\" WHERE 1=0", []⟩ := by
  rfl

end Statement

end SqlDialects
