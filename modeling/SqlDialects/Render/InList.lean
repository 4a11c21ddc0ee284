import SqlDialects.Render.Comparison
import SqlDialects.Render.Context

/-!
# IN lists

A list is written out, bound as one array, expanded to a placeholder for each bound element, or, for
rows in a dialect without row values, taken apart into comparisons.
-/

namespace SqlDialects

namespace Dialect

/-- Membership of a draft in an array. -/
def arrayMembership (d : Dialect) (test array : Draft) (negated : Bool) : Draft :=
  match d with
  | mysql => .refuse (.unsupported .arrayMembership d)
  | hsql => test ++ .raw (if negated then " NOT IN(UNNEST(" else " IN(UNNEST(") ++ array ++ .raw "))"
  | _ => test ++ .raw (if negated then " <> ALL(" else " = ANY(") ++ array ++ .token .rightParen

end Dialect

namespace Draft

/-- Membership in a list without items: false, and true when negated. -/
def emptyInList (negated : Bool) : Draft := raw (if negated then "1=1" else "1=0")

/-- Membership in a list that is written out. -/
def writtenInList (test : Draft) (items : Draft) (negated : Bool) : Draft :=
  test ++ raw (if negated then " not in(" else " in(") ++ items ++ token .rightParen

/-- A placeholder for an array of elements of a type. -/
def arrayPlaceholder (source : ParameterSource) (element : ResolvedType) : Draft :=
  placeholder ⟨source, .arrayOf element⟩

end Draft

/-- The item of a list as part of an array: the source of its element, and the element itself if it is
a constant. Only constants other than null and single-valued parameters of the given type qualify. -/
def Operand.arrayItem? (element : ResolvedType) : Operand → Option (ParameterSource × Option Value)
  | .scalar (.literal v) (some type) _ =>
    if type = element ∧ v.isNull = false ∧ v.isPlural = false then some (.fixed v, some v) else none
  | .scalar (.parameter name false) (some type) _ =>
    if type = element then some (.named name, none) else none
  | _ => none

/-- The source of an array made of the items of a list, and the type of its elements. A list of
constants is a constant array. -/
def arrayOfList? (list : List Operand) : Option (ParameterSource × ResolvedType) := do
  let first ← list.head?
  let element ← first.type?
  if element.descriptor.isArrayCapable then none
  let items ← list.mapM (·.arrayItem? element)
  match items.mapM (·.2) with
  | some values => some (.fixed (.collection values), element)
  | none => some (.elements (items.map (·.1)), element)

namespace TranslationContext

/-- Membership in the elements bound to one parameter. -/
def inMultiValued (ctx : TranslationContext) (test : Draft) (name : String) (element : ResolvedType)
    (negated : Bool) : Draft :=
  if ctx.bindsArrays then
    ctx.dialect.arrayMembership test (.arrayPlaceholder (.named name) element) negated
  else match ctx.boundLength? name with
    | none => .refuse (.missingBinding name)
    | some 0 => .emptyInList negated
    | some n =>
      .writtenInList test
        (.listed ((List.range n).map fun i =>
          .parameter ctx.dialect ⟨.element name i, element⟩))
        negated

/-- The comparisons of a row with the items of a list, each behind a keyword but the first. -/
def rowItems (d : Dialect) (op : ComparisonOperator) (joint : Draft) (row : List Operand) :
    List Operand → Draft
  | [] => .empty
  | .tuple values :: items =>
    joint ++ d.compareRows op false row values
      ++ rowItems d op (.spacedWord (if op = .equal then .or else .and)) row items
  | _ :: _ => .malformed .listWithoutTuples

/-- Membership of a row in a list of rows, taken apart into comparisons. -/
def rowInList (d : Dialect) (row : List Operand) (list : List Operand) (negated : Bool) : Draft :=
  .parens (rowItems d (if negated then .notEqual else .equal) .empty row list)

/-- Membership in a list that is written out or bound as one array. -/
def inItems (ctx : TranslationContext) (test : Operand) (list : List Operand) (negated : Bool) :
    Draft :=
  match if ctx.bindsArrays then arrayOfList? list else none with
  | some (source, element) =>
    ctx.dialect.arrayMembership test.draft (.arrayPlaceholder source element) negated
  | none => .writtenInList test.draft (.listed (Operand.drafts list)) negated

/-- Membership in a list. -/
def inList (ctx : TranslationContext) (test : Operand) (list : List Operand) (negated : Bool) :
    Draft :=
  match list with
  | [] => .emptyInList negated
  | [.scalar (.parameter name true) (some type) _] =>
    ctx.inMultiValued test.draft name type negated
  | list =>
    match test with
    | .tuple row =>
      if ctx.dialect.capabilities.rowValuesInList then ctx.inItems test list negated
      else rowInList ctx.dialect row list negated
    | test => ctx.inItems test list negated

/-- Membership in a list of items, none of which stands for the whole list. -/
def inListOfItems (ctx : TranslationContext) (test : Operand) (list : List Operand) (negated : Bool) : Draft :=
  match test with
  | .tuple row =>
    if ctx.dialect.capabilities.rowValuesInList then ctx.inItems test list negated
    else rowInList ctx.dialect row list negated
  | test => ctx.inItems test list negated

/-- A list that does not consist of a multi-valued parameter is one of its items. -/
theorem inList_of_items {ctx : TranslationContext} {test : Operand} {list : List Operand} {negated : Bool}
    (items : list ≠ []) (single : ¬ ∃ name type x, list = [.scalar (.parameter name true) (some type) x]) :
    ctx.inList test list negated = ctx.inListOfItems test list negated := by
  unfold inList
  split
  · exact absurd rfl items
  · next name type x => exact absurd ⟨name, type, x, rfl⟩ single
  · rfl

end TranslationContext

end SqlDialects
