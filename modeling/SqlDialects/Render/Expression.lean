import SqlDialects.Render.Choice
import SqlDialects.Render.InList
import SqlDialects.Render.QueryForm

/-!
# Drafting expressions, conditions and queries

The walk over the syntax tree. Every node becomes an operand, a draft or a form made of those of its
children; the rules themselves are stated where operands and forms are.
-/

namespace SqlDialects

namespace TranslationContext

/-- A literal as SQL text. Arrays are written by the marshaller of their elements, single values by
their basic type if it is registered. -/
def literalDraft (ctx : TranslationContext) (v : Value) (type : ResolvedType) : Draft :=
  if v.isPlural then
    if ctx.dialect.capabilities.arrayConstructor then
      match type.elementName? with
      | none => .malformed (.arrayLiteralType type.name)
      | some name =>
        match ctx.types.marshaller name with
        | .error e => .refuse (.marshal e)
        | .ok m =>
          match (m.literalText ctx.dialect v).result with
          | .error e => .refuse (.marshal e)
          | .ok text => .token (.raw text)
    else .refuse (.unsupported .arrayLiteral ctx.dialect)
  else
    let literal := match ctx.types.get? type.name with
      | some b => (b.literal v).result
      | none => v.literal
    match literal with
    | .error e => .refuse (.marshal e)
    | .ok l => .token (.literal l)

end TranslationContext

/-- A member of a junction needs parentheses inside another one of the given kind: it joins several
members in the other way. -/
def Predicate.needsParens (outer : JunctionKind) : Predicate → Bool
  | junction kind members => kind != outer && decide (1 < members.length)
  | _ => false

namespace JunctionKind

/-- The condition without members. -/
def unit : JunctionKind → Draft
  | conjunction => .raw "1=1"
  | disjunction => .raw "1=0"

/-- The keyword between members. -/
def joint : JunctionKind → Keyword
  | conjunction => .and
  | disjunction => .or

end JunctionKind

mutual

/-- An expression as an operand. -/
def Expression.operand (ctx : TranslationContext) : Expression → Operand
  | .column qualifier name type => .scalar .other type (.token (.qualifiedName qualifier name))
  | .literal value type => .scalar (.literal value) (some type) (ctx.literalDraft value type)
  | .parameter name type multiValued =>
    .scalar (.parameter name multiValued) (some type)
      (.parameter ctx.dialect ⟨.named name, type⟩)
  | .arithmetic op lhs rhs =>
    .scalar .other (lhs.type? <|> rhs.type?)
      (ctx.dialect.arithmetic op (lhs.operand ctx).draft (rhs.operand ctx).draft)
  | .caseSearched ⟨arms, otherwise⟩ =>
    .scalar .other (searchedType? arms)
      (Choice.draft ctx.dialect ⟨none, searchedArms ctx arms, optionalOperand ctx otherwise⟩)
  | .caseSimple ⟨subject, arms, otherwise⟩ =>
    .scalar .other (simpleType? arms)
      (Choice.draft ctx.dialect
        ⟨some (subject.operand ctx).draft, simpleArms ctx arms, optionalOperand ctx otherwise⟩)
  | .tuple items => .tuple (operands ctx items)
  | .summarization kind groupings =>
    .scalar .summarization none
      (.raw kind.text ++ .parens (.listed (Operand.drafts (operands ctx groupings))))
  | .function name args type =>
    .scalar .other type
      (.token (.functionName name) ++ .parens (.listed (Operand.drafts (operands ctx args))))
  | .aggregate ⟨name, args, distinct, filter, type⟩ =>
    .scalar .other type
      (ctx.dialect.aggregateCall name (Operand.drafts (operands ctx args)) distinct
        (optionalCondition ctx filter))
  | .windowed ⟨function, partitions, order⟩ =>
    .scalar .other function.type?
      (ctx.dialect.overWindow (function.operand ctx).draft (operands ctx partitions)
        (sortKeys ctx order))
  | .subquery query => (query.form ctx).operand ctx.dialect query.type?

/-- Expressions as operands. -/
def operands (ctx : TranslationContext) : List Expression → List Operand
  | [] => []
  | e :: es => e.operand ctx :: operands ctx es

/-- An expression that may be absent as an operand. -/
def optionalOperand (ctx : TranslationContext) : Option Expression → Option Operand
  | none => none
  | some e => some (e.operand ctx)

/-- The arms of a choice by conditions. -/
def searchedArms (ctx : TranslationContext) : List SearchedArm → List ChoiceArm
  | [] => []
  | ⟨condition, result⟩ :: arms =>
    ⟨condition.draft ctx, result.operand ctx⟩ :: searchedArms ctx arms

/-- The arms of a choice by values. -/
def simpleArms (ctx : TranslationContext) : List SimpleArm → List ChoiceArm
  | [] => []
  | ⟨value, result⟩ :: arms =>
    ⟨(value.operand ctx).draft, result.operand ctx⟩ :: simpleArms ctx arms

/-- The keys of a sort list. -/
def sortKeys (ctx : TranslationContext) : List SortItem → List SortKey
  | [] => []
  | ⟨e, direction, nulls⟩ :: items =>
    ⟨(e.operand ctx).draft, direction, nulls⟩ :: sortKeys ctx items

/-- A condition. -/
def Predicate.draft (ctx : TranslationContext) : Predicate → Draft
  | .boolean e negated => ctx.dialect.booleanCondition (e.operand ctx).draft negated
  | .comparison lhs op rhs => ctx.dialect.compare (lhs.operand ctx) op (rhs.operand ctx)
  | .inList test list negated => ctx.inList (test.operand ctx) (operands ctx list) negated
  | .inArray test array negated =>
    match optionalOperand ctx array with
    | some array => ctx.dialect.arrayMembership (test.operand ctx).draft array.draft negated
    | none => .emptyInList negated
  | .tupleSubquery row op query =>
    ctx.dialect.compareWithSubquery (operands ctx row) op
      ((query.form ctx).operand ctx.dialect query.type?)
  | .nullCheck e negated => Dialect.nullCheck (e.operand ctx) negated
  | .junction kind members =>
    match members with
    | [] => kind.unit
    | [member] => member.draft ctx
    | first :: second :: rest =>
      .separated (.spacedWord kind.joint) (memberDrafts ctx kind (first :: second :: rest))
  | .negated inner => .wordSpace .not ++ .parens (inner.draft ctx)

/-- The members of a junction. -/
def memberDrafts (ctx : TranslationContext) (kind : JunctionKind) : List Predicate → List Draft
  | [] => []
  | p :: ps => .parensIf (p.needsParens kind) (p.draft ctx) :: memberDrafts ctx kind ps

/-- A condition that may be absent. -/
def optionalCondition (ctx : TranslationContext) : Option Predicate → Option Draft
  | none => none
  | some p => some (p.draft ctx)

/-- The items of a select list. -/
def selectItems (ctx : TranslationContext) : List SelectItem → List (Operand × Option String)
  | [] => []
  | ⟨e, alias?⟩ :: items => (e.operand ctx, alias?) :: selectItems ctx items

/-- A FETCH clause that may be absent. -/
def fetchLimit (ctx : TranslationContext) : Option FetchClause → Option (Draft × FetchKind)
  | none => none
  | some ⟨count, kind⟩ => some ((count.operand ctx).draft, kind)

/-- The search path of the named table, which may be absent. -/
def pathForm (ctx : TranslationContext) (table : String) : Option SearchPath → Option PathForm
  | none => none
  | some ⟨column, seed, step, sizeEstimate⟩ =>
    some ⟨table, column, (seed.operand ctx).draft, (step.operand ctx).draft, sizeEstimate⟩

/-- A common table. -/
def CommonTable.form (ctx : TranslationContext) : CommonTable → TableForm
  | ⟨name, columns, query, recursive, searchPath⟩ =>
    let path := pathForm ctx name searchPath
    let pathColumn : List Draft := match path with
      | some p => [.token (.name p.column)]
      | none => []
    let columnList : Draft := if columns.isEmpty then .empty
      else .space ++ .parens (.listed (columns.map (fun c => .token (.name c)) ++ pathColumn))
    ⟨recursive,
      .token (.name name) ++ columnList ++ .spacedWord .asWord
        ++ .parens (.nested ((query.form ctx).draft ctx.dialect false path))⟩

/-- The tables of a WITH clause. -/
def tableForms (ctx : TranslationContext) : List CommonTable → List TableForm
  | [] => []
  | table :: tables => table.form ctx :: tableForms ctx tables

/-- The parts of a set operation. -/
def queryForms (ctx : TranslationContext) : List Query → List QueryForm
  | [] => []
  | query :: queries => query.form ctx :: queryForms ctx queries

/-- A query with its parts drafted. -/
def Query.form (ctx : TranslationContext) : Query → QueryForm
  | .select ⟨ctes, distinct, items, tables, filter, groupBy, having, orderBy, offset, fetch⟩ =>
    .select ⟨tableForms ctx ctes, distinct, selectItems ctx items, tables,
      optionalCondition ctx filter, operands ctx groupBy, optionalCondition ctx having,
      sortKeys ctx orderBy, ⟨(optionalOperand ctx offset).map (·.draft), fetchLimit ctx fetch⟩⟩
  | .set ⟨ctes, operator, parts, orderBy, offset, fetch⟩ =>
    .set ⟨tableForms ctx ctes, operator, sortKeys ctx orderBy,
      ⟨(optionalOperand ctx offset).map (·.draft), fetchLimit ctx fetch⟩⟩ (queryForms ctx parts)

end

theorem operands_eq_map (ctx : TranslationContext) (es : List Expression) :
    operands ctx es = es.map (·.operand ctx) := by
  induction es with
  | nil => rfl
  | cons e es ih => rw [operands, ih, List.map_cons]

end SqlDialects
