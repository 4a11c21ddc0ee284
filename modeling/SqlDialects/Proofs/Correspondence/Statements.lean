import SqlDialects.Proofs.Draft.Operands
import SqlDialects.Proofs.Draft.Statements
import SqlDialects.Proofs.Correspondence.Forms
import SqlDialects.Proofs.Correspondence.MultiValued

/-!
# Corresponding statements

Two contexts correspond for some names of multi-valued parameters (`TranslationContext.Correspond`) if they do
at the five places where a draft depends on more than on its parts and the dialect: literals, parameters, row
limits, and the two kinds of IN lists. Walking over the syntax tree, node by node, every statement whose
multi-valued parameters have such names is then drafted correspondingly (`Statement.draft_related`).
-/

namespace SqlDialects

/-- The contexts draft correspondingly what depends on them, as far as multi-valued parameters of the given
names are concerned. -/
structure TranslationContext.Correspond (ctx ctx' : TranslationContext) (Named : String → Prop)
    (R : Draft → Draft → Prop) : Prop extends Draft.Congruence ctx.dialect ctx'.dialect R where
  literal (v : Value) (type : ResolvedType) : R (ctx.literalDraft v type) (ctx'.literalDraft v type)
  parameter (p : Parameter) : R (.parameter ctx.dialect p) (.parameter ctx'.dialect p)
  limits (l l' : RowLimit) : l.Related R l' → R (ctx.dialect.limitClause l) (ctx'.dialect.limitClause l')
  multiValued {test : Expression} {name : String} (type : ResolvedType) (negated : Bool) : Named name →
    R (test.operand ctx).draft (test.operand ctx').draft →
    R (ctx.inMultiValued (test.operand ctx).draft name type negated)
      (ctx'.inMultiValued (test.operand ctx').draft name type negated)
  items {test test' : Operand} {list : List Expression} (negated : Bool) : test.Related R test' →
    List.Forall₂ (Operand.Related R) (operands ctx list) (operands ctx' list) →
    R (ctx.inItems test (operands ctx list) negated) (ctx'.inItems test' (operands ctx' list) negated)

section Walk

variable {ctx ctx' : TranslationContext} {Named : String → Prop} {R : Draft → Draft → Prop}

open List (forall_mem_append)

mutual

theorem Expression.operand_related (h : ctx.Correspond ctx' Named R) : ∀ e : Expression,
    (∀ name ∈ e.multiValued, Named name) → (e.operand ctx).Related R (e.operand ctx')
  | .column _ _ _, _ => .scalar (h.refl _)
  | .literal value type, _ => .scalar (h.literal value type)
  | .parameter _ _ _, _ => .scalar (h.parameter _)
  | .arithmetic op lhs rhs, hn => by
    rw [Expression.multiValued, forall_mem_append] at hn
    have left := h.operand (lhs.operand_related h hn.1)
    have right := h.operand (rhs.operand_related h hn.2)
    exact .scalar (h.arithmetic op left right)
  | .caseSearched ⟨arms, otherwise⟩, hn => by
    rw [Expression.multiValued, forall_mem_append] at hn
    have arms := searchedArms_related h arms hn.1
    exact .scalar (h.choice ⟨.none, arms, optionalOperand_related h otherwise hn.2⟩)
  | .caseSimple ⟨subject, arms, otherwise⟩, hn => by
    rw [Expression.multiValued, forall_mem_append, forall_mem_append] at hn
    obtain ⟨⟨hsubject, harms⟩, hotherwise⟩ := hn
    have subject := h.operand (subject.operand_related h hsubject)
    have arms := simpleArms_related h arms harms
    exact .scalar (h.choice ⟨.some subject, arms, optionalOperand_related h otherwise hotherwise⟩)
  | .tuple items, hn => .tuple (operands_related h items hn)
  | .summarization _ groupings, hn =>
    .scalar (h.append_left (h.parens (h.listed (h.drafts (operands_related h groupings hn)))))
  | .function _ args _, hn =>
    .scalar (h.append_left (h.parens (h.listed (h.drafts (operands_related h args hn)))))
  | .aggregate ⟨name, args, distinct, filter, _⟩, hn => by
    rw [Expression.multiValued, forall_mem_append] at hn
    have args := h.drafts (operands_related h args hn.1)
    exact .scalar (h.aggregateCall name distinct args (optionalCondition_related h filter hn.2))
  | .windowed ⟨function, partitions, order⟩, hn => by
    rw [Expression.multiValued, forall_mem_append, forall_mem_append] at hn
    obtain ⟨⟨hfunction, hpartitions⟩, horder⟩ := hn
    have function := h.operand (function.operand_related h hfunction)
    have partitions := operands_related h partitions hpartitions
    exact .scalar (h.overWindow function partitions (sortKeys_related h order horder))
  | .subquery query, hn => h.queryOperand h.limits query.type? (query.form_related h hn)

theorem operands_related (h : ctx.Correspond ctx' Named R) : ∀ es : List Expression,
    (∀ name ∈ multiValuedInAll es, Named name) →
    List.Forall₂ (Operand.Related R) (operands ctx es) (operands ctx' es)
  | [], _ => .nil
  | e :: es, hn => by
    rw [multiValuedInAll, forall_mem_append] at hn
    exact .cons (e.operand_related h hn.1) (operands_related h es hn.2)

theorem optionalOperand_related (h : ctx.Correspond ctx' Named R) : ∀ e? : Option Expression,
    (∀ name ∈ optionalMultiValued e?, Named name) →
    Option.Rel (Operand.Related R) (optionalOperand ctx e?) (optionalOperand ctx' e?)
  | none, _ => .none
  | some e, hn => .some (e.operand_related h hn)

theorem searchedArms_related (h : ctx.Correspond ctx' Named R) : ∀ arms : List SearchedArm,
    (∀ name ∈ searchedMultiValued arms, Named name) →
    List.Forall₂ (ChoiceArm.Related R) (searchedArms ctx arms) (searchedArms ctx' arms)
  | [], _ => .nil
  | ⟨condition, result⟩ :: arms, hn => by
    rw [searchedMultiValued, forall_mem_append, forall_mem_append] at hn
    obtain ⟨⟨hcondition, hresult⟩, harms⟩ := hn
    exact .cons ⟨condition.draft_related h hcondition, result.operand_related h hresult⟩
      (searchedArms_related h arms harms)

theorem simpleArms_related (h : ctx.Correspond ctx' Named R) : ∀ arms : List SimpleArm,
    (∀ name ∈ simpleMultiValued arms, Named name) →
    List.Forall₂ (ChoiceArm.Related R) (simpleArms ctx arms) (simpleArms ctx' arms)
  | [], _ => .nil
  | ⟨value, result⟩ :: arms, hn => by
    rw [simpleMultiValued, forall_mem_append, forall_mem_append] at hn
    obtain ⟨⟨hvalue, hresult⟩, harms⟩ := hn
    exact .cons ⟨h.operand (value.operand_related h hvalue), result.operand_related h hresult⟩
      (simpleArms_related h arms harms)

theorem sortKeys_related (h : ctx.Correspond ctx' Named R) : ∀ items : List SortItem,
    (∀ name ∈ sortMultiValued items, Named name) →
    List.Forall₂ (SortKey.Related R) (sortKeys ctx items) (sortKeys ctx' items)
  | [], _ => .nil
  | ⟨e, _, _⟩ :: items, hn => by
    rw [sortMultiValued, forall_mem_append] at hn
    exact .cons ⟨h.operand (e.operand_related h hn.1), rfl, rfl⟩ (sortKeys_related h items hn.2)

theorem Predicate.draft_related (h : ctx.Correspond ctx' Named R) : ∀ p : Predicate,
    (∀ name ∈ p.multiValued, Named name) → R (p.draft ctx) (p.draft ctx')
  | .boolean e negated, hn => h.booleanCondition (h.operand (e.operand_related h hn)) negated
  | .comparison lhs op rhs, hn => by
    rw [Predicate.multiValued, forall_mem_append] at hn
    exact h.compare (lhs.operand_related h hn.1) op (rhs.operand_related h hn.2)
  | .inList test list negated, hn => by
    rw [Predicate.multiValued, forall_mem_append] at hn
    have test' := test.operand_related h hn.1
    have list' := operands_related h list hn.2
    refine h.inList test' list' negated (fun name type x single => ?_) (h.items negated test' list')
    have named : name ∈ multiValuedInAll list := by
      rw [eq_parameter_of_operands single]
      exact List.mem_cons_self
    exact h.multiValued type negated (hn.2 name named) (h.operand test')
  | .inArray test none negated, _ => h.refl _
  | .inArray test (some array) negated, hn => by
    rw [Predicate.multiValued, forall_mem_append] at hn
    have array := h.operand (array.operand_related h hn.2)
    exact h.arrayMembership (h.operand (test.operand_related h hn.1)) array negated
  | .tupleSubquery row op query, hn => by
    rw [Predicate.multiValued, forall_mem_append] at hn
    have subquery := h.queryOperand h.limits query.type? (query.form_related h hn.2)
    exact h.compareWithSubquery (operands_related h row hn.1) op subquery
  | .nullCheck e negated, hn => h.nullCheck (e.operand_related h hn) negated
  | .junction kind [], _ => h.refl _
  | .junction _ [member], hn => member.draft_related h fun name hname => hn name (List.mem_append_left [] hname)
  | .junction kind (first :: second :: rest), hn =>
    h.separated (memberDrafts_related h kind (first :: second :: rest) hn)
  | .negated inner, hn => h.append_left (h.parens (inner.draft_related h hn))

theorem memberDrafts_related (h : ctx.Correspond ctx' Named R) (kind : JunctionKind) : ∀ ps : List Predicate,
    (∀ name ∈ memberMultiValued ps, Named name) →
    List.Forall₂ R (memberDrafts ctx kind ps) (memberDrafts ctx' kind ps)
  | [], _ => .nil
  | p :: ps, hn => by
    rw [memberMultiValued, forall_mem_append] at hn
    exact .cons (h.parensIf _ (p.draft_related h hn.1)) (memberDrafts_related h kind ps hn.2)

theorem optionalCondition_related (h : ctx.Correspond ctx' Named R) : ∀ p? : Option Predicate,
    (∀ name ∈ filterMultiValued p?, Named name) →
    Option.Rel R (optionalCondition ctx p?) (optionalCondition ctx' p?)
  | none, _ => .none
  | some p, hn => .some (p.draft_related h hn)

theorem selectItems_related (h : ctx.Correspond ctx' Named R) : ∀ items : List SelectItem,
    (∀ name ∈ itemMultiValued items, Named name) →
    List.Forall₂ (fun i i' => i.1.Related R i'.1 ∧ i'.2 = i.2) (selectItems ctx items) (selectItems ctx' items)
  | [], _ => .nil
  | ⟨e, _⟩ :: items, hn => by
    rw [itemMultiValued, forall_mem_append] at hn
    exact .cons ⟨e.operand_related h hn.1, rfl⟩ (selectItems_related h items hn.2)

theorem fetchLimit_related (h : ctx.Correspond ctx' Named R) : ∀ fetch : Option FetchClause,
    (∀ name ∈ fetchMultiValued fetch, Named name) →
    Option.Rel (fun f f' => R f.1 f'.1 ∧ f'.2 = f.2) (fetchLimit ctx fetch) (fetchLimit ctx' fetch)
  | none, _ => .none
  | some ⟨count, _⟩, hn => .some ⟨h.operand (count.operand_related h hn), rfl⟩

theorem pathForm_related (h : ctx.Correspond ctx' Named R) (table : String) : ∀ path : Option SearchPath,
    (∀ name ∈ pathMultiValued path, Named name) →
    Option.Rel (PathForm.Related R) (pathForm ctx table path) (pathForm ctx' table path)
  | none, _ => .none
  | some ⟨_, seed, step, _⟩, hn => by
    rw [pathMultiValued, forall_mem_append] at hn
    have seed := h.operand (seed.operand_related h hn.1)
    have step := h.operand (step.operand_related h hn.2)
    exact .some ⟨rfl, rfl, seed, step, rfl⟩

theorem CommonTable.form_related (h : ctx.Correspond ctx' Named R) : ∀ t : CommonTable,
    (∀ name ∈ t.multiValued, Named name) → (t.form ctx).Related R (t.form ctx')
  | ⟨name, columns, query, recursive, searchPath⟩, hn => by
    rw [CommonTable.multiValued, forall_mem_append] at hn
    have path := pathForm_related h name searchPath hn.2
    have body := h.nested (h.query h.limits false _ _ (query.form_related h hn.1) _ _ path)
    rw [CommonTable.form, CommonTable.form]
    generalize pathForm ctx name searchPath = path? at path body ⊢
    generalize pathForm ctx' name searchPath = path?' at path body ⊢
    refine ⟨rfl, h.append (h.append_right (h.append_left ?_)) (h.parens body)⟩
    -- Only the name of the path's column is in the column list.
    cases path with
    | none => exact h.refl _
    | some hp =>
      dsimp only
      rw [hp.column]
      exact h.refl _

theorem tableForms_related (h : ctx.Correspond ctx' Named R) : ∀ tables : List CommonTable,
    (∀ name ∈ tableMultiValued tables, Named name) →
    List.Forall₂ (TableForm.Related R) (tableForms ctx tables) (tableForms ctx' tables)
  | [], _ => .nil
  | table :: tables, hn => by
    rw [tableMultiValued, forall_mem_append] at hn
    exact .cons (table.form_related h hn.1) (tableForms_related h tables hn.2)

theorem queryForms_related (h : ctx.Correspond ctx' Named R) : ∀ queries : List Query,
    (∀ name ∈ partMultiValued queries, Named name) →
    List.Forall₂ (QueryForm.Related R) (queryForms ctx queries) (queryForms ctx' queries)
  | [], _ => .nil
  | query :: queries, hn => by
    rw [partMultiValued, forall_mem_append] at hn
    exact .cons (query.form_related h hn.1) (queryForms_related h queries hn.2)

theorem Query.form_related (h : ctx.Correspond ctx' Named R) : ∀ q : Query,
    (∀ name ∈ q.multiValued, Named name) → (q.form ctx).Related R (q.form ctx')
  | .select ⟨ctes, distinct, items, tables, filter, groupBy, having, orderBy, offset, fetch⟩, hn => by
    simp only [Query.multiValued, forall_mem_append] at hn
    obtain ⟨⟨hctes, ⟨⟨⟨hitems, hfilter⟩, hgroupBy⟩, hhaving⟩, horderBy⟩, hoffset, hfetch⟩ := hn
    have offset := (optionalOperand_related h offset hoffset).map fun _ _ ho => h.operand ho
    rw [Query.form, Query.form]
    exact .select ⟨tableForms_related h ctes hctes, rfl, selectItems_related h items hitems, rfl,
      optionalCondition_related h filter hfilter, operands_related h groupBy hgroupBy,
      optionalCondition_related h having hhaving, sortKeys_related h orderBy horderBy,
      ⟨offset, fetchLimit_related h fetch hfetch⟩⟩
  | .set ⟨ctes, operator, parts, orderBy, offset, fetch⟩, hn => by
    simp only [Query.multiValued, forall_mem_append] at hn
    obtain ⟨⟨⟨hctes, hparts⟩, horderBy⟩, hoffset, hfetch⟩ := hn
    have offset := (optionalOperand_related h offset hoffset).map fun _ _ ho => h.operand ho
    rw [Query.form, Query.form]
    exact .set ⟨tableForms_related h ctes hctes, rfl, sortKeys_related h orderBy horderBy,
      ⟨offset, fetchLimit_related h fetch hfetch⟩⟩ (queryForms_related h parts hparts)

end

end Walk

/-- Statements are drafted correspondingly in corresponding contexts. -/
theorem Statement.draft_related {ctx ctx' : TranslationContext} {Named : String → Prop}
    {R : Draft → Draft → Prop} (h : ctx.Correspond ctx' Named R) :
    ∀ s : Statement, (∀ name ∈ s.multiValued, Named name) → R (s.draft ctx) (s.draft ctx')
  | .select q, hn => by
    have leading : ∀ name ∈ tableMultiValued (q.leadingTables ctx.dialect), Named name := by
      intro name hname
      refine hn name ?_
      unfold Query.leadingTables at hname
      split at hname
      · exact q.tableMultiValued_ctes_subset hname
      · exact q.tableMultiValued_nestedTables_subset hname
    have same : q.leadingTables ctx'.dialect = q.leadingTables ctx.dialect := by
      unfold Query.leadingTables
      rw [h.like.withInSubquery]
    have tables := h.withClause (tableForms_related h _ leading)
    have query := h.query h.limits true _ _ (q.form_related h hn) _ _ .none
    rw [Statement.draft, Query.statementDraft, Statement.draft, Query.statementDraft, same]
    exact h.append tables query

/-- A translation that is not given up writes down the page that its acts leave behind. -/
theorem Statement.translate_eq (ctx : TranslationContext) (s : Statement) : s.translate ctx =
    match (s.draft ctx).refusal? .plain 0 with
    | some cause => .error (.rejected cause)
    | none =>
      match (s.page ctx).operation ctx.dialect with
      | .ok operation => .ok operation
      | .error obstacle => .error (.unwritable obstacle) := by
  unfold translate Draft.translateOn
  rw [run_draft]
  cases (s.draft ctx).refusal? .plain 0 <;> rfl

end SqlDialects
