import SqlDialects.Proofs.Draft.Statements
import SqlDialects.Proofs.Nesting.Queries

/-!
# Expressions, conditions and queries are well-formed

The walk over the syntax tree, node by node.
-/

namespace SqlDialects

open Draft
open List (forall_mem_cons)

/-- A literal is one token, or is refused. -/
theorem TranslationContext.isConstant_literalDraft (ctx : TranslationContext) (v : Value) (type : ResolvedType) :
    (ctx.literalDraft v type).IsConstant ctx.dialect := by
  unfold literalDraft
  split
  · next plural =>
    split
    · next arrays =>
      split
      · exact .refuse _
      · split
        · exact .refuse _
        · split
          · exact .refuse _
          · next text h =>
            obtain ⟨texts, constants, rfl⟩ := ArrayMarshaller.literalText_eq_arrayText plural h
            have plain : ctx.dialect ≠ .mysql := by
              intro same
              rw [same] at arrays
              exact absurd arrays (by decide)
            have start : ∀ s : String, Dialect.arrayText texts = s → "ARRAY[".toList <+: s.toList := by
              rintro _ rfl
              rw [Dialect.arrayText, String.append_assoc, String.toList_append]
              exact List.prefix_append _ _
            have cast : Dialect.arrayText texts ≠ "cast(" := fun same => absurd (start _ same) (by decide)
            have limit : Dialect.arrayText texts ≠ " LIMIT " := fun same => absurd (start _ same) (by decide)
            exact .token (bne_iff_ne.2 cast) (fun i => (spans_arrayText plain constants i).2) (Region.bars_raw limit)
    · exact .refuse _
  · simp only
    split
    · exact .refuse _
    · exact .token rfl (fun _ => rfl) rfl

theorem JunctionKind.flat_unit {d : Dialect} {arrays : Bool} (kind : JunctionKind) :
    kind.unit.Flat d arrays .expression := by
  cases kind <;> exact flat_raw (by cases d <;> decide)

/-- HSQL has no WITH clause in subqueries. -/
theorem Dialect.ne_hsql_of_withInSubquery {d : Dialect} (has : d.capabilities.withInSubquery = true) : d ≠ .hsql := by
  rintro rfl
  cases has

variable (ctx : TranslationContext)

mutual

/-- An expression is well-formed. -/
theorem Expression.formed_operand : ∀ e : Expression, (e.operand ctx).Formed ctx.dialect ctx.bindsArrays
  | .column _ _ _ => .other (flat_token rfl (fun _ => rfl) rfl)
  | .literal value type => .literal value type (ctx.isConstant_literalDraft value type)
  | .parameter name type multiValued => .parameter name multiValued (.named name) type
  | .arithmetic op lhs rhs => .other (Dialect.flat_arithmetic op lhs.formed_operand.flat rhs.formed_operand.flat)
  | .caseSearched ⟨arms, otherwise⟩ =>
    .other (Choice.Formed.draft ⟨nofun, formed_searchedArms arms, formed_optionalOperand otherwise⟩)
  | .caseSimple ⟨subject, arms, otherwise⟩ => by
    have subject := subject.formed_operand.flat
    exact .other (Choice.Formed.draft
      ⟨by simpa using subject, formed_simpleArms arms, formed_optionalOperand otherwise⟩)
  | .tuple items => .tuple (formed_operands items)
  | .summarization kind groupings => by
    have word : (raw kind.text).Flat ctx.dialect ctx.bindsArrays .expression := by
      cases kind <;> exact flat_raw (by cases ctx.dialect <;> decide)
    exact .summarization (word.append (Operand.flat_listed_drafts (formed_operands groupings)).inQuery.parens)
  | .function name args _ => by
    have function : (token (.functionName name)).Flat ctx.dialect ctx.bindsArrays .expression :=
      flat_token rfl (fun _ => rfl) rfl
    exact .other (function.append (Operand.flat_listed_drafts (formed_operands args)).inQuery.parens)
  | .aggregate ⟨name, args, distinct, filter, _⟩ =>
    .other (Dialect.flat_aggregateCall name distinct (Operand.flat_of_mem_drafts (formed_operands args))
      (flat_optionalCondition filter))
  | .windowed ⟨function, partitions, order⟩ =>
    .other (Dialect.flat_overWindow function.formed_operand.flat (formed_operands partitions) (flat_sortKeys order))
  | .subquery query => query.formed_form.operand query.type?

theorem formed_operands : ∀ es : List Expression, ∀ o ∈ operands ctx es, o.Formed ctx.dialect ctx.bindsArrays
  | [] => by simp [operands]
  | e :: es => forall_mem_cons.2 ⟨e.formed_operand, formed_operands es⟩

theorem formed_optionalOperand : ∀ e? : Option Expression,
    ∀ o ∈ optionalOperand ctx e?, o.Formed ctx.dialect ctx.bindsArrays
  | none => by simp [optionalOperand]
  | some e => by simpa [optionalOperand] using e.formed_operand

theorem formed_searchedArms : ∀ arms : List SearchedArm, ∀ arm ∈ searchedArms ctx arms,
    arm.test.Flat ctx.dialect ctx.bindsArrays .expression ∧ arm.result.Formed ctx.dialect ctx.bindsArrays
  | [] => by simp [searchedArms]
  | ⟨condition, result⟩ :: arms =>
    forall_mem_cons.2 ⟨⟨condition.flat_draft, result.formed_operand⟩, formed_searchedArms arms⟩

theorem formed_simpleArms : ∀ arms : List SimpleArm, ∀ arm ∈ simpleArms ctx arms,
    arm.test.Flat ctx.dialect ctx.bindsArrays .expression ∧ arm.result.Formed ctx.dialect ctx.bindsArrays
  | [] => by simp [simpleArms]
  | ⟨value, result⟩ :: arms =>
    forall_mem_cons.2 ⟨⟨value.formed_operand.flat, result.formed_operand⟩, formed_simpleArms arms⟩

theorem flat_sortKeys : ∀ items : List SortItem,
    ∀ k ∈ sortKeys ctx items, k.key.Flat ctx.dialect ctx.bindsArrays .expression
  | [] => by simp [sortKeys]
  | ⟨e, _, _⟩ :: items => forall_mem_cons.2 ⟨e.formed_operand.flat, flat_sortKeys items⟩

/-- A condition is well-formed. -/
theorem Predicate.flat_draft : ∀ p : Predicate, (p.draft ctx).Flat ctx.dialect ctx.bindsArrays .expression
  | .boolean e negated => Dialect.flat_booleanCondition e.formed_operand.flat negated
  | .comparison lhs op rhs => Dialect.flat_compare lhs.formed_operand op rhs.formed_operand
  | .inList test list negated => TranslationContext.flat_inList test.formed_operand (formed_operands list) negated
  | .inArray _ none negated => flat_emptyInList negated
  | .inArray test (some array) negated =>
    Dialect.flat_arrayMembership test.formed_operand.flat array.formed_operand.flat negated
  | .tupleSubquery row op query =>
    Dialect.flat_compareWithSubquery (formed_operands row) op (query.formed_form.operand query.type?)
  | .nullCheck e negated => Dialect.flat_nullCheck e.formed_operand negated
  | .junction kind [] => kind.flat_unit
  | .junction _ [member] => member.flat_draft
  | .junction kind (first :: second :: rest) =>
    flat_separated (flat_spacedWord (by cases kind <;> rfl)) (flat_memberDrafts kind (first :: second :: rest))
  | .negated inner => (flat_wordSpace rfl).append inner.flat_draft.inQuery.parens

theorem flat_memberDrafts (kind : JunctionKind) : ∀ ps : List Predicate,
    ∀ x ∈ memberDrafts ctx kind ps, x.Flat ctx.dialect ctx.bindsArrays .expression
  | [] => by simp [memberDrafts]
  | p :: ps => forall_mem_cons.2 ⟨p.flat_draft.parensIf _, flat_memberDrafts kind ps⟩

theorem flat_optionalCondition : ∀ p? : Option Predicate,
    ∀ x ∈ optionalCondition ctx p?, x.Flat ctx.dialect ctx.bindsArrays .expression
  | none => by simp [optionalCondition]
  | some p => by simpa [optionalCondition] using p.flat_draft

theorem formed_selectItems : ∀ items : List SelectItem,
    ∀ i ∈ selectItems ctx items, i.1.Formed ctx.dialect ctx.bindsArrays
  | [] => by simp [selectItems]
  | ⟨e, _⟩ :: items => forall_mem_cons.2 ⟨e.formed_operand, formed_selectItems items⟩

theorem flat_fetchLimit : ∀ fetch : Option FetchClause,
    ∀ x ∈ fetchLimit ctx fetch, x.1.Flat ctx.dialect ctx.bindsArrays .expression
  | none => by simp [fetchLimit]
  | some ⟨count, _⟩ => by simpa [fetchLimit] using count.formed_operand.flat

theorem formed_pathForm (dialect : ctx.dialect ≠ .hsql) (table : String) : ∀ path : Option SearchPath,
    ∀ p ∈ pathForm ctx table path, p.Formed ctx.dialect ctx.bindsArrays
  | none => by simp [pathForm]
  | some ⟨_, seed, step, _⟩ => by
    have seed := seed.formed_operand.flat
    have step := step.formed_operand.flat
    rintro p ⟨⟩
    exact ⟨dialect, seed, step⟩

/-- The common tables of a query are well-formed, where the dialect has them in subqueries. -/
theorem CommonTable.formed_form (dialect : ctx.dialect ≠ .hsql) : ∀ t : CommonTable,
    (t.form ctx).Formed ctx.dialect ctx.bindsArrays
  | ⟨name, columns, query, recursive, searchPath⟩ => by
    have path := formed_pathForm dialect name searchPath
    have body : (Draft.nested ((query.form ctx).draft ctx.dialect false (pathForm ctx name searchPath))).Flat
        ctx.dialect ctx.bindsArrays .query := fun i => .nested (query.formed_form.flat_draft false _ path i)
    let path? : List Draft := match pathForm ctx name searchPath with
      | some p => [.token (.name p.column)]
      | none => []
    let listing : Draft := listed (columns.map (fun c => token (.name c)) ++ path?)
    have names : listing.Flat ctx.dialect ctx.bindsArrays .query := by
      refine flat_listed fun x hx => ?_
      rcases List.mem_append.1 hx with hx | hx
      · obtain ⟨c, -, rfl⟩ := List.mem_map.1 hx
        exact flat_name c
      · cases h : pathForm ctx name searchPath with
        | none =>
          simp only [path?, h] at hx
          cases hx
        | some p =>
          simp only [path?, h, List.mem_singleton] at hx
          exact hx ▸ flat_name p.column
    rw [CommonTable.form]
    cases columns.isEmpty with
    | true => exact ⟨name, none, _, rfl, nofun, body⟩
    | false =>
      refine ⟨name, some listing, _, rfl, ?_, body⟩
      rintro x ⟨⟩
      exact names

theorem formed_tableForms (dialect : ctx.dialect ≠ .hsql) : ∀ tables : List CommonTable,
    ∀ t ∈ tableForms ctx tables, t.Formed ctx.dialect ctx.bindsArrays
  | [] => by simp [tableForms]
  | table :: tables => forall_mem_cons.2 ⟨table.formed_form dialect, formed_tableForms dialect tables⟩

theorem formed_queryForms : ∀ queries : List Query,
    ∀ q ∈ queryForms ctx queries, q.Formed ctx.dialect ctx.bindsArrays
  | [] => by simp [queryForms]
  | query :: queries => forall_mem_cons.2 ⟨query.formed_form, formed_queryForms queries⟩

/-- A query is well-formed. -/
theorem Query.formed_form : ∀ q : Query, (q.form ctx).Formed ctx.dialect ctx.bindsArrays
  | .select ⟨ctes, distinct, items, tables, filter, groupBy, having, orderBy, offset, fetch⟩ => by
    have offset := formed_optionalOperand offset
    refine .select ⟨fun has => formed_tableForms (Dialect.ne_hsql_of_withInSubquery has) ctes, formed_selectItems items,
      flat_optionalCondition filter, formed_operands groupBy, flat_optionalCondition having, flat_sortKeys orderBy,
      fun x hx => ?_, flat_fetchLimit fetch⟩
    obtain ⟨o, ho, rfl⟩ := Option.map_eq_some_iff.1 hx
    exact (offset o ho).flat
  | .set ⟨ctes, operator, parts, orderBy, offset, fetch⟩ => by
    have offset := formed_optionalOperand offset
    refine .set ⟨fun has => formed_tableForms (Dialect.ne_hsql_of_withInSubquery has) ctes, flat_sortKeys orderBy, fun x hx => ?_,
      flat_fetchLimit fetch⟩ (formed_queryForms parts)
    obtain ⟨o, ho, rfl⟩ := Option.map_eq_some_iff.1 hx
    exact (offset o ho).flat

end

end SqlDialects
