import SqlDialects.Proofs.Draft.Comparisons
import SqlDialects.Proofs.Nesting.Clauses

/-!
# Well-formed comparisons and IN lists

However deep a comparison of rows is taken apart, it is well-formed if its operands are. The only placeholder that
stays plain where casts are asked for is that of an IN list that is bound as an array.
-/

namespace SqlDialects

open Draft

variable {d : Dialect} {arrays : Bool}

/-- The comparisons of all components are well-formed, whatever the operator is. -/
def ComparatorsFlat (d : Dialect) (arrays : Bool) (cs : List Comparator) : Prop :=
  ∀ c ∈ cs, ∀ op, (c op).Flat d arrays .expression

namespace Draft

variable {x y : Draft} {cs : List Comparator}

theorem flat_plainComparison (hx : x.Flat d arrays .expression) (op : ComparisonOperator)
    (hy : y.Flat d arrays .expression) : (plainComparison x op y).Flat d arrays .expression := by
  have operator : (raw (" " ++ op.text ++ " ")).Flat d arrays .expression :=
    flat_raw (by cases d <;> cases op <;> decide)
  exact (hx.append operator).append hy

theorem flat_chain (op : ComparisonOperator) {joint : Keyword} (hj : Region.expression.bars (.keyword joint) = false)
    (h : ComparatorsFlat d arrays cs) : (chain op joint cs).Flat d arrays .expression := by
  refine Flat.parensIf _ (flat_separated (flat_spacedWord hj) fun y hy => ?_)
  obtain ⟨c, hc, rfl⟩ := List.mem_map.1 hy
  exact h c hc op

theorem flat_lexicographic (op : ComparisonOperator) (h : ComparatorsFlat d arrays cs) :
    (lexicographic op cs).Flat d arrays .expression := by
  fun_induction lexicographic op cs with
  | case1 => exact flat_empty
  | case2 c => exact h c List.mem_cons_self op
  | case3 c rest _ ih =>
    obtain ⟨hc, hrest⟩ := List.forall_mem_cons.1 h
    have equal := (((hc op.strict).append (flat_spacedWord (w := .or) rfl)).append (hc .equal)).append
      (flat_spacedWord (w := .and) rfl)
    exact (equal.append (ih hrest)).inQuery.parens

theorem flat_lexicographicIndexed (op : ComparisonOperator) (h : ComparatorsFlat d arrays cs) :
    (lexicographicIndexed op cs).Flat d arrays .expression := by
  fun_induction lexicographicIndexed op cs with
  | case1 => exact flat_empty
  | case2 c => exact h c List.mem_cons_self op
  | case3 c rest _ ih =>
    obtain ⟨hc, hrest⟩ := List.forall_mem_cons.1 h
    have others := ((hc op.strict).append (flat_spacedWord (w := .or) rfl)).append (ih hrest)
    exact ((hc op.loose).append (flat_spacedWord rfl)).append others.inQuery.parens

theorem flat_checkedRowComparison (op : ComparisonOperator) (indexed : Bool) (left right : Nat)
    (h : ComparatorsFlat d arrays cs) : (checkedRowComparison op indexed left right cs).Flat d arrays .expression := by
  have rows : (rowComparison op indexed cs).Flat d arrays .expression := by
    unfold rowComparison
    split
    · exact flat_chain _ rfl h
    · exact flat_chain _ rfl h
    · exact flat_chain _ rfl h
    · exact flat_chain _ rfl h
    · exact flat_ite (flat_lexicographicIndexed op h).inQuery.parens (flat_lexicographic op h)
  exact flat_ite (flat_malformed _) (flat_ite (flat_malformed _) rows)

theorem flat_emptyInList (negated : Bool) : (emptyInList negated).Flat d arrays .expression :=
  flat_raw (by cases d <;> cases negated <;> decide)

theorem flat_writtenInList (hx : x.Flat d arrays .expression) (hy : y.Flat d arrays .expression) (negated : Bool) :
    (writtenInList x y negated).Flat d arrays .expression := by
  intro i
  have opens : d.Leads 0 1 (if negated then " not in(" else " in(") := by cases d <;> cases negated <;> decide
  have closing : (token .rightParen).Formed d arrays .expression (i + 1) i :=
    .token rfl rfl fun start => by omega
  exact (((hx i).append (opening_raw opens i)).append (hy.within i)).append closing

end Draft

namespace Dialect

variable {x y z : Draft} {lhs rhs o p : Operand} {op : ComparisonOperator} {row os : List Operand}
  {cs : List Comparator}

/-- A pair of operands with the first parenthesis behind the first one, and the second one at the end. -/
theorem flat_enclosingSecond {s t : String} (opens : d.Leads 0 1 s) (closes : d.Leads 1 0 t)
    (hx : x.Flat d arrays .expression) (hy : y.Flat d arrays .expression) :
    (x ++ raw s ++ y ++ raw t).Flat d arrays .expression :=
  fun i => (((hx i).append (opening_raw opens i)).append (hy.within i)).append (closing_raw closes i)

theorem flat_of_mem_arrayEquality? (hx : x.Flat hsql arrays .expression) (hy : y.Flat hsql arrays .expression)
    (h : z ∈ arrayEquality? x op y) : z.Flat hsql arrays .expression := by
  unfold arrayEquality? at h
  split at h <;> cases h
  · exact flat_enclosingSecond (by decide) (by decide) hx hy
  · exact flat_enclosingSecond (by decide) (by decide) hx hy

theorem flat_of_mem_arrayDistinction? (hx : x.Flat hsql arrays .expression) (hy : y.Flat hsql arrays .expression)
    (h : z ∈ arrayDistinction? x op y) : z.Flat hsql arrays .expression := by
  unfold arrayDistinction? at h
  split at h <;> cases h
  · exact (hx.append (flat_raw (by decide))).append hy
  · exact (hx.append (flat_raw (by decide))).append hy

theorem flat_of_mem_typedDistinction? (hx : x.Flat hsql arrays .expression) (hy : y.Flat hsql arrays .expression)
    (h : z ∈ typedDistinction? x op y) : z.Flat hsql arrays .expression := by
  have blank : (raw " ").Flat hsql arrays .expression := flat_raw (by decide)
  have between : ∀ s, hsql.Leads 0 0 s →
      (inMode .typed x ++ raw " " ++ raw s ++ raw " " ++ inMode .typed y).Flat hsql arrays .expression := fun s hs =>
    (((hx.typed.append blank).append (flat_raw hs)).append blank).append hy.typed
  unfold typedDistinction? at h
  split at h <;> cases h
  · exact between _ (by decide)
  · exact between _ (by decide)

theorem flat_of_mem_nullSafeEquality? (hx : x.Flat mysql arrays .expression) (hy : y.Flat mysql arrays .expression)
    (h : z ∈ nullSafeEquality? x op y) : z.Flat mysql arrays .expression := by
  have equality : (x ++ raw " <=> " ++ y).Flat mysql arrays .expression := (hx.append (flat_raw (by decide))).append hy
  unfold nullSafeEquality? at h
  split at h <;> cases h
  · exact equality
  · intro i
    have opening : (raw "not(").Formed mysql arrays .expression i (i + 1) := opening_raw (by decide) i
    have operator : (raw " <=> ").Formed mysql arrays .expression (i + 1) (i + 1) := flat_raw (by decide) (i + 1)
    exact (((opening.append (hx.within i)).append operator).append (hy.within i)).append (closing_raw (by decide) i)

theorem flat_of_mem_peculiarComparison? (hl : lhs.Formed d arrays) (hr : rhs.Formed d arrays)
    (h : x ∈ d.peculiarComparison? lhs op rhs) : x.Flat d arrays .expression := by
  unfold peculiarComparison? at h
  split at h
  · split at h
    · cases h
    · rw [Option.orElse_eq_orElse, Option.orElse_eq_or, Option.mem_def, Option.or_eq_some_iff] at h
      rcases h with h | ⟨-, h⟩
      · split at h
        · exact flat_of_mem_arrayEquality? hl.flat hr.flat h
        · cases h
      · split at h
        · exact flat_of_mem_arrayDistinction? hl.flat hr.flat h
        · exact flat_of_mem_typedDistinction? hl.flat hr.flat h
  · split at h
    · cases h
    · exact flat_of_mem_nullSafeEquality? hl.flat hr.flat h
  · cases h

theorem flat_orPeculiar (swapped : Bool) (op : ComparisonOperator) (ho : o.Formed d arrays) (hp : p.Formed d arrays)
    (hx : x.Flat d arrays .expression) : (d.orPeculiar swapped op o p x).Flat d arrays .expression := by
  unfold orPeculiar
  cases hpeculiar : if swapped then d.peculiarComparison? p op o else d.peculiarComparison? o op p with
  | none => exact hx
  | some y =>
    split at hpeculiar
    · exact flat_of_mem_peculiarComparison? hp ho hpeculiar
    · exact flat_of_mem_peculiarComparison? ho hp hpeculiar

/-! ## EXISTS -/

theorem flat_existsRestriction {word : Keyword} (hw : Region.expression.bars (.keyword word) = false)
    {existing : Option Draft} (h : ∀ y ∈ existing, y.Flat d arrays .expression) (hx : x.Flat d arrays .expression) :
    (existsRestriction word existing x).Flat d arrays .expression := by
  refine ((flat_spacedWord hw).append (flat_optional_map fun p hp => ?_)).append hx
  exact (h p hp).inQuery.parens.append (flat_spacedWord rfl)

/-- The query of an EXISTS is inside its parentheses. -/
theorem flat_existsComparison {f : SubqueryFrame} (hf : f.Formed d arrays) (hx : x.Flat d arrays .expression) :
    (d.existsComparison f x).Flat d arrays .expression := by
  have tables : (if d.capabilities.withInSubquery then f.withClause else empty).Flat d arrays .query := by
    split
    · next has => exact hf.withClause has
    · exact flat_empty
  have select : (wordSpace .select).Flat d arrays .query := flat_wordSpace rfl
  have rows := ((tables.append select).append (flat_literal (.integer 1))).append hf.fromClause.inQuery
  have filter : (Draft.optional (f.filter.map fun p => spacedWord .whereWord ++ p)).Flat d arrays .expression :=
    flat_optional_map fun p hp => (flat_spacedWord rfl).append (hf.filter p hp)
  have query : ∀ restriction : Draft, restriction.Flat d arrays .expression →
      (nested (wordSpace .existsWord ++ parens ((if d.capabilities.withInSubquery then f.withClause else empty)
        ++ wordSpace .select ++ token (.literal (.integer 1)) ++ f.fromClause ++ restriction))).Flat d arrays
        .expression := by
    intro restriction h i
    exact .nested (((flat_wordSpace rfl).append (rows.append h.inQuery).parens) i)
  unfold existsComparison
  refine query _ ?_
  split
  · exact flat_existsRestriction rfl hf.filter hx
  · next groupBy h =>
    exact (filter.append (hf.groupBy groupBy h)).append (flat_existsRestriction rfl hf.having hx)

theorem flat_rowWithSubquery (op : ComparisonOperator) (hrow : ∀ o ∈ row, o.Formed d arrays)
    (hx : x.Flat d arrays .expression) {frame : Option SubqueryFrame} (hf : ∀ f ∈ frame, f.Formed d arrays)
    (items : List Operand) (hcs : ComparatorsFlat d arrays cs) :
    (d.rowWithSubquery op row x frame items cs).Flat d arrays .expression := by
  unfold rowWithSubquery
  split
  · exact flat_plainComparison (Operand.flat_listed_drafts hrow).inQuery.parens op hx
  · split
    · exact flat_refuse _
    · next f =>
      exact flat_ite (flat_refuse _) (flat_ite (flat_malformed _)
        (flat_existsComparison (hf f rfl) (flat_checkedRowComparison _ _ _ _ hcs)))

/-! ## The standard comparison -/

mutual

/-- The standard comparison is well-formed if its operands are. -/
theorem flat_standardFrom (swapped : Bool) (op : ComparisonOperator) :
    ∀ o p : Operand, o.Formed d arrays → p.Formed d arrays →
      (d.standardFrom swapped op o p).Flat d arrays .expression := by
  intro o p ho hp
  have plain : (if swapped then plainComparison p.draft op o.draft
      else plainComparison o.draft op p.draft).Flat d arrays .expression :=
    flat_ite (flat_plainComparison hp.flat op ho.flat) (flat_plainComparison ho.flat op hp.flat)
  match o, p, ho, hp with
  | .tuple xs, .tuple ys, .tuple hx, .tuple hy =>
    have components := comparatorsFlat_compareEach swapped xs ys hx hy
    rw [standardFrom]
    exact flat_ite (flat_malformed _) (flat_ite plain (flat_checkedRowComparison _ _ _ _ components))
  | .tuple xs, .subquery _ _ _ items, .tuple hx, .subquery hdraft hframe hitems =>
    have components := comparatorsFlat_compareEach true xs items hx hitems
    rw [standardFrom]
    exact flat_ite (flat_malformed _) (flat_rowWithSubquery op hx hdraft hframe items components)
  | .subquery _ _ _ items, .tuple ys, .subquery hdraft hframe hitems, .tuple hy =>
    have components := comparatorsFlat_compareEach false items ys hitems hy
    rw [standardFrom]
    exact flat_ite (flat_rowWithSubquery op hy hdraft hframe items components) (flat_malformed _)
  | .tuple _, .scalar _ _ _, _, _ => exact flat_malformed _
  | .scalar _ _ _, .tuple _, _, _ => exact flat_malformed _
  | .scalar _ _ _, .scalar _ _ _, _, _ => simpa only [standardFrom] using plain
  | .scalar _ _ _, .subquery _ _ _ _, _, _ => simpa only [standardFrom] using plain
  | .subquery _ _ _ _, .scalar _ _ _, _, _ => simpa only [standardFrom] using plain
  | .subquery _ _ _ _, .subquery _ _ _ _, _, _ => simpa only [standardFrom] using plain

/-- The comparisons of components are well-formed if these are. -/
theorem comparatorsFlat_compareEach (swapped : Bool) :
    ∀ xs ys : List Operand, (∀ o ∈ xs, o.Formed d arrays) → (∀ o ∈ ys, o.Formed d arrays) →
      ComparatorsFlat d arrays (d.compareEach swapped xs ys)
  | [], _, _, _ => by
    rw [compareEach]
    · nofun
    · nofun
  | _ :: _, [], _, _ => by
    rw [compareEach]
    · nofun
    · nofun
  | x :: xs, y :: ys, hx, hy => by
    obtain ⟨hx, hxs⟩ := List.forall_mem_cons.1 hx
    obtain ⟨hy, hys⟩ := List.forall_mem_cons.1 hy
    rw [compareEach]
    refine List.forall_mem_cons.2 ⟨fun op => ?_, comparatorsFlat_compareEach swapped xs ys hxs hys⟩
    exact flat_orPeculiar swapped op hx hy (flat_standardFrom swapped op x y hx hy)

end

theorem flat_compare (hl : lhs.Formed d arrays) (op : ComparisonOperator) (hr : rhs.Formed d arrays) :
    (d.compare lhs op rhs).Flat d arrays .expression :=
  flat_orPeculiar false op hl hr (flat_standardFrom false op lhs rhs hl hr)

theorem flat_compareRows (op : ComparisonOperator) (indexed : Bool) (hx : ∀ o ∈ row, o.Formed d arrays)
    (hy : ∀ o ∈ os, o.Formed d arrays) : (d.compareRows op indexed row os).Flat d arrays .expression :=
  flat_checkedRowComparison _ _ _ _ (comparatorsFlat_compareEach false row os hx hy)

theorem flat_compareWithSubquery (hrow : ∀ o ∈ row, o.Formed d arrays) (op : ComparisonOperator)
    (ho : o.Formed d arrays) : (d.compareWithSubquery row op o).Flat d arrays .expression := by
  unfold compareWithSubquery
  split
  · next items =>
    cases ho with
    | subquery hdraft hframe hitems =>
      exact flat_rowWithSubquery op hrow hdraft hframe items (comparatorsFlat_compareEach true row items hrow hitems)
  · exact flat_malformed _

/-! ## Arrays -/

theorem flat_arrayMembership (hx : x.Flat d arrays .expression) (hy : y.Flat d arrays .expression) (negated : Bool) :
    (d.arrayMembership x y negated).Flat d arrays .expression := by
  unfold arrayMembership
  split
  · exact flat_refuse _
  · intro i
    have opens : hsql.Leads 0 2 (if negated then " NOT IN(UNNEST(" else " IN(UNNEST(") := by
      cases negated <;> decide
    have inner : y.Formed hsql arrays .expression (i + 2) (i + 2) := hy.within (i + 1)
    exact (((hx i).append (opening_raw opens i)).append inner).append (closing_raw (by decide) i)
  · intro i
    have opens : d.Leads 0 1 (if negated then " <> ALL(" else " = ANY(") := by cases d <;> cases negated <;> decide
    have closing : (token .rightParen).Formed d arrays .expression (i + 1) i :=
      .token rfl rfl fun start => by omega
    exact (((hx i).append (opening_raw opens i)).append (hy.within i)).append closing

/-- A list that is bound as an array has one placeholder, behind the word of the test. -/
theorem flat_arrayMembership_placeholder (binds : arrays = true) (hx : x.Flat d arrays .expression)
    (source : ParameterSource) (element : ResolvedType) (negated : Bool) :
    (d.arrayMembership x (arrayPlaceholder source element) negated).Flat d arrays .expression := by
  have bound : ∀ {s n} (i : Nat), s ∈ arrayOpenings → d.Leads 0 n s →
      (x ++ raw s ++ arrayPlaceholder source element).Formed d arrays .expression i (i + n) := by
    intro s n i operator opens
    have text : raw s = token (.raw s) := by
      refine raw_of_ne ?_
      rintro rfl
      exact absurd operator (by decide)
    have nesting := Lexical.nesting_add opens.1.2 i
    rw [Nat.zero_add, Nat.add_comm] at nesting
    rw [text]
    exact .arrayBound source element binds operator (hx i) nesting
  unfold arrayMembership
  split
  · exact flat_refuse _
  · intro i
    have test := bound i (s := if negated then " NOT IN(UNNEST(" else " IN(UNNEST(") (n := 2)
      (by cases negated <;> decide) (by cases negated <;> decide)
    exact test.append (closing_raw (by decide) i)
  · intro i
    have test := bound i (s := if negated then " <> ALL(" else " = ANY(") (n := 1)
      (by cases negated <;> decide) (by cases d <;> cases negated <;> decide)
    exact test.append (.token rfl rfl fun start => by omega)

end Dialect

/-! ## IN lists -/

namespace TranslationContext

variable {ctx : TranslationContext} {test : Operand} {row list : List Operand}

theorem flat_inMultiValued {x : Draft} (hx : x.Flat ctx.dialect ctx.bindsArrays .expression) (name : String)
    (element : ResolvedType) (negated : Bool) :
    (ctx.inMultiValued x name element negated).Flat ctx.dialect ctx.bindsArrays .expression := by
  unfold inMultiValued
  split
  · next binds => exact Dialect.flat_arrayMembership_placeholder binds hx _ _ negated
  · split
    · exact flat_refuse _
    · exact flat_emptyInList negated
    · exact flat_writtenInList hx (flat_listed_map fun _ _ => flat_parameter _) negated

theorem flat_rowItems (op : ComparisonOperator) {joint : Draft} (hj : joint.Flat d arrays .expression)
    (hrow : ∀ o ∈ row, o.Formed d arrays) (hlist : ∀ o ∈ list, o.Formed d arrays) :
    (rowItems d op joint row list).Flat d arrays .expression := by
  fun_induction rowItems d op joint row list with
  | case1 => exact flat_empty
  | case2 joint values items ih =>
    obtain ⟨first, rest⟩ := List.forall_mem_cons.1 hlist
    have next : (spacedWord (if op = .equal then .or else .and)).Flat d arrays .expression :=
      flat_spacedWord (by split <;> rfl)
    exact (hj.append (Dialect.flat_compareRows op false hrow first.components)).append (ih next rest)
  | case3 => exact flat_malformed _

theorem flat_inItems (htest : test.Formed ctx.dialect ctx.bindsArrays)
    (hlist : ∀ o ∈ list, o.Formed ctx.dialect ctx.bindsArrays) (negated : Bool) :
    (ctx.inItems test list negated).Flat ctx.dialect ctx.bindsArrays .expression := by
  unfold inItems
  split
  · next source element array =>
    split at array
    · next binds => exact Dialect.flat_arrayMembership_placeholder binds htest.flat source element negated
    · cases array
  · exact flat_writtenInList htest.flat (Operand.flat_listed_drafts hlist) negated

theorem flat_inList (htest : test.Formed ctx.dialect ctx.bindsArrays)
    (hlist : ∀ o ∈ list, o.Formed ctx.dialect ctx.bindsArrays) (negated : Bool) :
    (ctx.inList test list negated).Flat ctx.dialect ctx.bindsArrays .expression := by
  unfold inList
  split
  · exact flat_emptyInList negated
  · exact flat_inMultiValued htest.flat _ _ negated
  · split
    · next row =>
      have rows : (rowItems ctx.dialect (if negated then .notEqual else .equal) .empty row list).Flat ctx.dialect
          ctx.bindsArrays .expression := flat_rowItems _ flat_empty htest.components hlist
      exact flat_ite (flat_inItems htest hlist negated) rows.inQuery.parens
    · exact flat_inItems htest hlist negated

end TranslationContext

end SqlDialects
