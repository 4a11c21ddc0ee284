import SqlDialects.Render.InList
import SqlDialects.Proofs.Draft.Clauses

/-!
# Comparisons and IN lists

However deep a comparison of rows is taken apart, it is put together from the drafts of the operands, from
operators and from EXISTS over them, if the operators have the property of the parts
(`Dialect.OperatorsHave`). The comparisons of components are functions of the operator.
-/

namespace SqlDialects

open Lexical

variable {d : Dialect} {S : Draft → Prop}

/-- The operators of the dialect have the property. -/
def Dialect.OperatorsHave (d : Dialect) (S : Draft → Prop) : Prop :=
  ∀ s ∈ d.operatorTexts, S (.token (.raw s))

theorem Dialect.OperatorsHave.raw (ops : d.OperatorsHave S) {s : String} (h : s ∈ d.operatorTexts) :
    (Draft.raw s).MadeOf d S := by
  unfold Draft.raw
  split
  · exact .empty
  · exact .part (ops s h)

theorem ComparisonOperator.spacedText_mem (d : Dialect) (op : ComparisonOperator) :
    " " ++ op.text ++ " " ∈ d.operatorTexts := by
  have known : op.spacedText ∈ Dialect.sharedOperators := by cases op <;> decide
  exact List.mem_append_left _ known

/-- The comparisons of all components are put together from queries with the property, whatever the operator
is. -/
def ComparatorsMadeOf (d : Dialect) (S : Draft → Prop) (cs : List Comparator) : Prop :=
  ∀ c ∈ cs, ∀ op, (c op).MadeOf d S

namespace Draft

variable {x y : Draft} {cs : List Comparator}

theorem madeOf_plainComparison (ops : d.OperatorsHave S) (hx : x.MadeOf d S) (op : ComparisonOperator)
    (hy : y.MadeOf d S) : (plainComparison x op y).MadeOf d S :=
  (hx.append (ops.raw (op.spacedText_mem d))).append hy

theorem madeOf_chain (op : ComparisonOperator) {joint : Keyword} (hj : joint.isCommon = true)
    (h : ComparatorsMadeOf d S cs) : (chain op joint cs).MadeOf d S := by
  refine madeOf_parensIf (madeOf_separated (madeOf_spacedWord hj) fun y hy => ?_)
  obtain ⟨c, hc, rfl⟩ := List.mem_map.1 hy
  exact h c hc op

theorem madeOf_lexicographic (op : ComparisonOperator) (h : ComparatorsMadeOf d S cs) :
    (lexicographic op cs).MadeOf d S := by
  fun_induction lexicographic op cs with
  | case1 => exact .empty
  | case2 c => exact h c List.mem_cons_self op
  | case3 c rest _ ih =>
    obtain ⟨hc, hrest⟩ := List.forall_mem_cons.1 h
    have equal := (((hc op.strict).append (madeOf_spacedWord (w := .or) rfl)).append (hc .equal)).append
      (madeOf_spacedWord (w := .and) rfl)
    exact madeOf_parens (equal.append (ih hrest))

theorem madeOf_lexicographicIndexed (op : ComparisonOperator) (h : ComparatorsMadeOf d S cs) :
    (lexicographicIndexed op cs).MadeOf d S := by
  fun_induction lexicographicIndexed op cs with
  | case1 => exact .empty
  | case2 c => exact h c List.mem_cons_self op
  | case3 c rest _ ih =>
    obtain ⟨hc, hrest⟩ := List.forall_mem_cons.1 h
    have others := ((hc op.strict).append (madeOf_spacedWord (w := .or) rfl)).append (ih hrest)
    exact ((hc op.loose).append (madeOf_spacedWord rfl)).append (madeOf_parens others)

theorem madeOf_rowComparison (op : ComparisonOperator) (indexed : Bool) (h : ComparatorsMadeOf d S cs) :
    (rowComparison op indexed cs).MadeOf d S := by
  unfold rowComparison
  split
  · exact madeOf_chain _ rfl h
  · exact madeOf_chain _ rfl h
  · exact madeOf_chain _ rfl h
  · exact madeOf_chain _ rfl h
  · split
    · exact madeOf_parens (madeOf_lexicographicIndexed op h)
    · exact madeOf_lexicographic op h

theorem madeOf_checkedRowComparison (op : ComparisonOperator) (indexed : Bool) (left right : Nat)
    (h : ComparatorsMadeOf d S cs) : (checkedRowComparison op indexed left right cs).MadeOf d S := by
  unfold checkedRowComparison
  exact madeOf_ite (madeOf_malformed _) (madeOf_ite (madeOf_malformed _) (madeOf_rowComparison op indexed h))

end Draft

namespace Dialect

open Draft

variable {x y z : Draft} {lhs rhs o p : Operand} {op : ComparisonOperator} {row os : List Operand}
  {cs : List Comparator}

theorem madeOf_of_mem_arrayEquality? (ops : hsql.OperatorsHave S) (hx : x.MadeOf hsql S)
    (hy : y.MadeOf hsql S) (h : z ∈ arrayEquality? x op y) : z.MadeOf hsql S := by
  have close : (raw ")").MadeOf hsql S := madeOf_fixed (by decide)
  unfold arrayEquality? at h
  split at h <;> cases h
  · exact ((hx.append (ops.raw (by decide))).append hy).append close
  · exact ((hx.append (ops.raw (by decide))).append hy).append close

theorem madeOf_of_mem_arrayDistinction? (ops : hsql.OperatorsHave S) (hx : x.MadeOf hsql S)
    (hy : y.MadeOf hsql S) (h : z ∈ arrayDistinction? x op y) : z.MadeOf hsql S := by
  unfold arrayDistinction? at h
  split at h <;> cases h
  · exact (hx.append (ops.raw (by decide))).append hy
  · exact (hx.append (ops.raw (by decide))).append hy

theorem madeOf_of_mem_typedDistinction? (ops : hsql.OperatorsHave S) (hx : x.MadeOf hsql S)
    (hy : y.MadeOf hsql S) (h : z ∈ typedDistinction? x op y) : z.MadeOf hsql S := by
  have blank : (raw " ").MadeOf hsql S := madeOf_fixed (by decide)
  have between : ∀ s ∈ hsql.operatorTexts,
      (inMode .typed x ++ raw " " ++ raw s ++ raw " " ++ inMode .typed y).MadeOf hsql S := fun s hs =>
    ((((MadeOf.inMode hx).append blank).append (ops.raw hs)).append blank).append (.inMode hy)
  unfold typedDistinction? at h
  split at h <;> cases h
  · exact between _ (by decide)
  · exact between _ (by decide)

theorem madeOf_of_mem_nullSafeEquality? (ops : mysql.OperatorsHave S) (hx : x.MadeOf mysql S)
    (hy : y.MadeOf mysql S) (h : z ∈ nullSafeEquality? x op y) : z.MadeOf mysql S := by
  have operator : (raw " <=> ").MadeOf mysql S := ops.raw (by decide)
  unfold nullSafeEquality? at h
  split at h <;> cases h
  · exact (hx.append operator).append hy
  · exact ((((madeOf_fixed (by decide)).append hx).append operator).append hy).append (madeOf_fixed (by decide))

theorem madeOf_of_mem_peculiarComparison? (ops : d.OperatorsHave S) (hl : lhs.MadeOf d S) (hr : rhs.MadeOf d S)
    (h : x ∈ d.peculiarComparison? lhs op rhs) : x.MadeOf d S := by
  unfold peculiarComparison? at h
  split at h
  · split at h
    · cases h
    · rw [Option.orElse_eq_orElse, Option.orElse_eq_or, Option.mem_def, Option.or_eq_some_iff] at h
      rcases h with h | ⟨-, h⟩
      · split at h
        · exact madeOf_of_mem_arrayEquality? ops hl.draft hr.draft h
        · cases h
      · split at h
        · exact madeOf_of_mem_arrayDistinction? ops hl.draft hr.draft h
        · exact madeOf_of_mem_typedDistinction? ops hl.draft hr.draft h
  · split at h
    · cases h
    · exact madeOf_of_mem_nullSafeEquality? ops hl.draft hr.draft h
  · cases h

theorem madeOf_orPeculiar (ops : d.OperatorsHave S) (swapped : Bool) (op : ComparisonOperator)
    (ho : o.MadeOf d S) (hp : p.MadeOf d S) (hx : x.MadeOf d S) : (d.orPeculiar swapped op o p x).MadeOf d S := by
  unfold orPeculiar
  cases hpeculiar : if swapped then d.peculiarComparison? p op o else d.peculiarComparison? o op p with
  | none => exact hx
  | some y =>
    split at hpeculiar
    · exact madeOf_of_mem_peculiarComparison? ops hp ho hpeculiar
    · exact madeOf_of_mem_peculiarComparison? ops ho hp hpeculiar

theorem madeOf_rowWithSubquery (ops : d.OperatorsHave S) (op : ComparisonOperator)
    (hrow : ∀ o ∈ row, o.MadeOf d S) (hx : x.MadeOf d S) {frame : Option SubqueryFrame} (hf : ∀ f ∈ frame, f.Hosts d S) (items : List Operand)
    (hcs : ComparatorsMadeOf d S cs) : (d.rowWithSubquery op row x frame items cs).MadeOf d S := by
  unfold rowWithSubquery
  split
  · exact madeOf_plainComparison ops (madeOf_parens (Operand.madeOf_listed_drafts hrow)) op hx
  · split
    · exact .refuse _
    · next f =>
      refine madeOf_ite (.refuse _) (madeOf_ite (madeOf_malformed _) (.part ?_))
      exact hf f rfl _ (madeOf_checkedRowComparison _ _ _ _ hcs)

mutual

/-- The standard comparison is put together from what its operands are. -/
theorem madeOf_standardFrom (ops : d.OperatorsHave S) (swapped : Bool) (op : ComparisonOperator) :
    ∀ o p : Operand, o.MadeOf d S → p.MadeOf d S → (d.standardFrom swapped op o p).MadeOf d S := by
  intro o p ho hp
  have plain : (if swapped then plainComparison p.draft op o.draft
      else plainComparison o.draft op p.draft).MadeOf d S :=
    madeOf_ite (madeOf_plainComparison ops hp.draft op ho.draft)
      (madeOf_plainComparison ops ho.draft op hp.draft)
  match o, p, ho, hp with
  | .tuple xs, .tuple ys, .tuple hx, .tuple hy =>
    have components := comparatorsMadeOf_compareEach ops swapped xs ys hx hy
    rw [standardFrom]
    exact madeOf_ite (madeOf_malformed _) (madeOf_ite plain (madeOf_checkedRowComparison _ _ _ _ components))
  | .tuple xs, .subquery _ _ _ items, .tuple hx, .subquery hdraft hframe hitems =>
    have components := comparatorsMadeOf_compareEach ops true xs items hx hitems
    rw [standardFrom]
    exact madeOf_ite (madeOf_malformed _) (madeOf_rowWithSubquery ops op hx hdraft hframe items components)
  | .subquery _ _ _ items, .tuple ys, .subquery hdraft hframe hitems, .tuple hy =>
    have components := comparatorsMadeOf_compareEach ops false items ys hitems hy
    rw [standardFrom]
    exact madeOf_ite (madeOf_rowWithSubquery ops op hy hdraft hframe items components) (madeOf_malformed _)
  | .tuple _, .scalar _ _ _, _, _ => exact madeOf_malformed _
  | .scalar _ _ _, .tuple _, _, _ => exact madeOf_malformed _
  | .scalar _ _ _, .scalar _ _ _, _, _ => simpa only [standardFrom] using plain
  | .scalar _ _ _, .subquery _ _ _ _, _, _ => simpa only [standardFrom] using plain
  | .subquery _ _ _ _, .scalar _ _ _, _, _ => simpa only [standardFrom] using plain
  | .subquery _ _ _ _, .subquery _ _ _ _, _, _ => simpa only [standardFrom] using plain

/-- The comparisons of components are put together from what these are. -/
theorem comparatorsMadeOf_compareEach (ops : d.OperatorsHave S) (swapped : Bool) :
    ∀ xs ys : List Operand, (∀ o ∈ xs, o.MadeOf d S) → (∀ o ∈ ys, o.MadeOf d S) →
      ComparatorsMadeOf d S (d.compareEach swapped xs ys)
  | [], _, _, _ => by
    rw [compareEach]
    · nofun
    · nofun
  | _ :: _, [], _, _ => by
    rw [compareEach]
    · nofun
    · nofun
  | x :: xs, y :: ys, hx, hy => by
    obtain ⟨hx, hxs⟩ := List.forall_mem_cons.1 hx
    obtain ⟨hy, hys⟩ := List.forall_mem_cons.1 hy
    rw [compareEach]
    refine List.forall_mem_cons.2 ⟨fun op => ?_, comparatorsMadeOf_compareEach ops swapped xs ys hxs hys⟩
    exact madeOf_orPeculiar ops swapped op hx hy (madeOf_standardFrom ops swapped op x y hx hy)

end

theorem madeOf_compare (ops : d.OperatorsHave S) (hl : lhs.MadeOf d S) (op : ComparisonOperator)
    (hr : rhs.MadeOf d S) : (d.compare lhs op rhs).MadeOf d S :=
  madeOf_orPeculiar ops false op hl hr (madeOf_standardFrom ops false op lhs rhs hl hr)

theorem madeOf_compareRows (ops : d.OperatorsHave S) (op : ComparisonOperator) (indexed : Bool)
    (hx : ∀ o ∈ row, o.MadeOf d S) (hy : ∀ o ∈ os, o.MadeOf d S) : (d.compareRows op indexed row os).MadeOf d S :=
  madeOf_checkedRowComparison _ _ _ _ (comparatorsMadeOf_compareEach ops false row os hx hy)

theorem madeOf_compareWithSubquery (ops : d.OperatorsHave S) (hrow : ∀ o ∈ row, o.MadeOf d S)
    (op : ComparisonOperator) (ho : o.MadeOf d S) : (d.compareWithSubquery row op o).MadeOf d S := by
  unfold compareWithSubquery
  split
  · next items =>
    cases ho with
    | subquery hdraft hframe hitems =>
      exact madeOf_rowWithSubquery ops op hrow hdraft hframe items
        (comparatorsMadeOf_compareEach ops true row items hrow hitems)
  · exact madeOf_malformed _

theorem madeOf_arrayMembership (ops : d.OperatorsHave S) (hx : x.MadeOf d S) (hy : y.MadeOf d S)
    (negated : Bool) : (d.arrayMembership x y negated).MadeOf d S := by
  unfold arrayMembership
  split
  · exact .refuse _
  · have operator : (raw (if negated then " NOT IN(UNNEST(" else " IN(UNNEST(")).MadeOf hsql S :=
      ops.raw (by cases negated <;> decide)
    exact ((hx.append operator).append hy).append (madeOf_fixed (by decide))
  · next notMysql notHsql =>
    have operator : (raw (if negated then " <> ALL(" else " = ANY(")).MadeOf d S :=
      ops.raw (by cases d <;> first | contradiction | (cases negated <;> decide))
    exact ((hx.append operator).append hy).append (.token trivial)

end Dialect

/-! ## IN lists -/

namespace Draft

variable {x y : Draft}

theorem madeOf_emptyInList (negated : Bool) : (emptyInList negated).MadeOf d S := by
  cases negated <;> exact madeOf_raw (.shared (by decide))

theorem madeOf_writtenInList (ops : d.OperatorsHave S) (hx : x.MadeOf d S) (hy : y.MadeOf d S)
    (negated : Bool) : (writtenInList x y negated).MadeOf d S := by
  have operator : (raw (if negated then " not in(" else " in(")).MadeOf d S :=
    ops.raw (List.mem_append_left _ (by cases negated <;> decide))
  exact ((hx.append operator).append hy).append (.token trivial)

end Draft

namespace TranslationContext

open Draft

variable {ctx : TranslationContext} {test : Operand} {row list : List Operand}

theorem madeOf_inMultiValued (ops : ctx.dialect.OperatorsHave S) {x : Draft} (hx : x.MadeOf ctx.dialect S)
    (name : String) (element : ResolvedType) (negated : Bool) :
    (ctx.inMultiValued x name element negated).MadeOf ctx.dialect S := by
  unfold inMultiValued
  split
  · exact Dialect.madeOf_arrayMembership ops hx (.placeholder _) negated
  · split
    · exact .refuse _
    · exact madeOf_emptyInList negated
    · exact madeOf_writtenInList ops hx (madeOf_listed_map fun _ _ => madeOf_parameter _) negated

/-- The comparisons of a row with the rows in a list, given each of them. -/
theorem madeOf_rowItems (op : ComparisonOperator) {joint : Draft} (hj : joint.MadeOf d S)
    (rows : ∀ values, .tuple values ∈ list → (d.compareRows op false row values).MadeOf d S) :
    (rowItems d op joint row list).MadeOf d S := by
  fun_induction rowItems d op joint row list with
  | case1 => exact .empty
  | case2 joint values items ih =>
    have next : (spacedWord (if op = .equal then .or else .and)).MadeOf d S :=
      madeOf_spacedWord (by split <;> rfl)
    have first := rows values List.mem_cons_self
    exact (hj.append first).append (ih next fun values h => rows values (List.mem_cons_of_mem _ h))
  | case3 => exact madeOf_malformed _

theorem madeOf_inItems (ops : ctx.dialect.OperatorsHave S) (htest : test.MadeOf ctx.dialect S)
    (hlist : ∀ o ∈ list, o.MadeOf ctx.dialect S) (negated : Bool) : (ctx.inItems test list negated).MadeOf ctx.dialect S := by
  unfold inItems
  split
  · exact Dialect.madeOf_arrayMembership ops htest.draft (.placeholder _) negated
  · exact madeOf_writtenInList ops htest.draft (Operand.madeOf_listed_drafts hlist) negated

theorem madeOf_inList (ops : ctx.dialect.OperatorsHave S) (htest : test.MadeOf ctx.dialect S)
    (hlist : ∀ o ∈ list, o.MadeOf ctx.dialect S) (negated : Bool) : (ctx.inList test list negated).MadeOf ctx.dialect S := by
  unfold inList
  split
  · exact madeOf_emptyInList negated
  · exact madeOf_inMultiValued ops htest.draft _ _ negated
  · split
    · next row =>
      split
      · exact madeOf_inItems ops htest hlist negated
      · cases htest with
        | tuple hrow =>
          refine madeOf_parens (madeOf_rowItems _ .empty fun values hvalues => ?_)
          exact Dialect.madeOf_compareRows ops _ false hrow (hlist _ hvalues).components
    · exact madeOf_inItems ops htest hlist negated

end TranslationContext

end SqlDialects
