import SqlDialects.Render.Choice
import SqlDialects.Proofs.Draft.Vocabulary

/-!
# Clauses made of ordinary tokens and queries

A clause is put together from ordinary tokens and queries if its parts are, which is one lemma for each
clause. It is so for an operand if it is for every draft in it, and if the property that the queries have is
one of every EXISTS over the operand (`SubqueryFrame.Hosts`).
-/

namespace SqlDialects

open Lexical Draft

variable {d : Dialect} {S : Draft → Prop}

/-- An EXISTS over the subquery is a query with the property, whatever it looks for. -/
def SubqueryFrame.Hosts (d : Dialect) (S : Draft → Prop) (f : SubqueryFrame) : Prop :=
  ∀ x : Draft, x.MadeOf d S → S (d.existsComparison f x)

/-- Every draft in an operand is put together from queries with the property. -/
inductive Operand.MadeOf (d : Dialect) (S : Draft → Prop) : Operand → Prop where
  | scalar {shape : ScalarShape} {type : Option ResolvedType} {x : Draft} :
    x.MadeOf d S → MadeOf d S (.scalar shape type x)
  | tuple {components : List Operand} : (∀ o ∈ components, MadeOf d S o) → MadeOf d S (.tuple components)
  | subquery {type : Option ResolvedType} {x : Draft} {frame : Option SubqueryFrame}
    {items : List Operand} :
    x.MadeOf d S → (∀ f ∈ frame, f.Hosts d S) → (∀ o ∈ items, MadeOf d S o) →
      MadeOf d S (.subquery type x frame items)

namespace Operand

variable {o : Operand} {os : List Operand}

theorem MadeOf.draft (h : o.MadeOf d S) : o.draft.MadeOf d S := by
  induction h with
  | scalar hx => exact hx
  | tuple _ ih =>
    rw [Operand.draft, drafts_eq_map]
    exact madeOf_parens (madeOf_listed_map ih)
  | subquery hx _ _ _ => exact hx

theorem MadeOf.components (h : (Operand.tuple os).MadeOf d S) : ∀ o ∈ os, o.MadeOf d S := by
  cases h with
  | tuple components => exact components

theorem madeOf_of_mem_drafts (h : ∀ o ∈ os, o.MadeOf d S) {x : Draft} (hx : x ∈ drafts os) :
    x.MadeOf d S := by
  rw [drafts_eq_map] at hx
  obtain ⟨o, ho, rfl⟩ := List.mem_map.1 hx
  exact (h o ho).draft

theorem madeOf_listed_drafts (h : ∀ o ∈ os, o.MadeOf d S) : (listed (drafts os)).MadeOf d S :=
  madeOf_listed fun _ hx => madeOf_of_mem_drafts h hx

/-- A cast around an operand is the only difference to the operand. -/
theorem bare_casted (d : Dialect) (o : Operand) : (o.casted d).bare = o.draft.bare := by
  unfold Operand.casted
  split
  · exact bare_castAs d _ _
  · rfl

theorem MadeOf.casted (h : o.MadeOf d S) : (o.casted d).MadeOf d S := by
  unfold Operand.casted
  split
  · exact madeOf_castAs (.inMode h.draft)
  · exact h.draft

end Operand

/-! ## Choices -/

namespace Choice

/-- Every draft in a choice is put together from queries with the property. -/
structure MadeOf (d : Dialect) (S : Draft → Prop) (c : Choice) : Prop where
  subject : ∀ x ∈ c.subject, x.MadeOf d S
  arms : ∀ arm ∈ c.arms, arm.test.MadeOf d S ∧ arm.result.MadeOf d S
  otherwise : ∀ o ∈ c.otherwise, o.MadeOf d S

theorem madeOf_armDraft {arm : ChoiceArm} (h : arm.test.MadeOf d S ∧ arm.result.MadeOf d S) (cast : Bool) :
    (armDraft d cast arm).MadeOf d S := by
  have result : (if cast then arm.result.casted d else arm.result.draft).MadeOf d S := by
    split
    · exact h.2.casted
    · exact h.2.draft
  exact (((madeOf_spacedWord rfl).append h.1).append (madeOf_spacedWord rfl)).append result

theorem madeOf_armDrafts {arms : List ChoiceArm}
    (h : ∀ arm ∈ arms, arm.test.MadeOf d S ∧ arm.result.MadeOf d S) (cast : Bool) :
    (armDrafts d cast arms).MadeOf d S := by
  induction arms generalizing cast with
  | nil => exact .empty
  | cons arm arms ih =>
    obtain ⟨harm, harms⟩ := List.forall_mem_cons.1 h
    exact .append (madeOf_armDraft harm cast) (ih harms false)

theorem MadeOf.standard {c : Choice} (h : c.MadeOf d S) (cast : Bool) : (c.standard d cast).MadeOf d S := by
  have subject : (Draft.optional (c.subject.map fun s => space ++ s)).MadeOf d S :=
    madeOf_optional_map fun x hx => madeOf_space.append (h.subject x hx)
  have otherwise : (Draft.optional (c.otherwise.map fun o => spacedWord .elseWord ++ o.draft)).MadeOf d S :=
    madeOf_optional_map fun o ho => (madeOf_spacedWord rfl).append (h.otherwise o ho).draft
  unfold Choice.standard
  split
  · exact madeOf_malformed _
  · exact ((((madeOf_word rfl).append subject).append (madeOf_armDrafts h.arms cast)).append otherwise).append
      (madeOf_spaceWord rfl)

theorem bare_armDraft (cast : Bool) (arm : ChoiceArm) :
    (armDraft d cast arm).bare = (armDraft d false arm).bare := by
  cases cast with
  | false => rfl
  | true => exact congrArg (Draft.append _) (arm.result.bare_casted d)

theorem bare_armDrafts (cast : Bool) (arms : List ChoiceArm) :
    (armDrafts d cast arms).bare = (armDrafts d false arms).bare := by
  cases arms with
  | nil => rfl
  | cons arm arms => exact congrArg (Draft.append · _) (bare_armDraft cast arm)

/-- A cast around the first result is the only difference that it makes to ask for one. -/
theorem bare_standard (cast : Bool) (c : Choice) : (c.standard d cast).bare = (c.standard d false).bare := by
  obtain ⟨subject, arms, otherwise⟩ := c
  cases arms with
  | nil => rfl
  | cons arm arms =>
    have same := bare_armDrafts (d := d) cast (arm :: arms)
    exact congrArg (fun x => Draft.append (.append (.append _ x) _) _) same

theorem MadeOf.draft {c : Choice} (h : c.MadeOf d S) : (c.draft d).MadeOf d S := by
  unfold Choice.draft
  split
  · exact .byMode (h.standard _) (h.standard _) ((bare_standard _ c).trans (bare_standard _ c).symm)
  · exact h.standard _

end Choice

/-! ## Parts of clauses -/

/-- Every draft in row limits is put together from queries with the property. -/
structure RowLimit.MadeOf (d : Dialect) (S : Draft → Prop) (l : RowLimit) : Prop where
  offset : ∀ x ∈ l.offset, x.MadeOf d S
  fetch : ∀ x ∈ l.fetch, x.1.MadeOf d S

namespace Dialect

variable {x y : Draft} {o : Operand} {os : List Operand}

theorem madeOf_arithmetic (op : ArithmeticOperator) (hx : x.MadeOf d S) (hy : y.MadeOf d S) :
    (d.arithmetic op x y).MadeOf d S := by
  have spaced : (raw (" " ++ op.text ++ " ")).MadeOf d S := madeOf_raw (.shared (by cases op <;> decide))
  unfold arithmetic standardArithmetic
  split
  · split
    · exact ((((madeOf_fixed (by decide)).append hx).append (madeOf_fixed (by decide))).append hy).append
        (madeOf_fixed (by decide))
    · next other =>
      have operator : (raw op.text).MadeOf hsql S :=
        madeOf_fixed (by cases op <;> first | contradiction | decide)
      have blank : (raw " ").MadeOf hsql S := madeOf_fixed (by decide)
      have left : (raw "(" ++ inMode .typed x ++ raw " ").MadeOf hsql S :=
        ((madeOf_fixed (by decide)).append (.inMode hx)).append blank
      exact (((left.append operator).append blank).append (.inMode hy)).append (madeOf_fixed (by decide))
  · exact madeOf_parens ((hx.append spaced).append hy)

theorem madeOf_booleanCondition (hx : x.MadeOf d S) (negated : Bool) :
    (d.booleanCondition x negated).MadeOf d S := by
  unfold booleanCondition standardBoolean
  split
  · exact madeOf_ite (((madeOf_fixed (by decide)).append hx).append (madeOf_fixed (by decide))) hx
  · exact madeOf_ite ((madeOf_wordSpace rfl).append hx) hx

theorem madeOf_nullCheck (h : o.MadeOf d S) (negated : Bool) : (nullCheck o negated).MadeOf d S := by
  have check : (spaceWord (if negated then .isNotNull else .isNull)).MadeOf d S :=
    madeOf_spaceWord (by cases negated <;> rfl)
  simp only [nullCheck]
  split
  · next c cs =>
    cases h with
    | tuple components =>
      refine madeOf_parens (madeOf_separated (madeOf_spacedWord rfl) fun x hx => ?_)
      obtain ⟨y, hy, rfl⟩ := List.mem_map.1 hx
      exact (Operand.madeOf_of_mem_drafts components hy).append check
  · exact h.draft.append check

theorem madeOf_filteredArgument (hx : x.MadeOf d S) {arg : Option Draft} (h : ∀ y ∈ arg, y.MadeOf d S) :
    (filteredArgument x arg).MadeOf d S := by
  have value : (arg.getD (.token (.literal (.integer 1)))).MadeOf d S := by
    cases arg with
    | none => exact .token (Literal.sound_integer 1)
    | some y => exact h y rfl
  have test : (word .caseWord ++ spacedWord .whenWord ++ x).MadeOf d S :=
    ((madeOf_word rfl).append (madeOf_spacedWord rfl)).append hx
  exact (((((test.append (madeOf_spacedWord rfl)).append value).append (madeOf_spacedWord rfl)).append
    (madeOf_word rfl))).append (madeOf_spaceWord rfl)

theorem madeOf_aggregateCall (name : String) (distinct : Bool) {args : List Draft} {filter : Option Draft}
    (hargs : ∀ y ∈ args, y.MadeOf d S) (hfilter : ∀ y ∈ filter, y.MadeOf d S) :
    (d.aggregateCall name args distinct filter).MadeOf d S := by
  have arguments : (d.aggregateArguments args filter).MadeOf d S := by
    unfold aggregateArguments
    split
    · next f hf =>
      have condition : f.MadeOf d S := by
        split at hf
        · cases hf
        · exact hfilter f hf
      split
      · exact madeOf_filteredArgument condition (by simp)
      · exact madeOf_listed_map fun a ha => madeOf_filteredArgument condition (by simpa using hargs a ha)
    · split
      · exact .token trivial
      · exact madeOf_listed hargs
  have native : ∀ y ∈ (if d.capabilities.filterClause then filter else none),
      y.MadeOf d S ∧ d.capabilities.filterClause = true := by
    split
    · next has => exact fun y hy => ⟨hfilter y hy, has⟩
    · simp
  have distinction : (if distinct then wordSpace .distinct else empty).MadeOf d S :=
    madeOf_ite (madeOf_wordSpace rfl) .empty
  have call := MadeOf.append (.token trivial : (token (.functionName name)).MadeOf d S)
    (madeOf_parens (distinction.append arguments))
  refine call.append (madeOf_optional_map fun p hp => ?_)
  obtain ⟨condition, has⟩ := native p hp
  have word : (spacedWord .filter).MadeOf d S :=
    .append (.append madeOf_space (.token ⟨nofun, nofun, has⟩)) madeOf_space
  exact word.append (madeOf_parens ((madeOf_wordSpace rfl).append condition))

theorem madeOf_partitionItem (h : o.MadeOf d S) : (d.partitionItem o).MadeOf d S := by
  unfold partitionItem standardPartitionItem
  split
  · split
    · exact madeOf_fixed (by decide)
    · exact .refuse _
    · exact h.draft
  · split
    · exact .append (.token trivial) (.token trivial)
    · exact h.draft

theorem madeOf_listed_partitionItems (h : ∀ o ∈ os, o.MadeOf d S) :
    (listed (os.map d.partitionItem)).MadeOf d S :=
  madeOf_listed_map fun o ho => madeOf_partitionItem (h o ho)

theorem madeOf_nullRank (hx : x.MadeOf d S) (nulls : NullPrecedence) : (nullRank x nulls).MadeOf d S := by
  have number : ∀ n : Int, (token (.literal (.integer n))).MadeOf d S := fun n => .token (Literal.sound_integer n)
  have test : (word .caseWord ++ spacedWord .whenWord ++ x).MadeOf d S :=
    ((madeOf_word rfl).append (madeOf_spacedWord rfl)).append hx
  exact (((((((test.append (madeOf_spacedWord rfl)).append (madeOf_word rfl)).append madeOf_space).append
    (number _)).append (madeOf_spacedWord rfl)).append (number _))).append (madeOf_spaceWord rfl)

theorem madeOf_sortKey {k : SortKey} (h : k.key.MadeOf d S) : (d.sortKey k).MadeOf d S := by
  refine (((madeOf_optional_map fun n _ => ?ranks).append h).append (madeOf_spaceWord ?direction)).append
    (madeOf_optional_map fun n hn => ?words)
  case ranks => exact (madeOf_nullRank h n).append madeOf_comma
  case direction => cases k.direction <;> rfl
  case words =>
    -- The words of the clause are only there if the dialect has it.
    split at hn
    · next native => cases n <;> exact madeOf_space.append (.token ⟨nofun, nofun, native⟩)
    · cases hn

theorem madeOf_sortList {keys : List SortKey} (h : ∀ k ∈ keys, k.key.MadeOf d S) :
    (d.sortList keys).MadeOf d S :=
  madeOf_listed_map fun k hk => madeOf_sortKey (h k hk)

theorem madeOf_orderByClause {keys : List SortKey} (h : ∀ k ∈ keys, k.key.MadeOf d S) :
    (d.orderByClause keys).MadeOf d S := by
  unfold orderByClause
  split
  · exact .empty
  · exact (madeOf_spacedWord rfl).append (madeOf_sortList h)

theorem madeOf_of_mem_groupByClause? (h : ∀ o ∈ os, o.MadeOf d S) (hx : x ∈ d.groupByClause? os) :
    x.MadeOf d S := by
  unfold groupByClause? at hx
  split at hx
  · cases hx
  · cases hx
    exact (madeOf_spacedWord rfl).append (madeOf_listed_partitionItems h)

theorem madeOf_overWindow {order : List SortKey} (hx : x.MadeOf d S) (hos : ∀ o ∈ os, o.MadeOf d S)
    (horder : ∀ k ∈ order, k.key.MadeOf d S) : (d.overWindow x os order).MadeOf d S := by
  have partitionBy : (if os.isEmpty then empty
      else wordSpace .partitionBy ++ listed (os.map d.partitionItem)).MadeOf d S :=
    madeOf_ite .empty ((madeOf_wordSpace rfl).append (madeOf_listed_partitionItems hos))
  have gap : (if os.isEmpty then empty else space).MadeOf d S := madeOf_ite .empty madeOf_space
  have orderBy : (if order.isEmpty then empty
      else (if os.isEmpty then empty else space) ++ wordSpace .orderBy ++ d.sortList order).MadeOf d S :=
    madeOf_ite .empty ((gap.append (madeOf_wordSpace rfl)).append (madeOf_sortList horder))
  exact (hx.append (madeOf_spacedWord rfl)).append (madeOf_parens (partitionBy.append orderBy))

theorem madeOf_selectItem (h : o.MadeOf d S) : (d.selectItem o).MadeOf d S := by
  unfold selectItem castedSelectItem
  split
  · split
    · exact h.casted
    · exact h.draft
  · exact h.draft

theorem madeOf_pathSeed (hx : x.MadeOf d S) (size : Int) : (d.pathSeed x size).MadeOf d S := by
  unfold pathSeed
  split
  · split
    · exact hx
    · exact ((madeOf_fixed (by decide)).append hx).append (madeOf_raw (.length size rfl))
  · exact hx

theorem madeOf_offsetFetchClause {l : RowLimit} (has : d.capabilities.offsetFetch = true) (h : l.MadeOf d S)
    (rowsKeyword : Bool) : (offsetFetchClause l rowsKeyword).MadeOf d S := by
  refine .append (madeOf_optional_map fun n hn => ?_) (madeOf_optional_map fun fetch hfetch => ?_)
  · have rows : (if rowsKeyword then spaceWord .rows else empty).MadeOf d S :=
      madeOf_ite (madeOf_spaceWord rfl) .empty
    exact ((madeOf_spacedWord rfl).append (h.offset n hn)).append rows
  · obtain ⟨n, kind⟩ := fetch
    have count : n.MadeOf d S := h.fetch (n, kind) hfetch
    have fetchWord : (spacedWord .fetch).MadeOf d S :=
      .append (.append madeOf_space (.token ⟨nofun, nofun, has⟩)) madeOf_space
    have percent : (if kind.isPercent then wordSpace .percent else empty).MadeOf d S :=
      madeOf_ite (madeOf_wordSpace rfl) .empty
    have ties : (word (if kind.keepsTies then .withTies else .only)).MadeOf d S :=
      madeOf_word (by cases kind <;> rfl)
    exact (((((fetchWord.append (madeOf_wordSpace rfl)).append count).append madeOf_space).append
      percent).append (madeOf_wordSpace rfl)).append ties

theorem madeOf_requireRowsOnly (l : RowLimit) : (d.requireRowsOnly l).MadeOf d S := by
  unfold requireRowsOnly
  split
  · exact madeOf_ite .empty (.refuse _)
  · exact .empty

theorem madeOf_limitOffsetClause {l : RowLimit} (h : l.MadeOf d S) : (d.limitOffsetClause l).MadeOf d S := by
  refine .append (.append (madeOf_requireRowsOnly l) (madeOf_optional_map fun fetch hfetch => ?_))
    (madeOf_optional_map fun n hn => ?_)
  · exact (madeOf_spacedWord rfl).append (h.fetch fetch hfetch)
  · exact (madeOf_spacedWord rfl).append (h.offset n hn)

theorem madeOf_limitClause {l : RowLimit} (h : l.MadeOf d S) : (d.limitClause l).MadeOf d S := by
  cases d with
  | ansi => exact madeOf_offsetFetchClause rfl h true
  | hsql => exact (madeOf_requireRowsOnly l).append (madeOf_offsetFetchClause rfl h true)
  | postgres =>
    simp only [limitClause]
    split
    · exact madeOf_ite (.refuse _) (madeOf_offsetFetchClause rfl h true)
    · exact madeOf_offsetFetchClause rfl h true
  | mysql =>
    simp only [limitClause]
    split
    · next n hn _ =>
      have limit := (madeOf_fixed (by decide) : (raw " LIMIT ").MadeOf mysql S).append
        (madeOf_fixed (by decide) : (raw unlimitedRows).MadeOf mysql S)
      exact (limit.append (madeOf_fixed (by decide))).append (h.offset n hn)
    · exact madeOf_limitOffsetClause h

end Dialect

end SqlDialects
