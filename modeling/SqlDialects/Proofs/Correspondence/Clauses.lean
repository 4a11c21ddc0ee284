import SqlDialects.Render.Choice
import SqlDialects.Render.Clause
import SqlDialects.Proofs.Correspondence.Drafts

/-!
# Corresponding clauses

Clauses with corresponding parts correspond, which is one lemma for each clause. Where HSQL has a form of its
own, the other dialects share the standard one. Row limits are left to dialects that are the same
(`Draft.Congruence.limitClause`).
-/

theorem List.Forall₂.all_eq {α β : Type} {A : α → β → Prop} {p : α → Bool} {q : β → Bool}
    (hpq : ∀ a b, A a b → q b = p a) {xs : List α} {ys : List β} (h : List.Forall₂ A xs ys) :
    ys.all q = xs.all p := by
  induction h with
  | nil => rfl
  | cons hab _ ih => rw [List.all_cons, List.all_cons, hpq _ _ hab, ih]

theorem Option.Rel.all_eq {α β : Type} {A : α → β → Prop} {p : α → Bool} {q : β → Bool}
    (hpq : ∀ a b, A a b → q b = p a) {a? : Option α} {b? : Option β} (h : Option.Rel A a? b?) :
    b?.all q = a?.all p := by
  cases h with
  | none => rfl
  | some hab => exact hpq _ _ hab

theorem Option.Rel.getD {α β : Type} {A : α → β → Prop} {a : α} {b : β} (hab : A a b) {a? : Option α}
    {b? : Option β} (h : Option.Rel A a? b?) : A (a?.getD a) (b?.getD b) := by
  cases h with
  | none => exact hab
  | some h => exact h

namespace SqlDialects

variable {d d' : Dialect} {R : Draft → Draft → Prop}

namespace Dialect

theorem Like.ne_hsql (h : d.Like d') (hd : d ≠ .hsql) : d' ≠ .hsql := by
  rcases h with rfl | ⟨-, rfl⟩
  · exact hd
  · decide

/-- Dialects that draft alike can express the same, but for arrays as parameters. -/
theorem Like.capabilities (h : d.Like d') :
    d'.capabilities = { d.capabilities with arrayBinding := d'.capabilities.arrayBinding } := by
  rcases h with rfl | ⟨rfl, rfl⟩ <;> rfl

theorem Like.filterClause (h : d.Like d') : d'.capabilities.filterClause = d.capabilities.filterClause := by
  rw [h.capabilities]

theorem Like.nullsOrdering (h : d.Like d') : d'.capabilities.nullsOrdering = d.capabilities.nullsOrdering := by
  rw [h.capabilities]

variable (hd : d ≠ .hsql)
include hd

theorem arithmetic_of_ne_hsql (op : ArithmeticOperator) (x y : Draft) :
    d.arithmetic op x y = standardArithmetic op x y := by
  cases d with
  | hsql => exact absurd rfl hd
  | _ => rfl

theorem booleanCondition_of_ne_hsql (x : Draft) (negated : Bool) :
    d.booleanCondition x negated = standardBoolean x negated := by
  cases d with
  | hsql => exact absurd rfl hd
  | _ => rfl

theorem partitionItem_of_ne_hsql (o : Operand) : d.partitionItem o = standardPartitionItem o := by
  cases d with
  | hsql => exact absurd rfl hd
  | _ => rfl

theorem selectItem_of_ne_hsql (o : Operand) : d.selectItem o = o.draft := by
  cases d with
  | hsql => exact absurd rfl hd
  | _ => rfl

theorem pathSeed_of_ne_hsql (x : Draft) (sizeEstimate : Int) : d.pathSeed x sizeEstimate = x := by
  cases d with
  | hsql => exact absurd rfl hd
  | _ => rfl

end Dialect

theorem Choice.draft_of_ne_hsql (hd : d ≠ .hsql) (c : Choice) : c.draft d = c.standard d false := by
  cases d with
  | hsql => exact absurd rfl hd
  | _ => rfl

/-! ## Choices -/

/-- Arms whose tests and results correspond. -/
structure ChoiceArm.Related (R : Draft → Draft → Prop) (arm arm' : ChoiceArm) : Prop where
  test : R arm.test arm'.test
  result : arm.result.Related R arm'.result

/-- Choices whose parts correspond. -/
structure Choice.Related (R : Draft → Draft → Prop) (c c' : Choice) : Prop where
  subject : Option.Rel R c.subject c'.subject
  arms : List.Forall₂ (ChoiceArm.Related R) c.arms c'.arms
  otherwise : Option.Rel (Operand.Related R) c.otherwise c'.otherwise

namespace Choice.Related

variable {c c' : Choice} (hc : c.Related R c')
include hc

theorem results : List.Forall₂ (Operand.Related R) c.results c'.results :=
  List.rel_map (fun _ _ arm => arm.result) hc.arms

/-- A cast is needed for both or for none of them. -/
theorem needsCast_eq (mode : RenderingMode) : needsCast mode c' = needsCast mode c := by
  have parameters : allParameters c'.results c'.otherwise = allParameters c.results c.otherwise := by
    unfold allParameters
    rw [hc.results.isEmpty_eq, hc.results.all_eq fun _ _ ho => ho.isParameter_eq,
      hc.otherwise.all_eq fun _ _ ho => ho.isParameter_eq]
  have plain : allPlain mode c'.results = allPlain mode c.results := by
    unfold allPlain
    rw [hc.results.isEmpty_eq]
    refine congrArg (_ && ·) (hc.results.all_eq fun o o' ho => ?_)
    rw [ho.isParameter_eq, ho.isLiteral_eq]
  rw [needsCast, needsCast, parameters, plain]

end Choice.Related

/-- Keys of sort lists that differ in their drafts only, and these correspond. -/
structure SortKey.Related (R : Draft → Draft → Prop) (k k' : SortKey) : Prop where
  key : R k.key k'.key
  direction : k'.direction = k.direction
  nulls : k'.nulls = k.nulls

/-- Row limits of the same kind whose counts correspond. -/
structure RowLimit.Related (R : Draft → Draft → Prop) (l l' : RowLimit) : Prop where
  offset : Option.Rel R l.offset l'.offset
  fetch : Option.Rel (fun f f' => R f.1 f'.1 ∧ f'.2 = f.2) l.fetch l'.fetch

theorem RowLimit.Related.isEmpty_eq {l l' : RowLimit} (hl : l.Related R l') : l'.isEmpty = l.isEmpty := by
  rw [isEmpty, isEmpty, hl.offset.isNone_eq, hl.fetch.isNone_eq]

theorem RowLimit.Related.requireRowsOnly_eq {l l' : RowLimit} (hl : l.Related R l') :
    d.requireRowsOnly l' = d.requireRowsOnly l := by
  obtain ⟨offset, fetch⟩ := l
  obtain ⟨offset', fetch'⟩ := l'
  obtain ⟨-, hfetch⟩ := hl
  cases hfetch with
  | none => rfl
  | @some f f' hf =>
    simp only [Dialect.requireRowsOnly]
    rw [hf.2]

namespace Draft.Congruence

section Choices

variable {c c' : Choice} (h : Congruence d d' R)
include h

theorem armDraft {arm arm' : ChoiceArm} (harm : arm.Related R arm') (cast : Bool)
    (hcast : cast = true → d = .hsql) : R (Choice.armDraft d cast arm) (Choice.armDraft d' cast arm') := by
  refine h.append (h.append_right (h.append_left harm.test)) ?_
  cases cast with
  | true => exact h.casted (hcast rfl) harm.result
  | false => exact h.operand harm.result

theorem armDrafts {arms arms' : List ChoiceArm} (harms : List.Forall₂ (ChoiceArm.Related R) arms arms')
    (cast : Bool) (hcast : cast = true → d = .hsql) :
    R (Choice.armDrafts d cast arms) (Choice.armDrafts d' cast arms') := by
  induction harms generalizing cast with
  | nil => exact h.refl _
  | cons harm _ ih => exact h.append (h.armDraft harm cast hcast) (ih false nofun)

theorem standardChoice (hc : c.Related R c') (cast : Bool) (hcast : cast = true → d = .hsql) :
    R (c.standard d cast) (c'.standard d' cast) := by
  unfold Choice.standard
  rw [hc.arms.isEmpty_eq]
  split
  · exact h.refl _
  · have subject : R (.optional (c.subject.map fun s => .space ++ s))
        (.optional (c'.subject.map fun s => .space ++ s)) :=
      h.optional_map (fun _ _ hs => h.append_left hs) hc.subject
    have otherwise : R (.optional (c.otherwise.map fun o => .spacedWord .elseWord ++ o.draft))
        (.optional (c'.otherwise.map fun o => .spacedWord .elseWord ++ o.draft)) :=
      h.optional_map (fun _ _ ho => h.append_left (h.operand ho)) hc.otherwise
    refine h.append_right (h.append ?_ otherwise)
    exact h.append (h.append_left subject) (h.armDrafts hc.arms cast hcast)

theorem choice (hc : c.Related R c') : R (c.draft d) (c'.draft d') := by
  by_cases hd : d = .hsql
  · subst hd
    obtain rfl := h.eq_of_hsql rfl
    simp only [Choice.draft]
    rw [hc.needsCast_eq, hc.needsCast_eq]
    exact h.byMode rfl (h.standardChoice hc _ fun _ => rfl) (h.standardChoice hc _ fun _ => rfl)
  · rw [Choice.draft_of_ne_hsql hd, Choice.draft_of_ne_hsql (h.like.ne_hsql hd)]
    exact h.standardChoice hc false nofun

end Choices

/-! ## Parts of clauses -/

variable {x x' y y' : Draft} {o o' : Operand} {os os' : List Operand} (h : Congruence d d' R)
include h

theorem arithmetic (op : ArithmeticOperator) (hx : R x x') (hy : R y y') :
    R (d.arithmetic op x y) (d'.arithmetic op x' y') := by
  by_cases hd : d = .hsql
  · subst hd
    obtain rfl := h.eq_of_hsql rfl
    simp only [Dialect.arithmetic]
    split
    · exact h.append_right (h.append (h.append_right (h.append_left hx)) hy)
    · refine h.append_right (h.append ?_ (h.inMode .typed rfl hy))
      exact h.append_right (h.append_right (h.append_right (h.append_left (h.inMode .typed rfl hx))))
  · rw [Dialect.arithmetic_of_ne_hsql hd, Dialect.arithmetic_of_ne_hsql (h.like.ne_hsql hd)]
    exact h.parens (h.append (h.append_right hx) hy)

theorem booleanCondition (hx : R x x') (negated : Bool) :
    R (d.booleanCondition x negated) (d'.booleanCondition x' negated) := by
  by_cases hd : d = .hsql
  · subst hd
    obtain rfl := h.eq_of_hsql rfl
    cases negated with
    | false => exact hx
    | true => exact h.append_right (h.append_left hx)
  · rw [Dialect.booleanCondition_of_ne_hsql hd, Dialect.booleanCondition_of_ne_hsql (h.like.ne_hsql hd)]
    cases negated with
    | false => exact hx
    | true => exact h.append_left hx

theorem nullCheck (ho : o.Related R o') (negated : Bool) :
    R (Dialect.nullCheck o negated) (Dialect.nullCheck o' negated) := by
  cases ho with
  | scalar hx => exact h.append_right hx
  | subquery hx _ _ => exact h.append_right hx
  | tuple hos =>
    have drafts := h.drafts hos
    cases hos with
    | nil => exact h.append_right (h.parens (h.refl _))
    | cons ho hos =>
      exact h.parens (h.separated (List.rel_map (fun _ _ hx => h.append_right hx) drafts))

theorem filteredArgument {arg arg' : Option Draft} (hx : R x x') (harg : Option.Rel R arg arg') :
    R (Dialect.filteredArgument x arg) (Dialect.filteredArgument x' arg') := by
  have value : R (arg.getD (.token (.literal (.integer 1)))) (arg'.getD (.token (.literal (.integer 1)))) :=
    harg.getD (h.refl _)
  have test : R (.word .caseWord ++ .spacedWord .whenWord ++ x ++ .spacedWord .thenWord)
      (.word .caseWord ++ .spacedWord .whenWord ++ x' ++ .spacedWord .thenWord) :=
    h.append_right (h.append_left hx)
  exact h.append_right (h.append_right (h.append_right (h.append test value)))

theorem aggregateArguments {args args' : List Draft} {filter filter' : Option Draft}
    (hargs : List.Forall₂ R args args') (hfilter : Option.Rel R filter filter') :
    R (d.aggregateArguments args filter) (d'.aggregateArguments args' filter') := by
  unfold Dialect.aggregateArguments
  rw [h.like.filterClause, hargs.isEmpty_eq]
  have plain : R (if args.isEmpty then .token .star else .listed args)
      (if args.isEmpty then .token .star else .listed args') := by
    split
    · exact h.refl _
    · exact h.listed hargs
  cases d.capabilities.filterClause with
  | true => exact plain
  | false =>
    cases hfilter with
    | none => exact plain
    | some hf =>
      simp only [Bool.false_eq_true, if_false]
      split
      · exact h.filteredArgument hf .none
      · exact h.listed_map (fun _ _ ha => h.filteredArgument hf (.some ha)) hargs

theorem aggregateCall (name : String) (distinct : Bool) {args args' : List Draft}
    {filter filter' : Option Draft} (hargs : List.Forall₂ R args args')
    (hfilter : Option.Rel R filter filter') :
    R (d.aggregateCall name args distinct filter) (d'.aggregateCall name args' distinct filter') := by
  have native : Option.Rel R (if d.capabilities.filterClause then filter else none)
      (if d'.capabilities.filterClause then filter' else none) := by
    rw [h.like.filterClause]
    split
    · exact hfilter
    · exact .none
  refine h.append (h.append_left (h.parens (h.append_left (h.aggregateArguments hargs hfilter)))) ?_
  exact h.optional_map (fun _ _ hp => h.append_left (h.parens (h.append_left hp))) native

theorem partitionItem (ho : o.Related R o') : R (d.partitionItem o) (d'.partitionItem o') := by
  by_cases hd : d = .hsql
  · subst hd
    obtain rfl := h.eq_of_hsql rfl
    cases ho with
    | @scalar shape _ _ _ hx =>
      cases shape with
      | literal _ => exact h.refl _
      | summarization => exact h.refl _
      | parameter _ _ => exact hx
      | other => exact hx
    | tuple hos => exact h.operand (.tuple hos)
    | subquery hx _ _ => exact hx
  · rw [Dialect.partitionItem_of_ne_hsql hd, Dialect.partitionItem_of_ne_hsql (h.like.ne_hsql hd)]
    unfold Dialect.standardPartitionItem
    rw [ho.isLiteral_eq]
    split
    · exact h.refl _
    · exact h.operand ho

theorem partitionItems (hos : List.Forall₂ (Operand.Related R) os os') :
    R (.listed (os.map d.partitionItem)) (.listed (os'.map d'.partitionItem)) :=
  h.listed_map (fun _ _ ho => h.partitionItem ho) hos

theorem sortKey {k k' : SortKey} (hk : k.Related R k') : R (d.sortKey k) (d'.sortKey k') := by
  obtain ⟨key, direction, nulls⟩ := k
  obtain ⟨key', _, _⟩ := k'
  obtain ⟨hkey, rfl, rfl⟩ := hk
  have rank (n : NullPrecedence) : R (Dialect.nullRank key n) (Dialect.nullRank key' n) := by
    have test : R (.word .caseWord ++ .spacedWord .whenWord ++ key ++ .spacedWord .isNull ++ .word .thenWord)
        (.word .caseWord ++ .spacedWord .whenWord ++ key' ++ .spacedWord .isNull ++ .word .thenWord) :=
      h.append_right (h.append_right (h.append_left hkey))
    cases n <;>
      exact h.append_right (h.append_right (h.append_right (h.append_right (h.append_right test))))
  have ranks (n? : Option NullPrecedence) : R (.optional (n?.map fun n => Dialect.nullRank key n ++ .comma))
      (.optional (n?.map fun n => Dialect.nullRank key' n ++ .comma)) := by
    cases n? with
    | none => exact h.refl _
    | some n => exact h.append_right (rank n)
  simp only [Dialect.sortKey]
  rw [h.like.nullsOrdering]
  exact h.append_right (h.append_right (h.append (ranks _) hkey))

theorem sortList {keys keys' : List SortKey} (hkeys : List.Forall₂ (SortKey.Related R) keys keys') :
    R (d.sortList keys) (d'.sortList keys') :=
  h.listed_map (fun _ _ hk => h.sortKey hk) hkeys

theorem orderByClause {keys keys' : List SortKey} (hkeys : List.Forall₂ (SortKey.Related R) keys keys') :
    R (d.orderByClause keys) (d'.orderByClause keys') := by
  unfold Dialect.orderByClause
  rw [hkeys.isEmpty_eq]
  split
  · exact h.refl _
  · exact h.append_left (h.sortList hkeys)

theorem groupByClause? (hos : List.Forall₂ (Operand.Related R) os os') :
    Option.Rel R (d.groupByClause? os) (d'.groupByClause? os') := by
  unfold Dialect.groupByClause?
  rw [hos.isEmpty_eq]
  split
  · exact .none
  · exact .some (h.append_left (h.partitionItems hos))

theorem overWindow {order order' : List SortKey} (hx : R x x')
    (hos : List.Forall₂ (Operand.Related R) os os')
    (horder : List.Forall₂ (SortKey.Related R) order order') :
    R (d.overWindow x os order) (d'.overWindow x' os' order') := by
  simp only [Dialect.overWindow]
  rw [hos.isEmpty_eq, horder.isEmpty_eq]
  refine h.append (h.append_right hx) (h.parens (h.append ?_ ?_))
  · split
    · exact h.refl _
    · exact h.append_left (h.partitionItems hos)
  · split
    · exact h.refl _
    · exact h.append_left (h.sortList horder)

theorem selectItem (ho : o.Related R o') : R (d.selectItem o) (d'.selectItem o') := by
  by_cases hd : d = .hsql
  · subst hd
    obtain rfl := h.eq_of_hsql rfl
    simp only [Dialect.selectItem, Dialect.castedSelectItem]
    rw [ho.isParameter_eq, ho.isNullLiteral_eq]
    split
    · exact h.casted rfl ho
    · exact h.operand ho
  · rw [Dialect.selectItem_of_ne_hsql hd, Dialect.selectItem_of_ne_hsql (h.like.ne_hsql hd)]
    exact h.operand ho

theorem pathSeed (hx : R x x') (sizeEstimate : Int) :
    R (d.pathSeed x sizeEstimate) (d'.pathSeed x' sizeEstimate) := by
  by_cases hd : d = .hsql
  · subst hd
    obtain rfl := h.eq_of_hsql rfl
    simp only [Dialect.pathSeed]
    split
    · exact hx
    · exact h.append_right (h.append_left hx)
  · rw [Dialect.pathSeed_of_ne_hsql hd, Dialect.pathSeed_of_ne_hsql (h.like.ne_hsql hd)]
    exact hx

/-! ## Row limits -/

variable {l l' : RowLimit}

theorem offsetFetchClause (hl : l.Related R l') (rowsKeyword : Bool) :
    R (Dialect.offsetFetchClause l rowsKeyword) (Dialect.offsetFetchClause l' rowsKeyword) := by
  refine h.append (h.optional_map (fun _ _ hn => ?_) hl.offset) (h.optional_map (fun f f' hf => ?_) hl.fetch)
  · exact h.append_right (h.append_left hn)
  · obtain ⟨n, kind⟩ := f
    obtain ⟨n', _⟩ := f'
    obtain ⟨hn, rfl⟩ := hf
    exact h.append_right (h.append_right (h.append_right (h.append_right (h.append_left hn))))

theorem limitOffsetClause (hd : d' = d) (hl : l.Related R l') :
    R (d.limitOffsetClause l) (d'.limitOffsetClause l') := by
  subst hd
  have limit : R (.optional (l.fetch.map fun f => .spacedWord .limit ++ f.1))
      (.optional (l'.fetch.map fun f => .spacedWord .limit ++ f.1)) :=
    h.optional_map (fun _ _ hf => h.append_left hf.1) hl.fetch
  have offset : R (.optional (l.offset.map fun n => .spacedWord .offset ++ n))
      (.optional (l'.offset.map fun n => .spacedWord .offset ++ n)) :=
    h.optional_map (fun _ _ hn => h.append_left hn) hl.offset
  unfold Dialect.limitOffsetClause
  rw [hl.requireRowsOnly_eq]
  exact h.append (h.append_left limit) offset

/-- Row limits of the same dialect. -/
theorem limitClause (hd : d' = d) (hl : l.Related R l') : R (d.limitClause l) (d'.limitClause l') := by
  obtain rfl := hd
  cases d' with
  | ansi => exact h.offsetFetchClause hl true
  | hsql =>
    simp only [Dialect.limitClause]
    rw [hl.requireRowsOnly_eq]
    exact h.append_left (h.offsetFetchClause hl true)
  | postgres =>
    have clause := h.offsetFetchClause hl true
    obtain ⟨offset, fetch⟩ := l
    obtain ⟨offset', fetch'⟩ := l'
    obtain ⟨-, hfetch⟩ := hl
    cases hfetch with
    | none => exact clause
    | @some f f' hf =>
      simp only [Dialect.limitClause]
      rw [hf.2]
      split
      · exact h.refl _
      · exact clause
  | mysql =>
    have clause := h.limitOffsetClause rfl hl
    obtain ⟨offset, fetch⟩ := l
    obtain ⟨offset', fetch'⟩ := l'
    obtain ⟨hoffset, hfetch⟩ := hl
    cases hoffset with
    | none => exact clause
    | some hn =>
      cases hfetch with
      | none => exact h.append_left hn
      | some hf => exact clause

end Draft.Congruence

end SqlDialects
