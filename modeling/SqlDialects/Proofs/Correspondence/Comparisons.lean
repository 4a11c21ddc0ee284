import SqlDialects.Render.InList
import SqlDialects.Proofs.Correspondence.Clauses

/-!
# Corresponding comparisons and IN lists

Comparisons of corresponding operands correspond, however deep they are taken apart. Of a list, only the two
ways of putting it depend on more than the dialect (`TranslationContext.inMultiValued` and `.inItems`), and
`Draft.Congruence.inList` leaves them to the context.
-/

theorem Option.Rel.or {α β : Type} {A : α → β → Prop} {a? c? : Option α} {b? e? : Option β}
    (hab : Option.Rel A a? b?) (hce : Option.Rel A c? e?) : Option.Rel A (a?.or c?) (b?.or e?) := by
  cases hab with
  | none => exact hce
  | some hab => exact .some hab

namespace SqlDialects

variable {d d' : Dialect} {R : Draft → Draft → Prop}

namespace Dialect

theorem Like.withInSubquery (h : d.Like d') :
    d'.capabilities.withInSubquery = d.capabilities.withInSubquery := by
  rw [h.capabilities]

theorem Like.rowValues (h : d.Like d') : d'.capabilities.rowValues = d.capabilities.rowValues := by
  rw [h.capabilities]

theorem Like.rowValuesInList (h : d.Like d') :
    d'.capabilities.rowValuesInList = d.capabilities.rowValuesInList := by
  rw [h.capabilities]

theorem Like.indexesRows (h : d.Like d') : d'.indexesRows = d.indexesRows := by
  rcases h with rfl | ⟨rfl, rfl⟩ <;> rfl

end Dialect

/-- Comparisons of components that correspond for every operator. -/
abbrev Comparator.Related (R : Draft → Draft → Prop) (c c' : Comparator) : Prop := ∀ op, R (c op) (c' op)

namespace Draft.Congruence

variable {x x' y y' : Draft} {o o' p p' : Operand} {os os' row row' : List Operand} {cs cs' : List Comparator}

section Rows

variable (h : Congruence d d' R)
include h

theorem plainComparison (hx : R x x') (op : ComparisonOperator) (hy : R y y') :
    R (.plainComparison x op y) (.plainComparison x' op y') :=
  h.append (h.append_right hx) hy

variable (hcs : List.Forall₂ (Comparator.Related R) cs cs')
include hcs

theorem chain (op : ComparisonOperator) (joint : Keyword) : R (.chain op joint cs) (.chain op joint cs') := by
  unfold Draft.chain
  rw [hcs.length_eq]
  exact h.parensIf _ (h.separated (List.rel_map (fun _ _ hc => hc op) hcs))

theorem lexicographic (op : ComparisonOperator) : R (.lexicographic op cs) (.lexicographic op cs') := by
  induction hcs with
  | nil => exact h.refl _
  | cons hc hcs ih =>
    cases hcs with
    | nil => exact hc op
    | cons _ _ =>
      exact h.parens (h.append (h.append_right (h.append (h.append_right (hc op.strict)) (hc .equal))) ih)

theorem lexicographicIndexed (op : ComparisonOperator) :
    R (.lexicographicIndexed op cs) (.lexicographicIndexed op cs') := by
  induction hcs with
  | nil => exact h.refl _
  | cons hc hcs ih =>
    cases hcs with
    | nil => exact hc op
    | cons _ _ =>
      exact h.append (h.append_right (hc op.loose)) (h.parens (h.append (h.append_right (hc op.strict)) ih))

theorem rowComparison (op : ComparisonOperator) (indexed : Bool) :
    R (.rowComparison op indexed cs) (.rowComparison op indexed cs') := by
  unfold Draft.rowComparison
  split
  · exact h.chain hcs _ _
  · exact h.chain hcs _ _
  · exact h.chain hcs _ _
  · exact h.chain hcs _ _
  · split
    · exact h.parens (h.lexicographicIndexed hcs op)
    · exact h.lexicographic hcs op

theorem checkedRowComparison (op : ComparisonOperator) (indexed : Bool) (left right : Nat) :
    R (.checkedRowComparison op indexed left right cs) (.checkedRowComparison op indexed left right cs') := by
  unfold Draft.checkedRowComparison
  split
  · exact h.refl _
  · split
    · exact h.refl _
    · exact h.rowComparison hcs op indexed

end Rows

/-! ## Comparisons of operands -/

section Operands

variable (h : Congruence d d' R)
include h

theorem arrayEquality? (hx : R x x') (op : ComparisonOperator) (hy : R y y') :
    Option.Rel R (Dialect.arrayEquality? x op y) (Dialect.arrayEquality? x' op y') := by
  cases op with
  | equal => exact .some (h.append_right (h.append (h.append_right hx) hy))
  | notEqual => exact .some (h.append_right (h.append (h.append_right hx) hy))
  | _ => exact .none

theorem arrayDistinction? (hx : R x x') (op : ComparisonOperator) (hy : R y y') :
    Option.Rel R (Dialect.arrayDistinction? x op y) (Dialect.arrayDistinction? x' op y') := by
  cases op with
  | distinctFrom => exact .some (h.append (h.append_right hx) hy)
  | notDistinctFrom => exact .some (h.append (h.append_right hx) hy)
  | _ => exact .none

theorem typedDistinction? (hd : d = .hsql) (hx : R x x') (op : ComparisonOperator) (hy : R y y') :
    Option.Rel R (Dialect.typedDistinction? x op y) (Dialect.typedDistinction? x' op y') := by
  have typed : R (.inMode .typed x ++ .raw " " ++ .raw op.text ++ .raw " " ++ .inMode .typed y)
      (.inMode .typed x' ++ .raw " " ++ .raw op.text ++ .raw " " ++ .inMode .typed y') :=
    h.append (h.append_right (h.append_right (h.append_right (h.inMode .typed hd hx)))) (h.inMode .typed hd hy)
  cases op with
  | distinctFrom => exact .some typed
  | notDistinctFrom => exact .some typed
  | _ => exact .none

theorem nullSafeEquality? (hx : R x x') (op : ComparisonOperator) (hy : R y y') :
    Option.Rel R (Dialect.nullSafeEquality? x op y) (Dialect.nullSafeEquality? x' op y') := by
  cases op with
  | notDistinctFrom => exact .some (h.append (h.append_right hx) hy)
  | distinctFrom => exact .some (h.append_right (h.append (h.append_right (h.append_left hx)) hy))
  | _ => exact .none

theorem peculiarComparison? (ho : o.Related R o') (op : ComparisonOperator) (hp : p.Related R p') :
    Option.Rel R (d.peculiarComparison? o op p) (d'.peculiarComparison? o' op p') := by
  rcases h.like with same | ⟨rfl, rfl⟩
  · subst same
    have x := h.operand ho
    have y := h.operand hp
    cases d' with
    | hsql =>
      simp only [Dialect.peculiarComparison?]
      rw [ho.type?_eq]
      cases o.type? with
      | none => exact .none
      | some type =>
        simp only [Option.orElse_eq_orElse, Option.orElse_eq_or]
        refine .or ?_ ?_
        · split
          · exact h.arrayEquality? x op y
          · exact .none
        · split
          · exact h.arrayDistinction? x op y
          · exact h.typedDistinction? rfl x op y
    | mysql =>
      simp only [Dialect.peculiarComparison?]
      rw [ho.isTuple_eq, hp.isTuple_eq]
      split
      · exact .none
      · exact h.nullSafeEquality? x op y
    | ansi => exact .none
    | postgres => exact .none
  · exact .none

theorem orPeculiar (swapped : Bool) (op : ComparisonOperator) (ho : o.Related R o') (hp : p.Related R p')
    (hx : R x x') : R (d.orPeculiar swapped op o p x) (d'.orPeculiar swapped op o' p' x') := by
  cases swapped with
  | false => exact (h.peculiarComparison? ho op hp).getD hx
  | true => exact (h.peculiarComparison? hp op ho).getD hx

theorem existsRestriction (word : Keyword) {x? x'? : Option Draft} (hx : Option.Rel R x? x'?) (hy : R y y') :
    R (Dialect.existsRestriction word x? y) (Dialect.existsRestriction word x'? y') :=
  h.append (h.append_left (h.optional_map (fun _ _ hp => h.append_right (h.parens hp)) hx)) hy

theorem existsComparison {f f' : SubqueryFrame} (hf : f.Related R f') (hx : R x x') :
    R (d.existsComparison f x) (d'.existsComparison f' x') := by
  obtain ⟨withs, from_, filter, groupBy, having, limited⟩ := f
  obtain ⟨withs', from', filter', groupBy', having', limited'⟩ := f'
  obtain ⟨hwiths, hfrom, hfilter, hgroupBy, hhaving, -⟩ := hf
  simp only [Dialect.existsComparison]
  rw [h.like.withInSubquery]
  refine h.nested (h.append_left (h.parens (h.append (h.append (h.append_right (h.append_right ?_)) hfrom) ?_)))
  · split
    · exact hwiths
    · exact h.refl _
  · cases hgroupBy with
    | none => exact h.existsRestriction .whereWord hfilter hx
    | some hg =>
      refine h.append (h.append ?_ hg) (h.existsRestriction .having hhaving hx)
      exact h.optional_map (fun _ _ hp => h.append_left hp) hfilter

theorem rowWithSubquery (op : ComparisonOperator) (hrow : List.Forall₂ (Operand.Related R) row row')
    (hx : R x x') {frame frame' : Option SubqueryFrame}
    (hframe : Option.Rel (SubqueryFrame.Related R) frame frame')
    (hitems : List.Forall₂ (Operand.Related R) os os') (hcs : List.Forall₂ (Comparator.Related R) cs cs') :
    R (d.rowWithSubquery op row x frame os cs) (d'.rowWithSubquery op row' x' frame' os' cs') := by
  have plain := h.plainComparison (h.parens (h.listed (h.drafts hrow))) op hx
  rcases h.like with same | ⟨rfl, rfl⟩
  · subst same
    simp only [Dialect.rowWithSubquery]
    split
    · exact plain
    · cases hframe with
      | none => exact h.refl _
      | some hf =>
        dsimp only
        rw [hf.limited, hitems.length_eq, hrow.length_eq]
        split
        · exact h.refl _
        · split
          · exact h.refl _
          · exact h.existsComparison hf (h.checkedRowComparison hcs _ _ _ _)
  · exact plain

end Operands

mutual

/-- The standard comparisons of corresponding operands correspond. -/
theorem standardFrom (h : Congruence d d' R) (swapped : Bool) (op : ComparisonOperator) :
    ∀ o o' p p' : Operand, o.Related R o' → p.Related R p' →
      R (d.standardFrom swapped op o p) (d'.standardFrom swapped op o' p') := by
  intro o o' p p' ho hp
  have plain : R (if swapped then Draft.plainComparison p.draft op o.draft
      else Draft.plainComparison o.draft op p.draft)
      (if swapped then Draft.plainComparison p'.draft op o'.draft
      else Draft.plainComparison o'.draft op p'.draft) := by
    cases swapped with
    | false => exact h.plainComparison (h.operand ho) op (h.operand hp)
    | true => exact h.plainComparison (h.operand hp) op (h.operand ho)
  match o, o', ho with
  | .scalar _ _ _, .scalar _ _ _, .scalar _ =>
    cases hp with
    | tuple _ =>
      rw [Dialect.standardFrom, Dialect.standardFrom]
      exact h.refl _
    | scalar _ => simpa only [Dialect.standardFrom] using plain
    | subquery _ _ _ => simpa only [Dialect.standardFrom] using plain
  | .tuple xs, .tuple xs', .tuple hx =>
    cases hp with
    | scalar _ =>
      rw [Dialect.standardFrom, Dialect.standardFrom]
      exact h.refl _
    | @tuple ys ys' hy =>
      have components := h.compareEach swapped xs xs' ys ys' hx hy
      rw [Dialect.standardFrom, Dialect.standardFrom, hx.length_eq, hy.length_eq, h.like.rowValues]
      exact rel_ite (h.refl _) (rel_ite plain (h.checkedRowComparison components op false _ _))
    | @subquery _ _ _ _ _ items items' hq hf hitems =>
      have components := h.compareEach true xs xs' items items' hx hitems
      rw [Dialect.standardFrom, Dialect.standardFrom]
      exact rel_ite (h.refl _) (h.rowWithSubquery op hx hq hf hitems components)
  | .subquery _ _ _ items, .subquery _ _ _ items', .subquery hq hf hitems =>
    cases hp with
    | scalar _ => simpa only [Dialect.standardFrom] using plain
    | @tuple ys ys' hy =>
      have components := h.compareEach false items items' ys ys' hitems hy
      rw [Dialect.standardFrom, Dialect.standardFrom]
      exact rel_ite (h.rowWithSubquery op hy hq hf hitems components) (h.refl _)
    | subquery _ _ _ => simpa only [Dialect.standardFrom] using plain
termination_by structural o => o

/-- The comparisons of corresponding components correspond. -/
theorem compareEach (h : Congruence d d' R) (swapped : Bool) :
    ∀ xs xs' ys ys' : List Operand, List.Forall₂ (Operand.Related R) xs xs' →
      List.Forall₂ (Operand.Related R) ys ys' →
      List.Forall₂ (Comparator.Related R) (d.compareEach swapped xs ys) (d'.compareEach swapped xs' ys')
  | [], [], _, _, .nil, _ => by
    rw [Dialect.compareEach, Dialect.compareEach]
    · exact .nil
    · nofun
    · nofun
  | _ :: _, _ :: _, [], [], .cons _ _, .nil => by
    rw [Dialect.compareEach, Dialect.compareEach]
    · exact .nil
    · nofun
    · nofun
  | x :: xs, x' :: xs', y :: ys, y' :: ys', .cons hx hxs, .cons hy hys => by
    rw [Dialect.compareEach, Dialect.compareEach]
    refine .cons (fun op => ?_) (h.compareEach swapped xs xs' ys ys' hxs hys)
    exact h.orPeculiar swapped op hx hy (h.standardFrom swapped op x x' y y' hx hy)
termination_by structural xs => xs

end

section Conditions

variable (h : Congruence d d' R)
include h

theorem compare (ho : o.Related R o') (op : ComparisonOperator) (hp : p.Related R p') :
    R (d.compare o op p) (d'.compare o' op p') :=
  h.orPeculiar false op ho hp (h.standardFrom false op _ _ _ _ ho hp)

theorem compareRows (op : ComparisonOperator) (indexed : Bool)
    (hrow : List.Forall₂ (Operand.Related R) row row') (hos : List.Forall₂ (Operand.Related R) os os') :
    R (d.compareRows op indexed row os) (d'.compareRows op indexed row' os') := by
  unfold Dialect.compareRows
  rw [hrow.length_eq, hos.length_eq]
  exact h.checkedRowComparison (h.compareEach false _ _ _ _ hrow hos) op indexed _ _

theorem compareWithSubquery (hrow : List.Forall₂ (Operand.Related R) row row') (op : ComparisonOperator)
    (ho : o.Related R o') : R (d.compareWithSubquery row op o) (d'.compareWithSubquery row' op o') := by
  cases ho with
  | scalar _ => exact h.refl _
  | tuple _ => exact h.refl _
  | subquery hx hf hitems =>
    exact h.rowWithSubquery op hrow hx hf hitems (h.compareEach true _ _ _ _ hrow hitems)

theorem arrayMembership (hx : R x x') (hy : R y y') (negated : Bool) :
    R (d.arrayMembership x y negated) (d'.arrayMembership x' y' negated) := by
  have membership (z z' : Draft) : R (x ++ z ++ y ++ z') (x' ++ z ++ y' ++ z') :=
    h.append_right (h.append (h.append_right hx) hy)
  rcases h.like with same | ⟨rfl, rfl⟩
  · subst same
    cases d' with
    | mysql => exact h.refl _
    | _ => exact membership _ _
  · exact membership _ _

/-! ## IN lists -/

theorem writtenInList (hx : R x x') (hy : R y y') (negated : Bool) :
    R (.writtenInList x y negated) (.writtenInList x' y' negated) :=
  h.append_right (h.append (h.append_right hx) hy)

theorem rowItems (op : ComparisonOperator) {joint : Draft} (hrow : List.Forall₂ (Operand.Related R) row row')
    (hos : List.Forall₂ (Operand.Related R) os os') :
    R (TranslationContext.rowItems d op joint row os) (TranslationContext.rowItems d' op joint row' os') := by
  induction hos generalizing joint with
  | nil => exact h.refl _
  | cons ho _ ih =>
    cases ho with
    | scalar _ => exact h.refl _
    | tuple hvalues => exact h.append (h.append_left (h.compareRows op false hrow hvalues)) ih
    | subquery _ _ _ => exact h.refl _

end Conditions

end Draft.Congruence

/-! ## Lists as arrays -/

namespace Operand.Related

variable {o o' : Operand}

theorem arrayItem?_eq (ho : o.Related R o') (element : ResolvedType) :
    o'.arrayItem? element = o.arrayItem? element := by
  cases ho with
  | @scalar shape type _ _ _ =>
    cases shape with
    | literal _ => cases type <;> rfl
    | parameter _ multiValued => cases type <;> cases multiValued <;> rfl
    | summarization => rfl
    | other => rfl
  | tuple _ => rfl
  | subquery _ _ _ => rfl

/-- Corresponding lists are bound as the same array, or not at all. -/
theorem arrayOfList?_eq {list list' : List Operand} (h : List.Forall₂ (Operand.Related R) list list') :
    arrayOfList? list' = arrayOfList? list := by
  have items (element : ResolvedType) :
      list'.mapM (·.arrayItem? element) = list.mapM (·.arrayItem? element) := by
    induction h with
    | nil => rfl
    | cons ho _ ih => rw [List.mapM_cons, List.mapM_cons, ho.arrayItem?_eq, ih]
  unfold arrayOfList?
  cases h with
  | nil => rfl
  | cons ho _ =>
    simp only [List.head?_cons, Option.bind_eq_bind, Option.bind_some]
    rw [ho.type?_eq]
    simp only [items]

end Operand.Related

namespace Draft.Congruence

variable {ctx ctx' : TranslationContext}

theorem inListOfItems (h : Congruence ctx.dialect ctx'.dialect R) {test test' : Operand}
    {list list' : List Operand} (htest : test.Related R test')
    (hlist : List.Forall₂ (Operand.Related R) list list') (negated : Bool)
    (items : R (ctx.inItems test list negated) (ctx'.inItems test' list' negated)) :
    R (ctx.inListOfItems test list negated) (ctx'.inListOfItems test' list' negated) := by
  cases htest with
  | scalar _ => exact items
  | subquery _ _ _ => exact items
  | tuple hrow =>
    simp only [TranslationContext.inListOfItems]
    rw [h.like.rowValuesInList]
    exact rel_ite items (h.parens (h.rowItems _ hrow hlist))

/-- Memberships in corresponding lists correspond if those in lists of one multi-valued parameter and in lists
of items do. -/
theorem inList (h : Congruence ctx.dialect ctx'.dialect R) {test test' : Operand} {list list' : List Operand}
    (htest : test.Related R test') (hlist : List.Forall₂ (Operand.Related R) list list') (negated : Bool)
    (multiValued : ∀ name type x, list = [.scalar (.parameter name true) (some type) x] →
      R (ctx.inMultiValued test.draft name type negated) (ctx'.inMultiValued test'.draft name type negated))
    (items : R (ctx.inItems test list negated) (ctx'.inItems test' list' negated)) :
    R (ctx.inList test list negated) (ctx'.inList test' list' negated) := by
  cases hlist with
  | nil => exact h.refl _
  | @cons o o' os os' ho hos =>
    -- Both lists consist of one multi-valued parameter, or neither does.
    by_cases single : ∃ name type x, o :: os = [.scalar (.parameter name true) (some type) x]
    · obtain ⟨name, type, x, same⟩ := single
      obtain ⟨rfl, rfl⟩ := List.cons.inj same
      cases hos
      cases ho
      exact multiValued name type x rfl
    · have single' : ¬ ∃ name type x, o' :: os' = [.scalar (.parameter name true) (some type) x] := by
        rintro ⟨name, type, x, same⟩
        obtain ⟨rfl, rfl⟩ := List.cons.inj same
        cases hos
        cases ho
        exact single ⟨name, type, _, rfl⟩
      rw [TranslationContext.inList_of_items (List.cons_ne_nil _ _) single,
        TranslationContext.inList_of_items (List.cons_ne_nil _ _) single']
      exact h.inListOfItems htest (.cons ho hos) negated items

section Alike

variable (h : Congruence ctx.dialect ctx'.dialect R) (arrays : ctx'.bindsArrays = ctx.bindsArrays)
include h arrays

/-- Lists are put in the same way by contexts that agree on whether they are bound as arrays. -/
theorem inItems {test test' : Operand} {list list' : List Operand} (htest : test.Related R test')
    (hlist : List.Forall₂ (Operand.Related R) list list') (negated : Bool) :
    R (ctx.inItems test list negated) (ctx'.inItems test' list' negated) := by
  have x := h.operand htest
  unfold TranslationContext.inItems
  rw [arrays, Operand.Related.arrayOfList?_eq hlist]
  split
  · exact h.arrayMembership x (h.refl _) negated
  · exact h.writtenInList x (h.listed (h.drafts hlist)) negated

/-- Of the bindings, only the length of the value is looked at, and only where the list is written out. -/
theorem inMultiValued {x x' : Draft} {name : String} {element : ResolvedType} {negated : Bool}
    (parameter : ∀ p, R (.parameter ctx.dialect p) (.parameter ctx'.dialect p))
    (lengths : ctx.bindsArrays = false → ctx'.boundLength? name = ctx.boundLength? name) (hx : R x x') :
    R (ctx.inMultiValued x name element negated) (ctx'.inMultiValued x' name element negated) := by
  unfold TranslationContext.inMultiValued
  rw [arrays]
  split
  · exact h.arrayMembership hx (h.refl _) negated
  · next written =>
    rw [lengths (Bool.eq_false_iff.2 written)]
    split
    · exact h.refl _
    · exact h.refl _
    · refine h.writtenInList hx (h.listed_map (fun i j (same : i = j) => ?_) (List.forall₂_refl _)) negated
      rw [same]
      exact parameter _

end Alike

end Draft.Congruence

end SqlDialects
