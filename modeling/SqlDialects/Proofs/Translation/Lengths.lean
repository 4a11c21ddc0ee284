import SqlDialects.Proofs.Correspondence.Statements

/-!
# What bindings tell a translation

Of the values that are known in advance, a translation sees how many elements each multi-valued parameter of
the statement has, and nothing else: bindings that agree on that give the same draft, and with lists bound as
arrays all bindings do.
-/

namespace SqlDialects

/-- Drafts are put together from equal ones to equal ones. -/
theorem Draft.congruence_eq (d : Dialect) : Draft.Congruence d d Eq where
  like := .inl rfl
  refl _ := rfl
  append := by rintro x _ y _ rfl rfl; rfl
  nested := by rintro x _ rfl; rfl
  whenNested := by rintro x _ rfl; rfl
  inMode := by rintro x _ mode - rfl; rfl
  byMode := by rintro x _ y _ - rfl rfl; rfl

namespace TranslationContext

/-- The context with other bindings. -/
def withBindings (ctx : TranslationContext) (b? : Option Bindings) : TranslationContext :=
  { ctx with bindings? := b? }

variable (ctx : TranslationContext) (b? c? : Option Bindings)

/-- The bindings agree on the number of elements of a name, as far as it is looked at. -/
def AgreeOn (name : String) : Prop :=
  ctx.bindsArrays = false → (ctx.withBindings c?).boundLength? name = (ctx.withBindings b?).boundLength? name

theorem congruence_withBindings :
    Draft.Congruence (ctx.withBindings b?).dialect (ctx.withBindings c?).dialect Eq :=
  Draft.congruence_eq ctx.dialect

theorem correspond_withBindings :
    (ctx.withBindings b?).Correspond (ctx.withBindings c?) (ctx.AgreeOn b? c?) Eq where
  toCongruence := ctx.congruence_withBindings b? c?
  literal _ _ := rfl
  parameter _ := rfl
  limits _ _ := (ctx.congruence_withBindings b? c?).limitClause rfl
  multiValued _ _ agree same :=
    (ctx.congruence_withBindings b? c?).inMultiValued rfl (fun _ => rfl) agree same
  items negated same list := (ctx.congruence_withBindings b? c?).inItems rfl same list negated

end TranslationContext

namespace Statement

variable (ctx : TranslationContext) (s : Statement) (b? c? : Option Bindings)

theorem translate_withBindings (agree : ∀ name ∈ s.multiValued, ctx.AgreeOn b? c? name) :
    s.translate (ctx.withBindings b?) = s.translate (ctx.withBindings c?) := by
  unfold translate
  rw [s.draft_related (ctx.correspond_withBindings b? c?) agree]
  rfl

/-- Bound values do not influence the statement: bindings that agree, for each multi-valued parameter in it, on
whether it is bound and on its number of elements give the same text with the same parameters, or the same
failure; and if lists are bound as arrays, so do all bindings, and having none. -/
theorem translate_of_boundLengths :
    ((∀ name ∈ s.multiValued,
        (ctx.withBindings b?).boundLength? name = (ctx.withBindings c?).boundLength? name) →
      s.translate (ctx.withBindings b?) = s.translate (ctx.withBindings c?)) ∧
    (ctx.bindsArrays = true →
      s.translate (ctx.withBindings b?) = s.translate (ctx.withBindings c?) ∧
        s.translate (ctx.withBindings b?) = s.translate (ctx.withBindings none)) := by
  refine ⟨fun lengths => ?_, fun arrays => ⟨?_, ?_⟩⟩
  · exact translate_withBindings ctx s b? c? fun name hname _ => (lengths name hname).symm
  · exact translate_withBindings ctx s b? c? fun _ _ written => absurd written (by simp [arrays])
  · exact translate_withBindings ctx s b? none fun _ _ written => absurd written (by simp [arrays])

/-- A list of one multi-valued parameter. -/
def selectsByIds : Statement :=
  .select (.select
    { items := [⟨.column none "id" none, none⟩]
      tables := [⟨"t", none⟩]
      filter := some (.inList (.column none "id" none)
        [.parameter "ids" ⟨"integer", .ofCode .integer⟩ true] false) })

/-- Two numbers and two texts are the same to a translation; to one with arrays, no values are. -/
theorem translate_of_boundLengths_selectsByIds :
    let numbers : Bindings := [("ids", .collection [.integer .int ⟨1, by decide⟩, .integer .int ⟨2, by decide⟩])]
    let texts : Bindings := [("ids", .collection [.string "a", .string "b"])]
    (∀ name ∈ selectsByIds.multiValued,
      ((TranslationContext.ofDialect .ansi).withBindings numbers).boundLength? name =
        ((TranslationContext.ofDialect .ansi).withBindings texts).boundLength? name) ∧
    selectsByIds.translate ((TranslationContext.ofDialect .ansi).withBindings numbers) =
      selectsByIds.translate ((TranslationContext.ofDialect .ansi).withBindings texts) ∧
    (∃ op, selectsByIds.translate ((TranslationContext.ofDialect .ansi).withBindings numbers) = .ok op ∧
      op.parameters.length = 2) ∧
    (TranslationContext.ofDialect .postgres).bindsArrays = true ∧
    selectsByIds.translate ((TranslationContext.ofDialect .postgres).withBindings numbers) =
      selectsByIds.translate ((TranslationContext.ofDialect .postgres).withBindings none) := by
  intro numbers texts
  have lengths : ∀ name ∈ selectsByIds.multiValued,
      ((TranslationContext.ofDialect .ansi).withBindings numbers).boundLength? name =
        ((TranslationContext.ofDialect .ansi).withBindings texts).boundLength? name := by
    decide +kernel
  exact ⟨lengths, (translate_of_boundLengths _ _ _ _).1 lengths, ⟨_, rfl, rfl⟩, rfl,
    ((translate_of_boundLengths _ _ _ none).2 rfl).2⟩

end Statement

end SqlDialects
