import SqlDialects.Proofs.Correspondence.Statements
import SqlDialects.Proofs.Draft.Frame

/-!
# Lists written out and lists bound as arrays

What a statement writes without arrays as parameters is cut into parts: single acts, lists that arrays stand for,
and the constants in place of lists over a multi-valued parameter without elements (`ListPart`). With arrays it
writes the same parts, but each list as one placeholder, and the test of an empty list with an array, too
(`Statement.exists_packing`). Each of the empty lists stands in the statement with its test, whether or not the
test can be written (`EmptyList.StandsIn`).
-/

namespace SqlDialects

/-- The context with arrays as parameters switched on or off. -/
def TranslationContext.withArrays (ctx : TranslationContext) (binding : Bool) : TranslationContext :=
  { ctx with options := ⟨binding⟩ }

/-! ## Parts -/

/-- An item of a list that an array stands for: a constant with its literal, or a parameter. -/
inductive ListItem where
  | constant (value : Value) (literal : Literal)
  | parameter (source : ParameterSource)

namespace ListItem

/-- Where the value of an item comes from. -/
def source : ListItem → ParameterSource
  | constant value _ => .fixed value
  | parameter source => source

/-- The value of a constant. -/
def constant? : ListItem → Option Value
  | constant value _ => some value
  | parameter _ => none

/-- A constant is written with the literal of its value. -/
def IsLiteral (ctx : TranslationContext) (element : ResolvedType) : ListItem → Prop
  | constant value literal => ctx.literalDraft value element = .token (.literal literal)
  | parameter _ => True

/-- What is written for an item; parameters appear in the given mode. -/
def acts (d : Dialect) (mode : RenderingMode) (element : ResolvedType) : ListItem → List Write
  | constant _ literal => [.token (.literal literal)]
  | parameter source => (Draft.parameter d ⟨source, element⟩).writes mode 0

end ListItem

/-- The source of an array of items, which is a constant if all of them are. -/
def sourceOfItems (items : List ListItem) : ParameterSource :=
  match items.mapM ListItem.constant? with
  | some values => .fixed (.collection values)
  | none => .elements (items.map ListItem.source)

/-- Membership in an array, behind the test. -/
def membershipActs (d : Dialect) (negated : Bool) (source : ParameterSource) (element : ResolvedType) :
    List Write :=
  match d with
  | .hsql =>
    [.token (.raw (if negated then " NOT IN(UNNEST(" else " IN(UNNEST(")),
      .placeholder ⟨source, .arrayOf element⟩, .token (.raw "))")]
  | _ =>
    [.token (.raw (if negated then " <> ALL(" else " = ANY(")), .placeholder ⟨source, .arrayOf element⟩,
      .token .rightParen]

/-- A list behind its test: written out with its items, or bound as one array. -/
structure ArrayList where
  negated : Bool
  /-- How the parameters appear if the list is written out. -/
  mode : RenderingMode
  element : ResolvedType
  items : List ListItem
  source : ParameterSource

namespace ArrayList

/-- The list written out. -/
def expanded (d : Dialect) (l : ArrayList) : List Write :=
  .token (.raw (if l.negated then " not in(" else " in("))
    :: [.token .comma, .token .space].intercalate (l.items.map (·.acts d l.mode l.element))
    ++ [.token .rightParen]

/-- The list bound as one array. -/
def packed (d : Dialect) (l : ArrayList) : List Write := membershipActs d l.negated l.source l.element

/-- The elements of the value bound to a parameter, as far as they are known. -/
def elementsOf (name : String) (count : Nat) : List ListItem :=
  (List.range count).map fun i => .parameter (.element name i)

/-- The list consists of constants and single-valued parameters, or of the elements that a multi-valued
parameter has in the context. -/
inductive Arises (ctx : TranslationContext) (l : ArrayList) : Prop where
  | items : l.source = sourceOfItems l.items → (∀ item ∈ l.items, item.IsLiteral ctx l.element) → Arises ctx l
  | multiValued {name : String} {count : Nat} : ctx.boundLength? name = some count → 0 < count →
    l.source = .named name → l.items = elementsOf name count → Arises ctx l

end ArrayList

/-- A list over a multi-valued parameter that is known to have no elements. Its test is left out if lists are
written out; otherwise it is written in its surroundings, or refused. -/
structure EmptyList where
  negated : Bool
  test : Expression
  mode : RenderingMode
  depth : Nat
  name : String
  element : ResolvedType

namespace EmptyList

/-- The test of membership in the list. -/
def membership (l : EmptyList) : Predicate := .inList l.test [.parameter l.name l.element true] l.negated

/-- The list is over a multi-valued parameter with one of the given names that has no elements in the context. The
test of membership in it stands in a draft with lists bound as arrays, at its depth and where parameters appear in
its mode. -/
structure StandsIn (ctx : TranslationContext) (names : List String) (x' : Draft) (mode : RenderingMode)
    (depth : Nat) (l : EmptyList) : Prop where
  name : l.name ∈ names
  length : ctx.boundLength? l.name = some 0
  enclosed : x'.Encloses mode depth (l.membership.draft (ctx.withArrays true)) l.mode l.depth

/-- The constant in place of the list. -/
def expanded (l : EmptyList) : List Write := [.token (.raw (if l.negated then "1=1" else "1=0"))]

/-- Why the test is refused. -/
def refusal? (ctx : TranslationContext) (l : EmptyList) : Option TranslationError :=
  (l.test.operand ctx).draft.refusal? l.mode l.depth

/-- The list as the array of a parameter. -/
def packed (ctx : TranslationContext) (l : EmptyList) : List Write :=
  (l.test.operand ctx).draft.writes l.mode l.depth
    ++ membershipActs ctx.dialect l.negated (.named l.name) l.element

end EmptyList

/-- A part of what is written for a statement. -/
inductive ListPart where
  | act (w : Write)
  | list (l : ArrayList)
  | empty (l : EmptyList)

namespace ListPart

/-- The part with lists written out. -/
def expanded (d : Dialect) : ListPart → List Write
  | act w => [w]
  | list l => l.expanded d
  | empty l => l.expanded

/-- The part with lists bound as arrays. -/
def packed (ctx : TranslationContext) : ListPart → List Write
  | act w => [w]
  | list l => l.packed ctx.dialect
  | empty l => l.packed ctx

/-- Why the part is refused with lists bound as arrays. -/
def refusal? (ctx : TranslationContext) : ListPart → Option TranslationError
  | empty l => l.refusal? ctx
  | _ => none

/-- The part can be one of a draft with lists bound as arrays, for a statement with multi-valued parameters of the
given names. -/
def Arises (ctx : TranslationContext) (names : List String) (x' : Draft) (mode : RenderingMode) (depth : Nat) :
    ListPart → Prop
  | act _ => True
  | list l => l.Arises ctx
  | empty l => l.StandsIn ctx names x' mode depth

variable {ctx : TranslationContext} {names : List String} {x y : Draft} {mode m : RenderingMode} {depth n : Nat}
  {part : ListPart}

/-- What arises in a draft arises in one that encloses all that the first one does. -/
theorem Arises.mono (h : part.Arises ctx names x mode depth)
    (lift : ∀ {z k i}, x.Encloses mode depth z k i → y.Encloses m n z k i) : part.Arises ctx names y m n := by
  cases part with
  | act w => trivial
  | list l => exact h
  | empty l => exact ⟨h.name, h.length, lift h.enclosed⟩

end ListPart

/-! ## Drafts with lists as arrays -/

/-- The parts are what the first draft writes with lists written out, and the second one with arrays. -/
structure Draft.Packing (ctx : TranslationContext) (names : List String) (mode : RenderingMode) (depth : Nat)
    (x x' : Draft) (parts : List ListPart) : Prop where
  arises : ∀ part ∈ parts, part.Arises ctx names x' mode depth
  expanded : x.writes mode depth = parts.flatMap (·.expanded ctx.dialect)
  refuses : x'.refusal? mode depth = none ↔ ∀ part ∈ parts, part.refusal? (ctx.withArrays true) = none
  packed : x'.refusal? mode depth = none → x'.writes mode depth = parts.flatMap (·.packed (ctx.withArrays true))

/-- The second draft binds as arrays what the first one writes out. -/
def Draft.Packs (ctx : TranslationContext) (names : List String) (x x' : Draft) : Prop :=
  ∀ mode depth, x.refusal? mode depth = none → ∃ parts, Draft.Packing ctx names mode depth x x' parts

namespace Draft

variable {ctx : TranslationContext} {names : List String} {mode : RenderingMode} {depth : Nat}
  {x x' y y' : Draft} {xs ys : List ListPart}

theorem Packing.append (hx : Packing ctx names mode depth x x' xs) (hy : Packing ctx names mode depth y y' ys)
    (success : x.refusal? mode depth = none) : Packing ctx names mode depth (x ++ y) (x' ++ y') (xs ++ ys) where
  arises := List.forall_mem_append.2
    ⟨fun part hpart => (hx.arises part hpart).mono .first, fun part hpart => (hy.arises part hpart).mono .second⟩
  expanded := by rw [writes_append success, hx.expanded, hy.expanded, List.flatMap_append]
  refuses := by rw [refusal?_append_eq_none, hx.refuses, hy.refuses, List.forall_mem_append]
  packed refusal := by
    obtain ⟨first, second⟩ := refusal?_append_eq_none.1 refusal
    rw [writes_append first, hx.packed first, hy.packed second, List.flatMap_append]

/-- A draft without lists. -/
theorem Packing.refl (success : x.refusal? mode depth = none) :
    Packing ctx names mode depth x x ((x.writes mode depth).map .act) where
  arises := by simp [ListPart.Arises]
  expanded := by simp [List.flatMap_map, ListPart.expanded]
  refuses := by simp [success, ListPart.refusal?]
  packed _ := by simp [List.flatMap_map, ListPart.packed]

/-- A single part. -/
theorem Packing.single {part : ListPart} (arises : part.Arises ctx names x' mode depth)
    (expanded : x.writes mode depth = part.expanded ctx.dialect)
    (refuses : x'.refusal? mode depth = none ↔ part.refusal? (ctx.withArrays true) = none)
    (packed : x'.refusal? mode depth = none → x'.writes mode depth = part.packed (ctx.withArrays true)) :
    Packing ctx names mode depth x x' [part] where
  arises := by simpa using arises
  expanded := by simpa using expanded
  refuses := by simpa using refuses
  packed := by simpa using packed

/-- The parts of what is written inside a draft are those of the draft, if there is nothing else in it. -/
theorem Packing.within {m : RenderingMode} {n : Nat} (h : Packing ctx names mode depth x x' xs)
    (lift : ∀ {z k i}, x'.Encloses mode depth z k i → y'.Encloses m n z k i)
    (expanded : y.writes m n = x.writes mode depth) (refusal : y'.refusal? m n = x'.refusal? mode depth)
    (packed : y'.writes m n = x'.writes mode depth) : Packing ctx names m n y y' xs where
  arises part hpart := (h.arises part hpart).mono lift
  expanded := expanded.trans h.expanded
  refuses := refusal ▸ h.refuses
  packed success := packed.trans (h.packed (refusal.symm.trans success))

theorem congruence_packs (d : Dialect) : Congruence d d (Packs ctx names) where
  like := .inl rfl
  refl _ _ _ success := ⟨_, .refl success⟩
  append hx hy mode depth success := by
    obtain ⟨first, second⟩ := refusal?_append_eq_none.1 success
    obtain ⟨xs, hxs⟩ := hx mode depth first
    obtain ⟨ys, hys⟩ := hy mode depth second
    exact ⟨xs ++ ys, hxs.append hys first⟩
  nested hx mode depth success := by
    obtain ⟨xs, hxs⟩ := hx mode (depth + 1) success
    exact ⟨xs, hxs.within .nested rfl rfl rfl⟩
  whenNested {x x'} hx mode depth success := by
    cases depth with
    | zero => exact ⟨[], by simp, rfl, by simp [refusal?], fun _ => rfl⟩
    | succ depth =>
      obtain ⟨xs, hxs⟩ := hx mode (depth + 1) success
      exact ⟨xs, hxs.within (.whenNested depth.succ_ne_zero) rfl rfl rfl⟩
  inMode mode _ hx _ depth success := by
    obtain ⟨xs, hxs⟩ := hx mode depth success
    exact ⟨xs, hxs.within .inMode rfl rfl rfl⟩
  byMode _ hx hy mode depth success := by
    cases mode with
    | plain =>
      obtain ⟨xs, hxs⟩ := hx .plain depth success
      exact ⟨xs, hxs.within .plain rfl rfl rfl⟩
    | typed =>
      obtain ⟨xs, hxs⟩ := hy .typed depth success
      exact ⟨xs, hxs.within .typed rfl rfl rfl⟩

/-- A parameter is written after the mode, not the depth. -/
theorem writes_parameter (d : Dialect) (p : Parameter) :
    (parameter d p).writes mode depth = (parameter d p).writes mode 0 := by
  cases mode with
  | plain => rfl
  | typed => simp [parameter, castAs, writes, writes_append, refusal?_append_eq_none, refusal?_raw, writes_raw,
      refusal?]

theorem refusal?_arrayMembership {d : Dialect} (hd : d.capabilities.arrayBinding = true)
    {source : ParameterSource} {element : ResolvedType} {negated : Bool} :
    (d.arrayMembership x (arrayPlaceholder source element) negated).refusal? mode depth = none ↔
      x.refusal? mode depth = none := by
  cases d with
  | ansi => cases hd
  | mysql => cases hd
  | _ =>
    cases negated <;>
      simp [Dialect.arrayMembership, refusal?_append_eq_none, raw, arrayPlaceholder, refusal?]

/-- A test of membership in an array encloses what is tested, and what stands in that. -/
theorem Encloses.arrayMembership {z : Draft} {m : RenderingMode} {n : Nat} (h : x.Encloses mode depth z m n)
    {d : Dialect} (hd : d.capabilities.arrayBinding = true) {negated : Bool} :
    (d.arrayMembership x y negated).Encloses mode depth z m n := by
  cases d with
  | ansi => cases hd
  | mysql => cases hd
  | _ => exact .first (.first (.first h))

theorem writes_arrayMembership {d : Dialect} (hd : d.capabilities.arrayBinding = true)
    {source : ParameterSource} {element : ResolvedType} {negated : Bool} (hx : x.refusal? mode depth = none) :
    (d.arrayMembership x (arrayPlaceholder source element) negated).writes mode depth =
      x.writes mode depth ++ membershipActs d negated source element := by
  cases d with
  | ansi => cases hd
  | mysql => cases hd
  | _ =>
    cases negated <;>
      simp [Dialect.arrayMembership, membershipActs, writes_append, refusal?_append_eq_none, hx, raw,
        arrayPlaceholder, refusal?, writes]

theorem refusal?_writtenInList {negated : Bool} : (writtenInList x y negated).refusal? mode depth = none ↔
    x.refusal? mode depth = none ∧ y.refusal? mode depth = none := by
  cases negated <;> simp [writtenInList, refusal?_append_eq_none, raw, refusal?]

theorem writes_writtenInList {negated : Bool} (hx : x.refusal? mode depth = none)
    (hy : y.refusal? mode depth = none) : (writtenInList x y negated).writes mode depth =
      x.writes mode depth ++ (.token (.raw (if negated then " not in(" else " in(")) ::
        y.writes mode depth ++ [.token .rightParen]) := by
  cases negated <;>
    simp [writtenInList, writes_append, refusal?_append_eq_none, hx, hy, raw, refusal?, writes]

/-- The elements of a multi-valued parameter are written one by one. -/
theorem writes_elements {d : Dialect} {name : String} {count : Nat} {element : ResolvedType}
    (h : (listed ((List.range count).map fun i => parameter d ⟨.element name i, element⟩)).refusal? mode depth =
      none) :
    (listed ((List.range count).map fun i => parameter d ⟨.element name i, element⟩)).writes mode depth =
      [.token .comma, .token .space].intercalate
        ((ArrayList.elementsOf name count).map (·.acts d mode element)) := by
  rw [writes_listed h]
  unfold ArrayList.elementsOf
  rw [List.map_map, List.map_map]
  exact congrArg _ (List.map_congr_left fun i _ => writes_parameter d _)

/-- A list behind a test, and the array behind the same one. -/
theorem Packing.list (arrays : ctx.dialect.capabilities.arrayBinding = true)
    (hx : Packing ctx names mode depth x x' xs) (success : x.refusal? mode depth = none)
    (listed : y.refusal? mode depth = none) {l : ArrayList} (arises : l.Arises ctx)
    (items : y.writes mode depth = [.token .comma, .token .space].intercalate
      (l.items.map (·.acts ctx.dialect l.mode l.element))) :
    Packing ctx names mode depth (writtenInList x y l.negated)
      (ctx.dialect.arrayMembership x' (arrayPlaceholder l.source l.element) l.negated) (xs ++ [.list l]) where
  arises := by
    refine List.forall_mem_append.2 ⟨fun part hpart => (hx.arises part hpart).mono (·.arrayMembership arrays),
      fun part hpart => ?_⟩
    rw [List.mem_singleton.1 hpart]
    exact arises
  expanded := by
    rw [writes_writtenInList success listed, hx.expanded, List.flatMap_append, List.flatMap_singleton, items]
    rfl
  refuses := by
    rw [refusal?_arrayMembership arrays, hx.refuses, List.forall_mem_append]
    simp [ListPart.refusal?]
  packed refusal := by
    have test := (refusal?_arrayMembership arrays).1 refusal
    rw [writes_arrayMembership arrays test, hx.packed test, List.flatMap_append, List.flatMap_singleton]
    rfl

end Draft

/-! ## The two contexts -/

namespace TranslationContext

variable {ctx : TranslationContext} {names : List String} {negated : Bool}

theorem draft_inList_multiValued (test : Expression) {name : String} {type : ResolvedType} :
    (Predicate.inList test [.parameter name type true] negated).draft ctx =
      ctx.inMultiValued (test.operand ctx).draft name type negated := by
  rw [Predicate.draft, operands, Expression.operand, operands]
  rfl

/-- With arrays, a list over a multi-valued parameter is one, however many elements the parameter has. -/
theorem inMultiValued_withArrays (arrays : ctx.dialect.capabilities.arrayBinding = true) {x : Draft}
    {name : String} {type : ResolvedType} : (ctx.withArrays true).inMultiValued x name type negated =
      ctx.dialect.arrayMembership x (.arrayPlaceholder (.named name) type) negated := by
  have binds : (ctx.withArrays true).bindsArrays = true := arrays
  unfold inMultiValued
  rw [binds]
  rfl

/-- With arrays, the test of a list without elements is written in front of an array. -/
theorem draft_membership (arrays : ctx.dialect.capabilities.arrayBinding = true) (l : EmptyList) :
    l.membership.draft (ctx.withArrays true) =
      ctx.dialect.arrayMembership (l.test.operand (ctx.withArrays true)).draft
        (.arrayPlaceholder (.named l.name) l.element) l.negated :=
  (draft_inList_multiValued l.test).trans (inMultiValued_withArrays arrays)

theorem packs_inMultiValued (arrays : ctx.dialect.capabilities.arrayBinding = true) {test : Expression}
    {name : String} (type : ResolvedType) (hname : name ∈ names)
    (htest : Draft.Packs ctx names (test.operand (ctx.withArrays false)).draft
      (test.operand (ctx.withArrays true)).draft) :
    Draft.Packs ctx names
      ((ctx.withArrays false).inMultiValued (test.operand (ctx.withArrays false)).draft name type negated)
      ((ctx.withArrays true).inMultiValued (test.operand (ctx.withArrays true)).draft name type negated) := by
  intro mode depth success
  rw [inMultiValued_withArrays arrays]
  have written : (ctx.withArrays false).bindsArrays = false := rfl
  unfold inMultiValued at success ⊢
  rw [written] at success ⊢
  simp only [Bool.false_eq_true, if_false] at success ⊢
  cases length : (ctx.withArrays false).boundLength? name with
  | none =>
    rw [length] at success
    cases success
  | some count =>
    rw [length] at success
    cases count with
    | zero =>
      let part : EmptyList := ⟨negated, test, mode, depth, name, type⟩
      have stands : part.StandsIn ctx names (part.membership.draft (ctx.withArrays true)) mode depth :=
        ⟨hname, length, .itself _ mode depth⟩
      rw [draft_membership arrays] at stands
      refine ⟨[.empty part], .single stands ?_ ?_ fun refusal => ?_⟩
      · cases negated <;> rfl
      · exact Draft.refusal?_arrayMembership arrays
      · exact Draft.writes_arrayMembership arrays ((Draft.refusal?_arrayMembership arrays).1 refusal)
    | succ n =>
      obtain ⟨testSuccess, listed⟩ := Draft.refusal?_writtenInList.1 success
      obtain ⟨parts, packing⟩ := htest mode depth testSuccess
      let list : ArrayList := ⟨negated, mode, type, ArrayList.elementsOf name (n + 1), .named name⟩
      have arises : list.Arises ctx := .multiValued length n.succ_pos rfl rfl
      exact ⟨_, packing.list arrays testSuccess listed arises (Draft.writes_elements listed)⟩

section Items

variable {mode : RenderingMode} {depth : Nat} {element : ResolvedType}

/-- A constant that is not an array is written as one literal. -/
theorem exists_literal {v : Value} (single : v.isPlural = false)
    (success : (ctx.literalDraft v element).refusal? mode depth = none) :
    ∃ literal, ctx.literalDraft v element = .token (.literal literal) := by
  unfold literalDraft at success ⊢
  rw [single] at success ⊢
  simp only [Bool.false_eq_true, if_false] at success ⊢
  split at success
  · cases success
  · next literal _ => exact ⟨literal, rfl⟩

theorem exists_item {e : Expression} {pair : ParameterSource × Option Value}
    (h : (e.operand ctx).arrayItem? element = some pair)
    (success : (e.operand ctx).draft.refusal? mode depth = none) :
    ∃ item : ListItem, pair = (item.source, item.constant?) ∧ item.IsLiteral ctx element ∧
      (e.operand ctx).draft.writes mode depth = item.acts ctx.dialect mode element := by
  unfold Operand.arrayItem? at h
  split at h
  · next v type x operand =>
    split at h
    · next plain =>
      obtain ⟨rfl, -, single⟩ := plain
      obtain rfl := Option.some.inj h
      have draft := Expression.eq_literal_of_operand operand
      rw [operand, draft] at success ⊢
      obtain ⟨literal, written⟩ := exists_literal single success
      exact ⟨.constant v literal, rfl, written, by rw [Operand.draft, written]; rfl⟩
    · cases h
  · next name type x operand =>
    split at h
    · next same =>
      subst same
      obtain rfl := Option.some.inj h
      obtain rfl := Expression.eq_parameter_of_operand operand
      exact ⟨.parameter (.named name), rfl, trivial, Draft.writes_parameter ctx.dialect _⟩
    · cases h
  · cases h

theorem exists_items {list : List Expression} {pairs : List (ParameterSource × Option Value)}
    (h : (operands ctx list).mapM (·.arrayItem? element) = some pairs)
    (success : ∀ x ∈ Operand.drafts (operands ctx list), x.refusal? mode depth = none) :
    ∃ items : List ListItem, pairs = items.map (fun item => (item.source, item.constant?)) ∧
      (∀ item ∈ items, item.IsLiteral ctx element) ∧
      (Operand.drafts (operands ctx list)).map (·.writes mode depth) =
        items.map (·.acts ctx.dialect mode element) := by
  induction list generalizing pairs with
  | nil =>
    obtain rfl := Option.some.inj h
    exact ⟨[], rfl, List.forall_mem_nil _, rfl⟩
  | cons e es ih =>
    rw [operands, List.mapM_cons, Option.bind_eq_bind, Option.bind_eq_some_iff] at h
    obtain ⟨pair, hpair, h⟩ := h
    obtain ⟨rest, hrest, same⟩ := Option.bind_eq_some_iff.1 h
    obtain rfl := Option.some.inj same
    rw [operands, Operand.drafts] at success ⊢
    obtain ⟨first, others⟩ := List.forall_mem_cons.1 success
    obtain ⟨item, rfl, own, written⟩ := exists_item hpair first
    obtain ⟨items, rfl, literals, all⟩ := ih hrest others
    exact ⟨item :: items, rfl, List.forall_mem_cons.2 ⟨own, literals⟩,
      by rw [List.map_cons, written, all, List.map_cons]⟩

/-- A list that is bound as an array is one of constants and single-valued parameters. -/
theorem exists_items_of_arrayOfList? {list : List Expression} {source : ParameterSource}
    (h : arrayOfList? (operands ctx list) = some (source, element))
    (success : (Draft.listed (Operand.drafts (operands ctx list))).refusal? mode depth = none) :
    ∃ items : List ListItem, source = sourceOfItems items ∧ (∀ item ∈ items, item.IsLiteral ctx element) ∧
      (Draft.listed (Operand.drafts (operands ctx list))).writes mode depth =
        [.token .comma, .token .space].intercalate (items.map (·.acts ctx.dialect mode element)) := by
  have each : ∀ x ∈ Operand.drafts (operands ctx list), x.refusal? mode depth = none := fun _ hx =>
    Draft.refusal?_of_mem_listed success hx
  unfold arrayOfList? at h
  simp only [Option.bind_eq_bind, Option.bind_eq_some_iff] at h
  obtain ⟨first, -, type, -, h⟩ := h
  split at h
  · simp at h
  · obtain ⟨pairs, hpairs, h⟩ := Option.bind_eq_some_iff.1 h
    have same : type = element := by
      split at h <;> exact congrArg Prod.snd (Option.some.inj h)
    subst same
    obtain ⟨items, rfl, literals, written⟩ := exists_items hpairs each
    refine ⟨items, ?_, literals, by rw [Draft.writes_listed success, written]⟩
    have sources : items.map ((·.1) ∘ fun item => (item.source, item.constant?)) = items.map ListItem.source :=
      rfl
    rw [List.mapM_map, List.map_map, sources] at h
    unfold sourceOfItems
    split at h
    · next values constants =>
      rw [show items.mapM ListItem.constant? = some values from constants]
      exact (congrArg Prod.fst (Option.some.inj h)).symm
    · next constants =>
      rw [show items.mapM ListItem.constant? = none from constants]
      exact (congrArg Prod.fst (Option.some.inj h)).symm

end Items

/-- A list of items, written out in the one context and bound as an array, if it can be, in the other. -/
theorem packs_inItems (arrays : ctx.dialect.capabilities.arrayBinding = true) {test test' : Operand}
    {list : List Expression} (htest : test.Related (Draft.Packs ctx names) test')
    (hlist : List.Forall₂ (Operand.Related (Draft.Packs ctx names))
      (operands (ctx.withArrays false) list) (operands (ctx.withArrays true) list)) :
    Draft.Packs ctx names
      ((ctx.withArrays false).inItems test (operands (ctx.withArrays false) list) negated)
      ((ctx.withArrays true).inItems test' (operands (ctx.withArrays true) list) negated) := by
  have congruence : Draft.Congruence ctx.dialect ctx.dialect (Draft.Packs ctx names) :=
    Draft.congruence_packs ctx.dialect
  have packsTest := congruence.operand htest
  have off : (ctx.withArrays false).bindsArrays = false := rfl
  have on : (ctx.withArrays true).bindsArrays = true := arrays
  unfold inItems
  rw [off, on, Operand.Related.arrayOfList?_eq hlist]
  simp only [Bool.false_eq_true, if_false, if_true]
  cases found : arrayOfList? (operands (ctx.withArrays false) list) with
  | none => exact congruence.writtenInList packsTest (congruence.listed (congruence.drafts hlist)) negated
  | some array =>
    intro mode depth success
    obtain ⟨source, element⟩ := array
    obtain ⟨testSuccess, listed⟩ := Draft.refusal?_writtenInList.1 success
    obtain ⟨items, same, literals, written⟩ := exists_items_of_arrayOfList? found listed
    obtain ⟨parts, packing⟩ := packsTest mode depth testSuccess
    let part : ArrayList := ⟨negated, mode, element, items, source⟩
    have arises : part.Arises ctx := .items same literals
    exact ⟨_, packing.list arrays testSuccess listed arises written⟩

/-- Contexts that differ in whether lists are bound as arrays. -/
theorem correspond_withArrays (arrays : ctx.dialect.capabilities.arrayBinding = true) (names : List String) :
    (ctx.withArrays false).Correspond (ctx.withArrays true) (· ∈ names)
      (Draft.Packs ctx names) where
  toCongruence := Draft.congruence_packs ctx.dialect
  literal _ _ := (Draft.congruence_packs ctx.dialect).refl _
  parameter _ := (Draft.congruence_packs ctx.dialect).refl _
  limits _ _ := (Draft.congruence_packs ctx.dialect).limitClause rfl
  multiValued type _ hname := packs_inMultiValued arrays type hname
  items _ := packs_inItems arrays

end TranslationContext

/-- What a statement writes with lists written out consists of parts, with which it is written with arrays. -/
theorem Statement.exists_packing {ctx : TranslationContext}
    (arrays : ctx.dialect.capabilities.arrayBinding = true) (s : Statement)
    (success : (s.draft (ctx.withArrays false)).refusal? .plain 0 = none) :
    ∃ parts, Draft.Packing ctx s.multiValued .plain 0 (s.draft (ctx.withArrays false))
      (s.draft (ctx.withArrays true)) parts :=
  s.draft_related (TranslationContext.correspond_withArrays arrays s.multiValued) (fun _ hname => hname) .plain 0
    success

end SqlDialects
