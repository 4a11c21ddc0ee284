import SqlDialects.Proofs.Marshal.Arrays
import SqlDialects.Proofs.Placeholder.LockStep
import SqlDialects.Proofs.Test.Operators
import SqlDialects.Proofs.Translation.Lists

/-!
# Lists written out against lists bound as arrays

A statement that can be translated and bound with its lists written out need not be with arrays: the test of a
list without elements is written only then, and converted elements need a representation with the driver, to which
each of them has to be carried over. Where the types of the elements are registered and no single value is given
for a list, nothing else stands in the way, and each array holds its elements in the order of the items
(`Statement.lists_as_arrays`).
-/

namespace SqlDialects

/-! ## What is written -/

/-- What an act adds can be written down. -/
def Write.IsWritten (w : Write) : Prop := w.added.unwritable? = none

/-- What is tested can be written where the list stands. -/
def EmptyList.IsWritten (ctx : TranslationContext) (l : EmptyList) : Prop :=
  l.refusal? ctx = none ∧ ∀ w ∈ (l.test.operand ctx).draft.writes l.mode l.depth, w.IsWritten

namespace ListPart

variable {ctx : TranslationContext} {d : Dialect} {part : ListPart}

/-- The part can be written with arrays, which is in question only for the test of a list without elements. -/
def IsWritten (ctx : TranslationContext) : ListPart → Prop
  | empty l => l.IsWritten ctx
  | _ => True

theorem isWritten_membershipActs {negated : Bool} {source : ParameterSource} {element : ResolvedType} :
    ∀ w ∈ membershipActs d negated source element, w.IsWritten := by
  cases d <;> simp [membershipActs, Write.IsWritten, Write.added, Token.unwritable?]

/-- If a part can be written down with lists written out, it can be with arrays, up to the test of a list without
elements. -/
theorem isWritten_iff (expanded : ∀ w ∈ part.expanded d, w.IsWritten) :
    part.IsWritten ctx ↔ part.refusal? ctx = none ∧ ∀ w ∈ part.packed ctx, w.IsWritten := by
  cases part with
  | act w => exact ⟨fun _ => ⟨rfl, expanded⟩, fun _ => trivial⟩
  | list l => exact ⟨fun _ => ⟨rfl, isWritten_membershipActs⟩, fun _ => trivial⟩
  | empty l =>
    refine and_congr Iff.rfl ?_
    rw [packed, EmptyList.packed, List.forall_mem_append]
    exact (and_iff_left isWritten_membershipActs).symm

end ListPart

namespace Statement

variable {ctx : TranslationContext} {s : Statement} {op : Operation}

theorem tokens_page : (s.page ctx).tokens.toList = (s.acts ctx).map Write.added :=
  (Page.tokens_writeAll .blank _).trans (List.nil_append _)

/-- A statement is translated if its draft is not refused and every act can be written down. -/
theorem exists_translate_iff : (∃ op, s.translate ctx = .ok op) ↔
    (s.draft ctx).refusal? .plain 0 = none ∧ ∀ w ∈ s.acts ctx, w.IsWritten := by
  have written : (∀ w ∈ s.acts ctx, w.IsWritten) ↔
      (s.page ctx).tokens.toList.findSome? Token.unwritable? = none := by
    simp [tokens_page, Write.IsWritten]
  rw [translate_eq, written]
  unfold Page.operation Token.textOfAll
  cases (s.draft ctx).refusal? .plain 0 with
  | some cause => simp
  | none =>
    cases (s.page ctx).tokens.toList.findSome? Token.unwritable? with
    | some obstacle => simp [bind, Except.bind]
    | none => simp [bind, Except.bind]

theorem parameters_of_translate (h : s.translate ctx = .ok op) :
    op.parameters = (s.acts ctx).filterMap Write.recorded? :=
  (of_translate_eq_ok h).2.2.trans ((Page.parameters_writeAll .blank _).trans (List.nil_append _))

/-- The list is one of the statement that is left out, with its test, where lists are written out. -/
def LeavesOut (ctx : TranslationContext) (s : Statement) (l : EmptyList) : Prop :=
  l.StandsIn ctx s.multiValued (s.draft (ctx.withArrays true)) .plain 0

/-- A statement is translated with arrays only if the tests that it leaves out otherwise can be written. -/
theorem LeavesOut.isWritten {l : EmptyList} (h : s.LeavesOut ctx l)
    (arrays : ctx.dialect.capabilities.arrayBinding = true) (hop : s.translate (ctx.withArrays true) = .ok op) :
    l.IsWritten (ctx.withArrays true) := by
  obtain ⟨success, written⟩ := exists_translate_iff.1 ⟨op, hop⟩
  obtain ⟨there, mode, depth, reached⟩ :=
    h.enclosed.exists_carriesOut success (rfl : Page.blank.mode = .plain) (rfl : Page.blank.depth = 0)
  obtain ⟨done, tokens⟩ := written_of_carriesOut hop reached
  rw [mode, depth, TranslationContext.draft_membership arrays] at done tokens
  have test := (Draft.refusal?_arrayMembership arrays).1 done
  refine ⟨test, fun w hw => ?_⟩
  rw [Draft.tokens, Draft.writes_arrayMembership arrays test] at tokens
  have onPage : w.added ∈ (s.acts (ctx.withArrays true)).map Write.added := by
    rw [← tokens_page]
    exact tokens.subset (List.mem_append_right _ (List.mem_map_of_mem (List.mem_append_left _ hw)))
  obtain ⟨u, hu, same⟩ := List.mem_map.1 onPage
  have own : u.added.unwritable? = none := written u hu
  rwa [same] at own

end Statement

/-! ## What is bound -/

namespace Parameter

variable (b : Bindings) (types : TypeRegistry) (preferred : RepresentationMap)

/-- There is a value for the parameter, in a form that the driver binds. -/
def Binds (p : Parameter) : Prop :=
  ∃ v, p.source.resolve b = .ok v ∧ ∃ x, (p.toDriver types preferred v).result = .ok x

variable {b types preferred}

theorem exists_bound_iff {p : Parameter} {position : Nat} :
    (∃ value, p.bound b types preferred position = .ok value) ↔ p.Binds b types preferred := by
  constructor
  · rintro ⟨value, h⟩
    obtain ⟨-, -, v, resolves, driver⟩ := bound_eq_ok h
    exact ⟨v, resolves, value.value, driver⟩
  · rintro ⟨v, resolves, x, driver⟩
    exact ⟨⟨position, x, p.type.descriptor⟩, by simp [bound, resolves, driver]⟩

/-- Parameters are bound if each of them is. -/
theorem exists_boundFrom_iff {ps : List Parameter} {position : Nat} :
    (∃ values, boundFrom b types preferred position ps = .ok values) ↔ ∀ p ∈ ps, p.Binds b types preferred := by
  induction ps generalizing position with
  | nil => exact iff_of_true ⟨[], rfl⟩ (List.forall_mem_nil _)
  | cons p ps ih =>
    rw [List.forall_mem_cons]
    constructor
    · rintro ⟨values, h⟩
      obtain ⟨value, first, h⟩ := Except.bind_eq_ok.1 h
      obtain ⟨others, rest, -⟩ := Except.bind_eq_ok.1 h
      exact ⟨exists_bound_iff.1 ⟨value, first⟩, ih.1 ⟨others, rest⟩⟩
    · rintro ⟨binds, all⟩
      obtain ⟨value, first⟩ : ∃ value, p.bound b types preferred position = .ok value :=
        exists_bound_iff.2 binds
      obtain ⟨others, rest⟩ : ∃ others, boundFrom b types preferred (position + 1) ps = .ok others := ih.2 all
      exact ⟨value :: others, Except.bind_eq_ok.2 ⟨value, first, Except.bind_eq_ok.2 ⟨others, rest, rfl⟩⟩⟩

/-- The value of a parameter stands behind those of the parameters in front of it. -/
theorem exists_value {before after : List Parameter} {p : Parameter} {values : List BoundValue}
    (h : boundFrom b types preferred 1 (before ++ p :: after) = .ok values) :
    ∃ bound, values[before.length]? = some bound ∧ bound.descriptor = p.type.descriptor ∧
      ∃ v, p.source.resolve b = .ok v ∧ (p.toDriver types preferred v).result = .ok bound.value := by
  obtain ⟨length, each⟩ := getElem_boundFrom h
  have place : before.length < (before ++ p :: after).length := by simp
  have value := each before.length place (length ▸ place)
  rw [List.getElem_append_right (Nat.le_refl _)] at value
  simp only [Nat.sub_self, List.getElem_cons_zero] at value
  obtain ⟨-, descriptor, source⟩ := bound_eq_ok value
  exact ⟨_, List.getElem?_eq_getElem _, descriptor, source⟩

/-- The value of an array is bound if it is consumed and bound by the marshaller of its elements. -/
theorem boundFrom_array {source : ParameterSource} {element : ResolvedType} {v : Value} {position : Nat}
    (hv : source.resolve b = .ok v) :
    boundFrom b types preferred position [⟨source, .arrayOf element⟩] =
      match types.marshaller element.name >>= fun m =>
        m.consume v >>= fun array => (m.bind types.recommended preferred array).result with
      | .ok a => .ok [⟨position, a, .arrayOf element.descriptor⟩]
      | .error e => .error (.marshal e) := by
  rw [← result_toDriver_arrayOf]
  simp only [boundFrom, bound, hv]
  cases (toDriver types preferred ⟨source, .arrayOf element⟩ v).result <;> rfl

end Parameter

/-- The parameters recorded for what is joined are those of the pieces. -/
theorem filterMap_recorded?_intercalate {sep : List Write} (hsep : sep.filterMap Write.recorded? = [])
    (pieces : List (List Write)) :
    (sep.intercalate pieces).filterMap Write.recorded? = pieces.flatMap (·.filterMap Write.recorded?) := by
  induction pieces with
  | nil => rfl
  | cons piece pieces ih =>
    cases pieces with
    | nil => simp
    | cons next rest =>
      rw [List.intercalate_cons_of_ne_nil (List.cons_ne_nil _ _), List.filterMap_append, List.filterMap_append,
        hsep, List.append_nil, ih]
      rfl

/-- The parameters of an item that is written out. -/
def ListItem.parameters (element : ResolvedType) : ListItem → List Parameter
  | constant _ _ => []
  | parameter source => [⟨source, element⟩]

namespace ListPart

/-- The parameters of a part with lists bound as arrays. -/
def parameters (ctx : TranslationContext) (part : ListPart) : List Parameter :=
  (part.packed ctx).filterMap Write.recorded?

end ListPart

theorem Draft.recorded_parameter (d : Dialect) (p : Parameter) (mode : RenderingMode) :
    ((Draft.parameter d p).writes mode 0).filterMap Write.recorded? = [p] := by
  cases mode with
  | plain => rfl
  | typed =>
    simp [parameter, castAs, writes, writes_append, refusal?_append_eq_none, refusal?_raw, writes_raw, refusal?]
    rfl

theorem recorded_membershipActs (d : Dialect) (negated : Bool) (source : ParameterSource)
    (element : ResolvedType) :
    (membershipActs d negated source element).filterMap Write.recorded? = [⟨source, .arrayOf element⟩] := by
  cases d <;> rfl

namespace ListPart

/-- The list that is bound as an array. One over a parameter without elements is written out with no items. -/
def array? : ListPart → Option ArrayList
  | act _ => none
  | list l => some l
  | empty l => some ⟨l.negated, l.mode, l.element, [], .named l.name⟩

/-- The parameters in front of that of the array, which are those of a test that is left out otherwise. -/
def tested (ctx : TranslationContext) : ListPart → List Parameter
  | act _ => []
  | list _ => []
  | empty l => ((l.test.operand ctx).draft.writes l.mode l.depth).filterMap Write.recorded?

/-- The array of a list is its last parameter. -/
theorem parameters_of_array? {part : ListPart} {l : ArrayList} (h : part.array? = some l)
    (ctx : TranslationContext) :
    part.parameters ctx = part.tested ctx ++ [⟨l.source, .arrayOf l.element⟩] := by
  cases part with
  | act w => cases h
  | list l =>
    obtain rfl := Option.some.inj h
    exact recorded_membershipActs ctx.dialect l.negated l.source l.element
  | empty l =>
    obtain rfl := Option.some.inj h
    rw [parameters, packed, EmptyList.packed, List.filterMap_append, recorded_membershipActs]
    rfl

end ListPart

theorem ArrayList.recorded_expanded (d : Dialect) (l : ArrayList) :
    (l.expanded d).filterMap Write.recorded? = l.items.flatMap (·.parameters l.element) := by
  have each (item : ListItem) : (item.acts d l.mode l.element).filterMap Write.recorded? =
      item.parameters l.element := by
    cases item with
    | constant value literal => rfl
    | parameter source => exact Draft.recorded_parameter d _ l.mode
  have gap : [Write.token .comma, .token .space].filterMap Write.recorded? = [] := rfl
  rw [expanded, List.cons_append, List.filterMap_cons_none rfl, List.filterMap_append,
    filterMap_recorded?_intercalate gap, List.flatMap_map]
  simp only [each]
  exact List.append_nil _

/-! ## The values of a list -/

namespace Value

/-- The elements of a bound value; a single value is its own only element. -/
def boundElements (v : Value) : List Value := v.elements?.getD [v]

theorem boundElement?_eq (v : Value) (index : Nat) : v.boundElement? index = v.boundElements[index]? := by
  unfold boundElement? boundElements
  cases v.elements? with
  | some vs => rfl
  | none => cases index <;> rfl

theorem boundLength_eq (v : Value) : v.boundLength = v.boundElements.length := by
  unfold boundLength boundElements
  cases v.elements? <;> rfl

end Value

section Values

variable {b : Bindings} {types : TypeRegistry} {preferred : RepresentationMap} {v : Value} {us : List Value}

theorem resolveAll_eq_ok {sources : List ParameterSource} :
    resolveAll b sources = .ok us ↔ List.Forall₂ (fun source u => source.resolve b = .ok u) sources us := by
  induction sources generalizing us with
  | nil =>
    rw [resolveAll, List.forall₂_nil_left_iff]
    exact ⟨fun h => (Except.ok.inj h).symm, fun h => h ▸ rfl⟩
  | cons source sources ih =>
    rw [List.forall₂_cons_left_iff, resolveAll]
    constructor
    · intro h
      split at h
      · cases h
      · next u first =>
        split at h
        · next values rest => exact ⟨u, values, first, ih.1 rest, (Except.ok.inj h).symm⟩
        · cases h
    · rintro ⟨u, values, first, rest, rfl⟩
      rw [first, ih.2 rest]

/-- Constants are their own values. -/
theorem eq_of_mapM_constant? {items : List ListItem} {values : List Value}
    (constants : items.mapM ListItem.constant? = some values)
    (h : List.Forall₂ (fun item u => item.source.resolve b = .ok u) items us) : values = us := by
  induction h generalizing values with
  | nil => exact (Option.some.inj constants).symm
  | @cons item u items us first _ ih =>
    rw [List.mapM_cons, Option.bind_eq_bind, Option.bind_eq_some_iff] at constants
    obtain ⟨value, hvalue, constants⟩ := constants
    obtain ⟨rest, hrest, same⟩ := Option.bind_eq_some_iff.1 constants
    obtain rfl := Option.some.inj same
    cases item with
    | constant value literal =>
      obtain rfl := Option.some.inj hvalue
      rw [ih hrest, show value = u from Except.ok.inj first]
    | parameter source => cases hvalue

/-- The array of items holds the values of the items. -/
theorem resolve_sourceOfItems {items : List ListItem}
    (h : List.Forall₂ (fun item u => item.source.resolve b = .ok u) items us) :
    (sourceOfItems items).resolve b = .ok (.collection us) := by
  unfold sourceOfItems
  split
  · next values constants => rw [ParameterSource.resolve, eq_of_mapM_constant? constants h]
  · rw [ParameterSource.resolve, resolveAll_eq_ok.2 (List.forall₂_map_left_iff.2 h)]

/-- The source of a parameter in a list is a name or an element of a multi-valued parameter. -/
theorem resolve_element {name : String} {index : Nat} {u : Value}
    (h : (ParameterSource.element name index).resolve b = .ok u) :
    ∃ v, b.get? name = some v ∧ v.boundElements[index]? = some u := by
  rw [ParameterSource.resolve] at h
  split at h
  · cases h
  · next v hv =>
    split at h
    · next element helement =>
      obtain rfl := Except.ok.inj h
      exact ⟨v, hv, by rw [← v.boundElement?_eq, helement]⟩
    · cases h

namespace ArrayList

variable {ctx : TranslationContext} {l : ArrayList}

/-- The value that the array of a list is made of, and the values of the items of the list. -/
structure Holds (b : Bindings) (l : ArrayList) (v : Value) (us : List Value) : Prop where
  resolves : l.source.resolve b = .ok v
  items : List.Forall₂ (fun item u => item.source.resolve b = .ok u) l.items us
  front : us <+: v.boundElements
  /-- Only a multi-valued parameter may be bound to more elements than were known. -/
  all : us = v.boundElements ∨
    ∃ name, l.source = .named name ∧ b.get? name = some v ∧ l.items.length < v.boundLength

theorem Arises.exists_holds (arises : l.Arises ctx)
    (items : List.Forall₂ (fun item u => item.source.resolve b = .ok u) l.items us) : ∃ v, l.Holds b v us := by
  cases arises with
  | items same _ =>
    refine ⟨.collection us, ?_, items, List.prefix_rfl, .inl rfl⟩
    rw [same, resolve_sourceOfItems items]
  | @multiValued name count _ positive same elements =>
    obtain ⟨length, each⟩ := List.forall₂_iff_get.1 items
    have size : l.items.length = count := by
      rw [elements, elementsOf, List.length_map, List.length_range]
    have known (i : Nat) (hi : i < us.length) :
        ∃ v, b.get? name = some v ∧ v.boundElements[i]? = some us[i] := by
      have value := each i (length ▸ hi) hi
      refine resolve_element ?_
      simpa [elements, elementsOf, ListItem.source] using value
    obtain ⟨v, hv, -⟩ := known 0 (by omega)
    have front : us <+: v.boundElements := List.prefix_iff_getElem?.2 fun i hi => by
      obtain ⟨w, hw, element⟩ := known i hi
      obtain rfl := Option.some.inj (hv.symm.trans hw)
      exact element
    refine ⟨v, by rw [same, ParameterSource.resolve, hv], items, front, ?_⟩
    rcases Nat.eq_or_lt_of_le front.length_le with whole | more
    · exact .inl (front.eq_of_length whole)
    · exact .inr ⟨name, same, hv, by rwa [length, v.boundLength_eq]⟩

/-- A list without items holds none of the elements that the parameter has when it is bound. -/
theorem holds_nil {negated : Bool} {mode : RenderingMode} {element : ResolvedType} {name : String}
    (resolves : (ParameterSource.named name).resolve b = .ok v) :
    Holds b ⟨negated, mode, element, [], .named name⟩ v [] where
  resolves := resolves
  items := .nil
  front := List.nil_prefix
  all := by
    have bound : b.get? name = some v := by
      rw [ParameterSource.resolve] at resolves
      split at resolves
      · exact Except.ok.inj resolves ▸ ‹_›
      · cases resolves
    rcases Nat.eq_zero_or_pos v.boundLength with none | some
    · rw [v.boundLength_eq] at none
      exact .inl (List.length_eq_zero_iff.1 none).symm
    · exact .inr ⟨name, rfl, bound, some⟩

/-- The items of a list that can be bound written out have values. -/
theorem exists_items (l : ArrayList)
    (binds : ∀ p ∈ l.items.flatMap (·.parameters l.element), p.Binds b types preferred) :
    ∃ us, List.Forall₂ (fun item u => item.source.resolve b = .ok u) l.items us := by
  refine List.exists_forall₂ fun item hitem => ?_
  cases item with
  | constant value literal => exact ⟨value, rfl⟩
  | parameter source =>
    obtain ⟨v, hv, -⟩ := binds ⟨source, l.element⟩ (List.mem_flatMap.2 ⟨_, hitem, List.mem_singleton_self _⟩)
    exact ⟨v, hv⟩

/-- The type of the elements is registered, and the list is bound to null, an array or a collection, not to a
single value. -/
structure HasArray (b : Bindings) (types : TypeRegistry) (l : ArrayList) : Prop where
  registered : ∃ m, types.marshaller l.element.name = .ok m
  plural : ∀ v, l.source.resolve b = .ok v → v = .null ∨ ∃ vs, v.elements? = some vs

/-- The marshaller of the elements can carry over a value: there is a representation of the elements with the
driver, and each element of the value passes. -/
def CanCarry (types : TypeRegistry) (preferred : RepresentationMap) (l : ArrayList) (v : Value) : Prop :=
  ∀ m, types.marshaller l.element.name = .ok m →
    ∃ target, m.boundComponent types.recommended preferred = .ok target ∧
      ∀ vs, v.elements? = some vs → ∀ x ∈ vs,
        ∃ y, m.carry target (ArrayMarshaller.hasElements m.component v) x = .ok y

/-- The array of a list is bound only if its elements can be carried over. -/
theorem canCarry_of_toDriver {source : ParameterSource} {a : Value}
    (h : (Parameter.toDriver types preferred ⟨source, .arrayOf l.element⟩ v).result = .ok a) :
    l.CanCarry types preferred v := by
  obtain ⟨m, target, ⟨hm, htarget⟩, can⟩ := Parameter.exists_toDriver_arrayOf_iff.1 ⟨a, h⟩
  intro m' hm'
  obtain rfl := Except.ok.inj (hm.symm.trans hm')
  refine ⟨target, htarget, fun vs hvs x hx => ?_⟩
  rcases can with rfl | ⟨ws, hws, all⟩
  · cases hvs
  · obtain rfl := Option.some.inj (hws.symm.trans hvs)
    exact all x hx

/-- The array of a list is bound if there is one and its elements can be carried over. -/
theorem HasArray.exists_toDriver (h : l.HasArray b types) (resolves : l.source.resolve b = .ok v)
    (can : l.CanCarry types preferred v) :
    ∃ a, (Parameter.toDriver types preferred ⟨l.source, .arrayOf l.element⟩ v).result = .ok a := by
  obtain ⟨m, hm⟩ := h.registered
  obtain ⟨target, htarget, all⟩ := can m hm
  refine Parameter.exists_toDriver_arrayOf_iff.2 ⟨m, target, ⟨hm, htarget⟩, ?_⟩
  rcases h.plural v resolves with null | ⟨vs, hvs⟩
  · exact .inl null
  · exact .inr ⟨vs, hvs, all vs hvs⟩

/-- What is bound as the array of a list, made of a value: the carried elements of the value in order, as many
as the list has items if these are all of them. -/
structure BoundAs (types : TypeRegistry) (preferred : RepresentationMap) (l : ArrayList) (v : Value)
    (us : List Value) (bound : BoundValue) : Prop where
  descriptor : bound.descriptor = .arrayOf l.element.descriptor
  carried : ∃ m target, Parameter.Carrier types preferred l.element m target ∧ m.Carries target v bound.value
  length : us = v.boundElements → ∀ ws, bound.value.elements? = some ws → ws.length = l.items.length

/-- The array of a list has as many elements as the list has items, unless a multi-valued parameter has more. -/
theorem Holds.length_of_carries (h : l.Holds b v us) {m : ArrayMarshaller} {target : HostType} {a : Value}
    (carries : m.Carries target v a) (whole : us = v.boundElements) {ws : List Value}
    (hws : a.elements? = some ws) :
    ws.length = l.items.length := by
  cases carries with
  | null => cases hws
  | elements hv array all =>
    obtain rfl := Option.some.inj (array.elements?_eq.symm.trans hws)
    rw [h.items.length_eq, whole, Value.boundElements, hv, all.length_eq.symm]
    rfl

/-- The array of a list among other parameters. -/
theorem Holds.exists_boundAs (h : l.Holds b v us) {before after : List Parameter} {values : List BoundValue}
    (hvalues : Parameter.boundFrom b types preferred 1 (before ++ ⟨l.source, .arrayOf l.element⟩ :: after) =
      .ok values) :
    ∃ bound, values[before.length]? = some bound ∧ l.BoundAs types preferred v us bound := by
  obtain ⟨bound, place, descriptor, w, hw, driver⟩ := Parameter.exists_value hvalues
  obtain rfl := Except.ok.inj (h.resolves.symm.trans hw)
  obtain ⟨m, target, carrier, carries⟩ := Parameter.carries_of_toDriver_arrayOf driver
  exact ⟨bound, place, descriptor, ⟨m, target, carrier, carries⟩, h.length_of_carries carries⟩

end ArrayList

end Values

/-! ## Both ways compared -/

section Compare

variable {ctx : TranslationContext} {b : Bindings} {types : TypeRegistry} {preferred : RepresentationMap}

namespace ListPart

/-- The part can be bound with arrays: the elements of each list can be carried over, and all parameters of the
test of a list without elements and of its array can be bound. -/
def Binds (ctx : TranslationContext) (b : Bindings) (types : TypeRegistry) (preferred : RepresentationMap) :
    ListPart → Prop
  | act _ => True
  | list l => ∃ v, l.source.resolve b = .ok v ∧ l.CanCarry types preferred v
  | empty l => ∀ p ∈ (empty l).parameters ctx, p.Binds b types preferred

/-- If the parameters of a part can be bound with lists written out, they can be with arrays as far as those of
the arrays can, and of the tests of lists without elements. -/
theorem binds_iff {d : Dialect} {part : ListPart}
    (expanded : ∀ p ∈ (part.expanded d).filterMap Write.recorded?, p.Binds b types preferred)
    (array : ∀ l, part = .list l → l.HasArray b types) :
    part.Binds ctx b types preferred ↔ ∀ p ∈ part.parameters ctx, p.Binds b types preferred := by
  cases part with
  | act w => exact ⟨fun _ => expanded, fun _ => trivial⟩
  | list l =>
    rw [parameters_of_array? (rfl : (list l).array? = some l), tested, List.nil_append, List.forall_mem_singleton]
    refine exists_congr fun v => and_congr_right fun resolves => ?_
    exact ⟨(array l rfl).exists_toDriver resolves, fun ⟨_, bound⟩ => l.canCarry_of_toDriver bound⟩
  | empty l => exact Iff.rfl

end ListPart

namespace Draft.Packing

variable {names : List String} {mode : RenderingMode} {depth : Nat} {x x' : Draft} {parts : List ListPart}

/-- With arrays, a draft is written if its parts are. -/
theorem isWritten_iff (h : Packing ctx names mode depth x x' parts)
    (written : ∀ w ∈ x.writes mode depth, w.IsWritten) :
    (x'.refusal? mode depth = none ∧ ∀ w ∈ x'.writes mode depth, w.IsWritten) ↔
      ∀ part ∈ parts, part.IsWritten (ctx.withArrays true) := by
  rw [h.expanded, List.forall_mem_flatMap] at written
  have each : ∀ part ∈ parts, part.IsWritten (ctx.withArrays true) ↔
      part.refusal? (ctx.withArrays true) = none ∧ ∀ w ∈ part.packed (ctx.withArrays true), w.IsWritten :=
    fun part hpart => ListPart.isWritten_iff (written part hpart)
  constructor
  · rintro ⟨success, all⟩ part hpart
    rw [h.packed success, List.forall_mem_flatMap] at all
    exact (each part hpart).2 ⟨h.refuses.1 success part hpart, all part hpart⟩
  · intro all
    have success := h.refuses.2 fun part hpart => ((each part hpart).1 (all part hpart)).1
    rw [h.packed success, List.forall_mem_flatMap]
    exact ⟨success, fun part hpart => ((each part hpart).1 (all part hpart)).2⟩

/-- The parameters recorded with arrays are those of the parts. -/
theorem recorded (h : Packing ctx names mode depth x x' parts) (success : x'.refusal? mode depth = none) :
    (x'.writes mode depth).filterMap Write.recorded? = parts.flatMap (·.parameters (ctx.withArrays true)) := by
  rw [h.packed success, List.filterMap_flatMap]
  rfl

variable (binds : ∀ p ∈ (x.writes mode depth).filterMap Write.recorded?, p.Binds b types preferred)
include binds

theorem binds_expanded (h : Packing ctx names mode depth x x' parts) {part : ListPart} (hpart : part ∈ parts) :
    ∀ p ∈ (part.expanded ctx.dialect).filterMap Write.recorded?, p.Binds b types preferred := by
  rw [h.expanded, List.filterMap_flatMap, List.forall_mem_flatMap] at binds
  exact binds part hpart

/-- The lists have values if they can be bound written out. -/
theorem exists_holds (h : Packing ctx names mode depth x x' parts) {l : ArrayList} (hl : .list l ∈ parts) :
    ∃ v us, l.Holds b v us := by
  have own := h.binds_expanded binds hl
  rw [ListPart.expanded, ArrayList.recorded_expanded] at own
  obtain ⟨us, hus⟩ := l.exists_items own
  obtain ⟨v, hv⟩ := (h.arises _ hl).exists_holds hus
  exact ⟨v, us, hv⟩

/-- The value that an array is made of begins with the values of the items. -/
theorem exists_holds_of_array? (h : Packing ctx names mode depth x x' parts) {part : ListPart}
    (hpart : part ∈ parts) {l : ArrayList} (hl : part.array? = some l) {v : Value}
    (resolves : l.source.resolve b = .ok v) : ∃ us, l.Holds b v us := by
  cases part with
  | act w => cases hl
  | list l =>
    obtain rfl := Option.some.inj hl
    obtain ⟨v', us, hv⟩ := h.exists_holds binds hpart
    obtain rfl := Except.ok.inj (hv.resolves.symm.trans resolves)
    exact ⟨us, hv⟩
  | empty l =>
    obtain rfl := Option.some.inj hl
    exact ⟨[], ArrayList.holds_nil resolves⟩

/-- With arrays, the parameters can be bound if the parts can. -/
theorem binds_iff (h : Packing ctx names mode depth x x' parts)
    (array : ∀ l, .list l ∈ parts → l.HasArray b types) :
    (∀ p ∈ parts.flatMap (·.parameters (ctx.withArrays true)), p.Binds b types preferred) ↔
      ∀ part ∈ parts, part.Binds (ctx.withArrays true) b types preferred := by
  rw [List.forall_mem_flatMap]
  refine forall₂_congr fun part hpart => (ListPart.binds_iff (h.binds_expanded binds hpart) ?_).symm
  rintro l rfl
  exact array l hpart

end Draft.Packing

namespace Statement

variable {s : Statement}

/-- What lists bound as arrays change. A statement that can be translated and bound with its lists written out is
translated with arrays if and only if the tests of the lists without elements, which it leaves out otherwise, can
be written. It consists of parts with which it is written in both ways. It is bound if and only if the elements of
each list can be carried over to an array, and what those tests add can be bound; this is left open where a list
has elements of a type that is not registered, or a single value in place of elements. Each array is then bound at
its place, made of the values of the items in order; only that of a multi-valued parameter may hold more, if the
parameter is bound to more elements than were known. -/
theorem lists_as_arrays (arrays : ctx.dialect.capabilities.arrayBinding = true) {op : Operation}
    (hop : s.translate (ctx.withArrays false) = .ok op) {values : List BoundValue}
    (hvalues : op.bindValues b types preferred = .ok values) :
    ((∃ op', s.translate (ctx.withArrays true) = .ok op') ↔
      ∀ l : EmptyList, s.LeavesOut ctx l → l.IsWritten (ctx.withArrays true)) ∧
    ∃ parts : List ListPart,
      (∀ part ∈ parts, part.Arises ctx s.multiValued (s.draft (ctx.withArrays true)) .plain 0) ∧
      s.acts (ctx.withArrays false) = parts.flatMap (·.expanded ctx.dialect) ∧
      (∀ l, .list l ∈ parts → ∃ v us, l.Holds b v us) ∧
      ∀ op', s.translate (ctx.withArrays true) = .ok op' →
        s.acts (ctx.withArrays true) = parts.flatMap (·.packed (ctx.withArrays true)) ∧
        ((∀ l, .list l ∈ parts → l.HasArray b types) →
          ((∃ values', op'.bindValues b types preferred = .ok values') ↔
            ∀ part ∈ parts, part.Binds (ctx.withArrays true) b types preferred)) ∧
        ∀ values', op'.bindValues b types preferred = .ok values' →
          ∀ before part after l, parts = before ++ part :: after → part.array? = some l →
            ∃ v us bound, l.Holds b v us ∧
              values'[(before.flatMap (·.parameters (ctx.withArrays true)) ++
                part.tested (ctx.withArrays true)).length]? = some bound ∧
              l.BoundAs types preferred v us bound := by
  obtain ⟨success, written⟩ := exists_translate_iff.1 ⟨op, hop⟩
  obtain ⟨parts, packing⟩ := s.exists_packing arrays success
  have binds := Parameter.exists_boundFrom_iff.1 ⟨values, hvalues⟩
  rw [parameters_of_translate hop] at binds
  have translated : (∃ op', s.translate (ctx.withArrays true) = .ok op') ↔
      ∀ l : EmptyList, s.LeavesOut ctx l → l.IsWritten (ctx.withArrays true) := by
    refine ⟨fun ⟨op', hop'⟩ l hl => hl.isWritten arrays hop', fun all => ?_⟩
    refine exists_translate_iff.2 ((packing.isWritten_iff written).2 fun part hpart => ?_)
    cases part with
    | empty l => exact all l (packing.arises _ hpart)
    | _ => trivial
  refine ⟨translated, parts, packing.arises, packing.expanded, fun l hl => packing.exists_holds binds hl,
    fun op' hop' => ?_⟩
  have success' := (exists_translate_iff.1 ⟨op', hop'⟩).1
  have parameters : op'.parameters = parts.flatMap (·.parameters (ctx.withArrays true)) :=
    (parameters_of_translate hop').trans (packing.recorded success')
  unfold Operation.bindValues
  rw [parameters, Parameter.exists_boundFrom_iff]
  refine ⟨packing.packed success', packing.binds_iff binds,
    fun values' hvalues' before part after l split hl => ?_⟩
  have hpart : part ∈ parts := split ▸ List.mem_append_right before List.mem_cons_self
  rw [split, List.flatMap_append, List.flatMap_cons, ListPart.parameters_of_array? hl, List.append_assoc,
    ← List.append_assoc, List.singleton_append] at hvalues'
  obtain ⟨-, -, -, v, resolves, -⟩ := Parameter.exists_value hvalues'
  obtain ⟨us, hv⟩ := packing.exists_holds_of_array? binds hpart hl resolves
  obtain ⟨bound, place, as⟩ := hv.exists_boundAs hvalues'
  exact ⟨v, us, bound, hv, place, as⟩

/-- A selection by membership in a list. -/
def selectsIn (test : Expression) (list : List Expression) : Statement :=
  .select (.select
    { items := [⟨.column none "id" none, none⟩]
      tables := [⟨"t", none⟩]
      filter := some (.inList test list false) })

/-- Two constants of a registered type are written as one array and bound. -/
theorem lists_as_arrays_selectsTwo :
    let one : Value := .integer .int ⟨1, by decide⟩
    let two : Value := .integer .int ⟨2, by decide⟩
    let integer : ResolvedType := ⟨"integer", .ofCode .integer⟩
    let ctx : TranslationContext := .ofDialect .postgres
    let s : Statement := selectsIn (.column none "id" none) [.literal one integer, .literal two integer]
    ctx.dialect.capabilities.arrayBinding = true ∧ ∃ op values, s.translate (ctx.withArrays false) = .ok op ∧
      op.bindValues [] .standard [] = .ok values ∧
      (∀ l : EmptyList, s.LeavesOut ctx l → l.IsWritten (ctx.withArrays true)) ∧ ∃ parts : List ListPart,
        s.acts (ctx.withArrays false) = parts.flatMap (·.expanded ctx.dialect) ∧
        s.acts (ctx.withArrays true) = parts.flatMap (·.packed (ctx.withArrays true)) ∧
        (∀ l, .list l ∈ parts → l.HasArray [] .standard) ∧
        ∀ part ∈ parts, part.Binds (ctx.withArrays true) [] .standard [] := by
  intro one two integer ctx s
  have bound : Parameter.boundFrom [] .standard [] 1 [⟨.fixed (.collection [one, two]), .arrayOf integer⟩] =
      .ok [⟨1, .referenceArray (.boxed (.integer .int)) [one, two], .arrayOf (.ofCode .integer)⟩] :=
    Parameter.boundFrom_array (v := .collection [one, two]) rfl
  have recorded : (s.acts (ctx.withArrays true)).filterMap Write.recorded? =
      [⟨.fixed (.collection [one, two]), .arrayOf integer⟩] := rfl
  refine ⟨rfl, _, [], rfl, rfl, ?_⟩
  obtain ⟨translated, parts, -, expanded, -, each⟩ := @lists_as_arrays ctx [] .standard [] s rfl _ rfl [] rfl
  obtain ⟨packed, binds, -⟩ := each _ rfl
  have array (l : ArrayList) (hl : .list l ∈ parts) : l.HasArray [] .standard := by
    -- the only parameter of the statement is the array of the two constants
    have only : (⟨l.source, .arrayOf l.element⟩ : Parameter) ∈ (s.acts (ctx.withArrays true)).filterMap
        Write.recorded? := by
      rw [packed, List.filterMap_flatMap]
      refine List.mem_flatMap.2 ⟨_, hl, ?_⟩
      change _ ∈ (ListPart.list l).parameters (ctx.withArrays true)
      rw [ListPart.parameters_of_array? (rfl : (ListPart.list l).array? = some l)]
      exact List.mem_singleton_self _
    rw [recorded, List.mem_singleton, Parameter.mk.injEq] at only
    obtain ⟨source, type⟩ := only
    have names := congrArg ResolvedType.elementName? type
    rw [ResolvedType.elementName?_arrayOf, ResolvedType.elementName?_arrayOf] at names
    refine ⟨?_, fun v resolves => .inr ⟨[one, two], ?_⟩⟩
    · rw [Option.some.inj names]
      exact ⟨_, rfl⟩
    · rw [source] at resolves
      rw [← Except.ok.inj resolves]
      rfl
  exact ⟨translated.1 ⟨_, rfl⟩, parts, expanded, packed, array, (binds array).1 ⟨_, bound⟩⟩

/-- Lists can be written out where they cannot be bound as arrays: the test of a list without elements may be
refused, converted elements may have no representation with the driver, and constants need not be of the type they
are given. And an array holds all elements that a multi-valued parameter is bound to, not only as many as were
known. -/
theorem lists_not_as_arrays :
    let one : Value := .integer .int ⟨1, by decide⟩
    let two : Value := .integer .int ⟨2, by decide⟩
    let integer : ResolvedType := ⟨"integer", .ofCode .integer⟩
    let status := (BasicType.plain "status" (.ofCode .other) .string).withConverter
      (.enumByCode "Status" [("Active", "A"), ("Retired", "R")])
    let types := TypeRegistry.standard.register status
    let statuses : Bindings := [("a", .enumeration "Status" "Active"), ("b", .enumeration "Status" "Retired")]
    let bound (vs : List Value) : Bindings := [("ids", .collection vs)]
    let known (vs : List Value) : TranslationContext := ⟨.postgres, ⟨true⟩, .standard, some (bound vs)⟩
    let id : Expression := .column none "id" none
    let choice := selectsIn (.caseSearched ⟨[], none⟩) [.parameter "ids" integer true]
    let either := selectsIn id [.parameter "a" status.resolvedType false, .parameter "b" status.resolvedType false]
    let text := selectsIn id [.literal (.string "x") integer]
    let ids := selectsIn id [.parameter "ids" integer true]
    (∃ op, choice.translate ((known []).withArrays false) = .ok op ∧
      op.bindValues (bound []) .standard [] = .ok [] ∧
      choice.translate ((known []).withArrays true) = .error (.rejected (.invalidExpression .emptyCase))) ∧
    (∃ op values op', either.translate ((known []).withArrays false) = .ok op ∧
      op.bindValues statuses types [] = .ok values ∧ values.map (·.value) = [.string "A", .string "R"] ∧
      either.translate ((known []).withArrays true) = .ok op' ∧
      op'.bindValues statuses types [] = .error (.marshal (.unknownTypeCode .other))) ∧
    (∃ op op', text.translate ((known []).withArrays false) = .ok op ∧ op.bindValues [] .standard [] = .ok [] ∧
      text.translate ((known []).withArrays true) = .ok op' ∧
      op'.bindValues [] .standard [] = .error (.marshal (.elementMismatch "Integer" "String"))) ∧
    ∃ op values op' values', ids.translate ((known [one]).withArrays false) = .ok op ∧
      op.bindValues (bound [one, two]) .standard [] = .ok values ∧ values.map (·.value) = [one] ∧
      ids.translate ((known [one]).withArrays true) = .ok op' ∧
      op'.bindValues (bound [one, two]) .standard [] = .ok values' ∧
      values'.map (·.value) = [.referenceArray (.boxed (.integer .int)) [one, two]] := by
  intro one two integer status types statuses bound known id choice either text ids
  have unknown : Parameter.boundFrom statuses types [] 1
      [⟨.elements [.named "a", .named "b"], .arrayOf status.resolvedType⟩] =
        .error (.marshal (.unknownTypeCode .other)) :=
    Parameter.boundFrom_array
      (v := .collection [.enumeration "Status" "Active", .enumeration "Status" "Retired"]) rfl
  have mismatch : Parameter.boundFrom [] .standard [] 1
      [⟨.fixed (.collection [.string "x"]), .arrayOf integer⟩] =
        .error (.marshal (.elementMismatch "Integer" "String")) :=
    Parameter.boundFrom_array (v := .collection [.string "x"]) rfl
  have both : Parameter.boundFrom (bound [one, two]) .standard [] 1 [⟨.named "ids", .arrayOf integer⟩] =
      .ok [⟨1, .referenceArray (.boxed (.integer .int)) [one, two], .arrayOf (.ofCode .integer)⟩] :=
    Parameter.boundFrom_array (v := .collection [one, two]) rfl
  exact ⟨⟨_, rfl, rfl, rfl⟩, ⟨_, _, _, rfl, rfl, rfl, rfl, unknown⟩, ⟨_, _, rfl, rfl, rfl, mismatch⟩,
    _, _, _, _, rfl, rfl, rfl, rfl, both, rfl⟩

end Statement

end Compare

end SqlDialects
