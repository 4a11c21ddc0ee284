import Mathlib.Data.List.Forall2
import SqlDialects.Render.Binding
import SqlDialects.Proofs.Marshal.Traced

/-!
# Arrays element by element

Binding an array takes several passes over its elements: they are brought to the declared representation,
converted, and brought to the representation of the driver. Altogether every element goes its own way
(`ArrayMarshaller.carry`): the array can be bound if and only if the driver has a representation for the
elements and each of them can be carried over (`Parameter.exists_toDriver_arrayOf_iff`), and what is bound holds
the carried elements, one for one and in order (`Parameter.carries_of_toDriver_arrayOf`).
-/

/-! ## Successful passes -/

/-- A pass succeeds with the results of its steps. -/
theorem List.mapM_eq_ok {ε α β : Type} {f : α → Except ε β} {as : List α} {bs : List β} :
    as.mapM f = .ok bs ↔ List.Forall₂ (fun a b => f a = .ok b) as bs := by
  induction as generalizing bs with
  | nil =>
    rw [List.mapM_nil, List.forall₂_nil_left_iff]
    exact ⟨fun h => (Except.ok.inj h).symm, fun h => h ▸ rfl⟩
  | cons a as ih =>
    simp only [List.mapM_cons, List.forall₂_cons_left_iff, Except.bind_eq_ok, ih]
    constructor
    · rintro ⟨b, hb, bs, hbs, same⟩
      exact ⟨b, bs, hb, hbs, (Except.ok.inj same).symm⟩
    · rintro ⟨b, bs, hb, hbs, rfl⟩
      exact ⟨b, hb, bs, hbs, rfl⟩

theorem List.exists_forall₂ {α β : Type} {P : α → β → Prop} {as : List α} (h : ∀ a ∈ as, ∃ b, P a b) :
    ∃ bs, List.Forall₂ P as bs := by
  induction as with
  | nil => exact ⟨[], .nil⟩
  | cons a as ih =>
    obtain ⟨⟨b, hb⟩, has⟩ := List.forall_mem_cons.1 h
    obtain ⟨bs, hbs⟩ := ih has
    exact ⟨b :: bs, .cons hb hbs⟩

theorem List.Forall₂.exists_of_mem_right {α β : Type} {P : α → β → Prop} {as : List α} {bs : List β}
    (h : List.Forall₂ P as bs) {b : β} (hb : b ∈ bs) : ∃ a ∈ as, P a b := by
  induction h with
  | nil => cases hb
  | @cons a c as bs hac _ ih =>
    rcases List.mem_cons.1 hb with rfl | hb
    · exact ⟨a, List.mem_cons_self, hac⟩
    · obtain ⟨a', ha', hab⟩ := ih hb
      exact ⟨a', List.mem_cons_of_mem a ha', hab⟩

theorem List.Forall₂.comp {α β γ : Type} {P : α → β → Prop} {Q : β → γ → Prop} {as : List α} {bs : List β}
    {cs : List γ} (hab : List.Forall₂ P as bs) (hbc : List.Forall₂ Q bs cs) :
    List.Forall₂ (fun a c => ∃ b, P a b ∧ Q b c) as cs := by
  induction hab generalizing cs with
  | nil =>
    cases hbc
    exact .nil
  | cons hp _ ih =>
    cases hbc with
    | cons hq hbc => exact .cons ⟨_, hp, hq⟩ (ih hbc)

namespace SqlDialects

/-- The value is an array in the given representation with the given elements. -/
def Value.IsArrayOf (component : HostType) : Value → List Value → Prop
  | primitiveArray k xs, ws => component = .primitive k ∧ ws = xs.map (scalar k)
  | referenceArray element vs, ws => component = element ∧ ws = vs
  | _, _ => False

theorem Value.IsArrayOf.elements?_eq {component : HostType} {ws : List Value} {a : Value}
    (h : a.IsArrayOf component ws) : a.elements? = some ws := by
  cases a with
  | primitiveArray k xs => exact congrArg some h.2.symm
  | referenceArray element vs => exact congrArg some h.2.symm
  | _ => exact h.elim

/-- What a pass gives holds what each element gives, and it fails only if it fails for an element. -/
structure Elementwise {β : Type} (Holds : β → List Value → Prop) (f : Value → Except MarshalError Value)
    (vs : List Value) (result : Except MarshalError β) : Prop where
  elements {b : β} : result = .ok b → ∃ ws, Holds b ws ∧ List.Forall₂ (fun v w => f v = .ok w) vs ws
  succeeds : (∀ v ∈ vs, ∃ w, f v = .ok w) → ∃ b, result = .ok b

/-- A pass that makes an array of the given representation. -/
abbrev BuildsArray (component : HostType) : (Value → Except MarshalError Value) → List Value →
    Except MarshalError Value → Prop :=
  Elementwise (Value.IsArrayOf component)

namespace Elementwise

variable {β γ : Type} {Holds : β → List Value → Prop} {Holds' : γ → List Value → Prop}
  {f g : Value → Except MarshalError Value} {vs : List Value} {result : Except MarshalError β}

/-- What is there already. -/
theorem pure {b : β} (h : Holds b vs) : Elementwise Holds .ok vs (.ok b) where
  elements := by
    rintro _ ⟨⟩
    exact ⟨vs, h, List.forall₂_same.2 fun _ _ => rfl⟩
  succeeds _ := ⟨b, rfl⟩

theorem mapM (f : Value → Except MarshalError Value) (vs : List Value) : Elementwise Eq f vs (vs.mapM f) where
  elements {ws} h := ⟨ws, rfl, List.mapM_eq_ok.1 h⟩
  succeeds hall := by
    obtain ⟨ws, hws⟩ := List.exists_forall₂ hall
    exact ⟨ws, List.mapM_eq_ok.2 hws⟩

/-- Two passes are one of both steps. -/
theorem bind {next : β → Except MarshalError γ} (h : Elementwise Holds f vs result)
    (hnext : ∀ b ws, Holds b ws → Elementwise Holds' g ws (next b)) :
    Elementwise Holds' (fun v => f v >>= g) vs (result >>= next) where
  elements {c} hc := by
    obtain ⟨b, hb, hc⟩ := Except.bind_eq_ok.1 hc
    obtain ⟨ws, holds, first⟩ := h.elements hb
    obtain ⟨us, holds', second⟩ := (hnext b ws holds).elements hc
    exact ⟨us, holds', (first.comp second).imp fun _ _ both => Except.bind_eq_ok.2 both⟩
  succeeds hall := by
    have start : ∀ v ∈ vs, ∃ w, f v = .ok w := fun v hv => by
      obtain ⟨u, hu⟩ := hall v hv
      obtain ⟨w, hw, -⟩ := Except.bind_eq_ok.1 hu
      exact ⟨w, hw⟩
    obtain ⟨b, hb⟩ := h.succeeds start
    obtain ⟨ws, holds, first⟩ := h.elements hb
    have rest : ∀ w ∈ ws, ∃ u, g w = .ok u := fun w hw => by
      obtain ⟨v, hv, hvw⟩ := first.exists_of_mem_right hw
      obtain ⟨u, hu⟩ := hall v hv
      obtain ⟨w', hw', hu⟩ := Except.bind_eq_ok.1 hu
      rw [hvw] at hw'
      exact ⟨u, Except.ok.inj hw' ▸ hu⟩
    obtain ⟨c, hc⟩ := (hnext b ws holds).succeeds rest
    exact ⟨c, Except.bind_eq_ok.2 ⟨b, hb, hc⟩⟩

/-- The pass succeeds if and only if it does for every element. -/
theorem exists_ok_iff (h : Elementwise Holds f vs result) :
    (∃ b, result = .ok b) ↔ ∀ v ∈ vs, ∃ w, f v = .ok w := by
  refine ⟨?_, h.succeeds⟩
  rintro ⟨b, hb⟩ v hv
  obtain ⟨ws, -, all⟩ := h.elements hb
  obtain ⟨w, -, hw⟩ := all.flip.exists_of_mem_right hv
  exact ⟨w, hw⟩

end Elementwise

/-! ## The passes of a marshaller -/

namespace ArrayMarshaller

variable (m : ArrayMarshaller) {component target : HostType} {vs : List Value}

/-- An element put into an array of the given representation. -/
def stored (target : HostType) (v : Value) : Except MarshalError Value :=
  match target with
  | .primitive k => (unbox k v).map (Value.scalar k)
  | _ => .ok v

/-- An element brought to the given representation and put into an array of it. -/
def normalized (component : HostType) (v : Value) : Except MarshalError Value :=
  match component with
  | .primitive k => (unbox k v).map (Value.scalar k)
  | component => v.coerce component

/-- An element of a value that is consumed; `asIs` tells that it is in the declared representation. -/
def owned (asIs : Bool) (v : Value) : Except MarshalError Value :=
  if asIs then .ok v else normalized m.component v

/-- The representation in which the driver gets the elements. -/
def boundComponent (recommended preferred : RepresentationMap) : Except MarshalError HostType :=
  match m.element.converter? with
  | none => .ok m.component
  | some _ => RepresentationMap.elementType recommended preferred m.element.descriptor.code

/-- An element of the declared representation in the one of the driver. -/
def converted (target : HostType) (v : Value) : Except MarshalError Value :=
  match m.element.converter? with
  | none => .ok v
  | some c =>
    if m.component = target then .ok v
    else (c.toRelational v >>= (·.coerce target)) >>= stored target

/-- The way of a single element from the value that is bound to the driver. -/
def carry (target : HostType) (asIs : Bool) (v : Value) : Except MarshalError Value := do
  let own ← m.owned asIs v
  m.converted target own

/-- The value can be bound: it is null, or an array or a collection each element of which can be carried over. -/
def CanCarry (target : HostType) (v : Value) : Prop :=
  v = .null ∨ ∃ vs, v.elements? = some vs ∧ ∀ x ∈ vs, ∃ y, m.carry target (hasElements m.component v) x = .ok y

/-- What a value is bound as: an array with the carried elements in order, or null for null. -/
inductive Carries (target : HostType) : Value → Value → Prop where
  | null : Carries target .null .null
  | elements {v a : Value} {vs ws : List Value} : v.elements? = some vs → a.IsArrayOf target ws →
    List.Forall₂ (fun x y => m.carry target (hasElements m.component v) x = .ok y) vs ws → Carries target v a

/-- A boxed element is unboxed to itself. -/
theorem unbox_scalar (k : PrimitiveKind) (x : k.Carrier) : unbox k (.scalar k x) = .ok x := by
  have own : (Value.scalar k x).coerce (.primitive k) = .ok (.scalar k x) := if_pos rfl
  rw [unbox, own]
  exact dif_pos rfl

theorem buildsArray_toPrimitiveArray (k : PrimitiveKind) :
    BuildsArray (.primitive k) (fun v => (unbox k v).map (Value.scalar k)) vs (toPrimitiveArray k vs) where
  elements {a} h := by
    obtain ⟨xs, hxs, same⟩ := Except.bind_eq_ok.1 h
    obtain rfl := Except.ok.inj same
    refine ⟨xs.map (Value.scalar k), ⟨rfl, rfl⟩, List.forall₂_map_right_iff.2 ?_⟩
    exact (List.mapM_eq_ok.1 hxs).imp fun _ x hx => Except.map_eq_ok.2 ⟨x, hx, rfl⟩
  succeeds hall := by
    have unboxed : ∀ v ∈ vs, ∃ x, unbox k v = .ok x := fun v hv => by
      obtain ⟨w, hw⟩ := hall v hv
      obtain ⟨x, hx, -⟩ := Except.map_eq_ok.1 hw
      exact ⟨x, hx⟩
    obtain ⟨xs, hxs⟩ := List.exists_forall₂ unboxed
    exact ⟨_, Except.bind_eq_ok.2 ⟨xs, List.mapM_eq_ok.2 hxs, rfl⟩⟩

theorem buildsArray_assemble : BuildsArray target (stored target) vs (assemble target vs) := by
  cases target with
  | primitive k => exact buildsArray_toPrimitiveArray k
  | _ => exact .pure ⟨rfl, rfl⟩

theorem buildsArray_toReferenceArray :
    BuildsArray component (·.coerce component) vs (toReferenceArray component vs) where
  elements {a} h := by
    obtain ⟨ws, hws, same⟩ := Except.bind_eq_ok.1 h
    obtain rfl := Except.ok.inj same
    exact ⟨ws, ⟨rfl, rfl⟩, List.mapM_eq_ok.1 hws⟩
  succeeds hall := by
    obtain ⟨ws, hws⟩ := List.exists_forall₂ hall
    exact ⟨_, Except.bind_eq_ok.2 ⟨ws, List.mapM_eq_ok.2 hws, rfl⟩⟩

theorem buildsArray_normalize : BuildsArray component (normalized component) vs (normalize component vs) := by
  cases component with
  | primitive k => exact buildsArray_toPrimitiveArray k
  | _ => exact buildsArray_toReferenceArray

/-- A value is an array in a representation if it has elements in it. -/
theorem isArrayOf_of_hasElements {v : Value} (h : hasElements component v = true)
    (hv : v.elements? = some vs) : v.IsArrayOf component vs := by
  cases v with
  | primitiveArray k xs => exact ⟨(beq_iff_eq.1 h).symm, (Option.some.inj hv).symm⟩
  | referenceArray element ws =>
    have same : element = component := by
      simp only [hasElements, Bool.and_eq_true, beq_iff_eq] at h
      exact h.1
    exact ⟨same.symm, (Option.some.inj hv).symm⟩
  | _ => cases h

/-- An array or a collection is passed on if it is in the declared representation, and brought to it otherwise. -/
theorem consume_of_elements? {v : Value} (hv : v.elements? = some vs) :
    m.consume v = if hasElements m.component v then .ok v else normalize m.component vs := by
  unfold consume
  split
  · cases hv
  · rw [hv]

theorem buildsArray_consume {v : Value} (hv : v.elements? = some vs) :
    BuildsArray m.component (m.owned (hasElements m.component v)) vs (m.consume v) := by
  rw [m.consume_of_elements? hv]
  cases own : hasElements m.component v with
  | true => exact .pure (isArrayOf_of_hasElements own hv)
  | false => exact buildsArray_normalize

theorem buildsArray_convertAll (c : Converter) :
    BuildsArray target (fun v => (c.toRelational v >>= (·.coerce target)) >>= stored target) vs
      (bind.convertAll c target vs).result := by
  have passes : (bind.convertAll c target vs).result =
      vs.mapM (fun v => c.toRelational v >>= (·.coerce target)) >>= assemble target := by
    unfold bind.convertAll
    rw [Traced.result_bind_eq, Traced.result_mapM]
    simp only [Traced.result_bind_eq]
    rfl
  have put (ws us : List Value) (same : ws = us) : BuildsArray target (stored target) us (assemble target ws) :=
    same ▸ buildsArray_assemble
  rw [passes]
  exact (Elementwise.mapM _ vs).bind put

theorem buildsArray_bind {recommended preferred : RepresentationMap}
    (htarget : m.boundComponent recommended preferred = .ok target) {a : Value}
    (ha : a.IsArrayOf m.component vs) :
    BuildsArray target (m.converted target) vs (m.bind recommended preferred a).result := by
  unfold boundComponent at htarget
  unfold bind converted
  cases hc : m.element.converter? with
  | none =>
    rw [hc] at htarget
    obtain rfl := Except.ok.inj htarget
    exact .pure ha
  | some c =>
    rw [hc] at htarget
    have chosen (next : HostType → Traced Value) :
        ((liftM (RepresentationMap.elementType recommended preferred m.element.descriptor.code) : Traced _) >>=
          next).result = (next target).result := by
      rw [Traced.result_bind_eq, show RepresentationMap.elementType _ _ _ = .ok target from htarget]
      rfl
    have elements := ha.elements?_eq
    simp only [chosen]
    cases a with
    | primitiveArray k xs =>
      obtain ⟨own, rfl⟩ := ha
      rw [own]
      by_cases same : HostType.primitive k = target
      · simp only [if_pos same]
        exact .pure ⟨same.symm, rfl⟩
      · simp only [if_neg same]
        exact buildsArray_convertAll c
    | referenceArray element ws =>
      obtain ⟨own, rfl⟩ := ha
      rw [own]
      by_cases same : element = target
      · simp only [if_pos same]
        exact .pure ⟨same.symm, rfl⟩
      · simp only [if_neg same]
        exact buildsArray_convertAll c
    | _ => exact ha.elim

/-- A value with elements is consumed and bound element by element. -/
theorem buildsArray_consume_bind {recommended preferred : RepresentationMap}
    (htarget : m.boundComponent recommended preferred = .ok target) {v : Value} (hv : v.elements? = some vs) :
    BuildsArray target (m.carry target (hasElements m.component v)) vs
      (m.consume v >>= fun array => (m.bind recommended preferred array).result) :=
  (m.buildsArray_consume hv).bind fun _ _ array => m.buildsArray_bind htarget array

/-- Null is consumed and bound as it is. -/
theorem consume_bind_null {recommended preferred : RepresentationMap}
    (htarget : m.boundComponent recommended preferred = .ok target) :
    (m.consume .null >>= fun array => (m.bind recommended preferred array).result) = .ok .null := by
  change (m.bind recommended preferred .null).result = .ok .null
  unfold boundComponent at htarget
  unfold bind
  cases hc : m.element.converter? with
  | none => rfl
  | some c =>
    rw [hc] at htarget
    simp only
    rw [Traced.result_bind_eq, show RepresentationMap.elementType _ _ _ = .ok target from htarget]
    rfl

/-- A single value is not consumed. -/
theorem consume_of_single {v : Value} (hv : v.elements? = none) (nonnull : v ≠ .null) :
    m.consume v = .error (.unknownType v.typeName) := by
  cases v <;> first | contradiction | rfl

/-- Without a representation for the elements, nothing is bound. -/
theorem bind_of_boundComponent {recommended preferred : RepresentationMap} {e : MarshalError}
    (h : m.boundComponent recommended preferred = .error e) (a : Value) :
    (m.bind recommended preferred a).result = .error e := by
  unfold boundComponent at h
  unfold bind
  cases hc : m.element.converter? with
  | none => simp [hc] at h
  | some c =>
    rw [hc] at h
    simp only
    rw [Traced.result_bind_eq, show RepresentationMap.elementType _ _ _ = .error e from h]
    rfl

end ArrayMarshaller

namespace Parameter

variable {types : TypeRegistry} {preferred : RepresentationMap} {source : ParameterSource}
  {element : ResolvedType} {v : Value} {vs : List Value}

theorem result_toDriver_arrayOf :
    (toDriver types preferred ⟨source, .arrayOf element⟩ v).result =
      types.marshaller element.name >>= fun m =>
        m.consume v >>= fun array => (m.bind types.recommended preferred array).result := by
  unfold toDriver
  rw [ResolvedType.elementName?_arrayOf]
  simp only [ResolvedType.arrayOf, TypeDescriptor.arrayOf, TypeDescriptor.isArrayCapable,
    TypeDescriptor.element?, Option.isSome_some, Traced.result_bind_eq]
  rfl

/-- The marshaller of arrays of a type that has a representation for their elements with the driver. -/
def Carrier (types : TypeRegistry) (preferred : RepresentationMap) (element : ResolvedType)
    (m : ArrayMarshaller) (target : HostType) : Prop :=
  types.marshaller element.name = .ok m ∧ m.boundComponent types.recommended preferred = .ok target

/-- A value is bound as an array only with a carrier. -/
theorem exists_carrier {a : Value} (h : (toDriver types preferred ⟨source, .arrayOf element⟩ v).result = .ok a) :
    ∃ m target, Carrier types preferred element m target ∧
      (m.consume v >>= fun array => (m.bind types.recommended preferred array).result) = .ok a := by
  rw [result_toDriver_arrayOf] at h
  obtain ⟨m, hm, h⟩ := Except.bind_eq_ok.1 h
  cases ht : m.boundComponent types.recommended preferred with
  | ok target => exact ⟨m, target, ⟨hm, ht⟩, h⟩
  | error e =>
    obtain ⟨array, -, h⟩ := Except.bind_eq_ok.1 h
    rw [m.bind_of_boundComponent ht] at h
    cases h

/-- A value is bound as an array if and only if there is a carrier, and the value is null or an array or a
collection each element of which can be carried over. -/
theorem exists_toDriver_arrayOf_iff :
    (∃ a, (toDriver types preferred ⟨source, .arrayOf element⟩ v).result = .ok a) ↔
      ∃ m target, Carrier types preferred element m target ∧ m.CanCarry target v := by
  constructor
  · rintro ⟨a, h⟩
    obtain ⟨m, target, carrier, h⟩ := exists_carrier h
    refine ⟨m, target, carrier, ?_⟩
    cases hv : v.elements? with
    | some vs => exact .inr ⟨vs, hv, (m.buildsArray_consume_bind carrier.2 hv).exists_ok_iff.1 ⟨a, h⟩⟩
    | none =>
      refine .inl (by_contra fun nonnull => ?_)
      rw [m.consume_of_single hv nonnull] at h
      cases h
  · rintro ⟨m, target, carrier, rfl | ⟨vs, hv, all⟩⟩
    · exact ⟨.null, by rw [result_toDriver_arrayOf, carrier.1]; exact m.consume_bind_null carrier.2⟩
    · obtain ⟨a, h⟩ := (m.buildsArray_consume_bind carrier.2 hv).succeeds all
      exact ⟨a, by rw [result_toDriver_arrayOf, carrier.1]; exact h⟩

/-- What is bound as an array holds the carried elements, one for one and in order; null stays null. -/
theorem carries_of_toDriver_arrayOf {a : Value}
    (h : (toDriver types preferred ⟨source, .arrayOf element⟩ v).result = .ok a) :
    ∃ m target, Carrier types preferred element m target ∧ m.Carries target v a := by
  obtain ⟨m, target, carrier, h⟩ := exists_carrier h
  refine ⟨m, target, carrier, ?_⟩
  cases hv : v.elements? with
  | some vs =>
    obtain ⟨ws, array, all⟩ := (m.buildsArray_consume_bind carrier.2 hv).elements h
    exact .elements hv array all
  | none =>
    by_cases null : v = .null
    · subst null
      rw [m.consume_bind_null carrier.2] at h
      obtain rfl := Except.ok.inj h
      exact .null
    · rw [m.consume_of_single hv null] at h
      cases h

end Parameter

end SqlDialects
