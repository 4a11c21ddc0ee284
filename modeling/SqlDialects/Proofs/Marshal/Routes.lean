import SqlDialects.Proofs.Marshal.Consumed

/-!
# The routes that arrays take

Each operation of a marshaller takes a whole array one of three ways: it hands it on untouched, it treats all
elements alike, or it refuses it. Which way that is depends on the operation, on the marshaller and on the shape of
the array, not on the elements (`ArrayMarshaller.route`). Elements that are treated alike are converted in order,
and only when all of them are converted are they put into an array of the representation that is asked for; the
first failure is the failure of the whole (`Conversion.Carries`).
-/

namespace SqlDialects

/-- The operations of a marshaller on whole arrays. -/
inductive ArrayOperation where
  | consume
  | bind (recommended preferred : RepresentationMap)
  | extract

/-- An array or a collection without its elements. -/
inductive ArrayShape where
  | unboxed (kind : PrimitiveKind)
  | boxed (element : HostType)
  | collection
deriving DecidableEq

/-- What is done to a single element before it is put into an array. -/
inductive Conversion where
  | none
  | coercion (target : HostType)
  | toRelational (c : Converter) (target : HostType)
  | toDomain (c : Converter)

/-- The way that an operation takes an array. -/
inductive Route where
  /-- The array is handed on untouched. -/
  | asIs
  /-- Every element is converted and put into an array of the given representation. -/
  | each (conversion : Conversion) (target : HostType)
  | refused (e : MarshalError)

/-- The shape of an array or a collection. -/
def Value.shape? : Value → Option ArrayShape
  | primitiveArray k _ => some (.unboxed k)
  | referenceArray element _ => some (.boxed element)
  | collection _ => some .collection
  | _ => none

namespace ArrayShape

/-- The representation of the elements, where the shape names one. -/
def element? : ArrayShape → Option HostType
  | unboxed k => some (.primitive k)
  | boxed element => some element
  | collection => none

/-- The shape is that of arrays in the given representation. -/
def isOf (component : HostType) : ArrayShape → Bool
  | unboxed k => HostType.primitive k == component
  | boxed element => element == component && !component.isPrimitive
  | collection => false

end ArrayShape

namespace Conversion

/-- What an element is converted to. -/
def apply : Conversion → Value → Except MarshalError Value
  | none, v => .ok v
  | coercion target, v => v.coerce target
  | toRelational c target, v => c.toRelational v >>= (·.coerce target)
  | toDomain c, v => c.toDomain v

/-- The uses of a converter that converting an element makes. -/
def calls : Conversion → Value → List ConverterCall
  | toRelational c _, v => [⟨c, .toRelational, v⟩]
  | toDomain c, v => [⟨c, .toDomain, v⟩]
  | _, _ => []

/-- Converts elements one by one, in order, and assembles the results. -/
def pass (conversion : Conversion) (target : HostType) (vs : List Value) : Traced Value := do
  let converted ← vs.mapM fun v => ⟨conversion.apply v, conversion.calls v⟩
  ArrayMarshaller.assemble target converted

/-- A computation converts elements in order and puts the results into an array: it gives an array of the
converted elements, one for one, unless it fails for one of them; a failure is the first one to convert an element,
or, once all are converted, the first one to put one into the array; and the converter is used once for every
element, in order, up to the first that it fails for. -/
structure Carries (conversion : Conversion) (target : HostType) (vs : List Value) (x : Traced Value) : Prop where
  elements : BuildsArray target (fun v => conversion.apply v >>= ArrayMarshaller.stored target) vs x.result
  failure (e : MarshalError) : x.result = .error e ↔
    (∃ tried, List.FailsFirst conversion.apply vs tried e) ∨
    ∃ ws tried, vs.mapM conversion.apply = .ok ws ∧ List.FailsFirst (ArrayMarshaller.stored target) ws tried e
  callsUntilFailure (tried : List Value) (e : MarshalError) :
    List.FailsFirst conversion.apply vs tried e → x.calls = tried.flatMap conversion.calls
  callsForAll : (∀ v ∈ vs, ∃ w, conversion.apply v = .ok w) → x.calls = vs.flatMap conversion.calls

end Conversion

/-- What becomes of a single element of an array on a route. -/
def Route.image : Route → Value → Except MarshalError Value
  | asIs, v => .ok v
  | each conversion target, v => conversion.apply v >>= ArrayMarshaller.stored target
  | refused e, _ => .error e

/-- What a computation does with an array, and with its elements, on a route. -/
def Route.Describes (v : Value) (vs : List Value) (x : Traced Value) : Route → Prop
  | asIs => x = pure v
  | each conversion target => conversion.Carries target vs x
  | refused e => x = Traced.ofExcept (.error e)

/-- What a route gives holds the images of the elements, one for one and in order. -/
theorem Route.Describes.elements {route : Route} {v a : Value} {vs : List Value} {x : Traced Value}
    (h : route.Describes v vs x) (hv : v.elements? = some vs) (succeeded : x.result = .ok a) :
    ∃ ws, a.elements? = some ws ∧ List.Forall₂ (fun v w => route.image v = .ok w) vs ws := by
  cases route with
  | asIs =>
    obtain rfl : x = pure v := h
    obtain rfl := Except.ok.inj succeeded
    exact ⟨vs, hv, List.forall₂_same.2 fun _ _ => rfl⟩
  | each conversion target =>
    obtain ⟨ws, array, images⟩ := Conversion.Carries.elements h |>.elements succeeded
    exact ⟨ws, array.elements?_eq, images⟩
  | refused e =>
    obtain rfl : x = Traced.ofExcept (.error e) := h
    cases succeeded

/-- The converters of enumerations fail for what they are given. -/
theorem Converter.isOfElement_of_toRelational {c : Converter} {v : Value} {e : MarshalError}
    (own : c.isCustom = false) (h : c.toRelational v = .error e) : e.isOfElement = true := by
  unfold toRelational at h
  split at h
  · cases own
  · cases h
  · split at h
    · unfold codeOf at h
      split at h <;> cases h
      rfl
    · cases h
      rfl
  · split at h
    · unfold ordinalOf at h
      split at h
      · split at h <;> cases h
        rfl
      · cases h
        rfl
    · cases h
      rfl
  · cases h
    rfl

namespace ArrayMarshaller

/-- Applies an operation to a value. -/
def run (m : ArrayMarshaller) : ArrayOperation → Value → Traced Value
  | .consume, v => Traced.ofExcept (m.consume v)
  | .bind recommended preferred, v => m.bind recommended preferred v
  | .extract, v => m.extract v

/-- The way that an operation takes arrays of a shape. -/
def route (m : ArrayMarshaller) : ArrayOperation → ArrayShape → Route
  | .consume, shape =>
    if shape.isOf m.component then .asIs
    else if m.component.isPrimitive then .each .none m.component
    else .each (.coercion m.component) m.component
  | .bind recommended preferred, shape =>
    match m.element.converter? with
    | none => .asIs
    | some c =>
      match RepresentationMap.elementType recommended preferred m.element.descriptor.code with
      | .error e => .refused e
      | .ok target =>
        if shape.element? = some target then .asIs
        else if shape = .collection then .refused (.unknownType "Collection")
        else .each (.toRelational c target) target
  | .extract, shape =>
    match m.element.converter? with
    | none => .asIs
    | some c => if shape.element? = some c.domain then .asIs else .each (.toDomain c) c.domain

variable {m : ArrayMarshaller} {component target : HostType} {vs : List Value} {v a : Value} {e : MarshalError}
  {shape : ArrayShape}

/-- Arrays are assembled from elements, and the first that does not fit is the reason why one is not. -/
theorem assemble_eq_error :
    assemble target vs = .error e ↔ ∃ tried, List.FailsFirst (stored target) vs tried e := by
  cases target with
  | primitive k =>
    have unboxed : assemble (.primitive k) vs = .error e ↔ vs.mapM (unbox k) = .error e := by
      rw [assemble, toPrimitiveArray, Except.bind_eq_error]
      simp
    rw [unboxed, List.mapM_eq_error]
    exact exists_congr fun tried => List.failsFirst_map.symm
  | _ =>
    constructor
    · intro h
      cases h
    · rintro ⟨tried, h⟩
      obtain ⟨x, -, h⟩ := h.exists_mem
      cases h

/-- A pass over the elements of an array carries them over. -/
theorem carries_pass (conversion : Conversion) : conversion.Carries target vs (conversion.pass target vs) := by
  let each : Value → Traced Value := fun v => ⟨conversion.apply v, conversion.calls v⟩
  have steps : (conversion.pass target vs).result = vs.mapM conversion.apply >>= assemble target := by
    rw [Conversion.pass, Traced.result_bind_eq, Traced.result_mapM]
    rfl
  have uses : (conversion.pass target vs).calls = (vs.mapM each).calls := Traced.calls_bind_ofExcept
  constructor
  · rw [steps]
    refine (Elementwise.mapM conversion.apply vs).bind ?_
    rintro ws _ rfl
    exact buildsArray_assemble
  · intro e
    rw [steps, Except.bind_eq_error, List.mapM_eq_error]
    simp only [assemble_eq_error, exists_and_left]
  · intro tried e h
    rw [uses]
    exact Traced.calls_mapM_of_failsFirst (f := each) h
  · intro all
    rw [uses]
    exact Traced.calls_mapM_of_forall (f := each) all

/-- A pass that uses no converter is one without a trace. -/
theorem pass_eq_ofExcept {conversion : Conversion} (h : ∀ v, conversion.calls v = []) :
    conversion.pass target vs = Traced.ofExcept (vs.mapM conversion.apply >>= assemble target) := by
  have untraced : (fun v => (⟨conversion.apply v, conversion.calls v⟩ : Traced Value)) =
      fun v => Traced.ofExcept (conversion.apply v) := funext fun v => by rw [h v]; rfl
  rw [Conversion.pass, untraced, Traced.mapM_ofExcept]
  cases vs.mapM conversion.apply <;> rfl

theorem convertAll_eq_pass (c : Converter) :
    bind.convertAll c target vs = (Conversion.toRelational c target).pass target vs := by
  have step (v : Value) : (c.call .toRelational v >>= fun relational => liftM (relational.coerce target)) =
      (⟨(Conversion.toRelational c target).apply v, (Conversion.toRelational c target).calls v⟩ :
        Traced Value) := by
    rw [Converter.call, Conversion.apply, Conversion.calls]
    cases c.toRelational v <;> rfl
  rw [bind.convertAll, Conversion.pass]
  simp only [step]

theorem isOf_eq_hasElements (hs : v.shape? = some shape) : shape.isOf component = hasElements component v := by
  cases v with
  | primitiveArray | referenceArray | collection =>
    obtain rfl := Option.some.inj hs
    rfl
  | _ => cases hs

theorem isOfElement_of_unbox {k : PrimitiveKind} (h : unbox k v = .error e) : e.isOfElement = true := by
  unfold unbox at h
  split at h
  · cases h
    rfl
  · rcases Except.bind_eq_error.1 h with h | ⟨w, -, h⟩
    · exact Value.isOfElement_of_coerce h
    · split at h
      · split at h <;> cases h
        rfl
      · cases h
        rfl

theorem isOfElement_of_stored (h : stored target v = .error e) : e.isOfElement = true := by
  cases target with
  | primitive k => exact isOfElement_of_unbox (Except.map_eq_error.1 h)
  | _ => cases h

variable (m)

theorem describes_consume (hs : v.shape? = some shape) (hv : v.elements? = some vs) :
    (m.route .consume shape).Describes v vs (m.run .consume v) := by
  rw [run, m.consume_of_elements? hv, route, isOf_eq_hasElements hs]
  split
  · rfl
  · cases boxed : m.component.isPrimitive with
    | true =>
      have pass : Traced.ofExcept (normalize m.component vs) = Conversion.none.pass m.component vs := by
        have same : vs.mapM (m := Except MarshalError) .ok = .ok vs :=
          List.mapM_eq_ok.2 (List.forall₂_same.2 fun _ _ => rfl)
        rw [pass_eq_ofExcept fun _ => rfl]
        change _ = Traced.ofExcept (vs.mapM .ok >>= assemble m.component)
        rw [same]
        cases component : m.component with
        | primitive k => rfl
        | _ =>
          rw [component] at boxed
          cases boxed
      exact pass ▸ carries_pass .none
    | false =>
      have pass : Traced.ofExcept (normalize m.component vs) =
          (Conversion.coercion m.component).pass m.component vs := by
        rw [pass_eq_ofExcept fun _ => rfl]
        cases component : m.component with
        | primitive k =>
          rw [component] at boxed
          cases boxed
        | _ => rfl
      exact pass ▸ carries_pass (.coercion m.component)

theorem describes_bind {recommended preferred : RepresentationMap} (hs : v.shape? = some shape)
    (hv : v.elements? = some vs) :
    (m.route (.bind recommended preferred) shape).Describes v vs (m.run (.bind recommended preferred) v) := by
  rw [run, bind, route]
  cases m.element.converter? with
  | none => rfl
  | some c =>
    dsimp only
    cases RepresentationMap.elementType recommended preferred m.element.descriptor.code with
    | error e => rfl
    | ok target =>
      rw [Traced.liftM_ok_bind]
      cases v with
      | collection =>
        obtain rfl := Option.some.inj hs
        rfl
      | primitiveArray | referenceArray =>
        obtain rfl := Option.some.inj hs
        obtain rfl := Option.some.inj hv
        simp only [ArrayShape.element?, Option.some.injEq, reduceCtorEq, if_false]
        split
        · rfl
        · exact convertAll_eq_pass c ▸ carries_pass (.toRelational c target)
      | _ => cases hs

theorem describes_extract (hs : v.shape? = some shape) (hv : v.elements? = some vs) :
    (m.route .extract shape).Describes v vs (m.run .extract v) := by
  rw [run, extract, route]
  cases m.element.converter? with
  | none => rfl
  | some c =>
    dsimp only
    cases v with
    | collection =>
      obtain rfl := Option.some.inj hs
      obtain rfl := Option.some.inj hv
      exact carries_pass (.toDomain c)
    | primitiveArray | referenceArray =>
      obtain rfl := Option.some.inj hs
      obtain rfl := Option.some.inj hv
      simp only [ArrayShape.element?, Option.some.injEq]
      split
      · rfl
      · exact carries_pass (.toDomain c)
    | _ => cases hs

/-- What an operation does is told by its route. -/
theorem describes_run (op : ArrayOperation) (hs : v.shape? = some shape) (hv : v.elements? = some vs) :
    (m.route op shape).Describes v vs (m.run op v) := by
  cases op with
  | consume => exact m.describes_consume hs hv
  | bind recommended preferred => exact m.describes_bind hs hv
  | extract => exact m.describes_extract hs hv

/-- What was consumed is null or has elements in the declared representation. -/
theorem hasElements_of_consume (h : m.consume v = .ok a) : a = .null ∨ hasElements m.component a = true := by
  cases hv : v.elements? with
  | none =>
    by_cases null : v = .null
    · subst null
      exact .inl (Except.ok.inj h).symm
    · rw [m.consume_of_single hv null] at h
      cases h
  | some vs =>
    rw [m.consume_of_elements? hv] at h
    split at h
    · next own =>
      obtain rfl := Except.ok.inj h
      exact .inr own
    · rcases isDeclared_of_normalize h with _ | ⟨xs, unboxed⟩ | ⟨boxed, -⟩
      · exact .inl rfl
      · exact .inr (beq_iff_eq.2 unboxed.symm)
      · exact .inr (by simp [hasElements, boxed])

theorem consume_of_consume (h : m.consume v = .ok a) : m.consume a = .ok a := by
  rcases m.hasElements_of_consume h with rfl | own
  · rfl
  · cases ha : a.elements? with
    | none =>
      cases a with
      | primitiveArray | referenceArray => cases ha
      | _ => cases own
    | some ws => rw [m.consume_of_elements? ha, if_pos own]

/-- A failure of another kind than those of single values comes from the conversion of an element. -/
theorem exists_apply_of_failure {conversion : Conversion} {x : Traced Value}
    (carries : conversion.Carries target vs x) (failed : x.result = .error e) (other : e.isOfElement = false) :
    ∃ v ∈ vs, conversion.apply v = .error e := by
  rcases (carries.failure e).1 failed with ⟨tried, first⟩ | ⟨ws, tried, -, first⟩
  · exact first.exists_mem
  · obtain ⟨w, -, hw⟩ := first.exists_mem
    rw [isOfElement_of_stored hw] at other
    cases other

/-- What has elements in a representation has a shape that names one. -/
theorem exists_shape_of_hasElements (h : hasElements component a = true) :
    ∃ shape vs, a.shape? = some shape ∧ a.elements? = some vs ∧ shape ≠ .collection := by
  cases a with
  | primitiveArray k xs => exact ⟨_, _, rfl, rfl, nofun⟩
  | referenceArray element vs => exact ⟨_, _, rfl, rfl, nofun⟩
  | _ => cases h

section Consumed

variable {recommended preferred : RepresentationMap} {name : String}

theorem elementType_ne_unknownType {code : TypeCode} :
    RepresentationMap.elementType recommended preferred code ≠ .error (.unknownType name) := by
  rw [RepresentationMap.elementType]
  split <;> nofun

/-- An array that names the representation of its elements is not refused for its type, unless a converter refuses
one of the elements that way. -/
theorem exists_toRelational_of_shape (hs : a.shape? = some shape) (hv : a.elements? = some vs)
    (names : shape ≠ .collection) (failed : (m.bind recommended preferred a).result = .error (.unknownType name)) :
    ∃ c, m.element.converter? = some c ∧ ∃ x ∈ vs, c.toRelational x = .error (.unknownType name) := by
  have described : (m.route (.bind recommended preferred) shape).Describes a vs
      (m.bind recommended preferred a) := m.describes_bind hs hv
  simp only [ArrayMarshaller.route, if_neg names] at described
  split at described
  · have untouched : m.bind recommended preferred a = pure a := described
    rw [untouched] at failed
    cases failed
  · next c hc =>
    split at described
    · next e unknown =>
      have refused : m.bind recommended preferred a = Traced.ofExcept (.error e) := described
      rw [refused] at failed
      obtain rfl := Except.error.inj failed
      exact absurd unknown elementType_ne_unknownType
    · split at described
      · have untouched : m.bind recommended preferred a = pure a := described
        rw [untouched] at failed
        cases failed
      · obtain ⟨x, hx, refused⟩ := exists_apply_of_failure described failed rfl
        refine ⟨c, hc, x, hx, ?_⟩
        rcases Except.bind_eq_error.1 refused with h | ⟨r, -, h⟩
        · exact h
        · cases Value.isOfElement_of_coerce h

/-- Null is not refused for its type. -/
theorem bind_null_ne_unknownType : (m.bind recommended preferred .null).result ≠ .error (.unknownType name) := by
  intro failed
  cases chosen : m.boundComponent recommended preferred with
  | ok target => cases (m.consume_bind_null chosen).symm.trans failed
  | error e =>
    obtain rfl := Except.error.inj ((m.bind_of_boundComponent chosen .null).symm.trans failed)
    rw [boundComponent] at chosen
    split at chosen
    · cases chosen
    · exact absurd chosen elementType_ne_unknownType

/-- What was consumed is not refused for its type when it is bound, unless a converter that was supplied from
outside refuses one of the elements that way. -/
theorem exists_toRelational_of_bind (consumed : m.consume v = .ok a)
    (failed : (m.bind recommended preferred a).result = .error (.unknownType name)) :
    ∃ c vs, m.element.converter? = some c ∧ c.isCustom = true ∧ a.elements? = some vs ∧
      ∃ x ∈ vs, c.toRelational x = .error (.unknownType name) := by
  rcases m.hasElements_of_consume consumed with rfl | own
  · exact absurd failed m.bind_null_ne_unknownType
  · obtain ⟨shape, vs, hs, hv, names⟩ := exists_shape_of_hasElements own
    obtain ⟨c, hc, x, hx, refused⟩ := m.exists_toRelational_of_shape hs hv names failed
    refine ⟨c, vs, hc, Bool.of_not_eq_false fun supplied => ?_, hv, x, hx, refused⟩
    cases Converter.isOfElement_of_toRelational supplied refused

end Consumed

/-- Arrays are marshalled element by element, in order, and all or nothing. Each operation has one route for all
arrays of a shape: what it gives has the image of each element at the place of that element, and what else it does
is told by the route. What was consumed is left as it is when it is consumed again, and it has a type that can be
bound. -/
theorem run_elementByElement (m : ArrayMarshaller) :
    (∀ op v shape vs, v.shape? = some shape → v.elements? = some vs →
      (∀ a, (m.run op v).result = .ok a → ∃ ws, a.elements? = some ws ∧ ws.length = vs.length ∧
        List.Forall₂ (fun x y => (m.route op shape).image x = .ok y) vs ws) ∧
      (m.route op shape).Describes v vs (m.run op v)) ∧
    (∀ v a, m.consume v = .ok a → m.consume a = .ok a) ∧
    ∀ v a recommended preferred name, m.consume v = .ok a →
      (m.bind recommended preferred a).result = .error (.unknownType name) →
      ∃ c vs, m.element.converter? = some c ∧ c.isCustom = true ∧ a.elements? = some vs ∧
        ∃ x ∈ vs, c.toRelational x = .error (.unknownType name) := by
  refine ⟨fun op v shape vs hs hv => ?_, fun _ _ => m.consume_of_consume,
    fun _ _ _ _ _ => m.exists_toRelational_of_bind⟩
  have described := m.describes_run op hs hv
  refine ⟨fun a succeeded => ?_, described⟩
  obtain ⟨ws, held, images⟩ := described.elements hv succeeded
  exact ⟨ws, held, images.length_eq.symm, images⟩

/-- A converter from outside may refuse elements for their type, and the array that was consumed with them. And
where elements are unboxed, bringing them to their kind is a part of that: null is refused although an element
behind it cannot be brought to the kind. -/
theorem consumed_refused_by_converter :
    let int := PrimitiveKind.integer .int
    let refusing : Converter := .custom .string (.boxed int) (fun v => .error (.unknownType v.typeName)) .ok
    let tags : ArrayMarshaller := ⟨(BasicType.plain "tag" (.ofCode .integer) .string).withConverter refusing⟩
    let counts : ArrayMarshaller := ⟨.plain "count" (.ofCode .integer) (.primitive int)⟩
    let consumed := Value.referenceArray .string [.string "x"]
    tags.consume (.collection [.string "x"]) = .ok consumed ∧
    (tags.bind .standard [] consumed).result = .error (.unknownType "String") ∧
    counts.consume (.collection [.null, .string "x"]) = .error (.elementMismatch "int" "null") ∧
    (Value.string "x").coerce (.primitive int) = .error (.elementMismatch "Integer" "String") := by
  intro int refusing tags counts consumed
  exact ⟨rfl, rfl, rfl, rfl⟩

/-- A failure to convert an element comes before the failure to put an earlier one into the array. -/
example :
    let level := BasicType.plain "level" (.ofCode .integer) (.boxed (.integer .int))
    let ordinal := Converter.enumByOrdinal "Level" ["Low", "High"]
    let m : ArrayMarshaller := ⟨level.withConverter ordinal⟩
    let levels := [.null, .enumeration "Level" "Mid", .enumeration "Level" "Low"]
    m.bind .standard [(.integer, .primitive (.integer .int))] (.referenceArray (.enumeration "Level") levels) =
      ⟨.error (.conversionFailed "Level" (.unknownVariant "Mid")),
        [⟨ordinal, .toRelational, .null⟩, ⟨ordinal, .toRelational, .enumeration "Level" "Mid"⟩]⟩ := by
  rfl

end ArrayMarshaller

end SqlDialects
