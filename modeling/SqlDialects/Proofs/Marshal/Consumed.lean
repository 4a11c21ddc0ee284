import SqlDialects.Proofs.Marshal.Arrays
import SqlDialects.Proofs.Value.Coercion

/-!
# What consuming an array gives

`consume` brings arrays and collections to the declared representation one element at a time, but lets an array
pass that names this representation already. The elements of an unboxed array are what it says they are. An array
of references only names the representation of its elements, and one that names the declared one is passed on
with whatever it holds. What was consumed is of the declared representation unless the value was labelled wrongly
(`ArrayMarshaller.isDeclared_of_consume`).
-/

namespace SqlDialects

namespace Value

/-- Null, or an array in the declared representation each element of which is of it. -/
inductive IsDeclared (component : HostType) : Value → Prop where
  | null : IsDeclared component .null
  | unboxed {k : PrimitiveKind} (xs : List k.Carrier) : component = .primitive k →
    IsDeclared component (.primitiveArray k xs)
  | boxed {vs : List Value} : component.isPrimitive = false → (∀ x ∈ vs, x.Fits component) →
    IsDeclared component (.referenceArray component vs)

/-- The value is an array of references that names the given representation and holds an element of another. -/
def Mislabels (component : HostType) (v : Value) : Prop :=
  ∃ vs, v = .referenceArray component vs ∧ component.isPrimitive = false ∧ ∃ x ∈ vs, ¬ x.Fits component

end Value

namespace ArrayMarshaller

variable {m : ArrayMarshaller} {component : HostType} {vs : List Value} {v a : Value}

theorem hasElements_of_mislabels (h : v.Mislabels component) : hasElements component v = true := by
  obtain ⟨vs, rfl, boxed, -⟩ := h
  simp [hasElements, boxed]

/-- The elements of an array of unboxed elements make up that array. -/
theorem toPrimitiveArray_scalars (k : PrimitiveKind) (xs : List k.Carrier) :
    toPrimitiveArray k (xs.map (Value.scalar k)) = .ok (.primitiveArray k xs) := by
  have each : List.Forall₂ (fun v x => unbox k v = .ok x) (xs.map (Value.scalar k)) xs :=
    List.forall₂_map_left_iff.2 (List.forall₂_same.2 fun x _ => unbox_scalar k x)
  rw [toPrimitiveArray, List.mapM_eq_ok.2 each]
  rfl

/-- Elements make up the array that holds them as they are if all of them are of its representation. -/
theorem toReferenceArray_eq_self_iff :
    toReferenceArray component vs = .ok (.referenceArray component vs) ↔ ∀ x ∈ vs, x.Fits component := by
  rw [toReferenceArray, Except.bind_eq_ok]
  constructor
  · rintro ⟨ws, coerced, same⟩ x hx
    obtain ⟨-, rfl⟩ := Value.referenceArray.inj (Except.ok.inj same)
    have each := List.forall₂_same.1 (List.mapM_eq_ok.1 coerced)
    exact Value.fits_of_coerce (each x hx)
  · intro all
    exact ⟨vs, List.mapM_eq_ok.2 (List.forall₂_same.2 fun x hx => (all x hx).coerce_eq), rfl⟩

/-- What the elements are brought to one by one is of the declared representation. -/
theorem isDeclared_of_normalize (h : normalize component vs = .ok a) : a.IsDeclared component := by
  cases component with
  | primitive k =>
    obtain ⟨xs, -, same⟩ := Except.bind_eq_ok.1 h
    obtain rfl := Except.ok.inj same
    exact .unboxed xs rfl
  | _ =>
    obtain ⟨ws, coerced, same⟩ := Except.bind_eq_ok.1 h
    obtain rfl := Except.ok.inj same
    refine .boxed rfl fun w hw => ?_
    obtain ⟨x, -, hx⟩ := (List.mapM_eq_ok.1 coerced).exists_of_mem_right hw
    exact Value.fits_of_coerce hx

/-- An array that is passed on is of the declared representation, and what its elements make up one by one,
unless it is labelled wrongly. -/
theorem isDeclared_of_hasElements (h : hasElements component v = true) (hv : v.elements? = some vs) :
    (v.IsDeclared component ↔ ¬ v.Mislabels component) ∧
    (normalize component vs = .ok v ↔ ¬ v.Mislabels component) := by
  cases v with
  | primitiveArray k xs =>
    obtain rfl := beq_iff_eq.1 h
    obtain rfl := Option.some.inj hv
    have labelled : ¬ (Value.primitiveArray k xs).Mislabels (.primitive k) := by
      rintro ⟨vs, same, -⟩
      cases same
    exact ⟨iff_of_true (.unboxed xs rfl) labelled, iff_of_true (toPrimitiveArray_scalars k xs) labelled⟩
  | referenceArray element us =>
    obtain ⟨same, boxed⟩ : element = component ∧ component.isPrimitive = false := by
      simpa [hasElements] using h
    subst same
    obtain rfl := Option.some.inj hv
    have labelled : ¬ (Value.referenceArray element us).Mislabels element ↔ ∀ x ∈ us, x.Fits element := by
      constructor
      · intro not x hx
        exact by_contra fun unfit => not ⟨us, rfl, boxed, x, hx, unfit⟩
      · rintro all ⟨vs, same, -, x, hx, unfit⟩
        obtain ⟨-, rfl⟩ := Value.referenceArray.inj same
        exact unfit (all x hx)
    have normal : normalize element us = toReferenceArray element us := by
      cases element with
      | primitive k => cases boxed
      | _ => rfl
    rw [labelled, normal, toReferenceArray_eq_self_iff]
    refine ⟨⟨?_, .boxed boxed⟩, Iff.rfl⟩
    rintro (_ | _ | ⟨-, all⟩)
    exact all
  | _ => cases h

/-- What was consumed is null, or an array in the declared representation with elements of it, and for an array
or a collection it is what bringing the elements to that representation one by one gives. The one exception is an
array of references that names the representation and holds an element of another: it is passed on as it is. -/
theorem isDeclared_of_consume (h : m.consume v = .ok a) :
    (a.IsDeclared m.component ↔ ¬ v.Mislabels m.component) ∧
    (∀ vs, v.elements? = some vs → (normalize m.component vs = .ok a ↔ ¬ v.Mislabels m.component)) ∧
    (v.Mislabels m.component → a = v) := by
  cases hv : v.elements? with
  | none =>
    have labelled : ¬ v.Mislabels m.component := by
      rintro ⟨vs, rfl, -⟩
      cases hv
    refine ⟨iff_of_true ?_ labelled, nofun, fun wrong => absurd wrong labelled⟩
    by_cases null : v = .null
    · subst null
      exact Except.ok.inj h ▸ .null
    · rw [m.consume_of_single hv null] at h
      cases h
  | some vs =>
    have only (P : List Value → Prop) : (∀ us, some vs = some us → P us) ↔ P vs :=
      ⟨fun all => all vs rfl, fun p us same => Option.some.inj same ▸ p⟩
    rw [only]
    rw [m.consume_of_elements? hv] at h
    cases own : hasElements m.component v with
    | true =>
      rw [if_pos own] at h
      obtain rfl := Except.ok.inj h
      obtain ⟨declared, normal⟩ := isDeclared_of_hasElements own hv
      exact ⟨declared, normal, fun _ => rfl⟩
    | false =>
      rw [if_neg (Bool.eq_false_iff.1 own)] at h
      have labelled : ¬ v.Mislabels m.component := fun wrong => by
        rw [hasElements_of_mislabels wrong] at own
        cases own
      exact ⟨iff_of_true (isDeclared_of_normalize h) labelled, iff_of_true h labelled,
        fun wrong => absurd wrong labelled⟩

/-- A text in an array that names boxed integers is handed on; on its own it would be refused. -/
theorem isDeclared_of_consume_textAmongIntegers :
    let int := HostType.boxed (.integer .int)
    let m : ArrayMarshaller := ⟨.plain "integer" (.ofCode .integer) int⟩
    let texts := Value.referenceArray int [.string "x"]
    m.consume texts = .ok texts ∧ ¬ texts.IsDeclared int ∧
      normalize int [.string "x"] = .error (.elementMismatch "Integer" "String") := by
  intro int m texts
  have passed : m.consume texts = .ok texts := by rfl
  have unfit : ¬ (Value.string "x").Fits int := not_or.2 ⟨nofun, nofun⟩
  have wrong : texts.Mislabels int := ⟨_, rfl, rfl, _, List.mem_cons_self, unfit⟩
  obtain ⟨declared, -⟩ := isDeclared_of_consume passed
  exact ⟨passed, fun fits => declared.1 fits wrong, rfl⟩

end ArrayMarshaller

end SqlDialects
