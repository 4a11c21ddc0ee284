import Mathlib.Data.List.Nodup
import SqlDialects.Proofs.Marshal.Arrays
import SqlDialects.Proofs.Value.Coercion

/-!
# Arrays of enumerations to the driver and back

`bind` converts the variants of an enumeration to codes or positions and coerces these to whatever
representation the driver has for the type code; `extract` hands what the driver holds straight to the
converter. The variants come back unless the coercion has left the family of values that the converter
understands: a code bound as a character, a position bound as a decimal or a floating point number
(`ArrayMarshaller.extract_of_bind`).
-/

namespace SqlDialects

namespace Value

/-- The value has no element other than null. -/
def NullsOnly (v : Value) : Prop := ∀ vs, v.elements? = some vs → ∀ x ∈ vs, x = null

theorem IsArrayOf.eq_referenceArray {a : Value} {typeName : String} {ws : List Value}
    (h : a.IsArrayOf (.enumeration typeName) ws) : a = referenceArray (.enumeration typeName) ws := by
  cases a with
  | primitiveArray k xs => cases h.1
  | referenceArray element vs => rw [h.1, h.2]
  | _ => exact h.elim

end Value

namespace Converter

/-- The converter is one of an enumeration; if it stores codes, they differ from each other. -/
def Enumerates : Converter → Prop
  | enumByCode _ codes => (codes.map Prod.snd).Nodup
  | enumByOrdinal _ _ => True
  | custom _ _ _ _ => False

/-- The converter understands its own values when they are held in the given representation. -/
def Reads : Converter → HostType → Prop
  | enumByCode _ _, target => target.kind? ≠ some .char
  | enumByOrdinal _ _, target => target ≠ .decimal ∧ ∀ w, target.kind? ≠ some (.floating w)
  | custom _ _ _ _, _ => False

variable {c : Converter} {target : HostType} {typeName : String}

theorem Enumerates.domain_eq (h : c.Enumerates) : ∃ typeName, c.domain = .enumeration typeName := by
  cases c with
  | enumByCode typeName codes => exact ⟨typeName, rfl⟩
  | enumByOrdinal typeName variants => exact ⟨typeName, rfl⟩
  | custom => exact h.elim

theorem Enumerates.reads_domain (h : c.Enumerates) : c.Reads c.domain := by
  cases c with
  | enumByCode typeName codes => exact nofun
  | enumByOrdinal typeName variants => exact ⟨nofun, nofun⟩
  | custom => exact h.elim

theorem Enumerates.toRelational_null (h : c.Enumerates) : c.toRelational .null = .ok .null := by
  cases c with
  | custom => exact h.elim
  | _ => rfl

theorem Enumerates.toDomain_null (h : c.Enumerates) : c.toDomain .null = .ok .null := by
  cases c with
  | custom => exact h.elim
  | _ => rfl

/-- With distinct codes, the code of a variant leads back to it. -/
theorem toDomain_of_codeOf {codes : List (String × String)} {variant : String} {r : Value}
    (distinct : (codes.map Prod.snd).Nodup) (h : codeOf typeName codes variant = .ok r) :
    ∃ code, r = .string code ∧ variantOfCode typeName codes code = .ok (.enumeration typeName variant) := by
  unfold codeOf at h
  split at h
  · next entry found =>
    obtain rfl := Except.ok.inj h
    have member := List.mem_of_find?_eq_some found
    have named : entry.1 = variant := by simpa using List.find?_some found
    have back : codes.find? (·.2 == entry.2) = some entry := by
      cases again : codes.find? (·.2 == entry.2) with
      | none => simpa using List.find?_eq_none.1 again entry member
      | some other =>
        have same : other.2 = entry.2 := by simpa using List.find?_some again
        rw [List.inj_on_of_nodup_map distinct (List.mem_of_find?_eq_some again) member same]
    refine ⟨entry.2, rfl, ?_⟩
    rw [variantOfCode, back, ← named]
  · cases h

/-- The variant at the position of a variant is that variant. -/
theorem toDomain_of_ordinalOf {variants : List String} {variant : String} {r : Value}
    (h : ordinalOf typeName variants variant = .ok r) :
    ∃ n, r = .integer .int n ∧ variantAt? variants (.integer .int n) = some variant := by
  unfold ordinalOf at h
  split at h
  · next position found =>
    split at h
    · next n fits =>
      obtain rfl := Except.ok.inj h
      refine ⟨n, rfl, ?_⟩
      have value := FixedInt.ofInt?_eq_some_iff.1 fits
      obtain ⟨below, here, -⟩ := List.findIdx?_eq_some_iff_getElem.1 found
      rw [variantAt?, ← value, if_pos (Int.natCast_nonneg position), Int.toNat_natCast,
        List.getElem?_eq_getElem below, beq_iff_eq.1 here]
    · cases h
  · cases h

/-- A converter of an enumeration is only used for variants of that enumeration. -/
theorem Enumerates.exists_variant (h : c.Enumerates) {v r : Value} (there : c.toRelational v = .ok r)
    (nonnull : v ≠ .null) : ∃ typeName variant, c.domain = .enumeration typeName ∧
      v = .enumeration typeName variant := by
  cases c with
  | custom => exact h.elim
  | enumByCode typeName _ | enumByOrdinal typeName _ =>
    cases v with
    | null => exact absurd rfl nonnull
    | enumeration name variant =>
      simp only [toRelational] at there
      split at there
      · next same => exact ⟨typeName, variant, rfl, by rw [same]⟩
      · cases there
    | _ => cases there

/-- What is coerced for the driver comes back if its representation is understood, and otherwise is
refused for that representation. -/
theorem Enumerates.toDomain_of_coerce (h : c.Enumerates) {v r w : Value} (there : c.toRelational v = .ok r)
    (nonnull : v ≠ .null) (coerced : r.coerce target = .ok w) :
    (c.Reads target → c.toDomain w = .ok v) ∧
    (¬ c.Reads target → c.toDomain w = .error (.elementMismatch c.relational.name target.toBoxed.name)) := by
  obtain ⟨typeName, variant, ofDomain, rfl⟩ := h.exists_variant there nonnull
  cases c with
  | custom => exact h.elim
  | enumByCode name codes =>
    obtain rfl := HostType.enumeration.inj ofDomain
    simp only [toRelational, if_pos] at there
    obtain ⟨code, rfl, back⟩ := toDomain_of_codeOf h there
    rcases Value.coerce_string_cases coerced with ⟨kind, rfl⟩ | ⟨kind, character, rfl⟩
    · have reads : Reads (.enumByCode name codes) target := by
        rw [Reads, kind]
        exact nofun
      exact ⟨fun _ => back, fun unread => absurd reads unread⟩
    · refine ⟨fun reads => absurd kind reads, fun _ => ?_⟩
      rw [toBoxed_of_kind? kind]
      rfl
  | enumByOrdinal name variants =>
    obtain rfl := HostType.enumeration.inj ofDomain
    simp only [toRelational, if_pos] at there
    obtain ⟨n, rfl, back⟩ := toDomain_of_ordinalOf there
    rcases Value.coerce_integer_cases coerced with ⟨u, kind, i, rfl, same⟩ | ⟨u, kind, x, rfl⟩ | ⟨rfl, s, rfl⟩
    · have reads : Reads (.enumByOrdinal name variants) target := by
        refine ⟨?_, ?_⟩
        · rintro rfl
          cases kind
        · intro w floating
          rw [kind] at floating
          cases floating
      refine ⟨fun _ => ?_, fun unread => absurd reads unread⟩
      change variantOfOrdinal name variants (.integer u i) = _
      rw [variantOfOrdinal, Value.coerce_integer_boxed same]
      dsimp only [bind, Except.bind]
      rw [back]
    · refine ⟨fun reads => absurd kind (reads.2 u), fun _ => ?_⟩
      rw [toBoxed_of_kind? kind]
      rfl
    · exact ⟨fun reads => absurd rfl reads.1, fun _ => rfl⟩

end Converter

namespace ArrayMarshaller

variable {m : ArrayMarshaller} {c : Converter} {target : HostType} {vs ws : List Value}

/-- What was coerced to the representation of an array is put into it as it is. -/
theorem eq_of_stored {r w y : Value} (coerced : r.coerce target = .ok w) (put : stored target w = .ok y) :
    y = w := by
  cases target with
  | primitive k =>
    by_cases null : r = .null
    · -- null has no place in an array of unboxed elements
      subst null
      cases Except.ok.inj coerced
      cases put
    · obtain ⟨x, rfl⟩ := Value.exists_scalar_of_coerce rfl null coerced
      rw [stored, unbox_scalar] at put
      exact (Except.ok.inj put).symm
  | _ => exact (Except.ok.inj put).symm

theorem exists_isArrayOf_of_consume {x v : Value} (h : m.consume x = .ok v) :
    v = .null ∨ ∃ vs, v.IsArrayOf m.component vs := by
  cases hx : x.elements? with
  | some xs =>
    obtain ⟨vs, array, -⟩ := (m.buildsArray_consume hx).elements h
    exact .inr ⟨vs, array⟩
  | none =>
    by_cases null : x = .null
    · subst null
      exact .inl (Except.ok.inj h).symm
    · rw [m.consume_of_single hx null] at h
      cases h

theorem converted_eq (hc : m.element.converter? = some c) (v : Value) :
    m.converted target v =
      if m.component = target then .ok v
      else (c.toRelational v >>= (·.coerce target)) >>= stored target := by
  rw [converted, hc]

/-- An array in the representation of the domain is left as it is. -/
theorem extract_of_domain (hc : m.element.converter? = some c) :
    (m.extract (.referenceArray c.domain ws)).result = .ok (.referenceArray c.domain ws) := by
  unfold extract
  rw [hc]
  exact congrArg Traced.result (if_pos rfl)

/-- An array in another representation than that of the domain is converted element by element. -/
theorem extract_of_isArrayOf (hc : m.element.converter? = some c) {a : Value} (h : a.IsArrayOf target ws)
    (differs : target ≠ c.domain) :
    (m.extract a).result = ws.mapM c.toDomain >>= assemble c.domain := by
  have each : (extract.convertAll c ws).result = ws.mapM c.toDomain >>= assemble c.domain := by
    rw [extract.convertAll, Traced.result_bind_eq, Traced.result_mapM]
    rfl
  unfold extract
  rw [hc]
  cases a with
  | primitiveArray k xs =>
    obtain ⟨rfl, rfl⟩ := h
    simp only [if_neg differs]
    exact each
  | referenceArray element us =>
    obtain ⟨rfl, rfl⟩ := h
    simp only [if_neg differs]
    exact each
  | _ => exact h.elim

/-- The failure to read a value of the driver back. -/
def unread (c : Converter) (target : HostType) : MarshalError :=
  .elementMismatch c.relational.name target.toBoxed.name

/-- An element that was converted for the driver comes back, or is the reason why nothing does. -/
theorem toDomain_of_converted (h : c.Enumerates) {v y : Value}
    (there : ((c.toRelational v >>= (·.coerce target)) >>= stored target) = .ok y) :
    (c.Reads target ∨ v = .null → c.toDomain y = .ok v) ∧
    (¬ c.Reads target → v ≠ .null → c.toDomain y = .error (unread c target)) := by
  obtain ⟨w, moved, put⟩ := Except.bind_eq_ok.1 there
  obtain ⟨r, relational, coerced⟩ := Except.bind_eq_ok.1 moved
  obtain rfl := eq_of_stored coerced put
  by_cases null : v = .null
  · subst null
    rw [h.toRelational_null] at relational
    cases Except.ok.inj relational
    rw [Value.coerce_null] at coerced
    cases Except.ok.inj coerced
    exact ⟨fun _ => h.toDomain_null, fun _ nonnull => absurd rfl nonnull⟩
  · obtain ⟨back, failed⟩ := h.toDomain_of_coerce relational null coerced
    exact ⟨fun reads => back (reads.resolve_right null), fun unread _ => failed unread⟩

theorem mapM_toDomain_of_converted (h : c.Enumerates)
    (there : List.Forall₂ (fun v y => ((c.toRelational v >>= (·.coerce target)) >>= stored target) = .ok y)
      vs ws) :
    (c.Reads target ∨ (∀ v ∈ vs, v = .null) → ws.mapM c.toDomain = .ok vs) ∧
    (¬ c.Reads target → ¬ (∀ v ∈ vs, v = .null) → ws.mapM c.toDomain = .error (unread c target)) := by
  induction there with
  | nil => exact ⟨fun _ => rfl, fun _ some => absurd (by simp) some⟩
  | @cons v y vs ws first _ ih =>
    obtain ⟨back, failed⟩ := toDomain_of_converted h first
    obtain ⟨backRest, failedRest⟩ := ih
    constructor
    · intro all
      have firstBack := back (all.imp_right fun nulls => nulls v List.mem_cons_self)
      have restBack := backRest (all.imp_right fun nulls x hx => nulls x (List.mem_cons_of_mem v hx))
      rw [List.mapM_cons, firstBack, restBack]
      rfl
    · intro unread some
      rw [List.mapM_cons]
      by_cases null : v = .null
      · -- a null comes back, and a later element is the reason
        have others : ¬ ∀ x ∈ vs, x = .null := fun nulls => some (List.forall_mem_cons.2 ⟨null, nulls⟩)
        rw [back (.inr null), failedRest unread others]
        rfl
      · rw [failed unread null]
        rfl

/-- An array of variants that was consumed and bound comes back from the driver if the converter
understands the representation it is held in there, or if it holds nothing but nulls. In every other case
the driver's array is refused, for the form of its first element that is not null. -/
theorem extract_of_bind {b : BasicType} {c : Converter} (h : c.Enumerates)
    {recommended preferred : RepresentationMap} {x v a : Value}
    (consumed : (ArrayMarshaller.mk (b.withConverter c)).consume x = .ok v)
    (bound : ((ArrayMarshaller.mk (b.withConverter c)).bind recommended preferred v).result = .ok a) :
    ∃ target, RepresentationMap.elementType recommended preferred b.descriptor.code = .ok target ∧
      (c.Reads target ∨ v.NullsOnly →
        ((ArrayMarshaller.mk (b.withConverter c)).extract a).result = .ok v) ∧
      (¬ c.Reads target → ¬ v.NullsOnly →
        ((ArrayMarshaller.mk (b.withConverter c)).extract a).result =
          .error (.elementMismatch c.relational.name target.toBoxed.name)) := by
  let m : ArrayMarshaller := ⟨b.withConverter c⟩
  have conversion : m.element.converter? = some c := rfl
  have declared : m.component = c.domain := rfl
  obtain ⟨typeName, enumeration⟩ := h.domain_eq
  cases chosen : m.boundComponent recommended preferred with
  | error e =>
    rw [m.bind_of_boundComponent chosen] at bound
    cases bound
  | ok target =>
    refine ⟨target, chosen, ?_⟩
    rcases exists_isArrayOf_of_consume consumed with rfl | ⟨vs, array⟩
    · obtain rfl := Except.ok.inj ((m.consume_bind_null chosen).symm.trans bound)
      exact ⟨fun _ => rfl, fun _ some => absurd nofun some⟩
    · obtain ⟨ws, held, each⟩ := (m.buildsArray_bind chosen array).elements bound
      simp only [converted_eq conversion] at each
      obtain rfl := (enumeration ▸ array : v.IsArrayOf (.enumeration typeName) vs).eq_referenceArray
      by_cases same : m.component = target
      · -- the driver gets the array as it is, and it is not touched on the way back either
        simp only [if_pos same] at each
        obtain rfl : vs = ws := List.forall₂_eq_eq_eq ▸ each.imp fun _ _ => Except.ok.inj
        rw [← same, declared, enumeration] at held
        obtain rfl := held.eq_referenceArray
        have passed : (m.extract (.referenceArray c.domain vs)).result =
            .ok (.referenceArray c.domain vs) := extract_of_domain conversion
        rw [enumeration] at passed
        refine ⟨fun _ => passed, fun unread => absurd ?_ unread⟩
        rw [← same]
        exact h.reads_domain
      · simp only [if_neg same] at each
        obtain ⟨back, failed⟩ := mapM_toDomain_of_converted h each
        have run := extract_of_isArrayOf conversion held fun eq => same (declared.trans eq.symm)
        have nulls : (Value.referenceArray (.enumeration typeName) vs).NullsOnly ↔ ∀ v ∈ vs, v = .null :=
          ⟨fun all => all vs rfl, fun all us eq => Option.some.inj eq ▸ all⟩
        constructor
        · intro all
          refine run.trans ?_
          rw [back (all.imp_right nulls.1), enumeration]
          rfl
        · intro unread some
          refine run.trans ?_
          rw [failed unread (mt nulls.2 some)]
          rfl

/-- The position of a level is bound as a decimal where the column is numeric, and the array that the driver
holds then cannot be read back. -/
theorem extract_of_bind_numericLevels :
    let level := BasicType.plain "level" (.ofCode .numeric) .decimal
    let ordinal := Converter.enumByOrdinal "Level" ["Low", "High"]
    let m : ArrayMarshaller := ⟨level.withConverter ordinal⟩
    let levels := Value.referenceArray (.enumeration "Level") [.enumeration "Level" "High"]
    let held := Value.referenceArray .decimal [.decimal "1"]
    m.consume (.collection [.enumeration "Level" "High"]) = .ok levels ∧
      (m.bind .standard [] levels).result = .ok held ∧
      (m.extract held).result = .error (.elementMismatch "Integer" "BigDecimal") := by
  intro level ordinal m levels held
  have consumed : m.consume (.collection [.enumeration "Level" "High"]) = .ok levels := by rfl
  have bound : (m.bind .standard [] levels).result = .ok held := by rfl
  obtain ⟨target, chosen, -, refused⟩ := extract_of_bind (c := ordinal) trivial consumed bound
  obtain rfl : target = .decimal := (Except.ok.inj chosen).symm
  refine ⟨consumed, bound, refused (fun reads => reads.1 rfl) fun nulls => ?_⟩
  cases nulls _ rfl _ List.mem_cons_self

end ArrayMarshaller

end SqlDialects
