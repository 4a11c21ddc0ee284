import SqlDialects.Proofs.Value.Coercion

/-!
# Families of values

Truth values, texts, numbers and each enumeration are families of their own, and no coercion leaves a family
(`Value.family?_of_coerce`). Within the texts only a character and the text of this character can stand for each
other. An integer keeps its value in every width, so that widths on the way to an integral target make no difference
(`Value.coerce_of_coerce_integer`).
-/

namespace SqlDialects

/-- The families of single values. -/
inductive Family where
  | boolean
  | text
  | number
  | enumeration (name : String)
deriving DecidableEq

/-- The family of a kind. -/
def PrimitiveKind.family : PrimitiveKind → Family
  | boolean => .boolean
  | char => .text
  | integer _ => .number
  | floating _ => .number

namespace HostType

/-- The family of a representation. -/
def family : HostType → Family
  | primitive k => k.family
  | boxed k => k.family
  | string => .text
  | decimal => .number
  | enumeration name => .enumeration name

theorem family_toBoxed (t : HostType) : t.toBoxed.family = t.family := by
  cases t <;> rfl

theorem family_of_kind? {t : HostType} {k : PrimitiveKind} (h : t.kind? = some k) : t.family = k.family := by
  rw [← family_toBoxed, toBoxed_of_kind? h, family]

end HostType

namespace Value

variable {target : HostType} {v w : Value}

/-- The family of a single value. -/
def family? : Value → Option Family
  | scalar k _ => some k.family
  | string _ => some .text
  | decimal _ => some .number
  | enumeration typeName _ => some (.enumeration typeName)
  | _ => none

theorem family?_of_hostType? {t : HostType} (h : v.hostType? = some t) : v.family? = some t.family := by
  cases v <;> cases h <;> rfl

/-- A value is only coerced within its family. -/
theorem family?_of_coerce (nonnull : v ≠ null) (h : v.coerce target = .ok w) : v.family? = some target.family := by
  cases carries_of_coerce h with
  | same fits => rw [family?_of_hostType? (fits.resolve_left nonnull), HostType.family_toBoxed]
  | toText c form | toNumeral n form =>
    rw [form]
    rfl
  | toChar c kind | resized kind _ | rounded n x kind | refitted x y kind =>
    rw [HostType.family_of_kind? kind]
    rfl

/-- A text that does not stay as it is has one character, or is one. -/
theorem eq_or_singleton_of_coerce (textual : target.family = .text) (h : v.coerce target = .ok w) :
    w = v ∨ ∃ c, v = char c ∧ w = string (String.singleton c) ∨ v = string (String.singleton c) ∧ w = char c := by
  cases carries_of_coerce h with
  | same => exact .inl rfl
  | toChar c => exact .inr ⟨c, .inr ⟨rfl, rfl⟩⟩
  | toText c => exact .inr ⟨c, .inl ⟨rfl, rfl⟩⟩
  | toNumeral n form =>
    rw [form] at textual
    cases textual
  | resized kind _ | rounded n x kind | refitted x y kind =>
    rw [HostType.family_of_kind? kind] at textual
    cases textual

/-- An integer in any width that it fits is coerced to a further one as it was from the start. -/
theorem coerce_of_coerce_integer {u t m : IntegerWidth} {between : HostType} {n : FixedInt u}
    (kind : target.kind? = some (.integer t)) (middle : between.kind? = some (.integer m))
    (h : (integer u n).coerce between = .ok w) : w.coerce target = (integer u n).coerce target := by
  rw [coerce_integer middle, integerOfInteger] at h
  split at h
  · next i fits =>
    cases h
    rw [coerce_integer kind, coerce_integer kind, FixedInt.ofInt?_eq_some_iff.1 fits]
  · cases h

/-- The text of a character stands for it. -/
theorem coerce_singleton (kind : target.kind? = some .char) (c : Char) :
    (string (String.singleton c)).coerce target = .ok (char c) := by
  have nonnull : string (String.singleton c) ≠ null := by simp
  have other : (string (String.singleton c)).kind? ≠ some .char := by simp [kind?]
  rw [coerce_of_kind? kind _ nonnull, coerceToKind, if_neg other, String.toList_singleton]

/-- What a coercion gives is null for null and of the target representation for any other value, and a second coercion
leaves it as it is. It stays in its family, and among texts it only changes between a character and the text of this
character, in both directions. An integer becomes its numeral, or keeps its value in every width whose range it is in,
and is out of range for the others; so it does not matter by way of which widths it is coerced. -/
theorem laws_of_coerce (v : Value) (target : HostType) :
    (∀ w, v.coerce target = .ok w →
      (w = null ↔ v = null) ∧ (w = null ∨ w.hostType? = some target.toBoxed) ∧ w.coerce target = .ok w ∧
      (v ≠ null → v.family? = some target.family) ∧
      (target.family = .text → w = v ∨
        ∃ c, v = char c ∧ w = string (String.singleton c) ∨ v = string (String.singleton c) ∧ w = char c)) ∧
    (∀ c, (v = char c → target = .string → v.coerce target = .ok (string (String.singleton c))) ∧
      (v = string (String.singleton c) → target.kind? = some .char → v.coerce target = .ok (char c))) ∧
    ∀ (u : IntegerWidth) (n : FixedInt u), v = integer u n →
      (target = .decimal → v.coerce target = .ok (decimal (toString n.value))) ∧
      ∀ t, target.kind? = some (.integer t) →
        (∀ fits : t.Contains n.value, v.coerce target = .ok (integer t ⟨n.value, fits⟩)) ∧
        (¬t.Contains n.value → v.coerce target =
          .error (.outOfRange (toString n.value) (PrimitiveKind.integer t).boxedName)) ∧
        ∀ between m w, between.kind? = some (.integer m) → v.coerce between = .ok w →
          w.coerce target = v.coerce target := by
  refine ⟨fun w h => ?_, fun c => ⟨?_, ?_⟩, ?_⟩
  · have fits := fits_of_coerce h
    exact ⟨eq_null_iff_of_coerce h, fits, fits.coerce_eq, fun nonnull => family?_of_coerce nonnull h,
      fun textual => eq_or_singleton_of_coerce textual h⟩
  · rintro rfl rfl
    rfl
  · rintro rfl kind
    exact coerce_singleton kind c
  · rintro u n rfl
    refine ⟨?_, fun t kind => ⟨fun fits => ?_, fun outside => ?_, fun between m w middle h => ?_⟩⟩
    · rintro rfl
      rfl
    · rw [coerce_integer kind, integerOfInteger, FixedInt.ofInt?, dif_pos fits]
    · rw [coerce_integer kind, integerOfInteger, FixedInt.ofInt?_eq_none_iff.2 outside]
    · exact coerce_of_coerce_integer kind middle h

end Value

end SqlDialects
