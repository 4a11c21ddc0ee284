import SqlDialects.Value.Coercion

/-!
# What coercion gives

A coercion that succeeds leaves a value as it is, or changes between a character and the text of this character,
or carries a number into another form of numbers (`Value.carries_of_coerce`). What it gives is null or of the target
representation (`Value.fits_of_coerce`), and the values that coercion leaves as they are are those that are so
already (`Value.coerce_eq_self_iff`). A coercion that fails does so for the value (`Value.isOfElement_of_coerce`).
-/

namespace SqlDialects

theorem toBoxed_of_kind? {target : HostType} {k : PrimitiveKind} (h : target.kind? = some k) :
    target.toBoxed = .boxed k := by
  cases target with
  | primitive l => exact congrArg HostType.boxed (Option.some.inj h)
  | boxed l => exact congrArg HostType.boxed (Option.some.inj h)
  | _ => cases h

theorem kind?_of_toBoxed {target : HostType} {k : PrimitiveKind} (h : target.toBoxed = .boxed k) :
    target.kind? = some k := by
  cases target with
  | primitive l => exact congrArg some (HostType.boxed.inj h)
  | boxed l => exact congrArg some (HostType.boxed.inj h)
  | _ => cases h

/-- The failure is about a single value: its family, its range, or its missing counterpart. -/
def MarshalError.isOfElement : MarshalError → Bool
  | elementMismatch _ _ | outOfRange _ _ | conversionFailed _ _ => true
  | _ => false

namespace Value

/-- The value is null, or a single value of the given representation. -/
def Fits (target : HostType) (v : Value) : Prop := v = null ∨ v.hostType? = some target.toBoxed

theorem coerce_null (target : HostType) : null.coerce target = .ok null := by
  cases target <;> rfl

theorem coerce_of_kind? {target : HostType} {k : PrimitiveKind} (h : target.kind? = some k) (v : Value)
    (nonnull : v ≠ null) : v.coerce target = v.coerceToKind k := by
  cases target with
  | primitive l | boxed l =>
    obtain rfl := Option.some.inj h
    cases v with
    | null => exact absurd rfl nonnull
    | _ => rfl
  | _ => cases h

/-! ## Success -/

/-- The forms that a value may take in the target representation. -/
inductive Carries (target : HostType) : Value → Value → Prop where
  | same {v : Value} : v.Fits target → Carries target v v
  | toChar (c : Char) : target.kind? = some .char → Carries target (string (String.singleton c)) (char c)
  | toText (c : Char) : target = .string → Carries target (char c) (string (String.singleton c))
  | toNumeral {w : IntegerWidth} (n : FixedInt w) : target = .decimal →
    Carries target (integer w n) (decimal (toString n.value))
  | resized {w u : IntegerWidth} {n : FixedInt w} {i : FixedInt u} : target.kind? = some (.integer u) →
    i.value = n.value → Carries target (integer w n) (integer u i)
  | rounded {w : IntegerWidth} {u : FloatWidth} (n : FixedInt w) (x : Binary u) :
    target.kind? = some (.floating u) → Carries target (integer w n) (floating u x)
  | refitted {w u : FloatWidth} (x : Binary w) (y : Binary u) : target.kind? = some (.floating u) →
    Carries target (floating w x) (floating u y)

variable {target : HostType} {v w : Value} {k : PrimitiveKind}

theorem carries_of_coerceToKind (kind : target.kind? = some k) (h : v.coerceToKind k = .ok w) :
    Carries target v w := by
  unfold coerceToKind at h
  split at h
  · next same =>
    cases h
    cases v with
    | scalar l x =>
      obtain rfl := Option.some.inj same
      exact .same (.inr (congrArg some (toBoxed_of_kind? kind).symm))
    | _ => cases same
  · split at h
    · next s _ =>
      split at h
      · next c single =>
        cases h
        have text : s = String.singleton c := String.toList_inj.1 (single.trans (String.toList_singleton c).symm)
        subst text
        exact .toChar c kind
      · cases h
    · unfold integerOfInteger at h
      split at h
      · next i fits =>
        cases h
        exact .resized kind (FixedInt.ofInt?_eq_some_iff.1 fits).symm
      · cases h
    · unfold floatingOfInteger at h
      dsimp only at h
      split at h
      · cases h
        exact .rounded _ _ kind
      · cases h
    · unfold floatingOfFloating at h
      dsimp only at h
      split at h
      · cases h
      · cases h
        exact .refitted _ _ kind
    · cases h

/-- A coercion that succeeds gives the value in one of these forms. -/
theorem carries_of_coerce (h : v.coerce target = .ok w) : Carries target v w := by
  by_cases null : v = .null
  · subst null
    rw [coerce_null] at h
    cases h
    exact .same (.inl rfl)
  cases kind : target.kind? with
  | some k =>
    rw [coerce_of_kind? kind v null] at h
    exact carries_of_coerceToKind kind h
  | none =>
    cases target with
    | primitive | boxed => cases kind
    | string =>
      cases v with
      | string s =>
        cases h
        exact .same (.inr rfl)
      | scalar k x =>
        cases k with
        | char =>
          cases h
          exact .toText x rfl
        | _ => cases h
      | null => exact absurd rfl null
      | _ => cases h
    | decimal =>
      cases v with
      | decimal s =>
        cases h
        exact .same (.inr rfl)
      | scalar k x =>
        cases k with
        | integer width =>
          cases h
          exact .toNumeral x rfl
        | _ => cases h
      | null => exact absurd rfl null
      | _ => cases h
    | enumeration name =>
      cases v with
      | enumeration typeName variant =>
        rw [coerce] at h
        split at h
        · next same =>
          cases h
          exact .same (.inr (congrArg (some ∘ HostType.enumeration) same))
        · cases h
      | null => exact absurd rfl null
      | _ => cases h

/-- A value is coerced to one of the target representation. -/
theorem fits_of_coerce (h : v.coerce target = .ok w) : w.Fits target := by
  cases carries_of_coerce h with
  | same fits => exact fits
  | toText c text => exact .inr (by rw [text]; rfl)
  | toNumeral n decimal => exact .inr (by rw [decimal]; rfl)
  | toChar c kind | resized kind _ | rounded n x kind | refitted x y kind =>
    exact .inr (congrArg some (toBoxed_of_kind? kind).symm)

/-- Null is what only null becomes. -/
theorem eq_null_iff_of_coerce (h : v.coerce target = .ok w) : w = null ↔ v = null := by
  cases carries_of_coerce h with
  | same => exact Iff.rfl
  | _ => exact ⟨nofun, nofun⟩

theorem exists_scalar_of_coerce (kind : target.kind? = some k) (nonnull : v ≠ null) (h : v.coerce target = .ok w) :
    ∃ x, w = scalar k x := by
  have form := (fits_of_coerce h).resolve_left (mt (eq_null_iff_of_coerce h).1 nonnull)
  rw [toBoxed_of_kind? kind] at form
  cases w with
  | scalar l x =>
    obtain rfl := HostType.boxed.inj (Option.some.inj form)
    exact ⟨x, rfl⟩
  | _ => cases form

/-- A value of the target representation is left as it is. -/
theorem Fits.coerce_eq {target : HostType} {v : Value} (h : v.Fits target) : v.coerce target = .ok v := by
  rcases h with rfl | h
  · exact coerce_null target
  cases kind : target.kind? with
  | some k =>
    rw [toBoxed_of_kind? kind] at h
    cases v with
    | scalar l x =>
      obtain rfl := HostType.boxed.inj (Option.some.inj h)
      rw [coerce_of_kind? kind (scalar l x) nofun]
      exact if_pos rfl
    | _ => cases h
  | none =>
    cases target with
    | primitive | boxed => cases kind
    | enumeration name =>
      cases v with
      | enumeration typeName variant =>
        obtain rfl := HostType.enumeration.inj (Option.some.inj h)
        exact if_pos rfl
      | _ => cases h
    | _ =>
      cases v with
      | string | decimal => first | rfl | cases h
      | _ => cases h

theorem coerce_eq_self_iff {target : HostType} {v : Value} : v.coerce target = .ok v ↔ v.Fits target :=
  ⟨fits_of_coerce, Fits.coerce_eq⟩

/-- A text keeps its form, or becomes a character where the target is one. -/
theorem coerce_string_cases {s : String} (h : (string s).coerce target = .ok w) :
    (target.kind? = none ∧ w = string s) ∨ (target.kind? = some .char ∧ ∃ c, w = char c) := by
  cases carries_of_coerce h with
  | toChar c kind => exact .inr ⟨kind, c, rfl⟩
  | same fits =>
    have form := fits.resolve_left nofun
    cases target with
    | string => exact .inl ⟨rfl, rfl⟩
    | _ => cases form

/-- An integer keeps its value, or becomes a floating point number or a decimal. -/
theorem coerce_integer_cases {u : IntegerWidth} {n : FixedInt u} (h : (integer u n).coerce target = .ok w) :
    (∃ t, target.kind? = some (.integer t) ∧ ∃ i : FixedInt t, w = integer t i ∧ i.value = n.value) ∨
    (∃ t, target.kind? = some (.floating t) ∧ ∃ x, w = floating t x) ∨
    (target = .decimal ∧ ∃ s, w = decimal s) := by
  cases carries_of_coerce h with
  | same fits => exact .inl ⟨u, kind?_of_toBoxed (Option.some.inj (fits.resolve_left nofun)).symm, n, rfl, rfl⟩
  | resized kind value => exact .inl ⟨_, kind, _, rfl, value⟩
  | rounded n x kind => exact .inr (.inl ⟨_, kind, x, rfl⟩)
  | toNumeral n decimal => exact .inr (.inr ⟨decimal, _, rfl⟩)

/-- Whether an integer is coerced to a width is a matter of its range alone, also in its own width. -/
theorem coerce_integer {u t : IntegerWidth} (kind : target.kind? = some (.integer t)) (n : FixedInt u) :
    (integer u n).coerce target = integerOfInteger t n.value := by
  rw [coerce_of_kind? kind (integer u n) nofun, coerceToKind]
  split
  · next same =>
    obtain rfl := PrimitiveKind.integer.inj (Option.some.inj same)
    rw [integerOfInteger, FixedInt.ofInt?_eq_some_iff.2 rfl]
  · rfl

/-- An integer fits the width of another one that holds the same. -/
theorem coerce_integer_boxed {u t : IntegerWidth} {n : FixedInt t} {i : FixedInt u} (h : i.value = n.value) :
    (integer u i).coerce (.boxed (.integer t)) = .ok (integer t n) := by
  rw [coerce_integer rfl, integerOfInteger, FixedInt.ofInt?_eq_some_iff.2 h]

/-! ## Failure -/

theorem isOfElement_of_coerceToKind {k : PrimitiveKind} {v : Value} {e : MarshalError}
    (h : v.coerceToKind k = .error e) :
    e.isOfElement = true := by
  unfold coerceToKind at h
  split at h
  · cases h
  · split at h
    · split at h <;> cases h
      rfl
    · unfold integerOfInteger at h
      split at h <;> cases h
      rfl
    · unfold floatingOfInteger at h
      dsimp only at h
      split at h <;> cases h
      rfl
    · unfold floatingOfFloating at h
      dsimp only at h
      split at h <;> cases h
      rfl
    · cases h
      rfl

/-- A coercion fails for what it is given, not for what it is asked for. -/
theorem isOfElement_of_coerce {target : HostType} {v : Value} {e : MarshalError} (h : v.coerce target = .error e) :
    e.isOfElement = true := by
  unfold coerce at h
  split at h
  · cases h
  · exact isOfElement_of_coerceToKind h
  · exact isOfElement_of_coerceToKind h
  all_goals first
    | (cases h; done)
    | (cases h; rfl)
    | (split at h <;> cases h; rfl)

end Value

end SqlDialects
