import SqlDialects.Value.Coercion

/-!
# Element converters

A converter carries a single value between the form that the application holds and the form that the
driver binds. `Traced` computations record every use of a converter in order, those that fail
included.
-/

namespace SqlDialects

/-- A conversion of single values in both ways. -/
inductive Converter where
  /-- Stores an enumeration as texts, given as pairs of a variant and its code. -/
  | enumByCode (typeName : String) (codes : List (String × String))
  /-- Stores an enumeration as the positions of its variants. -/
  | enumByOrdinal (typeName : String) (variants : List String)
  /-- Any pair of conversions between two representations. -/
  | custom (domain relational : HostType) (toRelational toDomain : Value → Except MarshalError Value)

namespace Converter

/-- The converter that coerces values between two representations. -/
def coercing (domain relational : HostType) : Converter :=
  custom domain relational (·.coerce relational) (·.coerce domain)

/-- The converter was supplied from outside. -/
def isCustom : Converter → Bool
  | custom _ _ _ _ => true
  | _ => false

/-- The representation of the values that the application holds. -/
def domain : Converter → HostType
  | enumByCode typeName _ => .enumeration typeName
  | enumByOrdinal typeName _ => .enumeration typeName
  | custom domain _ _ _ => domain

/-- The representation of the values that the driver binds. -/
def relational : Converter → HostType
  | enumByCode _ _ => .string
  | enumByOrdinal _ _ => .boxed (.integer .int)
  | custom _ relational _ _ => relational

/-- The code of a variant. -/
def codeOf (typeName : String) (codes : List (String × String)) (variant : String) :
    Except MarshalError Value :=
  match codes.find? (·.1 == variant) with
  | some entry => .ok (.string entry.2)
  | none => .error (.conversionFailed typeName (.noCode variant))

/-- The variant of a code. -/
def variantOfCode (typeName : String) (codes : List (String × String)) (code : String) :
    Except MarshalError Value :=
  match codes.find? (·.2 == code) with
  | some entry => .ok (.enumeration typeName entry.1)
  | none => .error (.conversionFailed typeName (.unknownCode code))

/-- The position of a variant. -/
def ordinalOf (typeName : String) (variants : List String) (variant : String) :
    Except MarshalError Value :=
  match variants.findIdx? (· == variant) with
  | some n =>
    match FixedInt.ofInt? .int n with
    | some ordinal => .ok (.integer .int ordinal)
    | none => .error (.outOfRange (toString n) (HostType.boxed (.integer .int)).name)
  | none => .error (.conversionFailed typeName (.unknownVariant variant))

/-- The variant at the position that an integer gives. -/
def variantAt? (variants : List String) : Value → Option String
  | .scalar (.integer _) n => if 0 ≤ n.value then variants[n.value.toNat]? else none
  | _ => none

/-- The variant at the position that a value gives, read as an integer. -/
def variantOfOrdinal (typeName : String) (variants : List String) (v : Value) :
    Except MarshalError Value := do
  let ordinal ← v.coerce (.boxed (.integer .int))
  match variantAt? variants ordinal with
  | some variant => .ok (.enumeration typeName variant)
  | none => .error (.conversionFailed typeName (.noVariantAt v))

/-- A value of the application in the form that the driver binds. -/
def toRelational : Converter → Value → Except MarshalError Value
  | custom _ _ f _, v => f v
  | _, .null => .ok .null
  | enumByCode typeName codes, .enumeration name variant =>
    if name = typeName then codeOf typeName codes variant
    else .error (.elementMismatch typeName name)
  | enumByOrdinal typeName variants, .enumeration name variant =>
    if name = typeName then ordinalOf typeName variants variant
    else .error (.elementMismatch typeName name)
  | c, v => .error (v.mismatch c.domain.name)

/-- A value of the driver in the form that the application holds. -/
def toDomain : Converter → Value → Except MarshalError Value
  | custom _ _ _ g, v => g v
  | _, .null => .ok .null
  | enumByCode typeName codes, .string code => variantOfCode typeName codes code
  | enumByOrdinal typeName variants, v => variantOfOrdinal typeName variants v
  | c, v => .error (v.mismatch c.relational.name)

end Converter

/-- The two ways of a conversion. -/
inductive Direction where
  | toRelational
  | toDomain
deriving DecidableEq, Repr

/-- A use of a converter. -/
structure ConverterCall where
  converter : Converter
  direction : Direction
  element : Value

/-- A computation that may fail, with the uses of converters that it made. -/
structure Traced (α : Type) where
  result : Except MarshalError α
  calls : List ConverterCall

namespace Traced

/-- A computation that uses no converter. -/
def ofExcept {α : Type} (result : Except MarshalError α) : Traced α := ⟨result, []⟩

instance : Monad Traced where
  pure a := ⟨.ok a, []⟩
  bind x f :=
    match x.result with
    | .error e => ⟨.error e, x.calls⟩
    | .ok a => let y := f a; ⟨y.result, x.calls ++ y.calls⟩

instance : MonadLift (Except MarshalError) Traced where
  monadLift := ofExcept

end Traced

/-- Uses a converter. -/
def Converter.call (c : Converter) (direction : Direction) (v : Value) : Traced Value :=
  match direction with
  | .toRelational => ⟨c.toRelational v, [⟨c, direction, v⟩]⟩
  | .toDomain => ⟨c.toDomain v, [⟨c, direction, v⟩]⟩

end SqlDialects
