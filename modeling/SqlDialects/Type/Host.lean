import SqlDialects.Number.Binary

/-!
# Host representations

The forms in which the application holds single values: unboxed primitives of eight kinds, their
boxed counterparts that may be null, texts, decimals and named enumerations.
-/

namespace SqlDialects

/-- The widths of integers. -/
inductive IntegerWidth where
  | byte
  | short
  | int
  | long
deriving DecidableEq, Repr

namespace IntegerWidth

/-- Bits of an integer, the sign included. -/
def bits : IntegerWidth → Nat
  | byte => 8
  | short => 16
  | int => 32
  | long => 64

/-- The smallest integer of the width. -/
def least (w : IntegerWidth) : Int := -(Nat.pow 2 (w.bits - 1) : Int)

/-- The largest integer of the width. -/
def greatest (w : IntegerWidth) : Int := (Nat.pow 2 (w.bits - 1) : Int) - 1

/-- The integer lies in the range of the width. -/
def Contains (w : IntegerWidth) (n : Int) : Prop := w.least ≤ n ∧ n ≤ w.greatest

instance (w : IntegerWidth) (n : Int) : Decidable (w.Contains n) :=
  inferInstanceAs (Decidable (_ ∧ _))

end IntegerWidth

/-- An integer in the range of a width. -/
structure FixedInt (w : IntegerWidth) where
  value : Int
  fits : w.Contains value
deriving DecidableEq, Repr

namespace FixedInt

/-- The integer as one of the width, if it is in range. -/
def ofInt? (w : IntegerWidth) (n : Int) : Option (FixedInt w) :=
  if h : w.Contains n then some ⟨n, h⟩ else none

@[ext] theorem ext {w : IntegerWidth} {a b : FixedInt w} (h : a.value = b.value) : a = b := by
  cases a; cases b; cases h; rfl

theorem ofInt?_eq_some_iff {w : IntegerWidth} {n : Int} {x : FixedInt w} :
    ofInt? w n = some x ↔ n = x.value := by
  unfold ofInt?
  split
  · simp only [Option.some.injEq]
    exact ⟨fun h => h ▸ rfl, fun h => FixedInt.ext h⟩
  · next h => exact ⟨nofun, fun e => absurd (e ▸ x.fits) h⟩

theorem ofInt?_eq_none_iff {w : IntegerWidth} {n : Int} : ofInt? w n = none ↔ ¬ w.Contains n := by
  unfold ofInt?
  split <;> simp_all

end FixedInt

/-- The kinds of unboxed primitives. -/
inductive PrimitiveKind where
  | boolean
  | char
  | integer (width : IntegerWidth)
  | floating (width : FloatWidth)
deriving DecidableEq, Repr

namespace PrimitiveKind

/-- Every kind, from the narrowest to the widest. -/
def all : List PrimitiveKind :=
  [boolean, char, integer .byte, integer .short, integer .int, integer .long, floating .single,
    floating .double]

/-- Elements of the kind. -/
abbrev Carrier : PrimitiveKind → Type
  | boolean => Bool
  | char => Char
  | integer w => FixedInt w
  | floating w => Binary w

instance instDecidableEqCarrier : (k : PrimitiveKind) → DecidableEq k.Carrier
  | boolean => inferInstanceAs (DecidableEq Bool)
  | char => inferInstanceAs (DecidableEq Char)
  | integer w => inferInstanceAs (DecidableEq (FixedInt w))
  | floating w => inferInstanceAs (DecidableEq (Binary w))

/-- The unboxed spelling. -/
def name : PrimitiveKind → String
  | boolean => "boolean"
  | char => "char"
  | integer .byte => "byte"
  | integer .short => "short"
  | integer .int => "int"
  | integer .long => "long"
  | floating .single => "float"
  | floating .double => "double"

/-- The boxed spelling. -/
def boxedName : PrimitiveKind → String
  | boolean => "Boolean"
  | char => "Character"
  | integer .byte => "Byte"
  | integer .short => "Short"
  | integer .int => "Integer"
  | integer .long => "Long"
  | floating .single => "Float"
  | floating .double => "Double"

/-- The kind of an unboxed spelling. -/
def ofName? (s : String) : Option PrimitiveKind := all.find? (·.name == s)

/-- The kind of a boxed spelling. -/
def ofBoxedName? (s : String) : Option PrimitiveKind := all.find? (·.boxedName == s)

/-- The kind is one of integers. -/
def isIntegral : PrimitiveKind → Bool
  | integer _ => true
  | _ => false

/-- The kind is one of floating point numbers. -/
def isFloating : PrimitiveKind → Bool
  | floating _ => true
  | _ => false

theorem ofName?_name (k : PrimitiveKind) : ofName? k.name = some k := by
  rcases k with _ | _ | w | w <;> (try cases w) <;> decide +kernel

theorem ofBoxedName?_boxedName (k : PrimitiveKind) : ofBoxedName? k.boxedName = some k := by
  rcases k with _ | _ | w | w <;> (try cases w) <;> decide +kernel

end PrimitiveKind

/-- The form in which the application holds a single value. -/
inductive HostType where
  /-- An unboxed primitive, never null. -/
  | primitive (kind : PrimitiveKind)
  /-- A boxed primitive. -/
  | boxed (kind : PrimitiveKind)
  | string
  /-- A decimal of any precision, held as its text. -/
  | decimal
  /-- A variant of the named enumeration. -/
  | enumeration (name : String)
deriving DecidableEq, Repr

namespace HostType

/-- The representation is unboxed. -/
def isPrimitive : HostType → Bool
  | primitive _ => true
  | _ => false

/-- The kind of a primitive, boxed or not. -/
def kind? : HostType → Option PrimitiveKind
  | primitive k => some k
  | boxed k => some k
  | _ => none

/-- The counterpart that may be null. -/
def toBoxed : HostType → HostType
  | primitive k => boxed k
  | other => other

/-- The name shown in messages. -/
def name : HostType → String
  | primitive k => k.name
  | boxed k => k.boxedName
  | string => "String"
  | decimal => "BigDecimal"
  | enumeration name => name

end HostType

end SqlDialects
