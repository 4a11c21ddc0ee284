import SqlDialects.Type.Host
import SqlDialects.Number.Notation

/-!
# Host values

Values that the application exchanges with the database layer: single values, arrays of unboxed
elements, arrays of boxed elements that may be null, and ordered collections.
-/

namespace SqlDialects

/-- A value on the application's side. -/
inductive Value where
  | null
  /-- A single value of a primitive kind. -/
  | scalar (kind : PrimitiveKind) (x : kind.Carrier)
  | string (text : String)
  /-- A decimal, as its text. -/
  | decimal (text : String)
  | enumeration (typeName : String) (variant : String)
  /-- An array whose elements are never null. -/
  | primitiveArray (kind : PrimitiveKind) (elements : List kind.Carrier)
  /-- An array of elements in the given representation, each of which may be null. -/
  | referenceArray (element : HostType) (values : List Value)
  /-- An ordered collection of any values. -/
  | collection (values : List Value)
deriving Inhabited

namespace Value

/-- A boolean. -/
abbrev boolean (b : Bool) : Value := scalar .boolean b

/-- A character. -/
abbrev char (c : Char) : Value := scalar .char c

/-- An integer of the given width. -/
abbrev integer (w : IntegerWidth) (n : FixedInt w) : Value := scalar (.integer w) n

/-- A floating point number of the given width. -/
abbrev floating (w : FloatWidth) (x : Binary w) : Value := scalar (.floating w) x

/-- The value is null. -/
def isNull : Value → Bool
  | null => true
  | _ => false

/-- The value is an array or a collection. -/
def isPlural : Value → Bool
  | primitiveArray _ _ => true
  | referenceArray _ _ => true
  | collection _ => true
  | _ => false

/-- The elements of an array or a collection, unboxed ones boxed. -/
def elements? : Value → Option (List Value)
  | primitiveArray k xs => some (xs.map (scalar k))
  | referenceArray _ vs => some vs
  | collection vs => some vs
  | _ => none

/-- The name of the value's type, shown in messages. -/
def typeName : Value → String
  | null => "null"
  | scalar k _ => k.boxedName
  | string _ => "String"
  | decimal _ => "BigDecimal"
  | enumeration typeName _ => typeName
  | primitiveArray k _ => k.name ++ "[]"
  | referenceArray element _ => element.name ++ "[]"
  | collection _ => "Collection"

/-- The kind of a single primitive. -/
def kind? : Value → Option PrimitiveKind
  | scalar k _ => some k
  | _ => none

/-- The representation of a single value, a boxed one for primitives. -/
def hostType? : Value → Option HostType
  | scalar k _ => some (.boxed k)
  | string _ => some .string
  | decimal _ => some .decimal
  | enumeration typeName _ => some (.enumeration typeName)
  | _ => none

/-- The integer that a value of an integral kind holds. -/
def integer? : Value → Option Int
  | scalar (.integer _) n => some n.value
  | _ => none

end Value

end SqlDialects
