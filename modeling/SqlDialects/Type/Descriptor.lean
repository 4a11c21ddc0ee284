import SqlDialects.Type.Code

/-!
# Type descriptors and resolved types

A descriptor says how a value travels over the driver; one with an element descriptor is bound as an
array whatever its code. A resolved type names the basic type that converts the values.
-/

namespace SqlDialects

/-- How a value travels over the driver. -/
inductive TypeDescriptor where
  /-- A type of single values, with a length for character types. -/
  | scalar (code : TypeCode) (length : Option UInt32)
  /-- A type of arrays of the given elements. -/
  | arrayLike (code : TypeCode) (length : Option UInt32) (element : TypeDescriptor)
deriving DecidableEq, Repr

namespace TypeDescriptor

/-- The reported type code. -/
def code : TypeDescriptor → TypeCode
  | scalar code _ => code
  | arrayLike code _ _ => code

/-- The declared length. -/
def length : TypeDescriptor → Option UInt32
  | scalar _ length => length
  | arrayLike _ length _ => length

/-- The descriptor of the elements. -/
def element? : TypeDescriptor → Option TypeDescriptor
  | scalar _ _ => none
  | arrayLike _ _ element => some element

/-- The descriptor with a code and nothing else. -/
def ofCode (code : TypeCode) : TypeDescriptor := scalar code none

/-- The native array of the given elements. -/
def arrayOf (element : TypeDescriptor) : TypeDescriptor := arrayLike .array none element

/-- The same descriptor with a length. -/
def withLength (length : UInt32) : TypeDescriptor → TypeDescriptor
  | scalar code _ => scalar code (some length)
  | arrayLike code _ element => arrayLike code (some length) element

/-- The reported code is that of arrays. -/
def hasArrayCode (d : TypeDescriptor) : Bool := d.code == .array

/-- Values are bound as arrays, whatever the reported code. -/
def isArrayCapable (d : TypeDescriptor) : Bool := d.element?.isSome

end TypeDescriptor

/-- The type of an expression: the name of a basic type and its descriptor. -/
structure ResolvedType where
  name : String
  descriptor : TypeDescriptor
deriving DecidableEq, Repr

namespace ResolvedType

/-- A type of single values with the given code. -/
def basic (name : String) (code : TypeCode) : ResolvedType := ⟨name, .ofCode code⟩

/-- Booleans. -/
def boolean : ResolvedType := basic "boolean" .boolean

/-- Integers of sixteen bits. -/
def short : ResolvedType := basic "short" .smallInt

/-- Integers of thirty-two bits. -/
def integer : ResolvedType := basic "integer" .integer

/-- Integers of sixty-four bits. -/
def long : ResolvedType := basic "long" .bigInt

/-- Floating point numbers of sixty-four bits. -/
def double : ResolvedType := basic "double" .double

/-- Texts of any length. -/
def string : ResolvedType := basic "string" .varchar

/-- The type of arrays of a type. -/
def arrayOf (element : ResolvedType) : ResolvedType :=
  ⟨element.name ++ "[]", .arrayOf element.descriptor⟩

/-- The name of the basic type of the elements, if the name is that of an array type. -/
def elementName? (t : ResolvedType) : Option String :=
  match t.name.toList.reverse with
  | ']' :: '[' :: rest => some (String.ofList rest.reverse)
  | _ => none

theorem elementName?_arrayOf (t : ResolvedType) : (arrayOf t).elementName? = some t.name := by
  simp [arrayOf, elementName?]

end ResolvedType

end SqlDialects
