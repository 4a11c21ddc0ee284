import SqlDialects.Marshal.Array

/-!
# The registry of basic types

Basic types by name, each with one array marshaller that is made on first use and shared from then
on. Replacing a basic type forgets its marshaller, so that the next request makes a new one.
-/

namespace SqlDialects

/-- An array marshaller with the number under which it was made; equal numbers mean the very same
marshaller. -/
structure SharedMarshaller where
  number : Nat
  marshaller : ArrayMarshaller

/-- Basic types and the array marshallers made for them. -/
structure TypeRegistry where
  types : List (String × BasicType)
  arrays : List (String × SharedMarshaller)
  /-- Number of array marshallers made so far. -/
  made : Nat
  /-- Recommended representations of array elements. -/
  recommended : RepresentationMap

namespace TypeRegistry

/-- The registry without any type. -/
def empty (recommended : RepresentationMap) : TypeRegistry := ⟨[], [], 0, recommended⟩

/-- The basic type of a name. -/
def get? (r : TypeRegistry) (name : String) : Option BasicType := r.types.lookup name

/-- Registers a basic type; one of the same name is replaced together with its marshaller. -/
def register (r : TypeRegistry) (b : BasicType) : TypeRegistry :=
  { r with
    types := (b.name, b) :: r.types.filter (·.1 != b.name)
    arrays := if (r.get? b.name).isSome then r.arrays.filter (·.1 != b.name) else r.arrays }

/-- The basic type of a name, which has to be registered. -/
def resolve (r : TypeRegistry) (name : String) : Except MarshalError BasicType :=
  match r.get? name with
  | some b => .ok b
  | none => .error (.unknownBasicType name)

/-- The shared marshaller of arrays of the named type, made on first use. -/
def arrayOf (r : TypeRegistry) (name : String) : Except MarshalError (SharedMarshaller × TypeRegistry) :=
  match r.arrays.lookup name with
  | some shared => .ok (shared, r)
  | none => do
    let b ← r.resolve name
    let shared : SharedMarshaller := ⟨r.made, ⟨b⟩⟩
    .ok (shared, { r with arrays := (name, shared) :: r.arrays, made := r.made + 1 })

/-- The marshaller of arrays of the named type. -/
def marshaller (r : TypeRegistry) (name : String) : Except MarshalError ArrayMarshaller :=
  (r.arrayOf name).map (·.1.marshaller)

/-- The names, codes and kinds of the built-in primitive types. -/
def primitiveTypes : List (String × TypeCode × PrimitiveKind) := [
  ("boolean", .boolean, .boolean), ("character", .char, .char),
  ("byte", .tinyInt, .integer .byte), ("short", .smallInt, .integer .short),
  ("integer", .integer, .integer .int), ("long", .bigInt, .integer .long),
  ("float", .real, .floating .single), ("double", .double, .floating .double)]

/-- The registry of the built-in types: boxed primitives, their unboxed twins, texts and decimals. -/
def standard : TypeRegistry :=
  let primitives := primitiveTypes.foldl (fun r (name, code, kind) =>
    (r.register (.plain name (.ofCode code) (.boxed kind))).register
      (.plain ("primitive_" ++ kind.name) (.ofCode code) (.primitive kind)))
    (empty .standard)
  (primitives.register (.plain "string" (.ofCode .varchar) .string)).register
    (.plain "big_decimal" (.ofCode .numeric) .decimal)

theorem get?_register (r : TypeRegistry) (b : BasicType) : (r.register b).get? b.name = some b := by
  simp [register, get?]

end TypeRegistry

end SqlDialects
