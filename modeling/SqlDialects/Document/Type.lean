import SqlDialects.Document.Decoder
import SqlDialects.Type.Descriptor
import SqlDialects.Type.Host

/-!
# Types in documents

The written form of type codes, descriptors, resolved types and representations.
-/

namespace SqlDialects

namespace TypeCode

/-- Reads a type code. -/
def ofJson : Decoder TypeCode := fun j => (Decoder.tag j).bind ofTag?

/-- Writes a type code. -/
def toJson (c : TypeCode) : Json := .string c.tag

end TypeCode

namespace TypeDescriptor

/-- Reads a descriptor nested no deeper than the given depth. -/
def ofJsonWithin : Nat → Decoder TypeDescriptor
  | 0, _ => none
  | depth + 1, j => do
    let ms ← Decoder.record ["code", "element", "length"] j
    let code ← Members.required ms "code" TypeCode.ofJson
    let element? ← Members.optional ms "element" (ofJsonWithin depth)
    let length ← Members.optional ms "length" Decoder.word32
    some (match element? with
      | some element => arrayLike code length element
      | none => scalar code length)

/-- Reads a descriptor. -/
def ofJson : Decoder TypeDescriptor := fun j => ofJsonWithin (j.depth + 1) j

/-- The member for a length, absent if there is none. -/
def lengthMember : Option UInt32 → List (String × Json)
  | some n => [("length", .integer n.toNat)]
  | none => []

/-- Writes a descriptor; parts that it does not have are left out. -/
def toJson : TypeDescriptor → Json
  | scalar code length => .object (("code", code.toJson) :: lengthMember length)
  | arrayLike code length element =>
    .object (("code", code.toJson) :: ("element", element.toJson) :: lengthMember length)

end TypeDescriptor

namespace ResolvedType

/-- Reads a resolved type. -/
def ofJson : Decoder ResolvedType := fun j => do
  let ms ← Decoder.record ["type_name", "jdbc_type"] j
  let name ← Members.required ms "type_name" Decoder.string
  let descriptor ← Members.required ms "jdbc_type" TypeDescriptor.ofJson
  some ⟨name, descriptor⟩

/-- Writes a resolved type. -/
def toJson (t : ResolvedType) : Json :=
  .object [("type_name", .string t.name), ("jdbc_type", t.descriptor.toJson)]

end ResolvedType

namespace PrimitiveKind

/-- Reads a kind by its unboxed spelling. -/
def ofJson : Decoder PrimitiveKind := fun j => (Decoder.tag j).bind ofName?

/-- Writes a kind by its unboxed spelling. -/
def toJson (k : PrimitiveKind) : Json := .string k.name

end PrimitiveKind

namespace HostType

/-- Reads a representation. -/
def ofJson : Decoder HostType := fun j =>
  match Decoder.oneOf [("string", string), ("decimal", decimal)] j with
  | some t => some t
  | none => do
    let (tag, content) ← Decoder.choice j
    match tag with
    | "primitive" => (PrimitiveKind.ofJson content).map primitive
    | "boxed" => (PrimitiveKind.ofJson content).map boxed
    | "enum" => (Decoder.string content).map enumeration
    | _ => none

/-- Writes a representation. -/
def toJson : HostType → Json
  | primitive k => .object [("primitive", k.toJson)]
  | boxed k => .object [("boxed", k.toJson)]
  | string => .string "string"
  | decimal => .string "decimal"
  | enumeration name => .object [("enum", .string name)]

end HostType

end SqlDialects
