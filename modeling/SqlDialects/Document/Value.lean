import SqlDialects.Document.Type
import SqlDialects.Json.Reader
import SqlDialects.Render.Binding

/-!
# Values and operations in documents

The written form of values, parameters, operations and bindings. How floating point numbers are
written is left to the caller; in documents they are numbers. A `ValueForm` says so for reading, and
what else differs between values in documents and values on their own.
-/

namespace SqlDialects

/-- A reader of floating point numbers of either width. -/
abbrev FloatDecoder := (w : FloatWidth) → Decoder (Binary w)

/-- A writer of floating point numbers of either width. -/
abbrev FloatEncoder := (w : FloatWidth) → Binary w → Json

/-- Reads a number: the nearest one of the width to an integer, and to the double nearest to any other
number. -/
def Decoder.number : FloatDecoder
  | w, .integer n => some (Binary.ofInt n : Binary w)
  | .double, .float .double x => some x
  | w, .float _ x => some (x.convert w)
  | .double, .decimal negative d => some (Binary.ofDecimal negative d.digits d.exponent)
  | w, .decimal negative d =>
    some ((Binary.ofDecimal negative d.digits d.exponent : Binary64).convert w)
  | _, _ => none

/-- Reads a number: the nearest one of the width, which has to be finite, to what is written. -/
def Decoder.writtenNumber : FloatDecoder
  | w, .decimal negative d =>
    let x : Binary w := Binary.ofDecimal negative d.digits d.exponent
    if x.isFinite then some x else none
  | w, j => Decoder.number w j

/-- What is left open when values are read. -/
structure ValueForm where
  float : FloatDecoder
  /-- Reads a record with members of the given names. -/
  record : List String → Decoder Members
  /-- Reads the contents of a choice with members of the given names. -/
  contents : List String → Decoder Members

namespace ValueForm

/-- Values in documents. -/
def ofSource (source : DocumentSource) : ValueForm where
  float := match source with
    | .text => Decoder.writtenNumber
    | .memory => Decoder.number
  record := Decoder.record
  contents := fun names => Decoder.contents names source

/-- Values on their own, all of whose members have names. -/
def named (float : FloatDecoder) : ValueForm :=
  ⟨float, fun _ => Decoder.members, fun _ => Decoder.members⟩

end ValueForm

namespace PrimitiveKind

/-- Reads an element of a kind. -/
def elementOfJson (float : FloatDecoder) : (k : PrimitiveKind) → Decoder k.Carrier
  | boolean => Decoder.bool
  | char => Decoder.char
  | integer w => fun j => (Decoder.integerBetween w.least w.greatest j).bind (FixedInt.ofInt? w)
  | floating w => float w

/-- Writes an element of a kind. -/
def elementToJson (float : FloatEncoder) : (k : PrimitiveKind) → k.Carrier → Json
  | boolean, b => .bool b
  | char, c => .string (String.singleton c)
  | integer _, n => .integer n.value
  | floating w, x => float w x

end PrimitiveKind

namespace Value

/-- Reads an array of unboxed elements, named by its kind. -/
def primitiveArrayOfJson (float : FloatDecoder) : Decoder Value := fun j => do
  let (name, items) ← Decoder.choice j
  let k ← PrimitiveKind.ofName? name
  let elements ← Decoder.list (k.elementOfJson float) items
  some (.primitiveArray k elements)

/-- Reads a value nested no deeper than the given depth. -/
def ofJsonWithin (form : ValueForm) : Nat → Decoder Value
  | 0, _ => none
  | depth + 1, j =>
    match Decoder.oneOf [("null", null)] j with
    | some v => some v
    | none => do
      let (tag, content) ← Decoder.choice j
      match tag with
      | "string" => (Decoder.string content).map string
      | "decimal" => (Decoder.string content).map decimal
      | "enum" => do
        let ms ← form.contents ["type_name", "variant"] content
        let typeName ← Members.required ms "type_name" Decoder.string
        let variant ← Members.required ms "variant" Decoder.string
        some (enumeration typeName variant)
      | "primitive_array" => primitiveArrayOfJson form.float content
      | "reference_array" => do
        let ms ← form.record ["element", "values"] content
        let element ← Members.required ms "element" HostType.ofJson
        let values ← Members.required ms "values" (Decoder.list (ofJsonWithin form depth))
        some (referenceArray element values)
      | "collection" => (Decoder.list (ofJsonWithin form depth) content).map collection
      | kind => do
        let k ← PrimitiveKind.ofName? kind
        let x ← k.elementOfJson form.float content
        some (scalar k x)

/-- Reads a value. -/
def ofJson (form : ValueForm) : Decoder Value := fun j => ofJsonWithin form (j.depth + 1) j

mutual

/-- Writes a value. -/
def toJson (float : FloatEncoder) : Value → Json
  | null => .string "null"
  | scalar k x => .object [(k.name, k.elementToJson float x)]
  | string s => .object [("string", .string s)]
  | decimal s => .object [("decimal", .string s)]
  | enumeration typeName variant =>
    .object [("enum", .object [("type_name", .string typeName), ("variant", .string variant)])]
  | primitiveArray k xs =>
    .object [("primitive_array", .object [(k.name, .array (xs.map (k.elementToJson float)))])]
  | referenceArray element vs =>
    .object [("reference_array",
      .object [("element", element.toJson), ("values", .array (toJsons float vs))])]
  | collection vs => .object [("collection", .array (toJsons float vs))]

/-- Writes values, one by one. -/
def toJsons (float : FloatEncoder) : List Value → List Json
  | [] => []
  | v :: vs => v.toJson float :: toJsons float vs

end

end Value

namespace ParameterSource

mutual

/-- Writes a source. -/
def toJson (float : FloatEncoder) : ParameterSource → Json
  | named name => .object [("named", .string name)]
  | element name index =>
    .object [("element", .object [("name", .string name), ("index", .integer index)])]
  | fixed value => .object [("fixed", value.toJson float)]
  | elements sources => .object [("elements", .array (toJsons float sources))]

/-- Writes sources, one by one. -/
def toJsons (float : FloatEncoder) : List ParameterSource → List Json
  | [] => []
  | source :: sources => source.toJson float :: toJsons float sources

end

/-- Reads a source nested no deeper than the given depth. -/
def ofJsonWithin (float : FloatDecoder) : Nat → Decoder ParameterSource
  | 0, _ => none
  | depth + 1, j => do
    let (tag, content) ← Decoder.choice j
    match tag with
    | "named" => (Decoder.string content).map named
    | "element" => do
      let ms ← Decoder.members content
      let name ← Members.required ms "name" Decoder.string
      let index ← Members.required ms "index" (Decoder.integerBetween 0 ((Nat.pow 2 64 : Int) - 1))
      some (element name index.toNat)
    | "fixed" => (Value.ofJson (.named float) content).map fixed
    | "elements" => (Decoder.list (ofJsonWithin float depth) content).map elements
    | _ => none

/-- Reads a source. -/
def ofJson (float : FloatDecoder) : Decoder ParameterSource := fun j =>
  ofJsonWithin float (j.depth + 1) j

end ParameterSource

namespace Parameter

/-- Writes a parameter. -/
def toJson (float : FloatEncoder) (p : Parameter) : Json :=
  .object [("source", p.source.toJson float), ("mapping", p.type.toJson)]

/-- Reads a parameter. -/
def ofJson (float : FloatDecoder) : Decoder Parameter := fun j => do
  let ms ← Decoder.members j
  let source ← Members.required ms "source" (ParameterSource.ofJson float)
  let type ← Members.required ms "mapping" ResolvedType.ofJson
  some ⟨source, type⟩

end Parameter

/-- Writes an operation. -/
def Operation.toJson (float : FloatEncoder) (op : Operation) : Json :=
  .object [("sql", .string op.sql), ("parameters", .array (op.parameters.map (·.toJson float)))]

/-- Reads bindings; of equal names the last one counts. -/
def Bindings.ofJson (form : ValueForm) : Decoder Bindings := fun j => do
  let ms ← Decoder.members j
  ms.foldlM (fun b (name, j) => do
    let v ← Value.ofJson form j
    some (b.bind name v)) Bindings.empty

/-- The bindings that a text holds. -/
def Bindings.ofText? (text : String) : Option Bindings :=
  (Json.ofString? text).bind (Bindings.ofJson (.ofSource .text))

end SqlDialects
