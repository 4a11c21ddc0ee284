import SqlDialects.Marshal.BasicType
import SqlDialects.Marshal.Representation

/-!
# Array marshalling

An array marshaller moves whole arrays of one basic type. `consume` brings any array or collection to
the declared representation of the elements, `bind` converts it for the driver, `extract` converts
what the driver returned, and `literalText` writes it into SQL text.
-/

namespace SqlDialects

/-- The marshaller of arrays of a basic type. -/
structure ArrayMarshaller where
  element : BasicType

namespace ArrayMarshaller

/-- The name of the array type. -/
def name (m : ArrayMarshaller) : String := m.element.name ++ "[]"

/-- The representation of the elements. -/
def component (m : ArrayMarshaller) : HostType := m.element.hostType

/-- The descriptor of the array type. -/
def descriptor (m : ArrayMarshaller) : TypeDescriptor := .arrayOf m.element.descriptor

/-- The array type as that of an expression. -/
def resolvedType (m : ArrayMarshaller) : ResolvedType := ⟨m.name, m.descriptor⟩

/-- An element without its box; null has no such form. -/
def unbox (k : PrimitiveKind) (v : Value) : Except MarshalError k.Carrier :=
  if v.isNull then .error (.elementMismatch k.name "null") else do
  let coerced ← v.coerce (.primitive k)
  match coerced with
  | .scalar l x => if h : l = k then .ok (h ▸ x) else .error (coerced.mismatch k.name)
  | other => .error (other.mismatch k.name)

/-- An array of unboxed elements. -/
def toPrimitiveArray (k : PrimitiveKind) (vs : List Value) : Except MarshalError Value := do
  let xs ← vs.mapM (unbox k)
  .ok (.primitiveArray k xs)

/-- An array of elements coerced to a representation. -/
def toReferenceArray (component : HostType) (vs : List Value) : Except MarshalError Value := do
  let coerced ← vs.mapM (·.coerce component)
  .ok (.referenceArray component coerced)

/-- An array of elements that are in the given representation already. -/
def assemble (component : HostType) (vs : List Value) : Except MarshalError Value :=
  match component with
  | .primitive k => toPrimitiveArray k vs
  | component => .ok (.referenceArray component vs)

/-- An array of elements brought to the given representation. -/
def normalize (component : HostType) (vs : List Value) : Except MarshalError Value :=
  match component with
  | .primitive k => toPrimitiveArray k vs
  | component => toReferenceArray component vs

/-- The value is an array in the given representation, not a collection. -/
def hasElements (target : HostType) : Value → Bool
  | .primitiveArray k _ => HostType.primitive k == target
  | .referenceArray element _ => element == target && !target.isPrimitive
  | _ => false

/-- Brings an array or a collection to the declared representation of the elements. -/
def consume (m : ArrayMarshaller) (v : Value) : Except MarshalError Value :=
  match v with
  | .null => .ok .null
  | v =>
    if hasElements m.component v then .ok v
    else match v.elements? with
      | some vs => normalize m.component vs
      | none => .error (.unknownType v.typeName)

/-- Converts the elements of an array for the driver, unless they have the form that it prefers. -/
def bind (m : ArrayMarshaller) (recommended preferred : RepresentationMap) (v : Value) :
    Traced Value :=
  match m.element.converter? with
  | none => pure v
  | some c => do
    let target ← RepresentationMap.elementType recommended preferred m.element.descriptor.code
    match v with
    | .null => pure .null
    | .primitiveArray k xs =>
      if HostType.primitive k = target then pure v
      else convertAll c target (xs.map (Value.scalar k))
    | .referenceArray element vs =>
      if element = target then pure v else convertAll c target vs
    | other => Traced.ofExcept (.error (.unknownType other.typeName))
where
  /-- Converts elements one by one, in order, and assembles the results. -/
  convertAll (c : Converter) (target : HostType) (vs : List Value) : Traced Value := do
    let converted ← vs.mapM fun v => do
      let relational ← c.call .toRelational v
      relational.coerce target
    assemble target converted

/-- Converts an array of the driver to the form that the application holds. -/
def extract (m : ArrayMarshaller) (v : Value) : Traced Value :=
  match m.element.converter? with
  | none => pure v
  | some c =>
    match v with
    | .null => pure .null
    | .primitiveArray k xs =>
      if HostType.primitive k = c.domain then pure v else convertAll c (xs.map (Value.scalar k))
    | .referenceArray element vs =>
      if element = c.domain then pure v else convertAll c vs
    | .collection vs => convertAll c vs
    | other => Traced.ofExcept (.error (.unknownType other.typeName))
where
  /-- Converts elements one by one, in order, and assembles the results. -/
  convertAll (c : Converter) (vs : List Value) : Traced Value := do
    let converted ← vs.mapM (c.call .toDomain)
    assemble c.domain converted

/-- Writes an array or a collection into SQL text. -/
def literalText (m : ArrayMarshaller) (d : Dialect) (v : Value) : Traced String :=
  match v with
  | .null => pure Dialect.nullText
  | v =>
    match v.elements? with
    | some vs => do
      let texts ← vs.mapM (m.element.literalText d)
      pure (Dialect.arrayText texts)
    | none => Traced.ofExcept (.error (.unknownType v.typeName))

end ArrayMarshaller

end SqlDialects
