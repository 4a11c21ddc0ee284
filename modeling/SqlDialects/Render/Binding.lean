import SqlDialects.Render.Translate

/-!
# Binding parameters

The values of the placeholders of an operation, in order, each in the form that the driver binds.
-/

namespace SqlDialects

/-- A value ready for the driver. -/
structure BoundValue where
  /-- The position of the placeholder, from one on. -/
  position : Nat
  value : Value
  descriptor : TypeDescriptor

/-- The element of a bound value at an index; a single value is its own first element. -/
def Value.boundElement? (v : Value) (index : Nat) : Option Value :=
  match v.elements? with
  | some vs => vs[index]?
  | none => if index = 0 then some v else none

mutual

/-- The value of a source under some bindings. -/
def ParameterSource.resolve (b : Bindings) : ParameterSource → Except TranslationError Value
  | .named name =>
    match b.get? name with
    | some v => .ok v
    | none => .error (.missingBinding name)
  | .element name index =>
    match b.get? name with
    | none => .error (.missingBinding name)
    | some v =>
      match v.boundElement? index with
      | some element => .ok element
      | none => .error (.missingBinding (name ++ "[" ++ toString index ++ "]"))
  | .fixed value => .ok value
  | .elements sources =>
    match resolveAll b sources with
    | .ok values => .ok (.collection values)
    | .error e => .error e

/-- The values of several sources, or the first failure. -/
def resolveAll (b : Bindings) : List ParameterSource → Except TranslationError (List Value)
  | [] => .ok []
  | source :: sources =>
    match source.resolve b with
    | .error e => .error e
    | .ok value =>
      match resolveAll b sources with
      | .ok values => .ok (value :: values)
      | .error e => .error e

end

namespace Parameter

/-- A value in the form that the driver binds for the type of the parameter: arrays go through the
marshaller of their elements, single values through their basic type if it is registered. -/
def toDriver (types : TypeRegistry) (preferred : RepresentationMap) (p : Parameter) (v : Value) :
    Traced Value :=
  match p.type.descriptor.isArrayCapable, p.type.elementName? with
  | true, some name => do
    let m ← types.marshaller name
    let array ← m.consume v
    m.bind types.recommended preferred array
  | _, _ =>
    match types.get? p.type.name with
    | some b => b.toRelational v
    | none => pure v

/-- The value bound to a parameter at a position. -/
def bound (b : Bindings) (types : TypeRegistry) (preferred : RepresentationMap) (position : Nat)
    (p : Parameter) : Except TranslationError BoundValue :=
  match p.source.resolve b with
  | .error e => .error e
  | .ok v =>
    match (p.toDriver types preferred v).result with
    | .error e => .error (.marshal e)
    | .ok value => .ok ⟨position, value, p.type.descriptor⟩

/-- The values bound to parameters, the first of which has the given position. -/
def boundFrom (b : Bindings) (types : TypeRegistry) (preferred : RepresentationMap) :
    Nat → List Parameter → Except TranslationError (List BoundValue)
  | _, [] => .ok []
  | position, p :: ps => do
    let value ← p.bound b types preferred position
    let values ← boundFrom b types preferred (position + 1) ps
    .ok (value :: values)

end Parameter

/-- The values of all placeholders of an operation. -/
def Operation.bindValues (op : Operation) (b : Bindings) (types : TypeRegistry)
    (preferred : RepresentationMap) : Except TranslationError (List BoundValue) :=
  Parameter.boundFrom b types preferred 1 op.parameters

end SqlDialects
