import SqlDialects.Type.Descriptor
import SqlDialects.Value.Diagnostic

/-!
# Parameters

Where the value of each placeholder comes from, and the values that are bound to names.
-/

namespace SqlDialects

/-- Where the value of a placeholder comes from. -/
inductive ParameterSource where
  /-- The value bound to a name. -/
  | named (name : String)
  /-- An element of the value bound to a name. -/
  | element (name : String) (index : Nat)
  /-- A value that is part of the statement. -/
  | fixed (value : Value)
  /-- The array of the values of several sources. -/
  | elements (sources : List ParameterSource)

mutual

/-- A source in diagnostics. -/
def ParameterSource.diagnostic : ParameterSource → String
  | .named name => "Named(" ++ Text.diagnosticText name ++ ")"
  | .element name index =>
    "Element \x7b name: " ++ Text.diagnosticText name ++ ", index: " ++ toString index ++ " \x7d"
  | .fixed value => "Fixed(" ++ value.diagnostic ++ ")"
  | .elements sources => "Elements(" ++ Value.bracketed (sourceDiagnostics sources) ++ ")"

/-- Sources in diagnostics, one by one. -/
def sourceDiagnostics : List ParameterSource → List String
  | [] => []
  | source :: sources => source.diagnostic :: sourceDiagnostics sources

end

/-- A placeholder: where its value comes from, and the type it is bound with. -/
structure Parameter where
  source : ParameterSource
  type : ResolvedType

/-- Values bound to names. -/
abbrev Bindings := List (String × Value)

namespace Bindings

/-- No values. -/
def empty : Bindings := []

/-- Binds a value to a name; an earlier value gives way. -/
def bind (b : Bindings) (name : String) (value : Value) : Bindings :=
  (name, value) :: b.filter (·.1 != name)

/-- The value bound to a name. -/
def get? (b : Bindings) (name : String) : Option Value := b.lookup name

theorem get?_bind (b : Bindings) (name : String) (value : Value) :
    (b.bind name value).get? name = some value := by
  simp [bind, get?]

end Bindings

/-- Number of elements that a bound value contributes to a list; a single value is one element. -/
def Value.boundLength (v : Value) : Nat :=
  match v.elements? with
  | some vs => vs.length
  | none => 1

end SqlDialects
