import SqlDialects.Marshal.Error

/-!
# Representations of array elements

Which representation the elements of an array are bound with: the driver's preference for the type
code where it has one, and otherwise the recommended one.
-/

namespace SqlDialects

/-- A choice of representations for type codes. -/
abbrev RepresentationMap := List (TypeCode × HostType)

namespace RepresentationMap

/-- The representation chosen for a code. -/
def get? (m : RepresentationMap) (code : TypeCode) : Option HostType := m.lookup code

/-- The choice in which a code has the given representation. -/
def insert (m : RepresentationMap) (code : TypeCode) (t : HostType) : RepresentationMap :=
  (code, t) :: m.filter (·.1 != code)

/-- The recommended representations. -/
def standard : RepresentationMap := [
  (.boolean, .boxed .boolean), (.tinyInt, .boxed (.integer .byte)),
  (.smallInt, .boxed (.integer .short)), (.integer, .boxed (.integer .int)),
  (.bigInt, .boxed (.integer .long)), (.real, .boxed (.floating .single)),
  (.double, .boxed (.floating .double)), (.numeric, .decimal), (.char, .string),
  (.varchar, .string), (.date, .string), (.timestamp, .string)]

/-- The representation for a code: the preferred one, or else the recommended one. -/
def elementType (recommended preferred : RepresentationMap) (code : TypeCode) :
    Except MarshalError HostType :=
  match preferred.get? code <|> recommended.get? code with
  | some t => .ok t
  | none => .error (.unknownTypeCode code)

theorem get?_insert (m : RepresentationMap) (code : TypeCode) (t : HostType) :
    (m.insert code t).get? code = some t := by
  simp [insert, get?]

end RepresentationMap

end SqlDialects
