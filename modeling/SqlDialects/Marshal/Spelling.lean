import SqlDialects.Marshal.Error
import SqlDialects.Text.Blank

/-!
# Spellings of representations

Representations as settings spell them: unboxed kinds in lower case, boxed kinds by their boxed
names, texts and decimals in two ways each, and enumerations behind a mark.
-/

namespace SqlDialects

/-- The kind of an unboxed spelling. -/
def PrimitiveKind.ofSpelling (s : String) : Except MarshalError PrimitiveKind :=
  match ofName? s with
  | some k => .ok k
  | none => .error (.unrecognizedPrimitive s)

namespace HostType

/-- The name behind the mark of enumerations. -/
def enumerationName? (s : String) : Option String :=
  match s.toList with
  | 'e' :: 'n' :: 'u' :: 'm' :: ':' :: name => some (String.ofList name)
  | _ => none

/-- The text starts with a lower case ASCII letter. -/
def startsLower (s : String) : Bool :=
  match s.toList with
  | c :: _ => c.isLower
  | [] => false

/-- The representation of a spelling without blanks at its ends. -/
def ofTrimmed (s : String) : Except MarshalError HostType :=
  if s = "String" ∨ s = "string" then .ok string
  else if s = "BigDecimal" ∨ s = "decimal" then .ok decimal
  else match enumerationName? s with
    | some name => .ok (enumeration name)
    | none =>
      match PrimitiveKind.ofBoxedName? s with
      | some k => .ok (boxed k)
      | none =>
        if startsLower s then (PrimitiveKind.ofSpelling s).map primitive
        else .error (.unknownType s)

/-- The representation of a spelling. -/
def ofSpelling (s : String) : Except MarshalError HostType := ofTrimmed (Text.trim s)

end HostType

end SqlDialects
