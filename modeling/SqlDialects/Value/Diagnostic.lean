import SqlDialects.Value.Basic
import SqlDialects.Text.Diagnostic

/-!
# Diagnostic form of values

The form in which values and representations appear in listings and messages: the name of the shape
followed by its contents.
-/

namespace SqlDialects

namespace PrimitiveKind

/-- The name of a kind in diagnostics. -/
def diagnostic : PrimitiveKind → String
  | boolean => "Boolean"
  | char => "Char"
  | integer .byte => "Byte"
  | integer .short => "Short"
  | integer .int => "Int"
  | integer .long => "Long"
  | floating .single => "Float"
  | floating .double => "Double"

/-- An element of a kind in diagnostics. -/
def elementDiagnostic : (k : PrimitiveKind) → k.Carrier → String
  | boolean, b => if b then "true" else "false"
  | char, c => Text.diagnosticQuotedChar c
  | integer _, n => toString n.value
  | floating _, x => x.text .diagnostic

end PrimitiveKind

/-- A representation in diagnostics. -/
def HostType.diagnostic : HostType → String
  | primitive k => "Primitive(" ++ k.diagnostic ++ ")"
  | boxed k => "Boxed(" ++ k.diagnostic ++ ")"
  | string => "String"
  | decimal => "Decimal"
  | enumeration name => "Enum(" ++ Text.diagnosticText name ++ ")"

namespace Value

/-- Texts in brackets, separated by commas. -/
def bracketed (texts : List String) : String := "[" ++ ", ".intercalate texts ++ "]"

mutual

/-- A value in diagnostics. -/
def diagnostic : Value → String
  | null => "Null"
  | scalar k x => k.diagnostic ++ "(" ++ k.elementDiagnostic x ++ ")"
  | string s => "String(" ++ Text.diagnosticText s ++ ")"
  | decimal s => "Decimal(" ++ Text.diagnosticText s ++ ")"
  | enumeration typeName variant =>
    "Enum \x7b type_name: " ++ Text.diagnosticText typeName ++ ", variant: "
      ++ Text.diagnosticText variant ++ " \x7d"
  | primitiveArray k xs =>
    "PrimitiveArray(" ++ k.diagnostic ++ "(" ++ bracketed (xs.map k.elementDiagnostic) ++ "))"
  | referenceArray element vs =>
    "ReferenceArray(ReferenceArray \x7b element: " ++ element.diagnostic ++ ", values: "
      ++ bracketed (diagnostics vs) ++ " \x7d)"
  | collection vs => "Collection(" ++ bracketed (diagnostics vs) ++ ")"

/-- Values in diagnostics, one by one. -/
def diagnostics : List Value → List String
  | [] => []
  | v :: vs => v.diagnostic :: diagnostics vs

end

end Value

end SqlDialects
