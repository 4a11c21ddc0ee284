import SqlDialects.Type.Code
import SqlDialects.Value.Diagnostic

/-!
# Failures of marshalling

The causes for which a value cannot be carried to or from the database, and their wording.
-/

namespace SqlDialects

/-- Why a single value has no counterpart on the other side. -/
inductive ConversionFault where
  /-- No code is assigned to the variant. -/
  | noCode (variant : String)
  /-- No variant has the code. -/
  | unknownCode (code : String)
  /-- The enumeration has no such variant. -/
  | unknownVariant (variant : String)
  /-- No variant stands at the position that the value gives. -/
  | noVariantAt (ordinal : Value)
  /-- The text of a decimal is no decimal numeral. -/
  | notDecimal (text : String)
  /-- An infinite or undefined number cannot be written in SQL. -/
  | notWritable (width : FloatWidth) (x : Binary width)
  /-- An enumeration variant cannot be written without a converter. -/
  | needsConverter

/-- The wording of a conversion fault. -/
def ConversionFault.reason : ConversionFault → String
  | noCode variant => "no code for variant " ++ variant
  | unknownCode code => "unknown code '" ++ code ++ "'"
  | unknownVariant variant => "unknown variant " ++ variant
  | noVariantAt ordinal => "no variant at ordinal " ++ ordinal.diagnostic
  | notDecimal text => "'" ++ text ++ "' is not a decimal literal"
  | notWritable _ x => x.text .message ++ " has no SQL literal"
  | needsConverter => "enum literals need a converter"

/-- Why a value cannot be marshalled. -/
inductive MarshalError where
  /-- The value is neither an array nor a collection, or its type has no known spelling. -/
  | unknownType (name : String)
  /-- The spelling names no primitive kind. -/
  | unrecognizedPrimitive (name : String)
  /-- The representation of a value is not the expected one. -/
  | elementMismatch (expected found : String)
  /-- The number has no equal in the target representation. -/
  | outOfRange (value target : String)
  /-- A single value has no counterpart. -/
  | conversionFailed (typeName : String) (fault : ConversionFault)
  /-- No basic type is registered under the name. -/
  | unknownBasicType (name : String)
  /-- No representation is known for elements of the type code. -/
  | unknownTypeCode (code : TypeCode)

namespace MarshalError

/-- The wording of a failure. -/
def message : MarshalError → String
  | unknownType name => "unknown type: " ++ name
  | unrecognizedPrimitive name => "Unrecognized primitive type class: " ++ name
  | elementMismatch expected found =>
    "element type mismatch: expected " ++ expected ++ ", found " ++ found
  | outOfRange value target => "value " ++ value ++ " does not fit into " ++ target
  | conversionFailed typeName fault => "conversion failed for " ++ typeName ++ ": " ++ fault.reason
  | unknownBasicType name => "unknown basic type: " ++ name
  | unknownTypeCode code => "no JDBC type descriptor registered for " ++ code.name

/-- The shape of a value, rather than its content, is at fault. -/
def isStructural : MarshalError → Bool
  | unknownType _ => true
  | unrecognizedPrimitive _ => true
  | elementMismatch _ _ => true
  | _ => false

end MarshalError

end SqlDialects
