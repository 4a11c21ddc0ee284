import SqlDialects.Dialect.Basic
import SqlDialects.Value.Coercion
import SqlDialects.Number.Numeral

/-!
# Literals

Single values as they stand in SQL text. Only finite numbers and well-formed decimals become
literals, so that a literal made from a value can always be written.
-/

namespace SqlDialects

/-- A constant in SQL text. -/
inductive Literal where
  | null
  | boolean (value : Bool)
  | integer (value : Int)
  | float (value : Binary64)
  | string (text : String)
  /-- A decimal numeral, written as it is. -/
  | decimal (text : String)
deriving DecidableEq

/-- A number that cannot be written in SQL text. -/
inductive Unwritable where
  | nan
  | infinity
deriving DecidableEq, Repr

/-- The report of an unwritable number. -/
def Unwritable.message : Unwritable → String
  | nan => "Cannot serialize NaN to SQL"
  | infinity => "Cannot serialize Infinity to SQL"

namespace Literal

/-- What keeps a literal from being written, if anything does. -/
def unwritable? : Literal → Option Unwritable
  | float x => if x.isNaN then some .nan else if x.isInfinite then some .infinity else none
  | _ => none

/-- The text of a literal that can be written. -/
def text (d : Dialect) : Literal → String
  | null => Dialect.nullText
  | boolean b => d.booleanText b
  | integer n => toString n
  | float x => x.text .literal
  | string s => Dialect.quoteText s
  | decimal s => s

end Literal

namespace Value

/-- A floating point number as a double. -/
def widen : (w : FloatWidth) → Binary w → Binary64
  | .single, x => x.convert .double
  | .double, x => x

/-- A finite floating point number as a literal. -/
def floatLiteral {w : FloatWidth} (x : Binary w) : Except MarshalError Literal :=
  if x.isFinite then .ok (.float (widen w x))
  else .error (.conversionFailed (PrimitiveKind.floating w).boxedName (.notWritable w x))

/-- A single value as a literal. -/
def literal : Value → Except MarshalError Literal
  | null => .ok .null
  | scalar .boolean b => .ok (.boolean b)
  | scalar .char c => .ok (.string (String.singleton c))
  | scalar (.integer _) n => .ok (.integer n.value)
  | scalar (.floating _) x => floatLiteral x
  | string s => .ok (.string s)
  | decimal s =>
    if Numeral.isDecimal s.toList then .ok (.decimal s)
    else .error (.conversionFailed (decimal s).typeName (.notDecimal s))
  | enumeration typeName _ => .error (.conversionFailed typeName .needsConverter)
  | plural => .error (plural.mismatch "scalar")

end Value

end SqlDialects
