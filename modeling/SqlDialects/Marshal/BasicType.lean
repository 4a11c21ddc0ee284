import SqlDialects.Marshal.Converter
import SqlDialects.Value.Literal

/-!
# Basic types

A basic type names a type of single values: its descriptor, the representation of its values, and the
converter to the form that the driver binds, if there is one.
-/

namespace SqlDialects

/-- A named type of single values. -/
structure BasicType where
  name : String
  descriptor : TypeDescriptor
  hostType : HostType
  converter? : Option Converter

namespace BasicType

/-- A type whose values are bound as they are. -/
def plain (name : String) (descriptor : TypeDescriptor) (hostType : HostType) : BasicType :=
  ⟨name, descriptor, hostType, none⟩

/-- The type with a converter, whose domain becomes the representation of the values. -/
def withConverter (b : BasicType) (c : Converter) : BasicType :=
  { b with hostType := c.domain, converter? := some c }

/-- The type as that of an expression. -/
def resolvedType (b : BasicType) : ResolvedType := ⟨b.name, b.descriptor⟩

/-- A value in the form that the driver binds. -/
def toRelational (b : BasicType) (v : Value) : Traced Value :=
  match b.converter? with
  | some c => c.call .toRelational v
  | none => pure v

/-- A value as a literal. -/
def literal (b : BasicType) (v : Value) : Traced Literal := do
  let relational ← b.toRelational v
  relational.literal

/-- A value as SQL text. -/
def literalText (b : BasicType) (d : Dialect) (v : Value) : Traced String := do
  let literal ← b.literal v
  pure (literal.text d)

end BasicType

end SqlDialects
