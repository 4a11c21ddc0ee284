import SqlDialects.Marshal.Registry
import SqlDialects.Render.Parameter

/-!
# The context of a translation

What a translation depends on besides the statement: the dialect, the options, the basic types that
literals and arrays are written with, and the bindings that are known in advance.
-/

namespace SqlDialects

/-- Switches of a translation. -/
structure TranslationOptions where
  /-- An IN list of one type is bound as a single array parameter where the dialect can. -/
  arrayBinding : Bool
deriving DecidableEq, Repr

/-- What a translation depends on. -/
structure TranslationContext where
  dialect : Dialect
  options : TranslationOptions
  types : TypeRegistry
  /-- Bindings known in advance; only the lengths of multi-valued parameters are looked at. -/
  bindings? : Option Bindings

namespace TranslationContext

/-- The context of a dialect with the built-in types and nothing known in advance. -/
def ofDialect (d : Dialect) : TranslationContext := ⟨d, ⟨true⟩, .standard, none⟩

/-- IN lists are bound as arrays. -/
def bindsArrays (ctx : TranslationContext) : Bool :=
  ctx.options.arrayBinding && ctx.dialect.capabilities.arrayBinding

/-- Number of elements bound to a multi-valued parameter, if that is known. -/
def boundLength? (ctx : TranslationContext) (name : String) : Option Nat :=
  (ctx.bindings?.bind (·.get? name)).map Value.boundLength

end TranslationContext

end SqlDialects
