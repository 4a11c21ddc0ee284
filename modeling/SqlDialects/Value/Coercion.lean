import SqlDialects.Marshal.Error

/-!
# Coercion of single values

A single value is carried into another representation only if nothing of it is lost: integers stay in
range or become floating point numbers that equal them, and families of types do not mix except for
texts of one character.
-/

namespace SqlDialects.Value

/-- The failure to read a value as one of the given representation. -/
def mismatch (expected : String) (v : Value) : MarshalError :=
  .elementMismatch expected v.typeName

/-- The double nearest to an integer, narrowed to the given width. -/
def roundedInteger (w : FloatWidth) (n : Int) : Binary w :=
  let x : Binary64 := Binary.ofInt n
  match w with
  | .double => x
  | .single => x.convert .single

/-- An integer as a floating point number that equals it. -/
def floatingOfInteger (w : FloatWidth) (n : Int) : Except MarshalError Value :=
  let x := roundedInteger w n
  if x.truncated? = some n then .ok (floating w x)
  else .error (.outOfRange (toString n) (PrimitiveKind.floating w).boxedName)

/-- A floating point number in another width; a finite one has to stay finite. -/
def floatingOfFloating (w : FloatWidth) {u : FloatWidth} (x : Binary u) :
    Except MarshalError Value :=
  let y := x.convert w
  if x.isFinite && !y.isFinite then
    .error (.outOfRange (x.text .message) (PrimitiveKind.floating w).boxedName)
  else .ok (floating w y)

/-- An integer in the range of the given width. -/
def integerOfInteger (w : IntegerWidth) (n : Int) : Except MarshalError Value :=
  match FixedInt.ofInt? w n with
  | some x => .ok (integer w x)
  | none => .error (.outOfRange (toString n) (PrimitiveKind.integer w).boxedName)

/-- A value other than null as one of a primitive kind. -/
def coerceToKind (k : PrimitiveKind) (v : Value) : Except MarshalError Value :=
  if v.kind? = some k then .ok v else
  match k, v with
  | .char, string s =>
    match s.toList with
    | [c] => .ok (char c)
    | _ => .error (v.mismatch k.boxedName)
  | .integer w, scalar (.integer _) n => integerOfInteger w n.value
  | .floating w, scalar (.integer _) n => floatingOfInteger w n.value
  | .floating w, scalar (.floating _) x => floatingOfFloating w x
  | _, _ => .error (v.mismatch k.boxedName)

/-- A value in the given representation; null stays null. -/
def coerce (target : HostType) (v : Value) : Except MarshalError Value :=
  match v, target with
  | null, _ => .ok null
  | v, .primitive k => v.coerceToKind k
  | v, .boxed k => v.coerceToKind k
  | string s, .string => .ok (string s)
  | scalar .char c, .string => .ok (string (String.singleton c))
  | v, .string => .error (v.mismatch HostType.string.name)
  | decimal s, .decimal => .ok (decimal s)
  | scalar (.integer _) n, .decimal => .ok (decimal (toString n.value))
  | v, .decimal => .error (v.mismatch HostType.decimal.name)
  | enumeration typeName variant, .enumeration name =>
    if typeName = name then .ok (enumeration typeName variant) else .error (.elementMismatch name typeName)
  | v, .enumeration name => .error (v.mismatch name)

end SqlDialects.Value
