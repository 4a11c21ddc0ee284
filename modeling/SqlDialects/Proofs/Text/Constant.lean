import SqlDialects.Marshal.Array
import SqlDialects.Proofs.Text.Lexical

/-!
# The texts of constants and types

Numbers and truth values are bare text: they contain neither quotes nor question marks nor parentheses. The only
parentheses in a type name are those around a length (`Dialect.namesType_castName`). A constant is closed as soon
as its text between quotes is (`Literal.closed_text`), and so is an array of texts that are closed
(`closed_arrayText`).
-/

namespace SqlDialects

open Lexical

theorem isBare_of_isDigit {c : Char} (h : c.isDigit = true) : isBare c = true := by
  have other : ∀ x : Char, x.isDigit = false → c ≠ x := by
    rintro x hx rfl
    rw [h] at hx
    cases hx
  simp [isBare, isPlain, other '?' (by decide), other '\'' (by decide), other '"' (by decide),
    other (Char.ofNat 0x60) (by decide), other '(' (by decide), other ')' (by decide)]

theorem isBare_of_mem_toDigits {c : Char} {n : Nat} (h : c ∈ Nat.toDigits 10 n) :
    isBare c = true :=
  isBare_of_isDigit (Nat.isDigit_of_mem_toDigits (by decide) (by decide) h)

theorem isBare_toString_nat (n : Nat) : IsBare (toString n) := by
  intro c hc
  rw [show (toString n).toList = Nat.toDigits 10 n from Nat.toList_repr] at hc
  exact isBare_of_mem_toDigits hc

theorem isBare_toString_int (n : Int) : IsBare (toString n) := by
  cases n with
  | ofNat n => exact isBare_toString_nat n
  | negSucc n => exact IsBare.append (s := "-") (by decide) (isBare_toString_nat (n + 1))

/-! ## Decimal numerals -/

theorem isBare_of_isDigits {cs : List Char} (h : Numeral.isDigits cs = true) :
    ∀ c ∈ cs, isBare c = true := by
  intro c hc
  simp only [Numeral.isDigits, Bool.and_eq_true] at h
  exact isBare_of_isDigit (List.all_eq_true.1 h.2 c hc)

theorem isBare_of_dropSign {cs : List Char} (h : ∀ c ∈ Numeral.dropSign cs, isBare c = true) :
    ∀ c ∈ cs, isBare c = true := by
  unfold Numeral.dropSign at h
  split at h
  · exact List.forall_mem_cons.2 ⟨by decide, h⟩
  · exact List.forall_mem_cons.2 ⟨by decide, h⟩
  · exact h

theorem isBare_of_isExponent {cs : List Char} (h : Numeral.isExponent cs = true) :
    ∀ c ∈ cs, isBare c = true := by
  unfold Numeral.isExponent at h
  split at h
  · simp
  · exact List.forall_mem_cons.2 ⟨by decide, isBare_of_dropSign (isBare_of_isDigits h)⟩
  · exact List.forall_mem_cons.2 ⟨by decide, isBare_of_dropSign (isBare_of_isDigits h)⟩
  · cases h

/-- A run of digits in front of plain text. -/
theorem isBare_of_dropWhile {cs : List Char}
    (h : ∀ c ∈ cs.dropWhile Char.isDigit, isBare c = true) : ∀ c ∈ cs, isBare c = true := by
  intro c hc
  rw [← List.takeWhile_append_dropWhile (p := Char.isDigit) (l := cs), List.mem_append] at hc
  rcases hc with hc | hc
  · exact isBare_of_isDigit (List.all_eq_true.1 List.all_takeWhile c hc)
  · exact h c hc

theorem isBare_of_isDecimal {s : String} (h : Numeral.isDecimal s.toList = true) : IsBare s := by
  refine isBare_of_dropSign (isBare_of_dropWhile ?_)
  simp only [Numeral.isDecimal] at h
  split at h
  · next afterPoint heq =>
    rw [heq]
    simp only [Bool.and_eq_true] at h
    exact List.forall_mem_cons.2 ⟨by decide, isBare_of_dropWhile (isBare_of_isExponent h.2)⟩
  · simp only [Bool.and_eq_true] at h
    exact isBare_of_isExponent h.2

/-! ## Floating point numbers -/

theorem Decimal.isBare_of_mem_positional {d : Decimal} {pointZero : Bool} {c : Char}
    (h : c ∈ d.positional pointZero) : isBare c = true := by
  have digit : ∀ {x}, x ∈ d.digitChars → isBare x = true := isBare_of_mem_toDigits
  unfold Decimal.positional at h
  split at h
  · simp only [List.mem_append, List.mem_replicate] at h
    rcases h with (h | ⟨-, rfl⟩) | h
    · exact digit h
    · decide
    · split at h <;> simp at h
      rcases h with rfl | rfl <;> decide
  · dsimp only at h
    split at h
    · simp only [List.mem_cons, List.mem_append, List.mem_replicate] at h
      rcases h with rfl | rfl | ⟨-, rfl⟩ | h
      · decide
      · decide
      · decide
      · exact digit h
    · simp only [List.mem_cons, List.mem_append] at h
      rcases h with h | rfl | h
      · exact digit (List.mem_of_mem_take h)
      · decide
      · exact digit (List.mem_of_mem_drop h)

theorem Decimal.isBare_of_mem_scientific {d : Decimal} {plusSign : Bool} {c : Char}
    (h : c ∈ d.scientific plusSign) : isBare c = true := by
  have digit : ∀ {x}, x ∈ d.digitChars → isBare x = true := isBare_of_mem_toDigits
  have exponent : ∀ n, ∀ x ∈ Decimal.exponentText plusSign n, isBare x = true := by
    intro n
    unfold Decimal.exponentText
    split
    · exact List.forall_mem_cons.2 ⟨by decide, isBare_toString_int n⟩
    · exact isBare_toString_int n
  simp only [Decimal.scientific, List.mem_append, List.mem_cons] at h
  rcases h with h | rfl | h
  · split at h
    · cases h
    · next heq => exact digit (by rwa [heq])
    · next heq =>
      simp only [List.mem_cons] at h
      rcases h with rfl | rfl | h
      · exact digit (by rw [heq]; exact List.mem_cons_self)
      · decide
      · exact digit (by rw [heq]; exact List.mem_cons_of_mem _ h)
  · decide
  · exact exponent _ c h

theorem Binary.isBare_of_mem_finiteText {w : FloatWidth} {f : FloatNotation} {x : Binary w} {c : Char}
    (h : c ∈ x.finiteText f) : isBare c = true := by
  have sign : ∀ y ∈ (if x.isNegative then ['-'] else []), isBare y = true :=
    List.all_eq_true.1 (by split <;> decide)
  simp only [Binary.finiteText] at h
  split at h
  · rcases List.mem_append.1 h with h | h
    · exact sign c h
    · have zero : ∀ y ∈ (if f.pointZero then ['0', '.', '0'] else ['0']), isBare y = true :=
        List.all_eq_true.1 (by split <;> decide)
      exact zero c h
  · rcases List.mem_append.1 h with h | h
    · exact sign c h
    · split at h
      · exact Decimal.isBare_of_mem_positional h
      · exact Decimal.isBare_of_mem_scientific h

theorem Binary.isBare_text {w : FloatWidth} (f : FloatNotation) (x : Binary w) :
    IsBare (x.text f) := by
  unfold Binary.text
  split
  · decide
  · split
    · split <;> decide
    · intro c hc
      rw [String.toList_ofList] at hc
      exact Binary.isBare_of_mem_finiteText hc

/-! ## Type names -/

/-- A type name: bare text with a length in parentheses, where there is one. -/
def NamesType (s : String) : Prop :=
  ∃ (name : String) (length : Option UInt32) (suffix : String),
    IsBare name ∧ IsBare suffix ∧ s = Dialect.sized name length ++ suffix

theorem NamesType.append {s t : String} (h : NamesType s) (ht : IsBare t) : NamesType (s ++ t) := by
  obtain ⟨name, length, suffix, hname, hsuffix, rfl⟩ := h
  exact ⟨name, length, suffix ++ t, hname, hsuffix.append ht, String.append_assoc⟩

theorem namesType_sized {name : String} (h : IsBare name) (length : Option UInt32) :
    NamesType (Dialect.sized name length) :=
  ⟨name, length, "", h, by decide, (String.append_empty).symm⟩

theorem namesType_of_isBare {s : String} (h : IsBare s) : NamesType s := namesType_sized h none

namespace Dialect

theorem namesType_standardTypeName (length : Option UInt32) (code : TypeCode) :
    NamesType (standardTypeName length code) := by
  cases code with
  | char => exact namesType_sized (by decide) length
  | varchar => exact namesType_sized (by decide) length
  | other => exact namesType_sized (by decide) length
  | _ => exact namesType_of_isBare (by rw [standardTypeName]; decide)

theorem namesType_standardCastName (t : TypeDescriptor) : NamesType (standardCastName t) := by
  induction t with
  | scalar code length => exact namesType_standardTypeName length code
  | arrayLike code length element ih =>
    cases code with
    | array => exact ih.append (by decide)
    | _ => exact namesType_standardTypeName length _

theorem namesType_postgresTypeName (length : Option UInt32) (code : TypeCode) :
    NamesType (postgresTypeName length code) := by
  unfold postgresTypeName
  split
  · exact namesType_of_isBare (by decide)
  · exact namesType_of_isBare (by decide)
  · exact namesType_of_isBare (by decide)
  · exact namesType_standardTypeName length code

theorem namesType_postgresCastName (t : TypeDescriptor) : NamesType (postgresCastName t) := by
  induction t with
  | scalar code length => exact namesType_postgresTypeName length code
  | arrayLike code length element ih =>
    cases code with
    | array => exact ih.append (by decide)
    | _ => exact namesType_postgresTypeName length _

theorem namesType_mysqlTypeName (length : Option UInt32) (code : TypeCode) :
    NamesType (mysqlTypeName length code) := by
  cases code with
  | char => exact namesType_sized (by decide) length
  | varchar => exact namesType_sized (by decide) length
  | other => exact namesType_sized (by decide) length
  | array => exact namesType_sized (by decide) length
  | _ => exact namesType_of_isBare (by rw [mysqlTypeName]; decide)

theorem namesType_castName (d : Dialect) (t : TypeDescriptor) : NamesType (d.castName t) := by
  cases d with
  | ansi => exact namesType_standardCastName t
  | hsql => exact namesType_standardCastName t
  | postgres => exact namesType_postgresCastName t
  | mysql => exact namesType_mysqlTypeName t.length t.code

end Dialect

theorem NamesType.isPlain {s : String} (h : NamesType s) : IsPlain s := by
  obtain ⟨name, length, suffix, hname, hsuffix, rfl⟩ := h
  refine IsPlain.append ?_ hsuffix.isPlain
  cases length with
  | none => exact hname.isPlain
  | some n =>
    exact ((hname.isPlain.append (t := "(") (by decide)).append (isBare_toString_nat n.toNat).isPlain).append
      (t := ")") (by decide)

theorem Dialect.isPlain_castName (d : Dialect) (t : TypeDescriptor) : IsPlain (d.castName t) :=
  (d.namesType_castName t).isPlain

/-! ## Constants -/

/-- A decimal constant is a numeral. -/
def Literal.WellFormed : Literal → Prop
  | .decimal s => Numeral.isDecimal s.toList = true
  | _ => True

theorem Value.floatLiteral_wellFormed {w : FloatWidth} {x : Binary w} {l : Literal}
    (h : Value.floatLiteral x = .ok l) : l.WellFormed := by
  unfold Value.floatLiteral at h
  split at h
  · cases h; trivial
  · cases h

/-- The constant made of a value is well-formed. -/
theorem Value.literal_wellFormed {v : Value} {l : Literal} (h : v.literal = .ok l) : l.WellFormed := by
  unfold Value.literal at h
  split at h
  case h_5 => exact floatLiteral_wellFormed h
  case h_7 =>
    split at h
    · next numeral => cases h; exact numeral
    · cases h
  all_goals cases h <;> trivial

theorem Literal.closed_text {d : Dialect} {l : Literal} (h : l.WellFormed)
    (texts : ∀ s, l = .string s → Closed d 0 (Dialect.quoteText s)) : Closed d 0 (l.text d) := by
  cases l with
  | null => exact closed_of_isPlain (s := Dialect.nullText) (by decide)
  | boolean b => exact closed_of_isPlain (s := d.booleanText b) (by cases d <;> cases b <;> decide)
  | integer n => exact closed_of_isPlain (isBare_toString_int n).isPlain
  | float x => exact closed_of_isPlain (Binary.isBare_text _ x).isPlain
  | string s => exact texts s rfl
  | decimal s => exact closed_of_isPlain (isBare_of_isDecimal h).isPlain

/-- Closed texts with commas between them. -/
theorem closed_intercalate {d : Dialect} {texts : List String} (h : ∀ t ∈ texts, Closed d 0 t) :
    Closed d 0 (",".intercalate texts) := by
  induction texts with
  | nil => exact closed_empty
  | cons t rest ih =>
    obtain ⟨ht, hrest⟩ := List.forall_mem_cons.1 h
    cases rest with
    | nil => rwa [String.intercalate_singleton]
    | cons u rest =>
      rw [String.intercalate_cons_cons]
      exact (ht.append (closed_of_isPlain (s := ",") (by decide))).append (ih hrest)

theorem closed_arrayText {d : Dialect} {texts : List String} (h : ∀ t ∈ texts, Closed d 0 t) :
    Closed d 0 (Dialect.arrayText texts) :=
  ((closed_of_isPlain (s := "ARRAY[") (by decide)).append (closed_intercalate h)).append
    (closed_of_isPlain (s := "]") (by decide))

end SqlDialects
