import SqlDialects.Render.Clause
import SqlDialects.Proofs.Marshal.Traced
import SqlDialects.Proofs.Number.Widening
import SqlDialects.Proofs.Text.Constant

/-!
# Texts that are written as they are

Besides names, constants and words there is text that is written without quotes. Each dialect has a list of
such texts for its clauses and one for the operators of tests (`Dialect.ownTexts`, `Dialect.operatorTexts`);
what is not on a list is a type name behind AS, a length of a search path, or an array of constants
(`Dialect.Fragment`). A constant in such an array, like any other one, can be written: decimals are numerals,
and floating point numbers are finite whatever a converter returned (`Literal.Sound`).
-/

namespace SqlDialects

open Lexical

/-! ## Constants that can be written -/

/-- A constant that can be written down. -/
structure Literal.Sound (l : Literal) : Prop where
  wellFormed : l.WellFormed
  writable : l.unwritable? = none

theorem Literal.sound_integer (n : Int) : (Literal.integer n).Sound := ⟨trivial, rfl⟩

theorem Literal.sound_string (s : String) : (Literal.string s).Sound := ⟨trivial, rfl⟩

theorem Binary.writable_of_isFinite {x : Binary64} (h : x.isFinite = true) :
    (Literal.float x).unwritable? = none := by
  have below : x.magnitude < FloatWidth.double.infinityBits := of_decide_eq_true h
  have number : x.isNaN = false := decide_eq_false (by omega)
  have bounded : x.isInfinite = false := by
    rw [isInfinite, beq_eq_false_iff_ne]
    omega
  rw [Literal.unwritable?, number, bounded]
  rfl

/-- The constant made of a value can be written. -/
theorem Value.literal_sound {v : Value} {l : Literal} (h : v.literal = .ok l) : l.Sound := by
  have wellFormed := literal_wellFormed h
  refine ⟨wellFormed, ?_⟩
  unfold Value.literal at h
  split at h
  case h_5 =>
    unfold floatLiteral at h
    split at h
    · next finite =>
      cases h
      exact Binary.writable_of_isFinite (isFinite_widen finite)
    · cases h
  case h_7 =>
    split at h
    · cases h
      rfl
    · cases h
  all_goals cases h <;> rfl

theorem BasicType.literal_sound {b : BasicType} {v : Value} {l : Literal}
    (h : (b.literal v).result = .ok l) : l.Sound := by
  obtain ⟨relational, -, h⟩ := Traced.result_bind.1 h
  exact Value.literal_sound h

theorem BasicType.literalText_sound {b : BasicType} {d : Dialect} {v : Value} {text : String}
    (h : (b.literalText d v).result = .ok text) : ∃ l : Literal, l.Sound ∧ l.text d = text := by
  obtain ⟨l, hl, h⟩ := Traced.result_bind.1 h
  cases h
  exact ⟨l, literal_sound hl, rfl⟩

/-- An array is written with the texts of constants. -/
theorem ArrayMarshaller.literalText_eq_arrayText {m : ArrayMarshaller} {d : Dialect} {v : Value} {text : String}
    (plural : v.isPlural = true) (h : (m.literalText d v).result = .ok text) :
    ∃ texts, (∀ t ∈ texts, ∃ l : Literal, l.Sound ∧ l.text d = t) ∧ text = Dialect.arrayText texts := by
  unfold literalText at h
  split at h
  · cases plural
  · split at h
    · obtain ⟨texts, htexts, h⟩ := Traced.result_bind.1 h
      cases h
      refine ⟨texts, fun t ht => ?_, rfl⟩
      obtain ⟨v, -, hv⟩ := Traced.result_of_mem_mapM htexts ht
      exact BasicType.literalText_sound hv
    · cases h

/-! ## Fixed texts -/

/-- The operators of comparison. -/
def ComparisonOperator.every : List ComparisonOperator :=
  [equal, notEqual, lessThan, lessThanOrEqual, greaterThan, greaterThanOrEqual, distinctFrom, notDistinctFrom]

/-- An operator between blanks. -/
def ComparisonOperator.spacedText (op : ComparisonOperator) : String := " " ++ op.text ++ " "

namespace Dialect

/-- The texts that clauses have in every dialect. -/
def sharedTexts : List String :=
  ["cast(", "1=1", "1=0", "rollup", "cube", " + ", " - ", " * ", " / ", " % "]

/-- The texts that clauses have in the dialect besides. -/
def ownTexts : Dialect → List String
  | ansi => ["array[", "]"]
  | hsql => ["(", ")", "))", " ", ", ", "+", "-", "*", "/", "mod(", "not(", "'0' || '0'", " from (values(0))"]
  | postgres => ["array[", "]"]
  | mysql => ["not(", ")", "concat(", " from dual", " LIMIT ", unlimitedRows, " OFFSET "]

/-- The texts between the operands of tests that every dialect has. -/
def sharedOperators : List String :=
  ComparisonOperator.every.map ComparisonOperator.spacedText ++ [" in(", " not in("]

/-- The texts between the operands of tests that the dialect has besides. -/
def ownOperators : Dialect → List String
  | ansi => [" = ANY(", " <> ALL("]
  | hsql => [" IN(", " NOT IN(", " IN(UNNEST(", " NOT IN(UNNEST(", "<>", "=", "is distinct from",
      "is not distinct from"]
  | postgres => [" = ANY(", " <> ALL("]
  | mysql => [" <=> "]

/-- The texts between the operands of tests. -/
def operatorTexts (d : Dialect) : List String := sharedOperators ++ d.ownOperators

/-- A text that a clause writes as it is. -/
inductive Fragment (d : Dialect) : String → Prop where
  | shared {s : String} : s ∈ sharedTexts → Fragment d s
  | own {s : String} : s ∈ d.ownTexts → Fragment d s
  /-- The type behind the operand of a cast. -/
  | type (t : TypeDescriptor) : Fragment d (" as " ++ d.castName t ++ ")")
  /-- The length behind the start of a search path. -/
  | length (n : Int) : d = hsql → Fragment d (" as varchar(" ++ toString n ++ "))")
  | array {texts : List String} : d.capabilities.arrayConstructor = true →
    (∀ t ∈ texts, ∃ l : Literal, l.Sound ∧ l.text d = t) → Fragment d (arrayText texts)

theorem closed_sharedTexts (d : Dialect) : ∀ s ∈ sharedTexts, Closed d 0 s := by
  cases d <;> decide

theorem closed_ownTexts (d : Dialect) : ∀ s ∈ d.ownTexts, Closed d 0 s := by
  cases d <;> decide

theorem closed_operatorTexts (d : Dialect) : ∀ s ∈ d.operatorTexts, Closed d 0 s := by
  cases d <;> decide

namespace Fragment

variable {d : Dialect} {s : String}

/-- A fragment leaves no quotes open and has no question mark outside of them. -/
theorem closed (h : d.Fragment s) : Closed d 0 s := by
  cases h with
  | shared h => exact d.closed_sharedTexts s h
  | own h => exact d.closed_ownTexts s h
  | type t =>
    have front : IsPlain " as " := by decide
    exact closed_of_isPlain ((front.append (d.isPlain_castName t)).append (by decide))
  | length n _ =>
    have front : IsPlain " as varchar(" := by decide
    exact closed_of_isPlain ((front.append (isBare_toString_int n).isPlain).append (by decide))
  | array arrays constants =>
    have plain : d ≠ .mysql := by
      rintro rfl
      exact absurd arrays (by decide)
    refine closed_arrayText fun t ht => ?_
    obtain ⟨l, sound, rfl⟩ := constants t ht
    exact Literal.closed_text sound.wellFormed fun s _ => closed_quoteText plain s

/-- No operator begins like a fragment that is on no list. -/
theorem not_prefix_operator (d : Dialect) : ∀ front ∈ [" as ", "ARRAY["], ∀ o ∈ d.operatorTexts,
    ¬front.toList <+: o.toList := by
  cases d <;> decide

/-- A fragment is no operator of a test. -/
theorem not_operator (h : d.Fragment s) : s ∉ d.operatorTexts := by
  have front : ∀ front ∈ [" as ", "ARRAY["], ∀ rest, front ++ rest ∉ d.operatorTexts := by
    intro front hfront rest operator
    refine not_prefix_operator d front hfront _ operator ?_
    rw [String.toList_append]
    exact List.prefix_append _ _
  cases h with
  | shared h =>
    have lists : ∀ s ∈ sharedTexts, s ∉ d.operatorTexts := by cases d <;> decide
    exact lists s h
  | own h =>
    have lists : ∀ s ∈ d.ownTexts, s ∉ d.operatorTexts := by cases d <;> decide
    exact lists s h
  | type t =>
    rw [String.append_assoc]
    exact front " as " (by decide) _
  | length n _ =>
    rw [show " as varchar(" = " as " ++ "varchar(" from rfl, String.append_assoc, String.append_assoc]
    exact front " as " (by decide) _
  | array =>
    rw [arrayText, String.append_assoc]
    exact front "ARRAY[" (by decide) _

end Fragment

end Dialect

end SqlDialects
