import Mathlib.Computability.RegularExpressions
import SqlDialects.Value.Literal

/-!
# The grammar of decimal numerals

A decimal numeral is `[+-]? (D+ (. D*)? | . D+) ([eE] [+-]? D+)?` over the digits `D` from 0 to 9, written down
as `Numeral.grammar`. The scanner takes the longest run of digits wherever there is one. Nothing that may follow
such a run starts with a digit, so no other way to divide a text is ever needed, and what the scanner accepts is
the language of the grammar (`Numeral.isDecimal_iff`).
-/

namespace SqlDialects.Numeral

open RegularExpression (char)

/-! ## The grammar -/

/-- One of some characters. -/
def oneOf (cs : List Char) : RegularExpression Char := cs.foldr (fun c r => char c + r) 0

/-- What may be left out. -/
def optional (r : RegularExpression Char) : RegularExpression Char := 1 + r

/-- A sign, which may be left out. -/
def sign : RegularExpression Char := optional (oneOf ['+', '-'])

/-- The ten digits. -/
def tenDigits : List Char := ['0', '1', '2', '3', '4', '5', '6', '7', '8', '9']

/-- A digit. -/
def digit : RegularExpression Char := oneOf tenDigits

/-- Digits, at least one. -/
def digits : RegularExpression Char := digit * digit.star

/-- Digits with a fraction, which may be empty or left out, or a fraction alone. -/
def mantissa : RegularExpression Char := digits * optional (char '.' * digit.star) + char '.' * digits

/-- An exponent, which may be left out. -/
def exponent : RegularExpression Char := optional (oneOf ['e', 'E'] * (sign * digits))

/-- A decimal numeral. -/
def grammar : RegularExpression Char := sign * mantissa * exponent

/-! ## Its parts -/

variable {r s : RegularExpression Char} {cs : List Char}

theorem mem_oneOf {xs : List Char} : cs ∈ (oneOf xs).matches' ↔ ∃ c ∈ xs, cs = [c] := by
  induction xs with
  | nil => exact ⟨nofun, nofun⟩
  | cons x xs ih =>
    change cs ∈ ({[x]} : Language Char) + (oneOf xs).matches' ↔ _
    rw [Language.mem_add, ih, List.exists_mem_cons_iff]
    exact Iff.rfl

theorem mem_optional : cs ∈ (optional r).matches' ↔ cs = [] ∨ cs ∈ r.matches' := by
  rw [optional, RegularExpression.matches'_add, Language.mem_add]
  exact Iff.rfl

theorem mem_char_mul {c : Char} : cs ∈ (char c * r).matches' ↔ ∃ rest ∈ r.matches', cs = c :: rest := by
  rw [RegularExpression.matches'_mul, Language.mem_mul]
  constructor
  · rintro ⟨_, rfl, rest, hrest, rfl⟩
    exact ⟨rest, hrest, rfl⟩
  · rintro ⟨rest, hrest, rfl⟩
    exact ⟨[c], rfl, rest, hrest, rfl⟩

theorem mem_oneOf_mul {xs : List Char} :
    cs ∈ (oneOf xs * r).matches' ↔ ∃ c ∈ xs, ∃ rest ∈ r.matches', cs = c :: rest := by
  rw [RegularExpression.matches'_mul, Language.mem_mul]
  constructor
  · rintro ⟨_, first, rest, hrest, rfl⟩
    obtain ⟨c, hc, rfl⟩ := mem_oneOf.1 first
    exact ⟨c, hc, rest, hrest, rfl⟩
  · rintro ⟨c, hc, rest, hrest, rfl⟩
    exact ⟨[c], mem_oneOf.2 ⟨c, hc, rfl⟩, rest, hrest, rfl⟩

theorem isDigit_iff_mem {c : Char} : c.isDigit = true ↔ c ∈ tenDigits := by
  constructor
  · intro h
    have bounds : 48 ≤ c.toNat ∧ c.toNat ≤ 57 := by
      simpa [Char.isDigit, UInt32.le_iff_toNat_le] using h
    have each : ∀ n ≤ 57, 48 ≤ n → Char.ofNat n ∈ tenDigits := by decide
    rw [← Char.ofNat_toNat c]
    exact each _ bounds.2 bounds.1
  · have all : tenDigits.all Char.isDigit = true := rfl
    exact fun h => List.all_eq_true.1 all c h

theorem mem_star_digit : cs ∈ digit.star.matches' ↔ cs.all Char.isDigit = true := by
  rw [RegularExpression.matches'_star, Language.mem_kstar, List.all_eq_true]
  constructor
  · rintro ⟨words, rfl, single⟩ c hc
    obtain ⟨word, hword, hc⟩ := List.mem_flatten.1 hc
    obtain ⟨x, hx, rfl⟩ := mem_oneOf.1 (single word hword)
    rw [List.mem_singleton.1 hc]
    exact isDigit_iff_mem.2 hx
  · intro all
    refine ⟨cs.map ([·]), ?_, fun word hword => ?_⟩
    · rw [← List.flatMap_def, List.flatMap_singleton']
    · obtain ⟨c, hc, rfl⟩ := List.mem_map.1 hword
      exact mem_oneOf.2 ⟨c, isDigit_iff_mem.1 (all c hc), rfl⟩

theorem mem_digits : cs ∈ digits.matches' ↔ isDigits cs = true := by
  rw [digits, digit, mem_oneOf_mul, isDigits]
  constructor
  · rintro ⟨c, hc, rest, hrest, rfl⟩
    rw [List.all_cons, isDigit_iff_mem.2 hc, mem_star_digit.1 hrest]
    rfl
  · intro h
    obtain ⟨some, all⟩ := Bool.and_eq_true_iff.1 h
    cases cs with
    | nil => cases some
    | cons c cs =>
      obtain ⟨first, rest⟩ := Bool.and_eq_true_iff.1 all
      exact ⟨c, isDigit_iff_mem.1 first, cs, mem_star_digit.2 rest, rfl⟩

/-! ## Longest runs -/

/-- No word of the expression starts with a character of the class. -/
def Avoids (p : Char → Bool) (r : RegularExpression Char) : Prop :=
  ∀ c rest, c :: rest ∈ r.matches' → p c = false

theorem dropWhile_eq_of_avoids {p : Char → Bool} (avoids : Avoids p r) (h : cs ∈ r.matches') :
    cs.takeWhile p = [] ∧ cs.dropWhile p = cs := by
  cases cs with
  | nil => exact ⟨rfl, rfl⟩
  | cons c rest =>
    have other := avoids c rest h
    exact ⟨by rw [List.takeWhile_cons, other]; rfl, by rw [List.dropWhile_cons, other]; rfl⟩

/-- Behind some digits stands what is behind all of them. -/
theorem mem_star_digit_mul (avoids : Avoids Char.isDigit r) :
    cs ∈ (digit.star * r).matches' ↔ cs.dropWhile Char.isDigit ∈ r.matches' := by
  rw [RegularExpression.matches'_mul, Language.mem_mul]
  constructor
  · rintro ⟨run, hrun, rest, hrest, rfl⟩
    have all := List.all_eq_true.1 (mem_star_digit.1 hrun)
    rwa [List.dropWhile_append_of_pos all, (dropWhile_eq_of_avoids avoids hrest).2]
  · intro h
    exact ⟨_, mem_star_digit.2 List.all_takeWhile, _, h, List.takeWhile_append_dropWhile⟩

/-- Behind one digit or more stands what is behind all of them, and there are some. -/
theorem mem_digits_mul (avoids : Avoids Char.isDigit r) :
    cs ∈ (digits * r).matches' ↔
      cs.takeWhile Char.isDigit ≠ [] ∧ cs.dropWhile Char.isDigit ∈ r.matches' := by
  have split : (digits * r).matches' = (digit * (digit.star * r)).matches' := by
    simp only [digits, RegularExpression.matches'_mul, mul_assoc]
  rw [split, digit, mem_oneOf_mul]
  constructor
  · rintro ⟨c, hc, rest, hrest, rfl⟩
    have first := isDigit_iff_mem.2 hc
    rw [List.takeWhile_cons, List.dropWhile_cons, first]
    exact ⟨List.cons_ne_nil _ _, (mem_star_digit_mul avoids).1 hrest⟩
  · rintro ⟨some, rest⟩
    cases cs with
    | nil => exact absurd rfl some
    | cons c cs =>
      rw [List.takeWhile_cons] at some
      rw [List.dropWhile_cons] at rest
      cases first : c.isDigit with
      | false =>
        rw [first] at some
        exact absurd rfl some
      | true =>
        rw [first] at rest
        exact ⟨c, isDigit_iff_mem.1 first, cs, (mem_star_digit_mul avoids).2 rest, rfl⟩

/-- The character is a sign. -/
def isSign (c : Char) : Bool := c == '+' || c == '-'

theorem dropSign_of_isSign {c : Char} (h : isSign c = true) (rest : List Char) : dropSign (c :: rest) = rest := by
  rcases Bool.or_eq_true_iff.1 h with h | h
  · rw [beq_iff_eq.1 h]
    rfl
  · rw [beq_iff_eq.1 h]
    rfl

theorem dropSign_of_not {c : Char} (h : isSign c = false) (rest : List Char) :
    dropSign (c :: rest) = c :: rest := by
  unfold dropSign
  split
  · next same => cases same; cases h
  · next same => cases same; cases h
  · rfl

/-- Behind a sign, or without one, stands what is behind any sign. -/
theorem mem_sign_mul (avoids : Avoids isSign r) : cs ∈ (sign * r).matches' ↔ dropSign cs ∈ r.matches' := by
  have split : (sign * r).matches' = r.matches' + (oneOf ['+', '-'] * r).matches' := by
    simp only [sign, optional, RegularExpression.matches'_mul, RegularExpression.matches'_add,
      RegularExpression.matches'_epsilon, add_mul, one_mul]
  rw [split, Language.mem_add, mem_oneOf_mul]
  cases cs with
  | nil => exact or_iff_left (by rintro ⟨_, _, _, _, ⟨⟩⟩)
  | cons c rest =>
    have signs : c ∈ ['+', '-'] ↔ isSign c = true := by simp [isSign]
    cases first : isSign c with
    | true =>
      rw [dropSign_of_isSign first]
      constructor
      · rintro (unsigned | ⟨_, _, _, hrest, ⟨⟩⟩)
        · rw [avoids c rest unsigned] at first
          cases first
        · exact hrest
      · exact fun h => .inr ⟨c, signs.2 first, rest, h, rfl⟩
    | false =>
      rw [dropSign_of_not first]
      refine or_iff_left ?_
      rintro ⟨_, hc, _, _, ⟨⟩⟩
      rw [signs.1 hc] at first
      cases first

/-! ## The scanner -/

theorem not_isSign_of_isDigit {c : Char} (h : c.isDigit = true) : isSign c = false := by
  have each : tenDigits.all (!isSign ·) = true := rfl
  simpa using List.all_eq_true.1 each c (isDigit_iff_mem.1 h)

theorem avoids_digits : Avoids isSign digits := by
  intro c rest h
  have all := (Bool.and_eq_true_iff.1 (mem_digits.1 h)).2
  exact not_isSign_of_isDigit (Bool.and_eq_true_iff.1 all).1

/-- What is scanned for an exponent is one. -/
theorem mem_exponent : cs ∈ exponent.matches' ↔ isExponent cs = true := by
  rw [exponent, mem_optional, mem_oneOf_mul]
  constructor
  · rintro (rfl | ⟨c, hc, rest, hrest, rfl⟩)
    · rfl
    · have scanned := mem_digits.1 ((mem_sign_mul avoids_digits).1 hrest)
      rcases List.mem_pair.1 hc with rfl | rfl
      · exact scanned
      · exact scanned
  · intro h
    unfold isExponent at h
    split at h
    · exact .inl rfl
    · next rest => exact .inr ⟨'e', by decide, rest, (mem_sign_mul avoids_digits).2 (mem_digits.2 h), rfl⟩
    · next rest => exact .inr ⟨'E', by decide, rest, (mem_sign_mul avoids_digits).2 (mem_digits.2 h), rfl⟩
    · cases h

/-- An exponent starts with its letter. -/
theorem avoids_exponent {p : Char → Bool} (small : p 'e' = false) (capital : p 'E' = false) :
    Avoids p exponent := by
  intro c rest h
  rw [exponent, mem_optional, mem_oneOf_mul] at h
  obtain ⟨⟨⟩⟩ | ⟨_, hc, _, _, ⟨⟩⟩ := h
  rcases List.mem_pair.1 hc with rfl | rfl
  · exact small
  · exact capital

/-- A point with the digits of a fraction behind it, which may be left out, and an exponent. -/
def ending : RegularExpression Char := exponent + char '.' * (digit.star * exponent)

theorem mem_ending_point {rest : List Char} :
    '.' :: rest ∈ ending.matches' ↔ isExponent (rest.dropWhile Char.isDigit) = true := by
  have digits : rest ∈ (digit.star * exponent).matches' ↔ _ := mem_star_digit_mul (avoids_exponent rfl rfl)
  rw [← mem_exponent, ← digits, ending, RegularExpression.matches'_add, Language.mem_add, mem_char_mul]
  constructor
  · rintro (pointless | ⟨_, hrest, ⟨⟩⟩)
    · rw [mem_exponent] at pointless
      cases pointless
    · exact hrest
  · exact fun h => .inr ⟨rest, h, rfl⟩

theorem mem_ending_pointless (pointless : ∀ rest, cs ≠ '.' :: rest) :
    cs ∈ ending.matches' ↔ isExponent cs = true := by
  rw [ending, RegularExpression.matches'_add, Language.mem_add, mem_char_mul, mem_exponent]
  refine or_iff_left ?_
  rintro ⟨rest, _, same⟩
  exact pointless rest same

theorem avoids_ending : Avoids Char.isDigit ending := by
  intro c rest h
  rw [ending, RegularExpression.matches'_add, Language.mem_add, mem_char_mul] at h
  obtain h | ⟨_, _, ⟨⟩⟩ := h
  · exact avoids_exponent rfl rfl c rest h
  · rfl

/-- A numeral without its sign has digits in front of its ending, or it has a point in front of its digits. -/
theorem mem_unsigned : cs ∈ (mantissa * exponent).matches' ↔
    (cs.takeWhile Char.isDigit ≠ [] ∧ cs.dropWhile Char.isDigit ∈ ending.matches') ∨
    ∃ rest, cs = '.' :: rest ∧ rest.takeWhile Char.isDigit ≠ [] ∧
      isExponent (rest.dropWhile Char.isDigit) = true := by
  have split : (mantissa * exponent).matches' =
      (digits * ending).matches' + (char '.' * (digits * exponent)).matches' := by
    simp only [mantissa, ending, optional, RegularExpression.matches'_mul, RegularExpression.matches'_add,
      RegularExpression.matches'_epsilon, add_mul, mul_add, mul_one, mul_assoc]
  rw [split, Language.mem_add, mem_digits_mul avoids_ending, mem_char_mul]
  refine or_congr_right ⟨?_, ?_⟩
  · rintro ⟨rest, hrest, rfl⟩
    rw [mem_digits_mul (avoids_exponent rfl rfl), mem_exponent] at hrest
    exact ⟨rest, rfl, hrest⟩
  · rintro ⟨rest, rfl, hrest⟩
    exact ⟨rest, (mem_digits_mul (avoids_exponent rfl rfl)).2 (hrest.imp_right mem_exponent.2), rfl⟩

theorem avoids_unsigned : Avoids isSign (mantissa * exponent) := by
  intro c rest h
  rw [mem_unsigned] at h
  obtain ⟨some, -⟩ | ⟨_, ⟨⟩, -⟩ := h
  · cases digit : c.isDigit with
    | true => exact not_isSign_of_isDigit digit
    | false =>
      rw [List.takeWhile_cons, digit] at some
      exact absurd rfl some
  · rfl

/-- A point behind the leading digits stands at the start if there are none of these. -/
theorem eq_point_cons_iff {afterPoint rest : List Char} (point : cs.dropWhile Char.isDigit = '.' :: afterPoint) :
    cs = '.' :: rest ↔ cs.takeWhile Char.isDigit = [] ∧ rest = afterPoint := by
  constructor
  · rintro rfl
    exact ⟨rfl, (List.cons.inj point).2⟩
  · rintro ⟨none, rfl⟩
    have whole := List.takeWhile_append_dropWhile (p := Char.isDigit) (l := cs)
    rw [none, point] at whole
    exact whole.symm

/-- A text is scanned successfully if and only if it is a word of the grammar. -/
theorem isDecimal_iff : isDecimal cs = true ↔ cs ∈ grammar.matches' := by
  have split : grammar.matches' = (sign * (mantissa * exponent)).matches' := by
    simp only [grammar, RegularExpression.matches'_mul, mul_assoc]
  rw [split, mem_sign_mul avoids_unsigned, mem_unsigned, isDecimal]
  generalize dropSign cs = unsigned
  dsimp only
  split
  · next afterPoint point =>
    simp only [point, mem_ending_point, eq_point_cons_iff point, and_assoc, exists_and_left, exists_eq_left]
    cases hi : unsigned.takeWhile Char.isDigit <;> cases hf : afterPoint.takeWhile Char.isDigit <;> simp
  · next rest pointless =>
    rw [mem_ending_pointless pointless]
    have digitsFirst : ¬∃ rest, unsigned = '.' :: rest ∧ rest.takeWhile Char.isDigit ≠ [] ∧
        isExponent (rest.dropWhile Char.isDigit) = true := by
      rintro ⟨rest, rfl, -⟩
      exact pointless rest rfl
    rw [or_iff_left digitsFirst]
    cases hi : unsigned.takeWhile Char.isDigit <;> simp

end SqlDialects.Numeral

namespace SqlDialects.Value

/-- A decimal becomes a literal if and only if its text is a word of the grammar, and the literal is written in
every dialect as this very text. Every other text is refused for what it is. -/
theorem literal_of_decimal (s : String) :
    ((decimal s).literal = .ok (.decimal s) ↔ s.toList ∈ Numeral.grammar.matches') ∧
    ((decimal s).literal = .error (.conversionFailed "BigDecimal" (.notDecimal s)) ↔
      s.toList ∉ Numeral.grammar.matches') ∧
    ∀ d : Dialect, (Literal.decimal s).text d = s := by
  rw [← Numeral.isDecimal_iff, literal]
  cases Numeral.isDecimal s.toList with
  | true => exact ⟨⟨fun _ => rfl, fun _ => rfl⟩, ⟨nofun, fun h => absurd rfl h⟩, fun _ => rfl⟩
  | false => exact ⟨⟨nofun, nofun⟩, ⟨fun _ => nofun, fun _ => rfl⟩, fun _ => rfl⟩

example : "-1.50e+3".toList ∈ Numeral.grammar.matches' := by decide

end SqlDialects.Value
