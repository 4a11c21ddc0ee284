import SqlDialects.Proofs.Test.Operators
import SqlDialects.Proofs.Translation.Writable

/-!
# What MySQL has no words for

MySQL tells values apart by `<=>`, and has neither arrays nor concatenation by an operator, and no FILTER, FETCH
or NULLS clauses. Nothing of this is on a page for MySQL, with one exception: a comparison of two row values that
tells them apart is spelled as in other dialects. Such an operator is on the page if such a comparison is reached
in the course of the translation, and otherwise not (`Statement.operators_for_mysql`).
-/

namespace SqlDialects

open Draft

namespace Dialect

/-- Texts that MySQL does not know: operators that tell values apart, and what makes arrays and looks into
them. -/
def mysqlLacks : List String :=
  ["is distinct from", "is not distinct from", "array[", "ARRAY[", "ANY(", "ALL(", "UNNEST("]

/-- One of these characters is in each of these texts. -/
def marksForeign (c : Char) : Bool := c == 'f' || c == '[' || c == 'A' || c == 'U'

/-- None of these characters is in the text. -/
def IsUnmarked (s : String) : Prop := s.toList.any marksForeign = false

instance (s : String) : Decidable (IsUnmarked s) := inferInstanceAs (Decidable (_ = _))

theorem IsUnmarked.append {s t : String} (hs : IsUnmarked s) (ht : IsUnmarked t) : IsUnmarked (s ++ t) := by
  rw [IsUnmarked, String.toList_append, List.any_append, hs, ht]
  rfl

theorem marked_of_mem_mysqlLacks : ∀ part ∈ mysqlLacks, ¬IsUnmarked part := by
  decide

theorem IsUnmarked.avoids {text : String} (h : IsUnmarked text) :
    ∀ part ∈ mysqlLacks, ¬part.toList <:+: text.toList := by
  intro part hpart inside
  refine marked_of_mem_mysqlLacks part hpart (List.any_eq_false.2 fun c hc => ?_)
  exact List.any_eq_false.1 h c (inside.subset hc)

theorem isUnmarked_toString_nat (n : Nat) : IsUnmarked (toString n) := by
  refine List.any_eq_false.2 fun c hc mark => ?_
  rw [show (toString n).toList = Nat.toDigits 10 n from Nat.toList_repr] at hc
  have digit : c.isDigit = true := Nat.isDigit_of_mem_toDigits (by decide) (by decide) hc
  simp only [marksForeign, Bool.or_eq_true, beq_iff_eq] at mark
  rcases mark with ((rfl | rfl) | rfl) | rfl <;> revert digit <;> decide

theorem isUnmarked_sized {name : String} (h : IsUnmarked name) (length : Option UInt32) :
    IsUnmarked (sized name length) := by
  cases length with
  | none => exact h
  | some n =>
    have front : IsUnmarked "(" := by decide
    have close : IsUnmarked ")" := by decide
    exact ((h.append front).append (isUnmarked_toString_nat n.toNat)).append close

theorem isUnmarked_mysqlTypeName (length : Option UInt32) (code : TypeCode) :
    IsUnmarked (mysqlTypeName length code) := by
  have char : IsUnmarked "char" := by decide
  cases code with
  | char | varchar | other | array => exact isUnmarked_sized char length
  | _ => rw [mysqlTypeName]; decide

/-- A fragment has none of these texts in it. -/
theorem Fragment.avoids_of_mysql {text : String} (h : mysql.Fragment text) :
    ∀ part ∈ mysqlLacks, ¬part.toList <:+: text.toList := by
  cases h with
  | shared h =>
    revert text
    decide +kernel
  | own h =>
    revert text
    decide +kernel
  | type t =>
    have front : IsUnmarked " as " := by decide
    have close : IsUnmarked ")" := by decide
    exact ((front.append (isUnmarked_mysqlTypeName t.length t.code)).append close).avoids
  | length _ hsql => cases hsql
  | array arrays _ => cases arrays

/-- Nor has an operator, unless it tells values apart. -/
theorem avoids_of_mysql_operator : ∀ text ∈ mysql.operatorTexts,
    (∃ op ∈ ComparisonOperator.every, op.isDistinction = true ∧ text = op.spacedText) ∨
      ∀ part ∈ mysqlLacks, ¬part.toList <:+: text.toList := by
  decide +kernel

end Dialect

/-! ## Tests that tell values apart -/

section Mysql

variable {ctx : TranslationContext} (mysql : ctx.dialect = .mysql) {lhs rhs : Expression}
  {op : ComparisonOperator}

theorem ComparisonOperator.spacedText_injective : ∀ op ∈ every, ∀ other ∈ every,
    op.spacedText = other.spacedText → op = other := by
  decide +kernel

theorem ComparisonOperator.mem_every (op : ComparisonOperator) : op ∈ every := by
  cases op <;> decide

/-- MySQL compares row values with each other as they are. -/
theorem Dialect.isRow_of_comparesAsIs (h : Dialect.mysql.comparesAsIs lhs rhs = true)
    (row : (lhs.isRow || rhs.isRow) = true) : ∃ xs ys, lhs = .tuple xs ∧ rhs = .tuple ys := by
  cases lhs with
  | tuple xs =>
    cases rhs with
    | tuple ys => exact ⟨xs, ys, rfl, rfl⟩
    | _ => cases h
  | _ =>
    cases rhs with
    | tuple ys => cases h
    | _ => cases row

include mysql

/-- Values that are no row values are told apart by the null-safe equality. -/
theorem Predicate.test?_of_isDistinction (distinction : op.isDistinction = true) (left : lhs.isRow = false)
    (right : rhs.isRow = false) : (Predicate.comparison lhs op rhs).test? ctx =
      some ⟨lhs, " <=> ", .expressions [rhs], if op = .distinctFrom then .negated else .bare⟩ := by
  rw [test?, Dialect.comparisonTest?, Dialect.peculiarTest?.eq_def, mysql]
  simp only [distinction, left, right]
  rfl

theorem Dialect.arrayTest?_of_mysql (test : Expression) (array : RightSide) (negated : Bool) :
    ctx.dialect.arrayTest? test array negated = none := by
  rw [mysql]
  rfl

/-- Membership in a list has operators of its own. -/
theorem TranslationContext.operator_of_listTest? {test : Expression} {list : List Expression} {negated : Bool}
    {t : Test} (h : ctx.listTest? test list negated = some t) : t.operator ∈ [" in(", " not in("] := by
  have written (right : RightSide) : (Test.writtenList test right negated).operator ∈ [" in(", " not in("] := by
    cases negated <;> simp [Test.writtenList]
  obtain ⟨-, none, -⟩ | ⟨name, type, -, same, -⟩ | ⟨-, same, -⟩ := ctx.listTest?_cases test list negated
  · rw [none] at h
    cases h
  · rw [same, multiValuedTest?, Dialect.arrayTest?_of_mysql mysql] at h
    split at h
    · cases h
    · split at h <;> cases h
      exact written _
  · rw [same] at h
    split at h
    · cases h
    · unfold itemsTest? at h
      split at h
      · rw [Dialect.arrayTest?_of_mysql mysql] at h
        cases h
      · cases h
        exact written _

/-- Any other operator that tells values apart has row values on both sides. -/
theorem Predicate.eq_comparison_of_test? {p : Predicate} {t : Test} (test : p.test? ctx = some t)
    (distinction : op.isDistinction = true) (text : t.operator = op.spacedText) :
    ∃ xs ys, p = .comparison (.tuple xs) op (.tuple ys) := by
  have other : ∀ text ∈ [" <=> ", " in(", " not in("], text ≠ op.spacedText := by
    cases op <;> decide
  cases p with
  | comparison lhs op' rhs =>
    rw [test?, Dialect.comparisonTest?, Option.orElse_eq_orElse, Option.orElse_eq_or, Option.or_eq_some_iff,
      Dialect.peculiarTest?.eq_def, mysql] at test
    simp only at test
    obtain own | ⟨noSpelling, asIs⟩ := test
    · split at own <;> cases own
      exact absurd text (other " <=> " (by decide))
    · split at asIs
      · next same =>
        cases asIs
        obtain rfl := ComparisonOperator.spacedText_injective _ op'.mem_every _ op.mem_every text
        have row : (lhs.isRow || rhs.isRow) = true := by
          cases row : lhs.isRow || rhs.isRow with
          | true => rfl
          | false =>
            rw [distinction, row] at noSpelling
            cases noSpelling
        obtain ⟨xs, ys, rfl, rfl⟩ := Dialect.isRow_of_comparesAsIs same row
        exact ⟨xs, ys, rfl⟩
      · cases asIs
  | inList e list negated =>
    have own : t.operator ∈ [" in(", " not in("] := TranslationContext.operator_of_listTest? mysql test
    exact absurd text (other _ (List.mem_cons_of_mem _ own))
  | inArray e array negated =>
    cases array with
    | none => cases test
    | some array =>
      rw [test?, Dialect.arrayTest?_of_mysql mysql] at test
      cases test
  | tupleSubquery row op' query =>
    rw [test?, Dialect.comparisonTest?, Dialect.peculiarTest?_tuple, mysql] at test
    cases test
  | _ => cases test

theorem Predicate.test?_of_rows {xs ys : List Expression} (lengths : xs.length = ys.length)
    (op : ComparisonOperator) :
    (Predicate.comparison (.tuple xs) op (.tuple ys)).test? ctx =
      some ⟨.tuple xs, op.spacedText, .expressions [.tuple ys], .bare⟩ := by
  rw [test?, Dialect.comparisonTest?, Dialect.peculiarTest?_tuple, mysql]
  simp [Dialect.comparesAsIs, Dialect.capabilities, lengths]

end Mysql

/-! ## Statements -/

namespace Statement

variable {ctx : TranslationContext} {s : Statement}

/-- A comparison of two row values is spelled as in other dialects, whatever the operator. -/
theorem mem_page_of_rows (mysql : ctx.dialect = .mysql) {op : Operation} (success : s.translate ctx = .ok op)
    {xs ys : List Expression} {comparison : ComparisonOperator} {there : Page}
    (reached : (s.draft ctx).CarriesOut .blank ((Predicate.comparison (.tuple xs) comparison (.tuple ys)).draft ctx)
      there) : .raw comparison.spacedText ∈ (s.page ctx).tokens := by
  obtain ⟨done, written⟩ := written_of_carriesOut success reached
  by_cases lengths : xs.length = ys.length
  · have test := Predicate.test?_of_rows mysql lengths comparison
    have form := Predicate.draft_of_test? ctx test
    have ne : comparison.spacedText ≠ "" := by cases comparison <;> decide
    rw [form] at done written
    exact Array.mem_toList_iff.1 (written.subset (List.mem_append_right _ (mem_tokens_test ne done)))
  · have looks : ctx.dialect.overlooks (.tuple xs) comparison (.tuple ys) = false := by
      rw [mysql]
      rfl
    rw [(Expression.Mismatches.lengths lengths).draft_eq_refuse ctx looks] at done
    cases done

/-- What a translation for MySQL has besides names and constants. The page has neither the operator of
concatenation nor words of clauses that MySQL does not have, and a text that is written as it is has nothing in
it that MySQL lacks, unless it is an operator that tells values apart. Such an operator is on the page if two row
values are compared by it, and otherwise not; for other values it is written as `<=>`. -/
theorem operators_for_mysql (mysql : ctx.dialect = .mysql) {op : Operation} (success : s.translate ctx = .ok op) :
    Token.textOfAll .mysql (s.page ctx).tokens.toList = .ok op.sql ∧
    (.concat ∉ (s.page ctx).tokens ∧
      ∀ w ∈ [Keyword.filter, .nullsFirst, .nullsLast, .fetch], .keyword w ∉ (s.page ctx).tokens) ∧
    (∀ text, .raw text ∈ (s.page ctx).tokens →
      (∃ op ∈ ComparisonOperator.every, op.isDistinction = true ∧ text = op.spacedText) ∨
        ∀ part ∈ Dialect.mysqlLacks, ¬part.toList <:+: text.toList) ∧
    (∀ op : ComparisonOperator, op.isDistinction = true → (.raw op.spacedText ∈ (s.page ctx).tokens ↔
      ∃ xs ys there, (s.draft ctx).CarriesOut .blank
        ((Predicate.comparison (.tuple xs) op (.tuple ys)).draft ctx) there)) ∧
    ∀ lhs (op : ComparisonOperator) rhs there, op.isDistinction = true → lhs.isRow = false → rhs.isRow = false →
      (s.draft ctx).CarriesOut .blank ((Predicate.comparison lhs op rhs).draft ctx) there →
      let t : Test := ⟨lhs, " <=> ", .expressions [rhs], if op = .distinctFrom then .negated else .bare⟩
      there.tokens.toList ++ (t.draft ctx).tokens there.mode there.depth <+: (s.page ctx).tokens.toList := by
  have sound := fun t => s.sound_of_mem_page ctx (t := t)
  refine ⟨?_, ⟨fun concat => ?_, fun w hw word => ?_⟩, fun text raw => ?_, fun op distinction => ⟨fun raw => ?_, ?_⟩,
    fun lhs op rhs there distinction left right reached => ?_⟩
  · have text := (of_translate_eq_ok success).2.1
    rwa [mysql] at text
  · have known := sound _ concat
    rw [mysql] at known
    cases known
  · have known := sound _ word
    rw [mysql] at known
    have unknown : ∀ w ∈ [Keyword.filter, .nullsFirst, .nullsLast, .fetch],
        Dialect.mysql.capabilities.hasWord w = false := by decide
    exact absurd known (by rw [Token.Sound, unknown w hw]; nofun)
  · have known := sound _ raw
    rw [mysql] at known
    exact known.elim (fun fragment => .inr fragment.avoids_of_mysql) (Dialect.avoids_of_mysql_operator text)
  · obtain ⟨i, place⟩ := Array.getElem?_of_mem raw
    obtain ⟨p, t, there, reached, test, text, -⟩ := test_of_operator place (op.spacedText_mem _)
    obtain ⟨xs, ys, rfl⟩ := Predicate.eq_comparison_of_test? mysql test distinction text
    exact ⟨xs, ys, there, reached⟩
  · rintro ⟨xs, ys, there, reached⟩
    exact mem_page_of_rows mysql success reached
  · have form := Predicate.draft_of_test? ctx (Predicate.test?_of_isDistinction mysql distinction left right)
    have written := (written_of_carriesOut success reached).2
    rwa [form] at written

end Statement

/-- A query for the rows in which two row values are not distinct. -/
def SelectQuery.comparesPairs : SelectQuery where
  items := [⟨.column none "id" none, none⟩]
  tables := [⟨"t", none⟩]
  filter := some (.comparison (.tuple [.column none "a" none, .column none "b" none]) .notDistinctFrom
    (.tuple [.column none "c" none, .column none "d" none]))

/-- The operator of other dialects stands between the row values. -/
theorem Statement.operators_for_mysql_of_comparesPairs :
    let ctx := TranslationContext.ofDialect .mysql
    let s := Statement.select (.select .comparesPairs)
    (∃ op, s.translate ctx = .ok op) ∧ .raw " is not distinct from " ∈ (s.page ctx).tokens := by
  intro ctx s
  let front : List Token := [.keyword .select, .space, .qualifiedName none "id", .space, .keyword .fromWord, .space,
    .name "t", .space, .keyword .whereWord, .space]
  have reached : (s.draft ctx).CarriesOut .blank
      ((Predicate.comparison (.tuple [.column none "a" none, .column none "b" none]) .notDistinctFrom
        (.tuple [.column none "c" none, .column none "d" none])).draft ctx) ⟨front.toArray, #[], [], 0⟩ := by
    refine .second rfl (.second rfl ?_)
    exact .first (.first (.first (.first (.second rfl (.second rfl (.itself _ _))))))
  have mysql : ctx.dialect = .mysql := rfl
  have success : s.translate ctx = .ok _ := rfl
  obtain ⟨-, -, -, rows, -⟩ := operators_for_mysql mysql success
  exact ⟨⟨_, rfl⟩, (rows .notDistinctFrom rfl).2 ⟨_, _, _, reached⟩⟩

end SqlDialects
