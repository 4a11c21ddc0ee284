import SqlDialects.Proofs.Correspondence.Statements

/-!
# Postgres and the standard

Without arrays as parameters, what Postgres drafts is what the standard drafts, but for casts and for a FETCH
clause with a percentage, which Postgres refuses. No cast is carried out: only HSQL ever leaves the plain mode.
So a translation for Postgres is that of the standard, or fails at such a clause.
-/

namespace SqlDialects

/-- In the plain mode, the second draft writes what the first one does and gives up where it does, unless it
gives up at a FETCH clause with a percentage. -/
def Draft.FollowsPlainly (x y : Draft) : Prop :=
  ∀ depth, y.refusal? .plain depth = x.refusal? .plain depth ∧ y.writes .plain depth = x.writes .plain depth ∨
    ∃ kind, kind.isPercent = true ∧ y.refusal? .plain depth = some (.invalidFetch kind .postgres)

namespace Draft.FollowsPlainly

variable {x x' y y' : Draft}

theorem refl (x : Draft) : x.FollowsPlainly x := fun _ => .inl ⟨rfl, rfl⟩

theorem append (hx : x.FollowsPlainly x') (hy : y.FollowsPlainly y') : (x ++ y).FollowsPlainly (x' ++ y') := by
  intro depth
  have refusal (a b : Draft) :
      (a ++ b).refusal? .plain depth = (a.refusal? .plain depth).or (b.refusal? .plain depth) := rfl
  have writes (a b : Draft) : (a ++ b).writes .plain depth =
      a.writes .plain depth ++ if (a.refusal? .plain depth).isNone then b.writes .plain depth else [] := rfl
  simp only [refusal, writes]
  rcases hx depth with ⟨sameRefusal, sameWrites⟩ | ⟨kind, percent, refused⟩
  · rw [sameRefusal, sameWrites]
    cases x.refusal? .plain depth with
    | some cause => exact .inl ⟨rfl, rfl⟩
    | none =>
      rcases hy depth with ⟨sameRefusal, sameWrites⟩ | ⟨kind, percent, refused⟩
      · exact .inl ⟨sameRefusal, congrArg _ sameWrites⟩
      · exact .inr ⟨kind, percent, refused⟩
  · exact .inr ⟨kind, percent, by rw [refused, Option.some_or]⟩

theorem nested (hx : x.FollowsPlainly x') : (Draft.nested x).FollowsPlainly (.nested x') := fun depth =>
  hx (depth + 1)

theorem whenNested (hx : x.FollowsPlainly x') : (Draft.whenNested x).FollowsPlainly (.whenNested x') := by
  intro depth
  simp only [refusal?, writes]
  split
  · exact .inl ⟨rfl, rfl⟩
  · exact hx depth

end Draft.FollowsPlainly

theorem Draft.congruence_followsPlainly : Draft.Congruence .ansi .postgres Draft.FollowsPlainly where
  like := .inr ⟨rfl, rfl⟩
  refl := .refl
  append := .append
  nested := .nested
  whenNested := .whenNested
  inMode _ := nofun
  byMode := nofun

/-! ## Texts -/

theorem Literal.text_postgres (l : Literal) : l.text .postgres = l.text .ansi := by
  cases l with
  | boolean b => cases b <;> rfl
  | _ => rfl

theorem Token.text_postgres (t : Token) : t.text .postgres = t.text .ansi := by
  cases t with
  | literal l => exact l.text_postgres
  | qualifiedName qualifier? _ => cases qualifier? <;> rfl
  | _ => rfl

/-- The two dialects write the same tokens as the same text. -/
theorem Token.textOfAll_postgres (ts : List Token) : textOfAll .postgres ts = textOfAll .ansi ts := by
  unfold textOfAll
  rw [funext Token.text_postgres]

theorem BasicType.literalText_postgres (b : BasicType) (v : Value) :
    b.literalText .postgres v = b.literalText .ansi v := by
  unfold literalText
  simp only [Literal.text_postgres]

theorem ArrayMarshaller.literalText_postgres (m : ArrayMarshaller) (v : Value) :
    m.literalText .postgres v = m.literalText .ansi v := by
  unfold literalText
  simp only [funext m.element.literalText_postgres]

/-! ## Contexts -/

section Contexts

variable (binding : Bool) (types : TypeRegistry) (bindings? : Option Bindings)

/-- The context of Postgres without arrays as parameters. -/
def TranslationContext.postgresBaseline : TranslationContext := ⟨.postgres, ⟨false⟩, types, bindings?⟩

/-- The context of the standard, whether arrays are asked for or not. -/
def TranslationContext.standardBaseline : TranslationContext := ⟨.ansi, ⟨binding⟩, types, bindings?⟩

open TranslationContext

theorem TranslationContext.bindsArrays_baseline : (postgresBaseline types bindings?).bindsArrays =
    (standardBaseline binding types bindings?).bindsArrays := by
  cases binding <;> rfl

theorem TranslationContext.literalDraft_postgresBaseline (v : Value) (type : ResolvedType) :
    (postgresBaseline types bindings?).literalDraft v type =
      (standardBaseline binding types bindings?).literalDraft v type := by
  unfold literalDraft
  simp only [postgresBaseline, standardBaseline, ArrayMarshaller.literalText_postgres]
  rfl

/-- A FETCH clause with a percentage is the only row limit at which Postgres leaves the standard. -/
theorem Draft.FollowsPlainly.limitClause {l l' : RowLimit} (hl : l.Related Draft.FollowsPlainly l') :
    (Dialect.ansi.limitClause l).FollowsPlainly (Dialect.postgres.limitClause l') := by
  have clause := Draft.congruence_followsPlainly.offsetFetchClause hl true
  obtain ⟨offset, fetch⟩ := l
  obtain ⟨offset', fetch'⟩ := l'
  cases fetch' with
  | none => exact clause
  | some f =>
    simp only [Dialect.limitClause]
    split
    · next percent => exact fun _ => .inr ⟨f.2, percent, rfl⟩
    · exact clause

theorem TranslationContext.congruence_baseline : Draft.Congruence
    (standardBaseline binding types bindings?).dialect (postgresBaseline types bindings?).dialect
    Draft.FollowsPlainly :=
  Draft.congruence_followsPlainly

theorem TranslationContext.correspond_baseline : (standardBaseline binding types bindings?).Correspond
    (postgresBaseline types bindings?) (fun _ => True) Draft.FollowsPlainly where
  toCongruence := congruence_baseline binding types bindings?
  literal v type := by
    rw [literalDraft_postgresBaseline binding]
    exact .refl _
  parameter _ := fun _ => .inl ⟨rfl, rfl⟩
  limits _ _ := .limitClause
  multiValued _ _ _ same := (congruence_baseline binding types bindings?).inMultiValued
    (bindsArrays_baseline binding types bindings?) (fun _ _ => .inl ⟨rfl, rfl⟩) (fun _ => rfl) same
  items negated same list := (congruence_baseline binding types bindings?).inItems
    (bindsArrays_baseline binding types bindings?) same list negated

namespace Statement

variable (s : Statement)

/-- Postgres translates like the standard, or fails at a FETCH clause with a percentage. -/
theorem translate_postgres_or :
    s.translate (postgresBaseline types bindings?) = s.translate (standardBaseline binding types bindings?) ∨
      ∃ kind, kind.isPercent = true ∧
        s.translate (postgresBaseline types bindings?) = .error (.rejected (.invalidFetch kind .postgres)) := by
  rw [translate_eq, translate_eq]
  rcases s.draft_related (correspond_baseline binding types bindings?) (fun _ _ => trivial) 0 with
    ⟨refusal, writes⟩ | ⟨kind, percent, refused⟩
  · have pages : s.page (postgresBaseline types bindings?) = s.page (standardBaseline binding types bindings?) :=
      congrArg Page.blank.writeAll writes
    have operation (page : Page) : page.operation .postgres = page.operation .ansi := by
      unfold Page.operation
      rw [Token.textOfAll_postgres]
    left
    rw [refusal, pages, show (postgresBaseline types bindings?).dialect = .postgres from rfl, operation]
    rfl
  · right
    exact ⟨kind, percent, by rw [refused]⟩

/-- Where a translation for Postgres without arrays succeeds, that for the standard does, with the same text
and parameters; where only the one for Postgres fails, it is for a FETCH clause with a percentage. If the one
for the standard fails then that for Postgres does, and in the same way but for such a clause. -/
theorem translate_postgres :
    (∀ op, s.translate (postgresBaseline types bindings?) = .ok op →
      s.translate (standardBaseline binding types bindings?) = .ok op) ∧
    (∀ op failure, s.translate (standardBaseline binding types bindings?) = .ok op →
      s.translate (postgresBaseline types bindings?) = .error failure →
      ∃ kind, kind.isPercent = true ∧ failure = .rejected (.invalidFetch kind .postgres)) ∧
    (∀ failure, s.translate (standardBaseline binding types bindings?) = .error failure →
      s.translate (postgresBaseline types bindings?) = .error failure ∨
        ∃ kind, kind.isPercent = true ∧
          s.translate (postgresBaseline types bindings?) = .error (.rejected (.invalidFetch kind .postgres))) := by
  rcases s.translate_postgres_or binding types bindings? with same | ⟨kind, percent, refused⟩
  · rw [same]
    refine ⟨fun _ ok => ok, fun _ _ ok failed => ?_, fun _ failed => .inl failed⟩
    rw [ok] at failed
    cases failed
  · rw [refused]
    refine ⟨nofun, fun _ _ _ failed => ⟨kind, percent, ?_⟩, fun _ _ => .inr ⟨kind, percent, rfl⟩⟩
    cases failed
    rfl

end Statement

end Contexts

namespace Statement

/-- A statement that is limited to some rows of a table. -/
def fetchesTen (kind : FetchKind) : Statement :=
  .select (.select
    { items := [⟨.column none "id" none, none⟩]
      tables := [⟨"t", none⟩]
      fetch := some { count := .literal (.integer .int ⟨10, by decide⟩) ⟨"integer", .ofCode .integer⟩, kind } })

/-- Ten rows are the same to both; ten percent of the rows Postgres refuses, and only for that. -/
theorem translate_postgres_fetchesTen :
    (∃ op, (fetchesTen .rowsOnly).translate (.postgresBaseline .standard none) = .ok op ∧
      (fetchesTen .rowsOnly).translate (.standardBaseline true .standard none) = .ok op) ∧
    (∃ op failure, (fetchesTen .percentOnly).translate (.standardBaseline true .standard none) = .ok op ∧
      (fetchesTen .percentOnly).translate (.postgresBaseline .standard none) = .error failure ∧
      ∃ kind, kind.isPercent = true ∧ failure = .rejected (.invalidFetch kind .postgres)) :=
  ⟨⟨_, rfl, (translate_postgres true .standard none (fetchesTen .rowsOnly)).1 _ rfl⟩,
    ⟨_, _, rfl, rfl, (translate_postgres true .standard none (fetchesTen .percentOnly)).2.1 _ _ rfl rfl⟩⟩

end Statement

end SqlDialects
