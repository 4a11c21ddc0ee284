import SqlDialects.Proofs.Draft.Casts
import SqlDialects.Proofs.Draft.Operands

/-!
# The results of a CASE

HSQL gives a CASE the type of its results and has none for bare placeholders. It therefore puts the first
result of a CASE into a cast if every result is a constant or a placeholder that would stand bare. A CASE that
is written has its results between the words of its arms (`Choice.layout`), so at least one of them says what
its type is, and none is put into a cast that already stands in one (`Expression.results_of_run`).
-/

namespace SqlDialects

open Draft

/-! ## What is more than a placeholder -/

namespace Draft

variable {x y : Draft} {mode : RenderingMode} {depth : Nat}

/-- Some token that is no placeholder is written. -/
def Shows (x : Draft) (mode : RenderingMode) (depth : Nat) : Prop :=
  ∃ t ∈ x.tokens mode depth, t ≠ Token.placeholder

theorem shows_token {t : Token} (h : t ≠ .placeholder) : (token t).Shows mode depth :=
  ⟨t, List.mem_singleton.2 rfl, h⟩

theorem shows_raw {s : String} (h : s ≠ "") : (raw s).Shows mode depth := by
  rw [raw_of_ne h]
  exact shows_token nofun

/-- What is written first is written, whatever follows. -/
theorem Shows.append (h : x.Shows mode depth) : (x ++ y).Shows mode depth := by
  obtain ⟨t, ht, other⟩ := h
  refine ⟨t, ?_, other⟩
  change t ∈ (x.writes mode depth
    ++ if (x.refusal? mode depth).isNone then y.writes mode depth else []).map Write.added
  rw [List.map_append]
  exact List.mem_append_left _ ht

theorem Shows.behind (h : y.Shows mode depth) (hx : x.refusal? mode depth = none) :
    (x ++ y).Shows mode depth := by
  obtain ⟨t, ht, other⟩ := h
  rw [Shows, tokens_append hx]
  exact ⟨t, List.mem_append_right _ ht, other⟩

theorem shows_parens : (parens x).Shows mode depth :=
  ((shows_token (t := .leftParen) nofun).append).append

theorem shows_word (w : Keyword) : (word w).Shows mode depth :=
  shows_token (t := .keyword w) nofun

theorem Shows.tokens_ne (h : x.Shows mode depth) : x.tokens mode depth ≠ [.placeholder] := by
  intro bare
  obtain ⟨t, ht, other⟩ := h
  rw [bare, List.mem_singleton] at ht
  exact other ht

end Draft

section Shows

variable {ctx : TranslationContext} {mode : RenderingMode} {depth : Nat}

theorem TranslationContext.shows_literalDraft (value : Value) (type : ResolvedType) :
    (ctx.literalDraft value type).refusal? mode depth = none → (ctx.literalDraft value type).Shows mode depth := by
  unfold literalDraft
  split
  · split
    · split
      · nofun
      · split
        · nofun
        · split
          · nofun
          · exact fun _ => shows_token nofun
    · nofun
  · dsimp only
    split
    · nofun
    · exact fun _ => shows_token nofun

theorem Dialect.shows_arithmetic (d : Dialect) (op : ArithmeticOperator) (x y : Draft) :
    (d.arithmetic op x y).Shows mode depth := by
  unfold arithmetic
  split
  · split
    · exact ((((shows_raw (by decide)).append).append).append).append
    · exact ((((((shows_raw (by decide)).append).append).append).append).append).append
  · exact shows_parens

theorem Choice.shows_standard (d : Dialect) (cast : Bool) (c : Choice) :
    (c.standard d cast).refusal? mode depth = none → (c.standard d cast).Shows mode depth := by
  unfold standard
  split
  · nofun
  · exact fun _ => ((((shows_word .caseWord).append).append).append).append

theorem Choice.shows_draft (d : Dialect) (c : Choice) :
    (c.draft d).refusal? mode depth = none → (c.draft d).Shows mode depth := by
  unfold draft
  split
  · cases mode with
    | plain => exact shows_standard .hsql _ c
    | typed => exact shows_standard .hsql _ c
  · exact shows_standard d false c

/-- Only a parameter is written as a placeholder and nothing else. -/
theorem Expression.shows_draft {e : Expression} (other : e.isParameter = false)
    (h : (e.operand ctx).draft.refusal? mode depth = none) : (e.operand ctx).draft.Shows mode depth := by
  cases e with
  | column => exact shows_token (by simp)
  | literal value type => exact ctx.shows_literalDraft value type h
  | parameter => cases other
  | arithmetic op lhs rhs => exact ctx.dialect.shows_arithmetic op _ _
  | caseSearched case =>
    cases case
    rw [Expression.operand] at *
    exact Choice.shows_draft _ _ h
  | caseSimple case =>
    cases case
    rw [Expression.operand] at *
    exact Choice.shows_draft _ _ h
  | tuple =>
    rw [Expression.operand]
    exact shows_parens
  | summarization kind =>
    rw [Expression.operand]
    exact (shows_raw (by cases kind <;> decide)).append
  | function name =>
    rw [Expression.operand]
    exact (shows_token (t := .functionName name) (by simp)).append
  | aggregate call =>
    obtain ⟨name, _, _, _, _⟩ := call
    rw [Expression.operand]
    exact ((shows_token (t := .functionName name) (by simp)).append).append
  | windowed window =>
    cases window
    rw [Expression.operand] at *
    have function := (refusal?_append_eq_none.1 (refusal?_append_eq_none.1 h).1).1
    have word : (spacedWord .overWord).Shows mode depth := ((shows_word .overWord).behind rfl).append
    exact (word.behind function).append
  | subquery q =>
    rw [Expression.operand]
    cases q.form ctx <;> exact shows_parens

end Shows

/-! ## The tokens of a CASE -/

namespace Choice

/-- The tokens of the results, the first one within a cast if asked for. -/
def resultTokens (d : Dialect) (castFirst : Bool) (mode : RenderingMode) (depth : Nat) :
    List Operand → List (List Token)
  | [] => []
  | o :: os => (if castFirst then o.casted d else o.draft).tokens mode depth
      :: os.map (·.draft.tokens mode depth)

/-- The tokens of an arm whose result is written with the given tokens. -/
def armLayout (mode : RenderingMode) (depth : Nat) (arm : ChoiceArm) (result : List Token) : List Token :=
  [.space, .keyword .whenWord, .space] ++ arm.test.tokens mode depth
    ++ [.space, .keyword .thenWord, .space] ++ result

/-- The tokens of a CASE whose results are written with the given tokens. -/
def layout (c : Choice) (mode : RenderingMode) (depth : Nat) (results : List (List Token)) : List Token :=
  [.keyword .caseWord]
    ++ c.subject.elim [] (fun s => .space :: s.tokens mode depth)
    ++ (List.zipWith (armLayout mode depth) c.arms results).flatten
    ++ c.otherwise.elim [] (fun o => [.space, .keyword .elseWord, .space] ++ o.draft.tokens mode depth)
    ++ [.space, .keyword .endWord]

variable {d : Dialect} {mode : RenderingMode} {depth : Nat}

theorem tokens_armDraft {cast : Bool} {arm : ChoiceArm}
    (h : (armDraft d cast arm).refusal? mode depth = none) :
    (armDraft d cast arm).tokens mode depth =
      armLayout mode depth arm ((if cast then arm.result.casted d else arm.result.draft).tokens mode depth) := by
  obtain ⟨front, -⟩ := refusal?_append_eq_none.1 h
  obtain ⟨test, -⟩ := refusal?_append_eq_none.1 front
  rw [armDraft, tokens_append front, tokens_append test, tokens_append rfl]
  rfl

theorem tokens_armDrafts {cast : Bool} {arms : List ChoiceArm}
    (h : (armDrafts d cast arms).refusal? mode depth = none) :
    (armDrafts d cast arms).tokens mode depth =
      (List.zipWith (armLayout mode depth) arms
        (resultTokens d cast mode depth (arms.map (·.result)))).flatten := by
  induction arms generalizing cast with
  | nil => rfl
  | cons arm arms ih =>
    obtain ⟨first, others⟩ := refusal?_append_eq_none.1 h
    have rest : resultTokens d false mode depth (arms.map (·.result)) =
        (arms.map (·.result)).map (·.draft.tokens mode depth) := by
      cases arms <;> rfl
    rw [armDrafts, tokens_append first, tokens_armDraft first, ih others, rest]
    rfl

/-- If the arms can be written, so can each result. -/
theorem refusal?_results {cast : Bool} {arm : ChoiceArm} {arms : List ChoiceArm}
    (h : (armDrafts d cast (arm :: arms)).refusal? mode depth = none) :
    (if cast then arm.result.casted d else arm.result.draft).refusal? mode depth = none ∧
      ∀ other ∈ arms, other.result.draft.refusal? mode depth = none := by
  obtain ⟨first, others⟩ := refusal?_append_eq_none.1 h
  refine ⟨(refusal?_append_eq_none.1 first).2, ?_⟩
  clear h first
  induction arms with
  | nil => nofun
  | cons next arms ih =>
    obtain ⟨here, rest⟩ := refusal?_append_eq_none.1 others
    exact List.forall_mem_cons.2 ⟨(refusal?_append_eq_none.1 here).2, ih rest⟩

/-- A CASE that can be written has arms, which can be written. -/
theorem refusal?_arms (d : Dialect) (cast : Bool) (c : Choice) :
    (c.standard d cast).refusal? mode depth = none →
      c.arms ≠ [] ∧ (armDrafts d cast c.arms).refusal? mode depth = none := by
  unfold standard
  split
  · nofun
  · next some =>
    intro h
    have upToElse := (refusal?_append_eq_none.1 h).1
    have upToArms := (refusal?_append_eq_none.1 upToElse).1
    exact ⟨fun none => some (List.isEmpty_iff.2 none), (refusal?_append_eq_none.1 upToArms).2⟩

/-- A CASE is written with its results in their places. -/
theorem tokens_standard (d : Dialect) (cast : Bool) (c : Choice) :
    (c.standard d cast).refusal? mode depth = none →
      (c.standard d cast).tokens mode depth =
        c.layout mode depth (resultTokens d cast mode depth c.results) := by
  unfold standard
  split
  · nofun
  · intro h
    obtain ⟨upToElse, -⟩ := refusal?_append_eq_none.1 h
    obtain ⟨upToArms, last⟩ := refusal?_append_eq_none.1 upToElse
    obtain ⟨front, arms⟩ := refusal?_append_eq_none.1 upToArms
    have subject : (Draft.optional (c.subject.map fun s => space ++ s)).tokens mode depth =
        c.subject.elim [] (fun s => .space :: s.tokens mode depth) := by
      cases c.subject with
      | none => rfl
      | some s => exact tokens_append rfl
    have otherwise : (Draft.optional (c.otherwise.map fun o => spacedWord .elseWord ++ o.draft)).tokens mode depth =
        c.otherwise.elim [] (fun o => [.space, .keyword .elseWord, .space] ++ o.draft.tokens mode depth) := by
      cases c.otherwise with
      | none => rfl
      | some o => exact tokens_append rfl
    rw [tokens_append upToElse, tokens_append upToArms, tokens_append front, tokens_append rfl,
      tokens_armDrafts arms, subject, otherwise]
    rfl

/-- Whether the first result is put into a cast is a matter of the results alone. -/
theorem needsCast_eq (mode : RenderingMode) (c : Choice) : needsCast mode c = allPlain mode c.results := by
  cases mode with
  | typed => rfl
  | plain =>
    have parameters : allParameters c.results c.otherwise = true → allPlain .plain c.results = true := by
      simp only [allParameters, allPlain, Bool.and_eq_true, List.all_eq_true]
      rintro ⟨⟨some, all⟩, -⟩
      refine ⟨some, fun o ho => ?_⟩
      rw [all o ho]
      rfl
    rw [needsCast, Bool.or_eq_right_iff_imp]
    exact fun h => parameters (Bool.and_eq_true_iff.1 h).2

/-- Under HSQL a CASE is written after the mode of the surroundings. -/
theorem draft_hsql (hsql : d = .hsql) (c : Choice) (mode : RenderingMode) (depth : Nat) :
    (c.draft d).refusal? mode depth = (c.standard d (allPlain mode c.results)).refusal? mode depth ∧
      (c.draft d).tokens mode depth = (c.standard d (allPlain mode c.results)).tokens mode depth := by
  cases hsql
  cases mode with
  | plain =>
    rw [← needsCast_eq]
    exact ⟨rfl, rfl⟩
  | typed =>
    rw [← needsCast_eq]
    exact ⟨rfl, rfl⟩

end Choice

namespace Expression

/-- The results behind each THEN of a CASE. -/
def results : Expression → List Expression
  | caseSearched c => c.arms.map (·.result)
  | caseSimple c => c.arms.map (·.result)
  | _ => []

/-- The choice that a CASE is drafted as. -/
def choice? (ctx : TranslationContext) : Expression → Option Choice
  | caseSearched c => some ⟨none, searchedArms ctx c.arms, optionalOperand ctx c.otherwise⟩
  | caseSimple c =>
    some ⟨some (c.subject.operand ctx).draft, simpleArms ctx c.arms, optionalOperand ctx c.otherwise⟩
  | _ => none

variable {ctx : TranslationContext}

/-- An expression is drafted as a parameter or as a constant if it is one. -/
theorem shape_operand (ctx : TranslationContext) (e : Expression) :
    (e.operand ctx).isParameter = e.isParameter ∧ (e.operand ctx).isLiteral = e.isLiteral := by
  cases e with
  | column | literal | parameter | arithmetic => exact ⟨rfl, rfl⟩
  | caseSearched case | caseSimple case =>
    cases case
    rw [operand]
    exact ⟨rfl, rfl⟩
  | tuple | summarization | function =>
    rw [operand]
    exact ⟨rfl, rfl⟩
  | aggregate call =>
    cases call
    rw [operand]
    exact ⟨rfl, rfl⟩
  | windowed window =>
    cases window
    rw [operand]
    exact ⟨rfl, rfl⟩
  | subquery q =>
    rw [operand]
    cases q.form ctx <;> exact ⟨rfl, rfl⟩

/-- A CASE is drafted as its choice, over the same results. -/
theorem draft_of_choice? {e : Expression} {c : Choice} (h : e.choice? ctx = some c) :
    (e.operand ctx).draft = c.draft ctx.dialect ∧ c.results = e.results.map (·.operand ctx) := by
  cases e with
  | caseSearched case =>
    cases h
    have arms : ∀ arms : List SearchedArm,
        (searchedArms ctx arms).map (·.result) = (arms.map (·.result)).map (·.operand ctx) := by
      intro arms
      induction arms with
      | nil => rfl
      | cons arm arms ih =>
        obtain ⟨condition, result⟩ := arm
        rw [searchedArms, List.map_cons, ih, List.map_cons, List.map_cons]
    obtain ⟨list, otherwise⟩ := case
    rw [operand]
    exact ⟨rfl, arms list⟩
  | caseSimple case =>
    cases h
    have arms : ∀ arms : List SimpleArm,
        (simpleArms ctx arms).map (·.result) = (arms.map (·.result)).map (·.operand ctx) := by
      intro arms
      induction arms with
      | nil => rfl
      | cons arm arms ih =>
        obtain ⟨value, result⟩ := arm
        rw [simpleArms, List.map_cons, ih, List.map_cons, List.map_cons]
    obtain ⟨subject, list, otherwise⟩ := case
    rw [operand]
    exact ⟨rfl, arms list⟩
  | _ => cases h

/-- A result that tells no type: a constant, or a parameter in the mode in which it stands bare. -/
def isUntypedIn (mode : RenderingMode) (e : Expression) : Bool :=
  if e.isParameter then mode == .plain else e.isLiteral

theorem allPlain_operands (mode : RenderingMode) (es : List Expression) :
    Choice.allPlain mode (es.map (·.operand ctx)) = (!es.isEmpty && es.all (·.isUntypedIn mode)) := by
  have each : (fun e : Expression => if (e.operand ctx).isParameter then mode == .plain
      else (e.operand ctx).isLiteral) = (·.isUntypedIn mode) := by
    funext e
    rw [(e.shape_operand ctx).1, (e.shape_operand ctx).2]
    rfl
  rw [Choice.allPlain, List.all_map, List.isEmpty_map]
  exact congrArg (fun f => !es.isEmpty && es.all f) each

/-- Constants and parameters have a type of their own. -/
theorem exists_type?_of_isUntypedIn {mode : RenderingMode} {e : Expression} (h : e.isUntypedIn mode = true) :
    ∃ type, e.type? = some type := by
  cases e with
  | literal value type => exact ⟨type, by rw [type?]⟩
  | parameter name type multiValued => exact ⟨type, by rw [type?]⟩
  | _ => cases h

/-- An expression with a type is cast to that type. -/
theorem tokens_casted {e : Expression} {type : ResolvedType} (htype : e.type? = some type) {mode : RenderingMode}
    {depth : Nat} (h : ((e.operand ctx).casted ctx.dialect).refusal? mode depth = none) :
    ((e.operand ctx).casted ctx.dialect).tokens mode depth =
      ctx.dialect.castTokens type ((e.operand ctx).draft.tokens .plain depth) := by
  have cast : (e.operand ctx).casted ctx.dialect =
      castAs ctx.dialect type (inMode .plain (e.operand ctx).draft) := by
    rw [Operand.casted, type?_operand, htype]
  rw [cast] at h ⊢
  rw [refusal?_castAs] at h
  exact tokens_castAs ctx.dialect type h

/-- A parameter stands bare, or in a cast to its type. -/
theorem tokens_of_isParameter (ctx : TranslationContext) {e : Expression} (h : e.isParameter = true) (depth : Nat) :
    ∃ type, e.type? = some type ∧ (e.operand ctx).draft.tokens .plain depth = [.placeholder] ∧
      (e.operand ctx).draft.tokens .typed depth = ctx.dialect.castTokens type [.placeholder] := by
  cases e with
  | parameter name type multiValued =>
    exact ⟨type, by rw [type?], rfl, tokens_castAs ctx.dialect type rfl⟩
  | _ => cases h

theorem castTokens_ne (d : Dialect) (type : ResolvedType) (inner : List Token) :
    d.castTokens type inner ≠ [.placeholder] := by
  intro bare
  have opening : Token.castOpening = .placeholder := (List.cons.inj bare).1
  cases opening

/-- A parameter tells its type in the mode that asks for casts only. -/
theorem eq_typed_of_isParameter {mode : RenderingMode} {e : Expression} (parameter : e.isParameter = true)
    (typed : ¬e.isUntypedIn mode = true) : mode = .typed := by
  cases mode with
  | typed => rfl
  | plain =>
    rw [isUntypedIn, if_pos parameter] at typed
    exact absurd rfl typed

/-- What tells its type is not written as a bare placeholder. -/
theorem tokens_ne_placeholder {mode : RenderingMode} {depth : Nat} {e : Expression}
    (typed : ¬e.isUntypedIn mode = true) (success : (e.operand ctx).draft.refusal? mode depth = none) :
    (e.operand ctx).draft.tokens mode depth ≠ [.placeholder] := by
  cases parameter : e.isParameter with
  | false => exact (shows_draft parameter success).tokens_ne
  | true =>
    obtain ⟨type, _, _, cast⟩ := tokens_of_isParameter ctx parameter depth
    rw [eq_typed_of_isParameter parameter typed]
    exact fun bare => castTokens_ne ctx.dialect type _ (cast.symm.trans bare)

/-- If the arms of a CASE can be written, so can each of its results. -/
theorem refusal?_of_armDrafts {d : Dialect} {cast : Bool} {mode : RenderingMode} {depth : Nat} {e : Expression}
    {c : Choice} (same : c.results = e.results.map (·.operand ctx)) (nonempty : c.arms ≠ [])
    (h : (Choice.armDrafts d cast c.arms).refusal? mode depth = none) :
    ∃ first rest, e.results = first :: rest ∧
      (if cast then (first.operand ctx).casted d else (first.operand ctx).draft).refusal? mode depth = none ∧
      ∀ r ∈ rest, (r.operand ctx).draft.refusal? mode depth = none := by
  obtain ⟨arm, arms, parts⟩ := List.exists_cons_of_ne_nil nonempty
  rw [parts] at h
  obtain ⟨one, others⟩ := Choice.refusal?_results h
  rw [Choice.results, parts, List.map_cons] at same
  obtain ⟨first, rest, split, head, tail⟩ := List.map_eq_cons_iff.1 same.symm
  refine ⟨first, rest, split, by rwa [head], fun r hr => ?_⟩
  have member : r.operand ctx ∈ arms.map (·.result) := tail ▸ List.mem_map_of_mem hr
  obtain ⟨other, hother, result⟩ := List.mem_map.1 member
  rw [← result]
  exact others other hother

/-- A CASE that HSQL writes has its results between the words of its arms, and some result is not a bare
placeholder. If all results are parameters, the first one stands in a single cast, to its own type. If no result
tells a type, because all are constants or parameters that stand bare, then the first one is put into a cast to
its own type and the others are not, whatever the alternative is; and if some result tells its type, all of them
are written as they are anywhere else. -/
theorem results_of_run (hsql : ctx.dialect = .hsql) {e : Expression} {c : Choice} (choice : e.choice? ctx = some c)
    {page after : Page} (h : (e.operand ctx).draft.run page = (none, after)) :
    let written (mode : RenderingMode) (r : Expression) := (r.operand ctx).draft.tokens mode page.depth
    ∃ results : List (List Token),
      after.tokens.toList = page.tokens.toList ++ c.layout page.mode page.depth results ∧
      results.length = c.arms.length ∧
      (∃ r ∈ results, r ≠ [.placeholder]) ∧
      ((∀ r ∈ e.results, r.isParameter = true) → ∃ first rest type, e.results = first :: rest ∧
        first.type? = some type ∧ results.head? = some (ctx.dialect.castTokens type [.placeholder])) ∧
      ((∀ r ∈ e.results, r.isUntypedIn page.mode = true) → ∃ first rest type, e.results = first :: rest ∧
        first.type? = some type ∧
        results = ctx.dialect.castTokens type (written .plain first) :: rest.map (written page.mode)) ∧
      ((∃ r ∈ e.results, r.isUntypedIn page.mode = false) → results = e.results.map (written page.mode)) := by
  intro written
  obtain ⟨success, added⟩ := tokens_of_run h
  obtain ⟨drafted, same⟩ := draft_of_choice? choice
  obtain ⟨refusals, tokens⟩ := Choice.draft_hsql hsql c page.mode page.depth
  rw [drafted, refusals] at success
  obtain ⟨nonempty, arms⟩ := Choice.refusal?_arms _ _ c success
  obtain ⟨first, rest, results, refusesFirst, refusesRest⟩ := refusal?_of_armDrafts same nonempty arms
  have layout := Choice.tokens_standard _ _ c success
  have length : (first :: rest).length = c.arms.length := by
    have lengths := congrArg List.length same
    rw [Choice.results, List.length_map, List.length_map, results] at lengths
    exact lengths.symm
  rw [added, drafted, tokens, layout, same, allPlain_operands, results,
    List.map_cons, Choice.resultTokens, List.map_map]
  rw [same, allPlain_operands, results] at refusesFirst
  refine ⟨_, rfl, by simpa using length, ?_⟩
  cases untyped : (first :: rest).all (·.isUntypedIn page.mode) with
  | true =>
    have all := List.all_eq_true.1 untyped
    obtain ⟨type, htype⟩ := exists_type?_of_isUntypedIn (all first List.mem_cons_self)
    simp only [untyped, List.isEmpty_cons, Bool.not_false, Bool.and_self, if_true] at refusesFirst ⊢
    rw [tokens_casted htype refusesFirst]
    refine ⟨⟨_, List.mem_cons_self, castTokens_ne _ _ _⟩, fun parameters => ?_, fun _ => ?_, fun typed => ?_⟩
    · obtain ⟨_, _, bare, _⟩ := tokens_of_isParameter ctx (parameters first List.mem_cons_self) page.depth
      exact ⟨first, rest, type, rfl, htype, by rw [bare]; rfl⟩
    · exact ⟨first, rest, type, rfl, htype, rfl⟩
    · obtain ⟨r, hr, typed⟩ := typed
      rw [all r hr] at typed
      cases typed
  | false =>
    simp only [untyped, Bool.and_false, Bool.false_eq_true, if_false] at refusesFirst ⊢
    have refuses : ∀ r ∈ first :: rest, (r.operand ctx).draft.refusal? page.mode page.depth = none :=
      List.forall_mem_cons.2 ⟨refusesFirst, refusesRest⟩
    obtain ⟨r, hr, typed⟩ := List.all_eq_false.1 untyped
    refine ⟨⟨written page.mode r, List.mem_map_of_mem hr, tokens_ne_placeholder typed (refuses r hr)⟩,
      fun parameters => ?_, fun none => ?_, fun _ => rfl⟩
    · obtain ⟨type, htype, _, cast⟩ :=
        tokens_of_isParameter ctx (parameters first List.mem_cons_self) page.depth
      rw [eq_typed_of_isParameter (parameters r hr) typed]
      exact ⟨first, rest, type, rfl, htype, congrArg some cast⟩
    · exact absurd (none r hr) typed

/-- Of two parameters the first one gets a cast, although the alternative has a type. -/
theorem results_of_run_choosesParameters :
    let integer : ResolvedType := ⟨"integer", .ofCode .integer⟩
    let e : Expression := .caseSimple ⟨.column none "kind" none,
      [⟨.literal (.string "a") ⟨"string", .ofCode .varchar⟩, .parameter "p" integer false⟩,
        ⟨.literal (.string "b") ⟨"string", .ofCode .varchar⟩, .parameter "q" integer false⟩],
      some (.column none "other" (some integer))⟩
    let run := (e.operand (.ofDialect .hsql)).draft.run .blank
    run.1 = none ∧ ∃ c, e.choice? (.ofDialect .hsql) = some c ∧
      run.2.tokens.toList = c.layout .plain 0 [Dialect.hsql.castTokens integer [.placeholder], [.placeholder]] := by
  intro integer e run
  have success : run = (none, run.2) := rfl
  have hsql : (TranslationContext.ofDialect .hsql).dialect = .hsql := rfl
  obtain ⟨results, tokens, -, -, -, untyped, -⟩ := results_of_run hsql (e := e) rfl success
  obtain ⟨first, rest, type, split, htype, all⟩ := untyped (by decide)
  refine ⟨rfl, _, rfl, tokens.trans ?_⟩
  cases split
  cases htype
  rw [all]
  rfl

end Expression

end SqlDialects
