import SqlDialects.Proofs.Draft.Statements

/-!
# What the mode is about

Expressions are written with bare placeholders or with casts around them, after the mode in force. The mode
goes down into everything that an expression is made of, up to the places that set one of their own, and HSQL
goes by it once more when it decides whether the first result of a CASE needs a cast. None of this changes
anything but the casts: every draft in a statement is steady, and so the two modes agree about refusals and
parameters, and about the tokens once the casts are left out (`Expression.run_modes`).
-/

namespace SqlDialects

namespace Draft

variable {x : Draft}

/-- The runs of a steady draft in two modes add the same parameters, and the same tokens but for casts. -/
theorem Steady.writes_modes (h : x.Steady) (mode other : RenderingMode) (depth : Nat) :
    (x.writes mode depth).filterMap Write.recorded? = (x.writes other depth).filterMap Write.recorded? ∧
    withoutCasts (x.tokens mode depth) = withoutCasts (x.tokens other depth) := by
  have same : (x.writes mode depth).filter (!·.isCast) = (x.writes other depth).filter (!·.isCast) :=
    (h.bares.filter_writes_eq mode mode depth).trans (h.bares.filter_writes_eq other mode depth).symm
  constructor
  · rw [← filterMap_recorded?_filter, same, filterMap_recorded?_filter]
  · rw [tokens, withoutCasts_map_added, same, ← withoutCasts_map_added, tokens]

/-- A steady draft is refused in both modes or in neither, and for the same cause. -/
theorem Steady.refusal?_modes (h : x.Steady) (mode other : RenderingMode) (depth : Nat) :
    x.refusal? mode depth = x.refusal? other depth :=
  (h.bares.refusal?_eq mode mode depth).trans (h.bares.refusal?_eq other mode depth).symm

theorem run_inMode_eq (mode : RenderingMode) (page : Page) :
    (inMode mode x).run page = (x.refusal? mode page.depth, page.writeAll (x.writes mode page.depth)) :=
  (inMode mode x).run_eq page

end Draft

open Draft

variable (ctx : TranslationContext)

theorem Expression.steady_draft (e : Expression) : (e.operand ctx).draft.Steady :=
  (e.madeOf_operand (covers_steady ctx) fun _ _ => trivial).draft.steady

/-- The mode in which an expression is written only adds casts. From the same page, both modes fail for the
same cause or both succeed, and they add the same parameters in the same order. They add the same tokens
once the ends of casts are left out, and if they succeed, both have the same tokens between and besides their
casts, each of which is complete. -/
theorem Expression.run_modes (e : Expression) (page : Page) :
    let plain := (inMode .plain (e.operand ctx).draft).run page
    let typed := (inMode .typed (e.operand ctx).draft).run page
    plain.1 = typed.1 ∧
    ∃ ts us ps,
      plain.2.tokens.toList = page.tokens.toList ++ ts ∧ typed.2.tokens.toList = page.tokens.toList ++ us ∧
      plain.2.parameters.toList = page.parameters.toList ++ ps ∧
      typed.2.parameters.toList = page.parameters.toList ++ ps ∧
      withoutCasts ts = withoutCasts us ∧
      (plain.1 = none → ∃ core, Uncast ts core ∧ Uncast us core) := by
  intro plain typed
  have steady := e.steady_draft ctx
  have refusals := steady.refusal?_modes .plain .typed page.depth
  obtain ⟨parameters, tokens⟩ := steady.writes_modes .plain .typed page.depth
  have plainRun : plain = _ := run_inMode_eq .plain page
  have typedRun : typed = _ := run_inMode_eq .typed page
  rw [plainRun, typedRun]
  refine ⟨refusals, _, _, _, page.tokens_writeAll _, page.tokens_writeAll _, page.parameters_writeAll _,
    ?_, tokens, fun success => ?_⟩
  · rw [page.parameters_writeAll, parameters]
  · have inPlain := steady.bares.uncast .plain .plain page.depth success
    have inTyped := steady.bares.uncast .typed .plain page.depth (refusals.symm.trans success)
    exact ⟨_, inPlain, inTyped⟩

/-- A parameter stands in a cast, or on its own. -/
example : let p : Parameter := ⟨.named "id", ⟨"integer", .ofCode .integer⟩⟩
    (parameter .hsql p).tokens .typed 0 = [.raw "cast(", .placeholder, .raw " as integer)"] ∧
      (parameter .hsql p).tokens .plain 0 = [.placeholder] := by
  cbv

end SqlDialects
