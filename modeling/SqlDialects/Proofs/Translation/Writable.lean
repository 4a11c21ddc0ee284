import SqlDialects.Proofs.Placeholder.LockStep

/-!
# What is on the page can be written

A number that is infinite or undefined has no text, and text that is written as it is goes past all quoting.
Neither gets onto a page from outside: constants are made of values in one place, where numbers without a text
are refused, and the texts that are written as they are come from lists, but for type names, lengths of search
paths and arrays of such constants. So a translation gives an operation or a cause for which it was rejected,
and the page can be written down in either case (`Statement.writable_page`).
-/

namespace SqlDialects

/-- The dialect has the token, and it can be written: text that is written as it is comes from the dialect. -/
def Token.Sound (d : Dialect) : Token → Prop
  | .keyword word => d.capabilities.hasWord word = true
  | .concat => d.capabilities.concatOperator = true
  | .raw text => d.Fragment text ∨ text ∈ d.operatorTexts
  | .literal value => value.Sound
  | _ => True

theorem Token.Ordinary.sound {d : Dialect} {t : Token} (h : t.Ordinary d) : t.Sound d := by
  cases t with
  | keyword word => exact h.2.2
  | concat => exact h
  | raw text => exact .inl h
  | literal value => exact h
  | _ => trivial

theorem Token.Sound.writable {d : Dialect} {t : Token} (h : t.Sound d) : t.unwritable? = none := by
  cases t with
  | literal value => exact Literal.Sound.writable h
  | _ => rfl

/-- A floating point number that can be written is finite. -/
theorem Literal.Sound.isFinite {x : Binary64} (h : (Literal.float x).Sound) : x.isFinite = true := by
  have writable := h.writable
  rw [unwritable?] at writable
  split at writable
  · cases writable
  · next number =>
    split at writable
    · cases writable
    · next bounded =>
      have above : ¬FloatWidth.double.infinityBits < x.magnitude := fun above => number (decide_eq_true above)
      have different : x.magnitude ≠ FloatWidth.double.infinityBits := fun same => bounded (beq_iff_eq.2 same)
      exact decide_eq_true (by omega)

/-- Tokens that can be written each can be written together. -/
theorem Token.textOfAll_of_writable {d : Dialect} {ts : List Token} (h : ∀ t ∈ ts, t.unwritable? = none) :
    textOfAll d ts = .ok (String.join (ts.map (text d))) := by
  have none : ts.findSome? unwritable? = none := List.findSome?_eq_none_iff.2 h
  rw [textOfAll, none]

namespace Statement

variable (ctx : TranslationContext) (s : Statement)

theorem sound_of_mem_page {t : Token} (ht : t ∈ (s.page ctx).tokens) : t.Sound ctx.dialect := by
  have every := s.every_draft_of_ordinary ctx (fun _ ordinary => ordinary.sound) (fun _ => .inr) rfl rfl
  rcases of_mem_page every ht with rfl | sound
  · trivial
  · exact sound

/-- A translation gives an operation or is rejected, whatever the statement and the registered converters are.
In either case what is on the page can be written, and as many placeholders stand there as parameters are
recorded: numbers are finite, decimals are numerals, and a text that is written as it is is a fragment of the
dialect or the operator of a test. -/
theorem writable_page :
    ((∃ op, s.translate ctx = .ok op) ∨ ∃ cause, s.translate ctx = .error (.rejected cause)) ∧
    Token.textOfAll ctx.dialect (s.page ctx).tokens.toList =
      .ok (String.join ((s.page ctx).tokens.toList.map (Token.text ctx.dialect))) ∧
    (s.page ctx).LockStep ∧
    (∀ x : Binary64, .literal (.float x) ∈ (s.page ctx).tokens → x.isFinite = true) ∧
    (∀ text, .literal (.decimal text) ∈ (s.page ctx).tokens → Numeral.isDecimal text.toList = true) ∧
    ∀ text, .raw text ∈ (s.page ctx).tokens →
      ctx.dialect.Fragment text ∨ text ∈ ctx.dialect.operatorTexts := by
  have sound := fun t => s.sound_of_mem_page ctx (t := t)
  have written := Token.textOfAll_of_writable (d := ctx.dialect)
    fun t ht => (sound t (Array.mem_toList_iff.1 ht)).writable
  refine ⟨?_, written, s.lockStep_page ctx, fun x h => Literal.Sound.isFinite (sound _ h),
    fun text h => Literal.Sound.wellFormed (sound _ h), fun text h => sound _ h⟩
  unfold translate Draft.translateOn
  rw [run_draft]
  cases refusal : (s.draft ctx).refusal? .plain 0 with
  | some cause => exact .inr ⟨cause, rfl⟩
  | none =>
    left
    simp only [Page.operation, written]
    exact ⟨_, rfl⟩

end Statement

end SqlDialects
