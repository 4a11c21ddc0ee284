import SqlDialects.Render.QueryForm
import SqlDialects.Render.InList
import SqlDialects.Proofs.Draft.Casts
import SqlDialects.Proofs.Text.Fragment

/-!
# The tokens of drafts

A draft fits a dialect if each token in it does: no placeholder stands in it without its parameter,
fixed text is closed, decimals are numerals, and the word WITH is there only if the dialect has it in
subqueries. Most drafts are put together from ordinary tokens, which are part of some clause of the dialect, and
from parts of another kind (`Draft.MadeOf`): nested queries, which begin with a word of their own, and what
stands between the operands of tests. Whether such a draft fits, or has another property of the kind, is up to
these parts.
-/

namespace SqlDialects

open Lexical

/-- A token that may be part of a draft for the dialect. -/
def Token.Fits (d : Dialect) : Token → Prop
  | .keyword word => word = .withWord → d.capabilities.withInSubquery = true
  | .placeholder => False
  | .raw s => Closed d 0 s
  | .literal value => value.WellFormed
  | _ => True

/-- The dialect has the word in its clauses. -/
def Capabilities.hasWord (c : Capabilities) : Keyword → Bool
  | .filter => c.filterClause
  | .nullsFirst => c.nullsOrdering
  | .nullsLast => c.nullsOrdering
  | .fetch => c.offsetFetch
  | _ => true

/-- The word is part of clauses in every dialect, and begins no query. -/
def Keyword.isCommon : Keyword → Bool
  | withWord => false
  | select => false
  | filter => false
  | nullsFirst => false
  | nullsLast => false
  | fetch => false
  | _ => true

/-- A token that may be part of any clause of the dialect. The words WITH and SELECT only stand in front of
queries, and the operators of tests between operands. -/
def Token.Ordinary (d : Dialect) : Token → Prop
  | .keyword word => word ≠ .withWord ∧ word ≠ .select ∧ d.capabilities.hasWord word = true
  | .concat => d.capabilities.concatOperator = true
  | .placeholder => False
  | .raw s => d.Fragment s
  | .literal value => value.Sound
  | _ => True

theorem Token.ordinary_of_isCommon {d : Dialect} {w : Keyword} (h : w.isCommon = true) :
    (Token.keyword w).Ordinary d := by
  cases w <;> simp_all [Keyword.isCommon, Ordinary, Capabilities.hasWord]

theorem Token.Ordinary.fits {d : Dialect} {t : Token} (h : t.Ordinary d) : t.Fits d := by
  cases t with
  | keyword word => exact fun e => absurd e h.1
  | placeholder => exact h.elim
  | raw s => exact h.closed
  | literal value => exact h.wellFormed
  | _ => trivial

namespace Draft

/-- Every token in the draft has the property; placeholders come with a parameter and are left out. -/
def Every (P : Token → Prop) : Draft → Prop
  | empty => True
  | token t => P t
  | placeholder _ => True
  | refuse _ => True
  | append first second => first.Every P ∧ second.Every P
  | inMode _ d => d.Every P
  | byMode plain typed => plain.Every P ∧ typed.Every P
  | nested d => d.Every P
  | whenNested d => d.Every P

theorem Every.mono {P Q : Token → Prop} (hPQ : ∀ t, P t → Q t) {x : Draft} (h : x.Every P) :
    x.Every Q := by
  induction x with
  | empty => trivial
  | token t => exact hPQ t h
  | placeholder p => trivial
  | refuse cause => trivial
  | append first second ihf ihs => exact ⟨ihf h.1, ihs h.2⟩
  | inMode mode d ih => exact ih h
  | byMode plain typed ihp iht => exact ⟨ihp h.1, iht h.2⟩
  | nested d ih => exact ih h
  | whenNested d ih => exact ih h

/-- What is written for a draft are tokens of the draft, and placeholders with their parameters. -/
theorem Every.of_mem_writes {P : Token → Prop} {x : Draft} (h : x.Every P) {mode : RenderingMode}
    {depth : Nat} {w : Write} (hw : w ∈ x.writes mode depth) :
    (∃ t, w = .token t ∧ P t) ∨ ∃ p, w = .placeholder p := by
  induction x generalizing mode depth with
  | empty => cases hw
  | token t =>
    rw [writes, List.mem_singleton] at hw
    exact .inl ⟨t, hw, h⟩
  | placeholder p =>
    rw [writes, List.mem_singleton] at hw
    exact .inr ⟨p, hw⟩
  | refuse cause => cases hw
  | append first second ihf ihs =>
    rw [writes, List.mem_append] at hw
    rcases hw with hw | hw
    · exact ihf h.1 hw
    · split at hw
      · exact ihs h.2 hw
      · cases hw
  | inMode mode d ih => exact ih h hw
  | byMode plain typed ihp iht =>
    cases mode with
    | plain => exact ihp h.1 hw
    | typed => exact iht h.2 hw
  | nested d ih => exact ih h hw
  | whenNested d ih =>
    rw [writes] at hw
    split at hw
    · cases hw
    · exact ih h hw

/-- Every token in the draft may be part of a draft for the dialect. -/
def Fits (d : Dialect) (x : Draft) : Prop := x.Every (Token.Fits d)

/-- The draft is put together from ordinary tokens and from parts with the given property. Queries inside it
are such parts. Where the mode decides, the alternatives are the same but for casts. -/
inductive MadeOf (d : Dialect) (S : Draft → Prop) : Draft → Prop where
  | empty : MadeOf d S empty
  | token {t : Token} : t.Ordinary d → MadeOf d S (token t)
  | placeholder (p : Parameter) : MadeOf d S (placeholder p)
  | refuse (cause : TranslationError) : MadeOf d S (refuse cause)
  | append {first second : Draft} : MadeOf d S first → MadeOf d S second → MadeOf d S (append first second)
  | inMode {mode : RenderingMode} {x : Draft} : MadeOf d S x → MadeOf d S (inMode mode x)
  | byMode {plain typed : Draft} : MadeOf d S plain → MadeOf d S typed → plain.bare = typed.bare →
    MadeOf d S (byMode plain typed)
  | part {x : Draft} : S x → MadeOf d S x

/-- Every token in a draft has a property that ordinary tokens and the tokens in the parts have. -/
theorem MadeOf.every {d : Dialect} {Q : Token → Prop} (ordinary : ∀ t : Token, t.Ordinary d → Q t) {x : Draft}
    (h : x.MadeOf d (Every Q)) : x.Every Q := by
  induction h with
  | token h => exact ordinary _ h
  | append _ _ ihf ihs => exact ⟨ihf, ihs⟩
  | inMode _ ih => exact ih
  | byMode _ _ _ ihp iht => exact ⟨ihp, iht⟩
  | part h => exact h
  | _ => trivial

/-- A draft that is put together from fitting parts fits. -/
theorem MadeOf.fits {d : Dialect} {x : Draft} (h : x.MadeOf d (Fits d)) : x.Fits d :=
  h.every fun _ ordinary => ordinary.fits

/-- A draft that is put together from steady parts is steady. -/
theorem MadeOf.steady {d : Dialect} {x : Draft} (h : x.MadeOf d Steady) : x.Steady := by
  induction h with
  | append _ _ ihf ihs => exact ⟨ihf, ihs⟩
  | inMode _ ih => exact ih
  | byMode _ _ same ihp iht => exact ⟨ihp, iht, same⟩
  | part h => exact h
  | _ => trivial

section Combinators

variable {d : Dialect} {S : Draft → Prop} {x y : Draft} {xs : List Draft}

theorem madeOf_malformed (fault : Malformed) : (malformed fault).MadeOf d S := .refuse _

theorem madeOf_space : space.MadeOf d S := .token trivial

theorem madeOf_comma : comma.MadeOf d S := .append (.token trivial) (.token trivial)

theorem madeOf_word {w : Keyword} (h : w.isCommon = true) : (word w).MadeOf d S :=
  .token (Token.ordinary_of_isCommon h)

theorem madeOf_spacedWord {w : Keyword} (h : w.isCommon = true) : (spacedWord w).MadeOf d S :=
  .append (.append madeOf_space (madeOf_word h)) madeOf_space

theorem madeOf_spaceWord {w : Keyword} (h : w.isCommon = true) : (spaceWord w).MadeOf d S :=
  .append madeOf_space (madeOf_word h)

theorem madeOf_wordSpace {w : Keyword} (h : w.isCommon = true) : (wordSpace w).MadeOf d S :=
  .append (madeOf_word h) madeOf_space

theorem madeOf_raw {s : String} (h : d.Fragment s) : (raw s).MadeOf d S := by
  unfold raw
  split
  · exact .empty
  · exact .token h

/-- Text that is on the list of the dialect or on that of all dialects. -/
theorem madeOf_fixed {s : String} (h : s ∈ Dialect.sharedTexts ++ d.ownTexts) : (raw s).MadeOf d S :=
  (List.mem_append.1 h).elim (fun h => madeOf_raw (.shared h)) fun h => madeOf_raw (.own h)

theorem madeOf_parens (h : x.MadeOf d S) : (parens x).MadeOf d S :=
  .append (.append (.token trivial) h) (.token trivial)

theorem madeOf_parensIf {wanted : Bool} (h : x.MadeOf d S) : (parensIf wanted x).MadeOf d S := by
  cases wanted
  · exact h
  · exact madeOf_parens h

theorem madeOf_named (name : String) : (named name).MadeOf d S :=
  .append (madeOf_spacedWord rfl) (.token trivial)

theorem madeOf_optional {o : Option Draft} (h : ∀ x ∈ o, x.MadeOf d S) : (optional o).MadeOf d S := by
  cases o with
  | none => exact .empty
  | some x => exact h x rfl

theorem madeOf_optional_map {α : Type} {o : Option α} {f : α → Draft} (h : ∀ a ∈ o, (f a).MadeOf d S) :
    (optional (o.map f)).MadeOf d S := by
  cases o with
  | none => exact .empty
  | some a => exact h a rfl

theorem madeOf_ite {c : Prop} [Decidable c] (hx : x.MadeOf d S) (hy : y.MadeOf d S) :
    (if c then x else y).MadeOf d S := by
  split
  · exact hx
  · exact hy

theorem madeOf_separated (hx : x.MadeOf d S) (h : ∀ y ∈ xs, y.MadeOf d S) :
    (separated x xs).MadeOf d S := by
  fun_induction separated x xs with
  | case1 => exact .empty
  | case2 y => exact h y List.mem_cons_self
  | case3 y ys _ ih =>
    obtain ⟨hy, hys⟩ := List.forall_mem_cons.1 h
    exact .append (.append hy hx) (ih hys)

theorem madeOf_listed (h : ∀ y ∈ xs, y.MadeOf d S) : (listed xs).MadeOf d S :=
  madeOf_separated madeOf_comma h

theorem madeOf_listed_map {α : Type} {as : List α} {f : α → Draft} (h : ∀ a ∈ as, (f a).MadeOf d S) :
    (listed (as.map f)).MadeOf d S := by
  refine madeOf_listed fun y hy => ?_
  obtain ⟨a, ha, rfl⟩ := List.mem_map.1 hy
  exact h a ha

theorem madeOf_castAs {type : ResolvedType} (h : x.MadeOf d S) : (castAs d type x).MadeOf d S :=
  .append (.append (madeOf_raw (.shared (by decide))) h) (madeOf_raw (.type type.descriptor))

theorem madeOf_parameter (p : Parameter) : (parameter d p).MadeOf d S :=
  .byMode (.placeholder p) (madeOf_castAs (.placeholder p)) (bare_castAs d p.type (placeholder p)).symm

end Combinators

end Draft

end SqlDialects
