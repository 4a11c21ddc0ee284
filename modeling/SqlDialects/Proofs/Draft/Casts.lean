import SqlDialects.Proofs.Draft.Writes

/-!
# Drafts without their casts

The mode of the surroundings decides about casts and about nothing else. A draft that goes by the mode has
two alternatives, and these are the same as soon as the casts are left out (`Draft.Steady`); leaving them
out gives a draft in which no mode is left (`Draft.bare`). Whatever mode it is carried out in, a steady
draft then refuses what its bare form refuses and records the same parameters, and what it writes is what
the bare form writes, with matching pairs of `cast(` and ` as type)` around some of it (`Uncast`).
-/

namespace SqlDialects

namespace Token

/-- The token opens a cast. -/
def opensCast : Token → Bool
  | raw s => s == "cast("
  | _ => false

/-- The token closes a cast: it names a type behind the word AS. -/
def closesCast : Token → Bool
  | raw s => " as ".toList.isPrefixOf s.toList && ")".toList.isSuffixOf s.toList
  | _ => false

theorem closesCast_raw (type : String) : (raw (" as " ++ type ++ ")")).closesCast = true := by
  have front : " as ".toList <+: (" as " ++ type ++ ")").toList := ⟨type.toList ++ [')'], by simp⟩
  have back : ")".toList <:+ (" as " ++ type ++ ")").toList := ⟨(" as " ++ type).toList, by simp⟩
  rw [closesCast, List.isPrefixOf_iff_prefix.2 front, List.isSuffixOf_iff_suffix.2 back]
  rfl

/-- The token that opens casts. -/
def castOpening : Token := raw "cast("

end Token

namespace Dialect

/-- The token that closes a cast to the type. -/
def castClosing (d : Dialect) (type : ResolvedType) : Token :=
  .raw (" as " ++ d.castName type.descriptor ++ ")")

/-- The tokens between the ends of a cast to the type. -/
def castTokens (d : Dialect) (type : ResolvedType) (inner : List Token) : List Token :=
  .castOpening :: inner ++ [d.castClosing type]

end Dialect

/-- The tokens that are not part of a cast. -/
def withoutCasts (ts : List Token) : List Token := ts.filter fun t => !(t.opensCast || t.closesCast)

/-- The second tokens are the first ones without some casts: where a cast is left out, both of its ends
are, and what stands between them stays. -/
inductive Uncast : List Token → List Token → Prop where
  | nil : Uncast [] []
  | keep (t : Token) {ts us : List Token} : Uncast ts us → Uncast (t :: ts) (t :: us)
  | cast {a b : Token} {inner core ts us : List Token} : a.opensCast = true → b.closesCast = true →
    Uncast inner core → Uncast ts us → Uncast (a :: (inner ++ b :: ts)) (core ++ us)

namespace Uncast

variable {ts us vs ws : List Token}

theorem refl (ts : List Token) : Uncast ts ts := by
  induction ts with
  | nil => exact .nil
  | cons t ts ih => exact .keep t ih

theorem append (h : Uncast ts us) (k : Uncast vs ws) : Uncast (ts ++ vs) (us ++ ws) := by
  induction h with
  | nil => exact k
  | keep t _ ih => exact .keep t ih
  | cast opens closes inner _ _ ih =>
    rw [List.cons_append, List.append_assoc, List.cons_append, List.append_assoc]
    exact .cast opens closes inner ih

/-- A cast around everything. -/
theorem around {a b : Token} (opens : a.opensCast = true) (closes : b.closesCast = true)
    (h : Uncast ts us) : Uncast (a :: (ts ++ [b])) us := by
  have pair := Uncast.cast opens closes h .nil
  rwa [List.append_nil] at pair

end Uncast

/-- The act adds one end of a cast. -/
def Write.isCast : Write → Bool
  | token t => t.opensCast || t.closesCast
  | placeholder _ => false

theorem withoutCasts_map_added (ws : List Write) :
    withoutCasts (ws.map Write.added) = (ws.filter (!·.isCast)).map Write.added := by
  rw [withoutCasts, List.filter_map]
  refine congrArg _ (List.filter_congr fun w _ => ?_)
  cases w <;> rfl

theorem filterMap_recorded?_filter (ws : List Write) :
    (ws.filter (!·.isCast)).filterMap Write.recorded? = ws.filterMap Write.recorded? := by
  rw [List.filterMap_filter]
  refine congrArg (ws.filterMap ·) (funext fun w => ?_)
  cases w with
  | token t => split <;> rfl
  | placeholder p => rfl

namespace Draft

/-- The draft without casts and modes; of two alternatives the first one. -/
def bare : Draft → Draft
  | empty => empty
  | token t => token t
  | placeholder p => placeholder p
  | refuse cause => refuse cause
  | append (append (token a) x) (token b) =>
    if a.opensCast && b.closesCast then x.bare else append (append (token a) x.bare) (token b)
  | append first second => append first.bare second.bare
  | inMode _ x => x.bare
  | byMode plain _ => plain.bare
  | nested x => nested x.bare
  | whenNested x => whenNested x.bare

/-- Where the mode decides, the alternatives differ in casts only. -/
def Steady : Draft → Prop
  | append first second => first.Steady ∧ second.Steady
  | inMode _ x => x.Steady
  | byMode plain typed => plain.Steady ∧ typed.Steady ∧ plain.bare = typed.bare
  | nested x => x.Steady
  | whenNested x => x.Steady
  | _ => True

theorem raw_of_ne {s : String} (h : s ≠ "") : raw s = token (.raw s) := if_neg h

theorem castAs_eq (d : Dialect) (type : ResolvedType) (x : Draft) :
    castAs d type x = append (append (token .castOpening) x) (token (d.castClosing type)) := by
  have opening : raw "cast(" = token .castOpening := raw_of_ne (by decide)
  have closing : raw (" as " ++ d.castName type.descriptor ++ ")") = token (d.castClosing type) :=
    raw_of_ne (by simp)
  rw [castAs, opening, closing]
  rfl

/-- A cast is left out. -/
theorem bare_castAs (d : Dialect) (type : ResolvedType) (x : Draft) : (castAs d type x).bare = x.bare := by
  rw [castAs_eq]
  refine (if_pos ?_ : bare (append (append (token _) x) (token _)) = _)
  rw [Dialect.castClosing, Token.closesCast_raw]
  rfl

section Cast

variable (d : Dialect) (type : ResolvedType) {x : Draft} {mode : RenderingMode} {depth : Nat}

theorem refusal?_castAs : (castAs d type x).refusal? mode depth = x.refusal? mode depth := by
  rw [castAs_eq]
  exact (Option.or_none).trans Option.none_or

/-- A cast is closed if what it is of is written to its end. -/
theorem writes_castAs : (castAs d type x).writes mode depth = .token .castOpening :: (x.writes mode depth
    ++ if (x.refusal? mode depth).isNone then [.token (d.castClosing type)] else []) := by
  rw [castAs_eq]
  rfl

/-- A cast is written around what it is of. -/
theorem tokens_castAs (h : x.refusal? mode depth = none) :
    (castAs d type x).tokens mode depth = d.castTokens type (x.tokens mode depth) := by
  have opened : (append (token .castOpening) x).refusal? mode depth = none :=
    refusal?_append_eq_none.2 ⟨rfl, h⟩
  rw [castAs_eq]
  exact tokens_append opened

end Cast

/-- The second draft is the first one without its casts and modes, and it is that for both alternatives
where the mode decides. -/
inductive Bares : Draft → Draft → Prop where
  | empty : Bares empty empty
  | token (t : Token) : Bares (token t) (token t)
  | placeholder (p : Parameter) : Bares (placeholder p) (placeholder p)
  | refuse (cause : TranslationError) : Bares (refuse cause) (refuse cause)
  | append {first second x y : Draft} : Bares first x → Bares second y →
    Bares (append first second) (append x y)
  | cast {a b : Token} {x y : Draft} : a.opensCast = true → b.closesCast = true → Bares x y →
    Bares (append (append (token a) x) (token b)) y
  | inMode {mode : RenderingMode} {x y : Draft} : Bares x y → Bares (inMode mode x) y
  | byMode {plain typed y : Draft} : Bares plain y → Bares typed y → Bares (byMode plain typed) y
  | nested {x y : Draft} : Bares x y → Bares (nested x) (nested y)
  | whenNested {x y : Draft} : Bares x y → Bares (whenNested x) (whenNested y)

/-- A steady draft has a bare form for both modes. -/
theorem Steady.bares {x : Draft} (h : x.Steady) : x.Bares x.bare := by
  -- a cast is two levels deep, and so the induction carries what stands behind the first token as well
  suffices x.Bares x.bare ∧ ∀ a z, x = .append (.token a) z → z.Bares z.bare from this.1
  induction x with
  | empty => exact ⟨.empty, nofun⟩
  | token t => exact ⟨.token t, nofun⟩
  | placeholder p => exact ⟨.placeholder p, nofun⟩
  | refuse cause => exact ⟨.refuse cause, nofun⟩
  | append first second ihf ihs =>
    obtain ⟨hfirst, behind⟩ := ihf h.1
    obtain ⟨hsecond, -⟩ := ihs h.2
    constructor
    · unfold bare
      split <;> try contradiction
      · next _ a z b same =>
        cases same
        have inner := behind a z rfl
        split
        · next cast =>
          rw [Bool.and_eq_true] at cast
          exact .cast cast.1 cast.2 inner
        · exact .append (.append (.token a) inner) (.token b)
      · next _ left right _ same =>
        cases same
        exact .append hfirst hsecond
    · rintro a z ⟨⟩
      exact hsecond
  | inMode mode x ih => exact ⟨.inMode (ih h).1, nofun⟩
  | byMode plain typed ihp iht =>
    have alternative := (iht h.2.1).1
    rw [← h.2.2] at alternative
    exact ⟨.byMode (ihp h.1).1 alternative, nofun⟩
  | nested x ih => exact ⟨.nested (ih h).1, nofun⟩
  | whenNested x ih => exact ⟨.whenNested (ih h).1, nofun⟩

section Runs

variable {x y : Draft} (mode other : RenderingMode) (depth : Nat)

/-- Whether a draft is refused, and why, is up to its bare form. -/
theorem Bares.refusal?_eq (h : x.Bares y) : x.refusal? mode depth = y.refusal? other depth := by
  induction h generalizing mode other depth with
  | empty => rfl
  | token t => rfl
  | placeholder p => rfl
  | refuse cause => rfl
  | append _ _ ihf ihs => rw [refusal?, refusal?, ihf mode other depth, ihs mode other depth]
  | cast _ _ _ ih =>
    rw [← ih mode other depth, refusal?, refusal?, refusal?, refusal?, Option.or_none]
    rfl
  | @inMode m x y _ ih => exact ih m other depth
  | byMode _ _ ihp iht =>
    cases mode with
    | plain => exact ihp .plain other depth
    | typed => exact iht .typed other depth
  | nested _ ih => exact ih mode other (depth + 1)
  | whenNested _ ih => rw [refusal?, refusal?, ih mode other depth]

/-- What is written besides casts is what the bare form writes, also where both are given up. -/
theorem Bares.filter_writes_eq (h : x.Bares y) :
    (x.writes mode depth).filter (!·.isCast) = (y.writes other depth).filter (!·.isCast) := by
  induction h generalizing mode other depth with
  | empty => rfl
  | token t => rfl
  | placeholder p => rfl
  | refuse cause => rfl
  | append hf _ ihf ihs =>
    rw [writes, writes, hf.refusal?_eq mode other depth, List.filter_append, List.filter_append,
      ihf mode other depth]
    split
    · rw [ihs mode other depth]
    · rfl
  | @cast a b x y opens closes _ ih =>
    have dropA : [Write.token a].filter (!·.isCast) = [] := by
      simp [Write.isCast, opens]
    have dropB : (if (((Draft.token a).append x).refusal? mode depth).isNone then [Write.token b]
        else []).filter (!·.isCast) = [] := by
      split
      · simp [Write.isCast, closes]
      · rfl
    rw [writes, writes, writes, writes, List.filter_append, dropB, List.filter_append, dropA,
      List.append_nil, List.nil_append, ← ih mode other depth]
    rfl
  | @inMode m x y _ ih => exact ih m other depth
  | byMode _ _ ihp iht =>
    cases mode with
    | plain => exact ihp .plain other depth
    | typed => exact iht .typed other depth
  | nested _ ih => exact ih mode other (depth + 1)
  | whenNested _ ih =>
    rw [writes, writes]
    split
    · rfl
    · exact ih mode other depth

/-- A draft that is carried out to its end writes what its bare form writes, and casts around it. -/
theorem Bares.uncast (h : x.Bares y) (success : x.refusal? mode depth = none) :
    Uncast (x.tokens mode depth) (y.tokens other depth) := by
  induction h generalizing mode other depth with
  | empty => exact .nil
  | token t => exact .refl _
  | placeholder p => exact .refl _
  | refuse cause => cases success
  | @append first second x y hf _ ihf ihs =>
    obtain ⟨front, back⟩ := refusal?_append_eq_none.1 success
    have bareFront : x.refusal? other depth = none := (hf.refusal?_eq mode other depth).symm.trans front
    have split := (ihf mode other depth front).append (ihs mode other depth back)
    rwa [← tokens_append front, ← tokens_append bareFront] at split
  | @cast a b x y opens closes _ ih =>
    obtain ⟨front, -⟩ := refusal?_append_eq_none.1 success
    obtain ⟨-, inner⟩ := refusal?_append_eq_none.1 front
    have written : (((Draft.token a).append x).append (.token b)).tokens mode depth =
        a :: (x.tokens mode depth ++ [b]) := by
      refine (tokens_append front).trans ?_
      rw [show ((Draft.token a).append x).tokens mode depth = _ from tokens_append rfl]
      rfl
    rw [written]
    exact .around opens closes (ih mode other depth inner)
  | @inMode m x y _ ih => exact ih m other depth success
  | byMode _ _ ihp iht =>
    cases mode with
    | plain => exact ihp .plain other depth success
    | typed => exact iht .typed other depth success
  | nested _ ih => exact ih mode other (depth + 1) success
  | whenNested _ ih =>
    rw [refusal?] at success
    rw [tokens, tokens, writes, writes]
    split
    · exact .nil
    · next inside =>
      rw [if_neg inside] at success
      exact ih mode other depth success

end Runs

end Draft

end SqlDialects
