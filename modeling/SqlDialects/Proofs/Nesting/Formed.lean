import SqlDialects.Render.InList
import SqlDialects.Proofs.Draft.Casts
import SqlDialects.Proofs.Text.Parentheses

/-!
# Well-formed drafts

A draft is well-formed from one depth of parentheses to another if its tokens lead from the one to the other and
if a parameter in it that the mode decides about is inside a cast to its type where one is asked for
(`Draft.Formed`). Words that begin, join or end queries only stand where the region of the draft lets them: in an
expression they are inside parentheses. What a well-formed draft writes leads a reader of tokens from the one
depth to the other, past no such word outside of parentheses (`Draft.Formed.walk`).
-/

namespace SqlDialects

/-! ## Tokens and parentheses -/

namespace Token

/-- The number of open parentheses behind a token, if there are enough in front of it. -/
def nesting (d : Dialect) (i : Nat) : Token → Option Nat
  | leftParen => some (i + 1)
  | rightParen => if i = 0 then none else some (i - 1)
  | raw s => Lexical.nesting d i s
  | _ => some i

/-- The token begins a query, or joins two of them. -/
def isQueryWord : Token → Bool
  | keyword .withWord => true
  | keyword .select => true
  | keyword .union => true
  | keyword .intersect => true
  | keyword .except => true
  | _ => false

/-- The token begins a clause that orders a query or limits its rows. -/
def isClauseWord : Token → Bool
  | keyword .orderBy => true
  | keyword .limit => true
  | keyword .offset => true
  | keyword .fetch => true
  | raw s => s == " LIMIT "
  | _ => false

/-- The token is no placeholder and opens no cast. -/
def isInert : Token → Bool
  | placeholder => false
  | raw s => s != "cast("
  | _ => true

theorem nesting_add {d : Dialect} {t : Token} {i j : Nat} (h : t.nesting d i = some j) (k : Nat) :
    t.nesting d (i + k) = some (j + k) := by
  cases t with
  | rightParen =>
    rw [nesting] at h ⊢
    split at h
    · cases h
    · next positive =>
      cases h
      rw [if_neg (by omega), Nat.sub_add_comm (by omega)]
  | raw s => exact Lexical.nesting_add h k
  | leftParen =>
    cases h
    exact congrArg some (Nat.add_right_comm i k 1)
  | _ =>
    cases h
    rfl

end Token

/-- What a draft is part of, by the words that may stand in it outside of parentheses. -/
inductive Region where
  | expression
  /-- The clauses that order a query and limit its rows. -/
  | clauses
  | query
deriving DecidableEq

namespace Region

/-- The token does not stand outside of parentheses in the region. -/
def bars : Region → Token → Bool
  | expression, t => t.isQueryWord || t.isClauseWord
  | clauses, t => t.isQueryWord
  | query, _ => false

/-- The number of open parentheses behind a token that may stand there. -/
def pass (region : Region) (d : Dialect) (i : Nat) (t : Token) : Option Nat :=
  if i = 0 ∧ region.bars t = true then none else t.nesting d i

/-- The number of open parentheses behind some tokens, each of which may stand where it does. -/
def walk (region : Region) (d : Dialect) (i : Nat) (ts : List Token) : Option Nat := ts.foldlM (region.pass d) i

variable {region : Region} {d : Dialect} {i j k : Nat}

theorem walk_append {ts us : List Token} (ht : region.walk d i ts = some j) (hu : region.walk d j us = some k) :
    region.walk d i (ts ++ us) = some k := by
  rw [walk] at ht
  rw [walk, List.foldlM_append, ht]
  exact hu

theorem bars_raw {s : String} (h : s ≠ " LIMIT ") : region.bars (.raw s) = false := by
  cases region <;> simp [bars, Token.isQueryWord, Token.isClauseWord, h]

theorem walk_singleton {t : Token} (h : t.nesting d i = some j) (free : i = 0 → region.bars t = false) :
    region.walk d i [t] = some j := by
  have step : region.pass d i t = some j := by
    rw [pass, if_neg, h]
    rintro ⟨start, barred⟩
    rw [free start] at barred
    cases barred
  rw [walk, List.foldlM_cons, step]
  rfl

end Region

/-- The text neither opens a cast nor begins a clause, and leads from one depth of parentheses to another. -/
def Dialect.Leads (d : Dialect) (i j : Nat) (s : String) : Prop :=
  Lexical.Spans d i j s ∧ s ≠ "cast(" ∧ s ≠ " LIMIT "

instance (d : Dialect) (i j : Nat) (s : String) : Decidable (d.Leads i j s) :=
  inferInstanceAs (Decidable (_ ∧ _))

/-- What stands in a cast leads from the depth that the cast opens back to it. -/
theorem Region.walk_castTokens {region : Region} {d : Dialect} {i : Nat} (type : ResolvedType) {ts : List Token}
    (h : region.walk d (i + 1) ts = some (i + 1)) : region.walk d i (d.castTokens type ts) = some i := by
  have opens : Token.castOpening.nesting d i = some (i + 1) := by
    have start : Token.castOpening.nesting d 0 = some 1 := by cases d <;> decide
    have shifted := Token.nesting_add start i
    rwa [Nat.zero_add, Nat.add_comm] at shifted
  have closes : (d.castClosing type).nesting d (i + 1) = some i := (d.spans_castClosing type.descriptor i).2
  have opening : region.walk d i [.castOpening] = some (i + 1) :=
    walk_singleton opens fun _ => bars_raw (by decide)
  have closing : region.walk d (i + 1) [d.castClosing type] = some i :=
    walk_singleton closes fun start => absurd start (by omega)
  exact walk_append (walk_append opening h) closing

theorem Region.walk_placeholder (region : Region) (d : Dialect) (i : Nat) :
    region.walk d i [.placeholder] = some i :=
  walk_singleton rfl fun _ => by cases region <;> rfl

/-! ## Drafts -/

/-- The texts in front of an array in a test for membership. -/
def Dialect.arrayOpenings : List String := [" IN(UNNEST(", " NOT IN(UNNEST(", " = ANY(", " <> ALL("]

namespace Draft

/-- The draft is well-formed between two depths of parentheses. If `arrays` says so, an IN list may be bound as an
array. -/
inductive Formed (d : Dialect) (arrays : Bool) (region : Region) : Nat → Nat → Draft → Prop where
  | empty {i : Nat} : Formed d arrays region i i empty
  | token {i j : Nat} {t : Token} : t.isInert = true → t.nesting d i = some j →
    (i = 0 → region.bars t = false) → Formed d arrays region i j (token t)
  | refuse {i : Nat} (cause : TranslationError) : Formed d arrays region i i (refuse cause)
  | append {i j k : Nat} {first second : Draft} : Formed d arrays region i j first →
    Formed d arrays region j k second → Formed d arrays region i k (append first second)
  | typed {i j : Nat} {x : Draft} : Formed d arrays region i j x → Formed d arrays region i j (inMode .typed x)
  | byMode {i j : Nat} {plain typed : Draft} : Formed d arrays region i j plain →
    Formed d arrays region i j typed → Formed d arrays region i j (byMode plain typed)
  | nested {i j : Nat} {x : Draft} : Formed d arrays region i j x → Formed d arrays region i j (nested x)
  | whenNested {i : Nat} {x : Draft} : Formed d arrays region i i x → Formed d arrays region i i (whenNested x)
  | parameter {i : Nat} (p : Parameter) : Formed d arrays region i i (parameter d p)
  /-- A parameter stays plain in a cast that is there in any mode. -/
  | castParameter {i : Nat} (p : Parameter) :
    Formed d arrays region i i (castAs d p.type (inMode .plain (parameter d p)))
  | castToken {i : Nat} {t : Token} (type : ResolvedType) : t.isInert = true →
    (∀ i, t.nesting d i = some i) → Formed d arrays region i i (castAs d type (inMode .plain (token t)))
  | castRefusal {i : Nat} (type : ResolvedType) (cause : TranslationError) :
    Formed d arrays region i i (castAs d type (inMode .plain (refuse cause)))
  /-- An IN list that is bound as an array has a plain placeholder. -/
  | arrayBound {i j k : Nat} {x : Draft} {s : String} (source : ParameterSource) (element : ResolvedType) :
    arrays = true → s ∈ Dialect.arrayOpenings → Formed d arrays region i j x →
    (Token.raw s).nesting d j = some k →
    Formed d arrays region i k (append (append x (token (.raw s))) (arrayPlaceholder source element))

/-- The draft is well-formed and leads back to the depth of parentheses at which it stands. -/
def Flat (d : Dialect) (arrays : Bool) (region : Region) (x : Draft) : Prop := ∀ i, x.Formed d arrays region i i

variable {d : Dialect} {arrays : Bool} {region other : Region} {i j k : Nat} {x y : Draft}

/-- What a well-formed draft writes leads from the one depth to the other, past no word that may not stand there
outside of parentheses. -/
theorem Formed.walk (h : x.Formed d arrays region i j) {mode : RenderingMode} {depth : Nat}
    (success : x.refusal? mode depth = none) : region.walk d i (x.tokens mode depth) = some j := by
  induction h generalizing mode depth with
  | empty => rfl
  | token _ nesting free => exact Region.walk_singleton nesting free
  | refuse cause => cases success
  | append _ _ ihFirst ihSecond =>
    obtain ⟨first, second⟩ := refusal?_append_eq_none.1 success
    have tokens := Region.walk_append (ihFirst first) (ihSecond second)
    rwa [← tokens_append first] at tokens
  | typed _ ih => exact ih success
  | byMode _ _ ihPlain ihTyped =>
    cases mode with
    | plain => exact ihPlain success
    | typed => exact ihTyped success
  | nested _ ih => exact ih success
  | @whenNested i x _ ih =>
    rw [refusal?] at success
    by_cases outermost : depth = 0
    · rw [tokens, writes, if_pos outermost]
      rfl
    · rw [if_neg outermost] at success
      rw [tokens, writes, if_neg outermost]
      exact ih success
  | @parameter i p =>
    cases mode with
    | plain => exact region.walk_placeholder d i
    | typed =>
      have cast : (castAs d p.type (placeholder p)).tokens .typed depth = d.castTokens p.type [.placeholder] :=
        tokens_castAs d p.type rfl
      have inner := Region.walk_castTokens p.type (region.walk_placeholder d (i + 1))
      rwa [← cast] at inner
  | @castParameter i p =>
    rw [tokens_castAs d p.type rfl]
    exact Region.walk_castTokens p.type (region.walk_placeholder d (i + 1))
  | @castToken i t type _ nesting =>
    rw [tokens_castAs d type rfl]
    exact Region.walk_castTokens type (Region.walk_singleton (nesting (i + 1)) fun start => by omega)
  | castRefusal type cause =>
    rw [refusal?_castAs] at success
    cases success
  | @arrayBound i j k x s source element _ operator _ nesting ih =>
    obtain ⟨front, -⟩ := refusal?_append_eq_none.1 success
    obtain ⟨test, -⟩ := refusal?_append_eq_none.1 front
    have free : region.bars (.raw s) = false := by
      refine Region.bars_raw ?_
      rintro rfl
      exact absurd operator (by decide)
    have opening : region.walk d j [.raw s] = some k := Region.walk_singleton nesting fun _ => free
    have tokens := Region.walk_append (Region.walk_append (ih test) opening)
      (region.walk_placeholder d k)
    refine Eq.trans (congrArg _ ?_) tokens
    exact (tokens_append front).trans (congrArg (· ++ _) (tokens_append test))

/-- A draft may stand in any region where no more words are barred. -/
theorem Formed.mono (bars : ∀ t, other.bars t = true → region.bars t = true) (h : x.Formed d arrays region i j) :
    x.Formed d arrays other i j := by
  induction h with
  | empty => exact .empty
  | token inert nesting free =>
    refine .token inert nesting fun start => Bool.eq_false_iff.2 fun barred => ?_
    exact Bool.eq_false_iff.1 (free start) (bars _ barred)
  | refuse cause => exact .refuse cause
  | append _ _ ihFirst ihSecond => exact .append ihFirst ihSecond
  | typed _ ih => exact .typed ih
  | byMode _ _ ihPlain ihTyped => exact .byMode ihPlain ihTyped
  | nested _ ih => exact .nested ih
  | whenNested _ ih => exact .whenNested ih
  | parameter p => exact .parameter p
  | castParameter p => exact .castParameter p
  | castToken type inert nesting => exact .castToken type inert nesting
  | castRefusal type cause => exact .castRefusal type cause
  | arrayBound source element binds operator _ nesting ih => exact .arrayBound source element binds operator ih nesting

/-- Inside parentheses no words are barred. -/
theorem Formed.within (h : x.Formed d arrays region i j) : x.Formed d arrays other (i + 1) (j + 1) := by
  induction h with
  | empty => exact .empty
  | token inert nesting _ => exact .token inert (Token.nesting_add nesting 1) fun start => by omega
  | refuse cause => exact .refuse cause
  | append _ _ ihFirst ihSecond => exact .append ihFirst ihSecond
  | typed _ ih => exact .typed ih
  | byMode _ _ ihPlain ihTyped => exact .byMode ihPlain ihTyped
  | nested _ ih => exact .nested ih
  | whenNested _ ih => exact .whenNested ih
  | parameter p => exact .parameter p
  | castParameter p => exact .castParameter p
  | castToken type inert nesting => exact .castToken type inert nesting
  | castRefusal type cause => exact .castRefusal type cause
  | arrayBound source element binds operator _ nesting ih =>
    exact .arrayBound source element binds operator ih (Token.nesting_add nesting 1)

/-! ## Drafts that are put together -/

theorem Flat.append (hx : x.Flat d arrays region) (hy : y.Flat d arrays region) : (x ++ y).Flat d arrays region :=
  fun i => .append (hx i) (hy i)

theorem Flat.within (h : x.Flat d arrays region) (i : Nat) : x.Formed d arrays other (i + 1) (i + 1) := (h i).within

theorem Flat.mono (bars : ∀ t, other.bars t = true → region.bars t = true) (h : x.Flat d arrays region) :
    x.Flat d arrays other :=
  fun i => (h i).mono bars

/-- An expression may be part of a clause. -/
theorem Flat.inClause (h : x.Flat d arrays .expression) : x.Flat d arrays .clauses :=
  h.mono fun t barred => by rw [Region.bars, Region.bars.eq_def] at *; exact Bool.or_eq_true_iff.2 (.inl barred)

/-- Every draft may be part of a query. -/
theorem Flat.inQuery (h : x.Flat d arrays region) : x.Flat d arrays .query := h.mono nofun

theorem Flat.typed (h : x.Flat d arrays region) : (inMode .typed x).Flat d arrays region := fun i => .typed (h i)

theorem flat_empty : empty.Flat d arrays region := fun _ => .empty

theorem flat_refuse (cause : TranslationError) : (refuse cause).Flat d arrays region := fun _ => .refuse cause

theorem flat_malformed (fault : Malformed) : (malformed fault).Flat d arrays region := fun _ => .refuse _

theorem flat_parameter (p : Parameter) : (parameter d p).Flat d arrays region := fun _ => .parameter p

theorem flat_token {t : Token} (inert : t.isInert = true) (nesting : ∀ i, t.nesting d i = some i)
    (free : region.bars t = false) : (token t).Flat d arrays region :=
  fun i => .token inert (nesting i) fun _ => free

theorem flat_space : space.Flat d arrays region := flat_token rfl (fun _ => rfl) (by cases region <;> rfl)

theorem flat_comma : comma.Flat d arrays region :=
  (flat_token rfl (fun _ => rfl) (by cases region <;> rfl)).append flat_space

theorem flat_name (name : String) : (token (.name name)).Flat d arrays region :=
  flat_token rfl (fun _ => rfl) (by cases region <;> rfl)

theorem flat_literal (l : Literal) : (token (.literal l)).Flat d arrays region :=
  flat_token rfl (fun _ => rfl) (by cases region <;> rfl)

theorem flat_word {w : Keyword} (free : region.bars (.keyword w) = false) : (word w).Flat d arrays region :=
  flat_token rfl (fun _ => rfl) free

theorem flat_spacedWord {w : Keyword} (free : region.bars (.keyword w) = false) :
    (spacedWord w).Flat d arrays region :=
  (flat_space.append (flat_word free)).append flat_space

theorem flat_spaceWord {w : Keyword} (free : region.bars (.keyword w) = false) :
    (spaceWord w).Flat d arrays region :=
  flat_space.append (flat_word free)

theorem flat_wordSpace {w : Keyword} (free : region.bars (.keyword w) = false) :
    (wordSpace w).Flat d arrays region :=
  (flat_word free).append flat_space

theorem flat_named (name : String) : (named name).Flat d arrays region :=
  (flat_spacedWord (by cases region <;> rfl)).append (flat_name name)

theorem Flat.parens (h : x.Flat d arrays .query) : (parens x).Flat d arrays region := by
  intro i
  have opening : (token .leftParen).Formed d arrays region i (i + 1) :=
    .token rfl rfl fun _ => by cases region <;> rfl
  have closing : (token .rightParen).Formed d arrays region (i + 1) i :=
    .token rfl rfl fun start => by omega
  exact .append (.append opening (h.within i)) closing

theorem Flat.parensIf (wanted : Bool) (h : x.Flat d arrays region) : (parensIf wanted x).Flat d arrays region := by
  cases wanted with
  | false => exact h
  | true => exact h.inQuery.parens

theorem flat_optional {o : Option Draft} (h : ∀ x ∈ o, x.Flat d arrays region) :
    (optional o).Flat d arrays region := by
  cases o with
  | none => exact flat_empty
  | some x => exact h x rfl

theorem flat_optional_map {α : Type} {o : Option α} {f : α → Draft} (h : ∀ a ∈ o, (f a).Flat d arrays region) :
    (optional (o.map f)).Flat d arrays region := by
  cases o with
  | none => exact flat_empty
  | some a => exact h a rfl

theorem flat_ite {c : Prop} [Decidable c] (hx : x.Flat d arrays region) (hy : y.Flat d arrays region) :
    (if c then x else y).Flat d arrays region := by
  split
  · exact hx
  · exact hy

theorem flat_separated {xs : List Draft} (hx : x.Flat d arrays region) (h : ∀ y ∈ xs, y.Flat d arrays region) :
    (separated x xs).Flat d arrays region := by
  fun_induction separated x xs with
  | case1 => exact flat_empty
  | case2 y => exact h y List.mem_cons_self
  | case3 y ys _ ih =>
    obtain ⟨hy, hys⟩ := List.forall_mem_cons.1 h
    exact (hy.append hx).append (ih hys)

theorem flat_listed {xs : List Draft} (h : ∀ y ∈ xs, y.Flat d arrays region) : (listed xs).Flat d arrays region :=
  flat_separated flat_comma h

theorem flat_listed_map {α : Type} {as : List α} {f : α → Draft} (h : ∀ a ∈ as, (f a).Flat d arrays region) :
    (listed (as.map f)).Flat d arrays region := by
  refine flat_listed fun y hy => ?_
  obtain ⟨a, ha, rfl⟩ := List.mem_map.1 hy
  exact h a ha

/-! ## Fixed texts -/

variable {s : String} {n : Nat}

theorem formed_raw (h : d.Leads i j s) (k : Nat) : (raw s).Formed d arrays region (i + k) (j + k) := by
  obtain ⟨spans, cast, limit⟩ := h
  have nesting := Lexical.nesting_add spans.2 k
  unfold raw
  split
  · next empty =>
    subst empty
    cases spans.2
    exact .empty
  · exact .token (bne_iff_ne.2 cast) nesting fun _ => Region.bars_raw limit

/-- A text that opens parentheses. -/
theorem opening_raw (h : d.Leads 0 n s) (i : Nat) : (raw s).Formed d arrays region i (i + n) := by
  have formed : (raw s).Formed d arrays region (0 + i) (n + i) := formed_raw h i
  rwa [Nat.zero_add, Nat.add_comm] at formed

/-- A text that closes parentheses. -/
theorem closing_raw (h : d.Leads n 0 s) (i : Nat) : (raw s).Formed d arrays region (i + n) i := by
  have formed : (raw s).Formed d arrays region (n + i) (0 + i) := formed_raw h i
  rwa [Nat.zero_add, Nat.add_comm] at formed

/-- A text without parentheses, or with matching ones. -/
theorem flat_raw (h : d.Leads 0 0 s) : (raw s).Flat d arrays region := fun i => opening_raw h i

/-- A draft between two texts that are a pair of parentheses. -/
theorem Flat.between {s t : String} (opens : d.Leads 0 1 s) (closes : d.Leads 1 0 t) (h : x.Flat d arrays .query) :
    (raw s ++ x ++ raw t).Flat d arrays region :=
  fun i => .append (.append (opening_raw opens i) (h.within i)) (closing_raw closes i)

end Draft

end SqlDialects
