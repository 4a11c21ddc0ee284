import SqlDialects.Render.Draft

/-!
# The writes of a draft

Carrying out a draft is a sequence of acts, each of which adds a token to the page; a placeholder is
added together with its parameter in a single act. `Draft.writes` lists these acts and `Draft.refusal?`
says whether the draft gives up behind them. Both depend on nothing but the mode and the depth of the
place of writing, and together they are the run (`Draft.run_eq`): what was on the page before stays in
front, and modes and depth are as before.
-/

theorem List.map_intercalate {α β : Type} (f : α → β) (sep : List α) (pieces : List (List α)) :
    (sep.intercalate pieces).map f = (sep.map f).intercalate (pieces.map (List.map f)) := by
  induction pieces with
  | nil => rfl
  | cons piece pieces ih =>
    cases pieces with
    | nil => simp
    | cons next rest =>
      have others : (next :: rest).map (List.map f) ≠ [] := by simp
      rw [List.intercalate_cons_of_ne_nil (List.cons_ne_nil _ _), List.map_append, List.map_append, ih,
        List.map_cons (l := next :: rest), List.intercalate_cons_of_ne_nil others]

namespace SqlDialects

/-- An act of writing. -/
inductive Write where
  | token (t : Token)
  | placeholder (p : Parameter)

namespace Write

/-- The token that an act adds. -/
def added : Write → Token
  | token t => t
  | placeholder _ => .placeholder

/-- The parameter that an act records, if any. -/
def recorded? : Write → Option Parameter
  | token _ => none
  | placeholder p => some p

end Write

namespace Page

/-- The page after an act of writing. -/
def write (page : Page) : Write → Page
  | .token t => page.push t
  | .placeholder p => page.pushParameter p

/-- The page after some acts of writing, in order. -/
def writeAll (page : Page) (ws : List Write) : Page := ws.foldl write page

variable (page : Page) (ws vs : List Write)

@[simp] theorem writeAll_nil : page.writeAll [] = page := rfl

@[simp] theorem writeAll_append : page.writeAll (ws ++ vs) = (page.writeAll ws).writeAll vs :=
  List.foldl_append

theorem tokens_writeAll :
    (page.writeAll ws).tokens.toList = page.tokens.toList ++ ws.map Write.added := by
  induction ws generalizing page with
  | nil => simp
  | cons w ws ih =>
    rw [writeAll, List.foldl_cons]
    refine (ih (page.write w)).trans ?_
    cases w <;> simp [write, push, pushParameter, Write.added]

theorem parameters_writeAll :
    (page.writeAll ws).parameters.toList = page.parameters.toList ++ ws.filterMap Write.recorded? := by
  induction ws generalizing page with
  | nil => simp
  | cons w ws ih =>
    rw [writeAll, List.foldl_cons]
    refine (ih (page.write w)).trans ?_
    cases w <;> simp [write, push, pushParameter, Write.recorded?, List.filterMap_cons]

/-- What is written in a mode stays when the mode is left. -/
theorem leaveMode_writeAll_enterMode (mode : RenderingMode) :
    ((page.enterMode mode).writeAll ws).leaveMode = page.writeAll ws := by
  induction ws generalizing page with
  | nil => rfl
  | cons w ws ih =>
    have rest := ih (page.write w)
    cases w <;> exact rest

/-- What is written in a query stays when the query is left. -/
theorem leaveQuery_writeAll_enterQuery :
    (page.enterQuery.writeAll ws).leaveQuery = page.writeAll ws := by
  induction ws generalizing page with
  | nil => rfl
  | cons w ws ih =>
    have rest := ih (page.write w)
    cases w <;> exact rest

@[simp] theorem modes_writeAll : (page.writeAll ws).modes = page.modes := by
  induction ws generalizing page with
  | nil => rfl
  | cons w ws ih =>
    have rest := ih (page.write w)
    cases w <;> exact rest

@[simp] theorem depth_writeAll : (page.writeAll ws).depth = page.depth := by
  induction ws generalizing page with
  | nil => rfl
  | cons w ws ih =>
    have rest := ih (page.write w)
    cases w <;> exact rest

@[simp] theorem mode_writeAll : (page.writeAll ws).mode = page.mode := by
  simp [mode]

end Page

namespace Draft

/-- Why a draft is given up in the given surroundings, if it is. -/
def refusal? : Draft → RenderingMode → Nat → Option TranslationError
  | empty, _, _ => none
  | token _, _, _ => none
  | placeholder _, _, _ => none
  | refuse cause, _, _ => some cause
  | append first second, mode, depth => (first.refusal? mode depth).or (second.refusal? mode depth)
  | inMode mode d, _, depth => d.refusal? mode depth
  | byMode plain _, .plain, depth => plain.refusal? .plain depth
  | byMode _ typed, .typed, depth => typed.refusal? .typed depth
  | nested d, mode, depth => d.refusal? mode (depth + 1)
  | whenNested d, mode, depth => if depth = 0 then none else d.refusal? mode depth

/-- What a draft writes in the given surroundings, up to its end or to the place where it is given up. -/
def writes : Draft → RenderingMode → Nat → List Write
  | empty, _, _ => []
  | token t, _, _ => [.token t]
  | placeholder p, _, _ => [.placeholder p]
  | refuse _, _, _ => []
  | append first second, mode, depth =>
    first.writes mode depth
      ++ if (first.refusal? mode depth).isNone then second.writes mode depth else []
  | inMode mode d, _, depth => d.writes mode depth
  | byMode plain _, .plain, depth => plain.writes .plain depth
  | byMode _ typed, .typed, depth => typed.writes .typed depth
  | nested d, mode, depth => d.writes mode (depth + 1)
  | whenNested d, mode, depth => if depth = 0 then [] else d.writes mode depth

/-- The tokens that a draft writes in the given surroundings. -/
def tokens (d : Draft) (mode : RenderingMode) (depth : Nat) : List Token :=
  (d.writes mode depth).map Write.added

section Single

variable (mode : RenderingMode) (depth : Nat)

@[simp] theorem refusal?_empty : empty.refusal? mode depth = none := by rw [refusal?]

@[simp] theorem refusal?_token (t : Token) : (token t).refusal? mode depth = none := by rw [refusal?]

@[simp] theorem tokens_empty : empty.tokens mode depth = [] := rfl

@[simp] theorem tokens_token (t : Token) : (token t).tokens mode depth = [t] := rfl

end Single

section Append

variable {first second : Draft} {mode : RenderingMode} {depth : Nat}

theorem refusal?_append_eq_none : (first ++ second).refusal? mode depth = none ↔
    first.refusal? mode depth = none ∧ second.refusal? mode depth = none :=
  Option.or_eq_none_iff

theorem writes_append (h : first.refusal? mode depth = none) :
    (first ++ second).writes mode depth = first.writes mode depth ++ second.writes mode depth := by
  change first.writes mode depth
    ++ (if (first.refusal? mode depth).isNone then second.writes mode depth else []) = _
  rw [h]
  rfl

theorem tokens_append (h : first.refusal? mode depth = none) :
    (first ++ second).tokens mode depth = first.tokens mode depth ++ second.tokens mode depth := by
  rw [tokens, writes_append h, List.map_append]
  rfl

theorem refusal?_raw (s : String) : (raw s).refusal? mode depth = none := by
  unfold raw
  split <;> rfl

theorem writes_raw (s : String) :
    (raw s).writes mode depth = if s = "" then [] else [.token (.raw s)] := by
  unfold raw
  split <;> rfl

theorem tokens_raw {s : String} (nonempty : s ≠ "") : (raw s).tokens mode depth = [.raw s] := by
  rw [tokens, writes_raw, if_neg nonempty]
  rfl

section Words

variable (mode : RenderingMode) (depth : Nat) (w : Keyword) (name : String)

@[simp] theorem refusal?_space : space.refusal? mode depth = none := by rw [space, refusal?_token]

@[simp] theorem refusal?_comma : comma.refusal? mode depth = none := by rw [comma]; simp [refusal?_append_eq_none]

@[simp] theorem refusal?_word : (word w).refusal? mode depth = none := by rw [word, refusal?_token]

@[simp] theorem refusal?_spacedWord : (spacedWord w).refusal? mode depth = none := by
  simp [spacedWord, refusal?_append_eq_none]

@[simp] theorem refusal?_spaceWord : (spaceWord w).refusal? mode depth = none := by
  simp [spaceWord, refusal?_append_eq_none]

@[simp] theorem refusal?_wordSpace : (wordSpace w).refusal? mode depth = none := by
  simp [wordSpace, refusal?_append_eq_none]

@[simp] theorem refusal?_named : (named name).refusal? mode depth = none := by
  simp [named, refusal?_append_eq_none]

@[simp] theorem tokens_space : space.tokens mode depth = [.space] := rfl

@[simp] theorem tokens_comma : comma.tokens mode depth = [.comma, .space] := rfl

@[simp] theorem tokens_word : (word w).tokens mode depth = [.keyword w] := rfl

@[simp] theorem tokens_spacedWord : (spacedWord w).tokens mode depth = [.space, .keyword w, .space] := rfl

@[simp] theorem tokens_spaceWord : (spaceWord w).tokens mode depth = [.space, .keyword w] := rfl

@[simp] theorem tokens_wordSpace : (wordSpace w).tokens mode depth = [.keyword w, .space] := rfl

@[simp] theorem tokens_named :
    (named name).tokens mode depth = [.space, .keyword .asWord, .space, .name name] := rfl

end Words

theorem refusal?_parens {x : Draft} : (parens x).refusal? mode depth = none ↔ x.refusal? mode depth = none := by
  simp [parens, refusal?_append_eq_none]

theorem refusal?_parensIf {x : Draft} {wanted : Bool} :
    (parensIf wanted x).refusal? mode depth = none ↔ x.refusal? mode depth = none := by
  cases wanted with
  | false => exact Iff.rfl
  | true => exact refusal?_parens

theorem tokens_parens {x : Draft} (h : x.refusal? mode depth = none) :
    (parens x).tokens mode depth = [.leftParen] ++ x.tokens mode depth ++ [.rightParen] := by
  simp [parens, refusal?_append_eq_none, tokens_append, h]

theorem refusal?_of_mem_listed {x : Draft} {xs : List Draft} (h : (listed xs).refusal? mode depth = none)
    (hx : x ∈ xs) : x.refusal? mode depth = none := by
  unfold listed at h
  fun_induction separated comma xs with
  | case1 => cases hx
  | case2 y => rwa [List.mem_singleton.1 hx]
  | case3 y ys _ ih =>
    obtain ⟨front, rest⟩ := refusal?_append_eq_none.1 h
    rcases List.mem_cons.1 hx with rfl | hx
    · exact (refusal?_append_eq_none.1 front).1
    · exact ih rest hx

theorem refusal?_listed_of_forall {xs : List Draft} (h : ∀ x ∈ xs, x.refusal? mode depth = none) :
    (listed xs).refusal? mode depth = none := by
  unfold listed
  fun_induction separated comma xs with
  | case1 => rfl
  | case2 x => exact h x List.mem_cons_self
  | case3 x xs _ ih =>
    obtain ⟨first, others⟩ := List.forall_mem_cons.1 h
    exact refusal?_append_eq_none.2 ⟨refusal?_append_eq_none.2 ⟨first, rfl⟩, ih others⟩

theorem writes_listed {xs : List Draft} (h : (listed xs).refusal? mode depth = none) :
    (listed xs).writes mode depth =
      [.token .comma, .token .space].intercalate (xs.map (·.writes mode depth)) := by
  unfold listed at *
  fun_induction separated comma xs with
  | case1 => rfl
  | case2 x => simp
  | case3 x xs nonempty ih =>
    obtain ⟨front, rest⟩ := refusal?_append_eq_none.1 h
    obtain ⟨first, -⟩ := refusal?_append_eq_none.1 front
    have others : xs.map (·.writes mode depth) ≠ [] := by
      simpa using nonempty
    have gap : comma.writes mode depth = [.token .comma, .token .space] := rfl
    rw [writes_append front, writes_append first, gap, ih rest, List.map_cons,
      List.intercalate_cons_of_ne_nil others]

theorem tokens_listed {xs : List Draft} (h : (listed xs).refusal? mode depth = none) :
    (listed xs).tokens mode depth = [Token.comma, .space].intercalate (xs.map (·.tokens mode depth)) := by
  rw [tokens, writes_listed h, List.map_intercalate, List.map_map]
  rfl

end Append

/-- Carrying out a draft is carrying out its writes. -/
theorem run_eq (d : Draft) (page : Page) :
    d.run page =
      (d.refusal? page.mode page.depth, page.writeAll (d.writes page.mode page.depth)) := by
  induction d generalizing page with
  | empty => rfl
  | token t => rfl
  | placeholder p => rfl
  | refuse cause => rfl
  | append first second ihf ihs =>
    rw [run, ihf page]
    cases hf : first.refusal? page.mode page.depth with
    | none => simp [ihs, refusal?, writes, hf]
    | some cause => simp [refusal?, writes, hf]
  | inMode mode d ih =>
    rw [run, ih (page.enterMode mode)]
    exact congrArg (Prod.mk _) (page.leaveMode_writeAll_enterMode _ mode)
  | byMode plain typed ihp iht =>
    rw [run]
    cases hm : page.mode with
    | plain => simp only [ihp, refusal?, writes, hm]
    | typed => simp only [iht, refusal?, writes, hm]
  | nested d ih =>
    rw [run, ih page.enterQuery]
    exact congrArg (Prod.mk _) (page.leaveQuery_writeAll_enterQuery _)
  | whenNested d ih =>
    rw [run, refusal?, writes]
    split
    · rfl
    · exact ih page

/-- A run that comes to its end adds the tokens of the draft. -/
theorem tokens_of_run {x : Draft} {page after : Page} (h : x.run page = (none, after)) :
    x.refusal? page.mode page.depth = none ∧
      after.tokens.toList = page.tokens.toList ++ x.tokens page.mode page.depth := by
  rw [run_eq, Prod.mk.injEq] at h
  obtain ⟨success, rfl⟩ := h
  exact ⟨success, page.tokens_writeAll _⟩

end Draft

end SqlDialects
