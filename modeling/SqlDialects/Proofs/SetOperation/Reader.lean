import SqlDialects.Proofs.Query.Layout
import SqlDialects.Proofs.Nesting.Formed

/-!
# Reading queries

A query is read from its tokens by the rules of set operations. INTERSECT binds more closely than UNION and
EXCEPT, and operators of the same strength take their operands from the left. Clauses that order rows or limit
them belong to everything that has been read since the last open parenthesis, and nothing but the closing one
may follow them. The tables of a WITH clause are left aside. What stands in a SELECT or in such clauses is not
looked into, only its parentheses are followed.
-/

namespace SqlDialects

/-- A query as it is understood. -/
inductive QueryTree where
  /-- A single SELECT, by what stands behind its word. -/
  | select (body : List Token)
  | combined (operator : SetOperator) (left right : QueryTree)
  /-- A query with clauses that order its rows or limit them. -/
  | arranged (query : QueryTree) (clauses : List Token)

namespace SetOperator

/-- The operator binds more closely than the others. -/
def isIntersection : SetOperator → Bool
  | intersect => true
  | intersectAll => true
  | _ => false

/-- The operator with the word ALL. -/
def withAll? : SetOperator → Option SetOperator
  | union => some unionAll
  | intersect => some intersectAll
  | except => some exceptAll
  | _ => none

end SetOperator

namespace Token

/-- Spaces are of no importance. -/
def withoutSpaces (ts : List Token) : List Token := ts.filter (· != space)

theorem withoutSpaces_cons {t : Token} (solid : t ≠ space) (ts : List Token) :
    withoutSpaces (t :: ts) = t :: withoutSpaces ts :=
  List.filter_cons_of_pos (bne_iff_ne.2 solid)

/-- A word of a clause neither opens parentheses nor closes any. -/
theorem nesting_of_isClauseWord {t : Token} (h : t.isClauseWord = true) (d : Dialect) : t.nesting d 0 = some 0 := by
  cases t with
  | keyword => rfl
  | raw s =>
    obtain rfl : s = " LIMIT " := beq_iff_eq.1 h
    cases d <;> decide
  | _ => cases h

end Token

namespace Region

variable {region : Region} {d : Dialect} {i : Nat}

theorem pass_space : region.pass d i .space = some i := by
  rw [pass, if_neg]
  · rfl
  · rintro ⟨-, barred⟩
    cases region <;> cases barred

theorem walk_withoutSpaces (ts : List Token) : region.walk d i (Token.withoutSpaces ts) = region.walk d i ts := by
  induction ts generalizing i with
  | nil => rfl
  | cons t ts ih =>
    by_cases same : t = .space
    · subst same
      rw [walk, walk, List.foldlM_cons, pass_space]
      exact ih
    · rw [Token.withoutSpaces_cons same, walk, walk, List.foldlM_cons, List.foldlM_cons]
      cases region.pass d i t with
      | none => rfl
      | some j => exact ih

/-- A word of a clause leaves the depth of parentheses as it is. -/
theorem walk_of_isClauseWord {t : Token} {rest : List Token} {j : Nat} (word : t.isClauseWord = true)
    (h : region.walk d 0 (t :: rest) = some j) : region.walk d 0 rest = some j := by
  rw [walk, List.foldlM_cons] at h
  obtain ⟨k, next, others⟩ := Option.bind_eq_some_iff.1 h
  rw [pass] at next
  split at next
  · cases next
  · rw [Token.nesting_of_isClauseWord word] at next
    cases next
    exact others

end Region

/-! ## The reader -/

/-- The operands that have been read on one level of parentheses and wait for the right side of an operator. -/
structure QueryLevel where
  /-- The left side of a UNION or an EXCEPT. -/
  sum? : Option (QueryTree × SetOperator) := none
  /-- The left side of an INTERSECT. -/
  product? : Option (QueryTree × SetOperator) := none

namespace QueryLevel

/-- The operand together with what waits for it, if anything does. -/
def join (waiting : Option (QueryTree × SetOperator)) (q : QueryTree) : QueryTree :=
  waiting.elim q fun (left, operator) => .combined operator left q

/-- Everything on the level, if the operand is its last one. -/
def total (l : QueryLevel) (q : QueryTree) : QueryTree := join l.sum? (join l.product? q)

/-- The level behind an operand and an operator. -/
def add (l : QueryLevel) (q : QueryTree) (operator : SetOperator) : QueryLevel :=
  if operator.isIntersection then ⟨l.sum?, some (join l.product? q, operator)⟩
  else ⟨some (l.total q, operator), none⟩

end QueryLevel

/-- What the reader of a query is in the middle of. -/
inductive QueryPart where
  | select
  | clauses (query : QueryTree)

namespace QueryPart

/-- Where the part ends, by the words that may not stand in it. -/
def region : QueryPart → Region
  | select => .expression
  | clauses _ => .clauses

/-- The part made of some tokens. -/
def tree (ts : List Token) : QueryPart → QueryTree
  | select => .select ts
  | clauses q => .arranged q ts

end QueryPart

/-- What comes next. -/
inductive QueryPhase where
  /-- A query, which may have a WITH clause. -/
  | opening
  /-- A table of a WITH clause, at a depth of parentheses and with its body to come or not. -/
  | tables (depth : Nat) (bodyNext : Bool)
  /-- More tables, or the query that they belong to. -/
  | listed
  /-- The second operand of an operator, which may have the word ALL. -/
  | joint (left : QueryTree) (operator : SetOperator)
  | operand
  /-- The rest of a part, at a depth of parentheses and behind some tokens. -/
  | inside (part : QueryPart) (depth : Nat) (ts : List Token)
  /-- An operator, a clause or the end. -/
  | complete (q : QueryTree)

/-- A reader of a query on its way. -/
structure QueryReader where
  level : QueryLevel
  /-- The levels around it, the innermost one first. -/
  outer : List QueryLevel
  phase : QueryPhase

namespace QueryReader

/-- The level on which an operand comes next. -/
def ready? (r : QueryReader) : Option QueryLevel :=
  match r.phase with
  | .opening => some r.level
  | .listed => some r.level
  | .operand => some r.level
  | .joint left operator => some (r.level.add left operator)
  | _ => none

/-- The operand that has just been read. -/
def operand? (r : QueryReader) : Option QueryTree :=
  match r.phase with
  | .inside .select 0 ts => some (.select ts)
  | .complete q => some q
  | _ => none

/-- Everything on the innermost level, if it may end here. -/
def total? (r : QueryReader) : Option QueryTree :=
  match r.phase with
  | .inside part 0 ts => some (r.level.total (part.tree ts))
  | .complete q => some (r.level.total q)
  | _ => none

/-- Goes on with the part or the table that the reader is in the middle of. -/
def advance (d : Dialect) (r : QueryReader) (t : Token) : Option QueryReader :=
  match r.phase with
  | .inside part i ts => (part.region.pass d i t).map fun j => { r with phase := .inside part j (ts ++ [t]) }
  | .tables i bodyNext =>
    (Region.expression.pass d i t).map fun j =>
      -- A closing parenthesis ends the columns of the table first, and then, behind AS, its body.
      if bodyNext && j == 0 && i != 0 then { r with phase := .listed }
      else { r with phase := .tables j (bodyNext || (i == 0 && t == .keyword .asWord)) }
  | _ => none

/-- Closes the innermost level, which becomes an operand of the one around it. -/
def leave (r : QueryReader) : Option QueryReader :=
  match r.total?, r.outer with
  | some q, level :: outer => some ⟨level, outer, .complete q⟩
  | _, _ => none

/-- Takes an operator behind an operand. -/
def combine (r : QueryReader) (operator : SetOperator) : Option QueryReader :=
  r.operand?.map fun q => { r with phase := .joint q operator }

/-- Takes the word ALL behind an operator. -/
def combineAll (r : QueryReader) : Option QueryReader :=
  match r.phase with
  | .joint left operator =>
    operator.withAll?.map fun operator => ⟨r.level.add left operator, r.outer, .operand⟩
  | _ => none

/-- Takes the first word of the clauses behind everything on the level. -/
def arrange (r : QueryReader) (t : Token) : Option QueryReader :=
  -- Nothing waits on the level any more: what did is part of the query that is arranged.
  r.operand?.map fun q => ⟨{}, r.outer, .inside (.clauses (r.level.total q)) 0 [t]⟩

/-- Takes a token that begins something or ends it. -/
def turn (r : QueryReader) : Token → Option QueryReader
  | .keyword .withWord =>
    match r.phase with
    | .opening => some { r with phase := .tables 0 false }
    | _ => none
  | .comma =>
    match r.phase with
    | .listed => some { r with phase := .tables 0 false }
    | _ => none
  | .keyword .select => r.ready?.map fun level => ⟨level, r.outer, .inside .select 0 []⟩
  | .leftParen => r.ready?.map fun level => ⟨{}, level :: r.outer, .opening⟩
  | .rightParen => r.leave
  | .keyword .union => r.combine .union
  | .keyword .intersect => r.combine .intersect
  | .keyword .except => r.combine .except
  | .keyword .all => r.combineAll
  | t => if t.isClauseWord then r.arrange t else none

/-- Reads a token. -/
def step (d : Dialect) (r : QueryReader) (t : Token) : Option QueryReader :=
  if t = .space then some r else (r.advance d t).or (r.turn t)

/-- Reads some tokens, one after the other. -/
def readAll (d : Dialect) (r : QueryReader) (ts : List Token) : Option QueryReader := ts.foldlM (step d) r

/-- The reader in front of a query. -/
def initial (outer : List QueryLevel) : QueryReader := ⟨{}, outer, .opening⟩

end QueryReader

/-- The query that some tokens are read as. -/
def QueryTree.read? (d : Dialect) (ts : List Token) : Option QueryTree :=
  ((QueryReader.initial []).readAll d ts).bind fun r => if r.outer.isEmpty then r.total? else none

/-! ## Levels -/

namespace QueryLevel

variable (left right : QueryTree) (operator : SetOperator)

/-- The right side of a UNION or an EXCEPT goes on with an INTERSECT. -/
theorem total_add_add {sum product : SetOperator} (looser : sum.isIntersection = false)
    (closer : product.isIntersection = true) (l : QueryLevel) (first second third : QueryTree) :
    ((l.add first sum).add second product).total third =
      .combined sum (l.total first) (.combined product second third) := by
  simp [add, total, join, looser, closer]

example : QueryTree.read? .ansi [.keyword .select, .name "a", .keyword .union, .keyword .select, .name "b",
    .keyword .intersect, .keyword .select, .name "c"] =
      some (.combined .union (.select [.name "a"])
        (.combined .intersect (.select [.name "b"]) (.select [.name "c"]))) := rfl

/-- What waits alone on its level is joined with the next operand. -/
theorem total_add_empty :
    (({} : QueryLevel).add left operator).total right = .combined operator left right := by
  cases operator <;> rfl

/-- Operands are taken from the left. -/
theorem add_add_empty :
    (({} : QueryLevel).add left operator).add right operator =
      ({} : QueryLevel).add (.combined operator left right) operator := by
  cases operator <;> rfl

end QueryLevel

/-! ## Reading from left to right -/

namespace QueryReader

variable {d : Dialect} {r s u : QueryReader} {level : QueryLevel} {outer : List QueryLevel} {q : QueryTree}
  {t : Token} {ts us : List Token}

theorem readAll_append (ht : r.readAll d ts = some s) (hu : s.readAll d us = some u) :
    r.readAll d (ts ++ us) = some u := by
  rw [readAll] at ht
  rw [readAll, List.foldlM_append, ht]
  exact hu

theorem readAll_cons (h : r.step d t = some s) : r.readAll d (t :: ts) = s.readAll d ts := by
  rw [readAll, List.foldlM_cons, h]
  rfl

theorem step_space : r.step d .space = some r := rfl

theorem readAll_withoutSpaces : r.readAll d (Token.withoutSpaces ts) = r.readAll d ts := by
  induction ts generalizing r with
  | nil => rfl
  | cons t ts ih =>
    by_cases same : t = .space
    · subst same
      exact ih
    · rw [Token.withoutSpaces_cons same, readAll, readAll, List.foldlM_cons, List.foldlM_cons]
      cases r.step d t with
      | none => rfl
      | some s => exact ih

/-- A token that goes on with nothing begins something or ends it. -/
theorem step_of_turn (solid : t ≠ .space) (still : r.advance d t = none) : r.step d t = r.turn t := by
  rw [step, if_neg solid, still, Option.none_or]

theorem advance_of_ready (h : r.ready? = some level) (t : Token) : r.advance d t = none := by
  obtain ⟨_, _, phase⟩ := r
  cases phase with
  | inside => cases h
  | tables => cases h
  | _ => rfl

/-- The reader may go on at an operand only with what ends it. -/
theorem advance_of_operand (h : r.operand? = some q) (ends : Region.expression.pass d 0 t = none) :
    r.advance d t = none := by
  obtain ⟨_, _, phase⟩ := r
  cases phase with
  | inside part i ts =>
    cases part with
    | clauses => cases h
    | select =>
      cases i with
      | zero => exact congrArg (Option.map _) ends
      | succ => cases h
  | tables => cases h
  | _ => rfl

theorem total_of_operand (h : r.operand? = some q) : r.total? = some (r.level.total q) := by
  obtain ⟨_, _, phase⟩ := r
  cases phase with
  | inside part i ts =>
    cases part with
    | clauses => cases h
    | select =>
      cases i with
      | zero =>
        cases h
        rfl
      | succ => cases h
  | complete =>
    cases h
    rfl
  | _ => cases h

/-- Where a level may end, a parenthesis closes it. -/
theorem step_rightParen (h : r.total? = some q) (around : r.outer = level :: outer) :
    r.step d .rightParen = some ⟨level, outer, .complete q⟩ := by
  have still : r.advance d .rightParen = none := by
    obtain ⟨_, _, phase⟩ := r
    cases phase with
    | inside part i ts =>
      cases i with
      | zero => cases part <;> rfl
      | succ => cases h
    | tables => cases h
    | _ => rfl
  rw [step_of_turn (by decide) still, turn, leave, h, around]

/-- A part goes on as long as its region lets it. -/
theorem readAll_inside {part : QueryPart} {i j : Nat} (h : part.region.walk d i ts = some j) (front : List Token) :
    readAll d ⟨level, outer, .inside part i front⟩ ts =
      some ⟨level, outer, .inside part j (front ++ Token.withoutSpaces ts)⟩ := by
  induction ts generalizing i front with
  | nil =>
    cases h
    rw [Token.withoutSpaces, List.filter_nil, List.append_nil]
    rfl
  | cons t ts ih =>
    rw [Region.walk, List.foldlM_cons] at h
    obtain ⟨k, next, rest⟩ := Option.bind_eq_some_iff.1 h
    by_cases same : t = .space
    · subst same
      obtain rfl : i = k := Option.some.inj (Region.pass_space.symm.trans next)
      rw [readAll_cons step_space]
      exact ih rest front
    · have step : step d ⟨level, outer, .inside part i front⟩ t =
          some ⟨level, outer, .inside part k (front ++ [t])⟩ := by
        rw [QueryReader.step, if_neg same]
        simp only [advance, next, Option.map_some, Option.some_or]
      rw [readAll_cons step, ih rest, Token.withoutSpaces_cons same, List.append_assoc, List.singleton_append]

/-! ## Queries -/

/-- The tokens are read as an operand wherever one may come. -/
def ReadsOperand (d : Dialect) (ts : List Token) (q : QueryTree) : Prop :=
  ∀ (r : QueryReader) (level : QueryLevel), r.ready? = some level →
    ∃ s : QueryReader, r.readAll d ts = some s ∧ s.level = level ∧ s.outer = r.outer ∧ s.operand? = some q

/-- The tokens are read as a query, from an open parenthesis on. -/
def ReadsQuery (d : Dialect) (ts : List Token) (q : QueryTree) : Prop :=
  ∀ outer, ∃ s : QueryReader, (initial outer).readAll d ts = some s ∧ s.outer = outer ∧ s.total? = some q

theorem ReadsQuery.read (h : ReadsQuery d ts q) : QueryTree.read? d ts = some q := by
  obtain ⟨s, read, outer, total⟩ := h []
  rw [QueryTree.read?, read, Option.bind_some, outer]
  exact total

/-- A query in parentheses is an operand. -/
theorem ReadsQuery.parens (h : ReadsQuery d ts q) : ReadsOperand d ([.leftParen] ++ ts ++ [.rightParen]) q := by
  intro r level ready
  obtain ⟨s, inner, outer, total⟩ := h (level :: r.outer)
  have opening : r.step d .leftParen = some (initial (level :: r.outer)) := by
    rw [step_of_turn (by decide) (advance_of_ready ready _), turn, ready]
    rfl
  have opened : r.readAll d [.leftParen] = some (initial (level :: r.outer)) := readAll_cons opening
  have close : s.readAll d [.rightParen] = some ⟨level, r.outer, .complete q⟩ :=
    readAll_cons (step_rightParen total outer)
  exact ⟨_, readAll_append (readAll_append opened inner) close, rfl, rfl, rfl⟩

/-- A SELECT that has no clauses of its own is an operand. -/
theorem readsOperand_select (h : Region.expression.walk d 0 ts = some 0) :
    ReadsOperand d ([.keyword .select, .space] ++ ts) (.select (Token.withoutSpaces ts)) := by
  intro r level ready
  have word : r.step d (.keyword .select) = some ⟨level, r.outer, .inside .select 0 []⟩ := by
    rw [step_of_turn (by decide) (advance_of_ready ready _), turn, ready]
    rfl
  have start : r.readAll d [.keyword .select, .space] = some ⟨level, r.outer, .inside .select 0 []⟩ :=
    readAll_cons word
  have body : QueryPart.select.region.walk d 0 ts = some 0 := h
  exact ⟨_, readAll_append start (readAll_inside body []), rfl, rfl, rfl⟩

/-- An operator takes its left side and has its right side to come. -/
theorem readAll_joint (h : r.operand? = some q) (operator : SetOperator) :
    ∃ s, r.readAll d operator.joint = some s ∧ s.ready? = some (r.level.add q operator) ∧ s.outer = r.outer := by
  have word {w : Keyword} {plain : SetOperator} (turns : r.turn (.keyword w) = r.combine plain)
      (ends : Region.expression.pass d 0 (.keyword w) = none) :
      r.step d (.keyword w) = some { r with phase := .joint q plain } := by
    have solid : Token.keyword w ≠ .space := nofun
    rw [step_of_turn solid (advance_of_operand h ends), turns, combine, h]
    rfl
  have all {w : Keyword} {plain : SetOperator} (step : r.step d (.keyword w) = some { r with phase := .joint q plain })
      (same : plain.withAll? = some operator) : r.readAll d [.keyword w, .space, .keyword .all] =
        some ⟨r.level.add q operator, r.outer, .operand⟩ := by
    rw [readAll_cons step, readAll_cons step_space]
    refine readAll_cons ?_
    rw [step_of_turn (by decide) rfl]
    simp only [turn, combineAll, same, Option.map_some]
  cases operator with
  | union => exact ⟨_, readAll_cons (word (w := .union) rfl rfl), rfl, rfl⟩
  | intersect => exact ⟨_, readAll_cons (word (w := .intersect) rfl rfl), rfl, rfl⟩
  | except => exact ⟨_, readAll_cons (word (w := .except) rfl rfl), rfl, rfl⟩
  | unionAll => exact ⟨_, all (word (w := .union) rfl rfl) rfl, rfl, rfl⟩
  | intersectAll => exact ⟨_, all (word (w := .intersect) rfl rfl) rfl, rfl, rfl⟩
  | exceptAll => exact ⟨_, all (word (w := .except) rfl rfl) rfl, rfl, rfl⟩

/-- Operands behind the words of one operator are combined from the left. -/
theorem readAll_further {α : Type} {operator : SetOperator} {tokens : α → List Token} {tree : α → QueryTree}
    {xs : List α} (operands : ∀ x ∈ xs, ReadsOperand d (tokens x) (tree x)) {left : QueryTree}
    (h : r.operand? = some q) (total : r.level.total q = left)
    (add : r.level.add q operator = ({} : QueryLevel).add left operator) :
    ∃ s p, r.readAll d (xs.flatMap fun x => operator.joint ++ tokens x) = some s ∧ s.outer = r.outer ∧
      s.operand? = some p ∧ s.level.total p = xs.foldl (fun left x => .combined operator left (tree x)) left := by
  induction xs generalizing r q left with
  | nil => exact ⟨r, q, rfl, rfl, h, total⟩
  | cons x xs ih =>
    obtain ⟨here, others⟩ := List.forall_mem_cons.1 operands
    obtain ⟨waiting, words, ready, around⟩ := readAll_joint h operator
    obtain ⟨s, operand, level, outer, right⟩ := here waiting _ ready
    have joined : s.level.total (tree x) = .combined operator left (tree x) := by
      rw [level, add, QueryLevel.total_add_empty]
    have next : s.level.add (tree x) operator =
        ({} : QueryLevel).add (.combined operator left (tree x)) operator := by
      rw [level, add, QueryLevel.add_add_empty]
    obtain ⟨u, p, rest, outside, last, all⟩ := ih others right joined next
    refine ⟨u, p, ?_, outside.trans (outer.trans around), last, all⟩
    rw [List.flatMap_cons]
    exact readAll_append (readAll_append words operand) rest

/-- The first word of some clauses takes everything on the level. -/
theorem step_of_isClauseWord (h : r.operand? = some q) (word : t.isClauseWord = true) :
    r.step d t = some ⟨{}, r.outer, .inside (.clauses (r.level.total q)) 0 [t]⟩ := by
  have solid : t ≠ .space := by
    rintro rfl
    cases word
  have ends : Region.expression.pass d 0 t = none := by
    rw [Region.pass, Region.bars, word, Bool.or_true]
    rfl
  have turns : r.turn t = r.arrange t := by
    cases t with
    | keyword w => cases w <;> first | rfl | cases word
    | raw s => exact if_pos word
    | _ => cases word
  rw [step_of_turn solid (advance_of_operand h ends), turns, arrange, h]
  rfl

/-- Clauses behind everything on a level belong to all of it. -/
theorem readAll_clauses (h : r.operand? = some q) {rest : List Token} (solid : Token.withoutSpaces ts = t :: rest)
    (word : t.isClauseWord = true) (walk : Region.clauses.walk d 0 ts = some 0) :
    ∃ s, r.readAll d ts = some s ∧ s.outer = r.outer ∧
      s.total? = some (.arranged (r.level.total q) (Token.withoutSpaces ts)) := by
  have further : (QueryPart.clauses (r.level.total q)).region.walk d 0 rest = some 0 := by
    rw [← Region.walk_withoutSpaces, solid] at walk
    exact Region.walk_of_isClauseWord word walk
  have clean : Token.withoutSpaces rest = rest := by
    have nonspace : t ≠ .space := by
      rintro rfl
      cases word
    have twice : Token.withoutSpaces (Token.withoutSpaces ts) = Token.withoutSpaces ts := by
      simp [Token.withoutSpaces]
    rw [solid, Token.withoutSpaces_cons nonspace] at twice
    exact List.tail_eq_of_cons_eq twice
  refine ⟨⟨{}, r.outer, .inside (.clauses (r.level.total q)) 0 (t :: rest)⟩, ?_, rfl, ?_⟩
  · rw [← readAll_withoutSpaces, solid, readAll_cons (step_of_isClauseWord h word), readAll_inside further, clean]
    rfl
  · rw [solid]
    rfl

/-! ## The tables of a WITH clause -/

/-- Inside its parentheses, a table goes on. -/
theorem readAll_tables {i j : Nat} (h : Region.query.walk d i ts = some j) (bodyNext : Bool) :
    readAll d ⟨level, outer, .tables (i + 1) bodyNext⟩ ts = some ⟨level, outer, .tables (j + 1) bodyNext⟩ := by
  induction ts generalizing i with
  | nil =>
    cases h
    rfl
  | cons t ts ih =>
    rw [Region.walk, List.foldlM_cons] at h
    obtain ⟨k, next, rest⟩ := Option.bind_eq_some_iff.1 h
    have step : step d ⟨level, outer, .tables (i + 1) bodyNext⟩ t = some ⟨level, outer, .tables (k + 1) bodyNext⟩ := by
      by_cases same : t = .space
      · subst same
        obtain rfl : i = k := Option.some.inj (Region.pass_space.symm.trans next)
        rfl
      · have nesting : t.nesting d i = some k := by
          rwa [Region.pass, Region.bars, if_neg (by simp)] at next
        have pass : Region.expression.pass d (i + 1) t = some (k + 1) := by
          rw [Region.pass, if_neg (by simp), Token.nesting_add nesting]
        rw [QueryReader.step, if_neg same]
        simp [advance, pass]
    rw [readAll_cons step]
    exact ih rest

/-- Parentheses in a table: its columns, or its body, behind which the table is complete. -/
theorem readAll_tables_parens (h : Region.query.walk d 0 ts = some 0) (bodyNext : Bool) :
    readAll d ⟨level, outer, .tables 0 bodyNext⟩ ([.leftParen] ++ ts ++ [.rightParen]) =
      some ⟨level, outer, if bodyNext then .listed else .tables 0 false⟩ := by
  have opening : readAll d ⟨level, outer, .tables 0 bodyNext⟩ [.leftParen] =
      some ⟨level, outer, .tables 1 bodyNext⟩ := by
    cases bodyNext <;> rfl
  have closing : readAll d ⟨level, outer, .tables 1 bodyNext⟩ [.rightParen] =
      some ⟨level, outer, if bodyNext then .listed else .tables 0 false⟩ := by
    cases bodyNext <;> rfl
  exact readAll_append (readAll_append opening (readAll_tables h bodyNext)) closing

/-- The tokens are read as one table of a WITH clause. -/
def ReadsTable (d : Dialect) (ts : List Token) : Prop :=
  ∀ level outer, readAll d ⟨level, outer, .tables 0 false⟩ ts = some ⟨level, outer, .listed⟩

/-- A table is its name, its columns if they are named, and its body. -/
theorem readsTable (name : String) (columns : Option (List Token)) {body : List Token}
    (hcolumns : ∀ ts ∈ columns, Region.query.walk d 0 ts = some 0) (hbody : Region.query.walk d 0 body = some 0) :
    ReadsTable d ([.name name] ++ columns.elim [] (fun ts => .space :: ([.leftParen] ++ ts ++ [.rightParen]))
      ++ [.space, .keyword .asWord, .space] ++ ([.leftParen] ++ body ++ [.rightParen])) := by
  intro level outer
  have start : readAll d ⟨level, outer, .tables 0 false⟩ [.name name] = some ⟨level, outer, .tables 0 false⟩ := rfl
  have names : readAll d ⟨level, outer, .tables 0 false⟩
      (columns.elim [] fun ts => .space :: ([.leftParen] ++ ts ++ [.rightParen])) =
        some ⟨level, outer, .tables 0 false⟩ := by
    cases columns with
    | none => rfl
    | some ts =>
      rw [Option.elim_some, readAll_cons step_space]
      exact readAll_tables_parens (hcolumns ts rfl) false
  have word : readAll d ⟨level, outer, .tables 0 false⟩ [.space, .keyword .asWord, .space] =
      some ⟨level, outer, .tables 0 true⟩ := rfl
  exact readAll_append (readAll_append (readAll_append start names) word) (readAll_tables_parens hbody true)

/-- Tables are listed one after the other. -/
theorem readAll_listing {xs : List (List Token)} (h : ∀ ts ∈ xs, ReadsTable d ts) (nonempty : xs ≠ []) :
    readAll d ⟨level, outer, .tables 0 false⟩ ([Token.comma, .space].intercalate xs) = some ⟨level, outer, .listed⟩ := by
  induction xs with
  | nil => exact absurd rfl nonempty
  | cons ts xs ih =>
    obtain ⟨here, others⟩ := List.forall_mem_cons.1 h
    cases xs with
    | nil =>
      rw [List.intercalate_singleton]
      exact here level outer
    | cons us xs =>
      have gap : readAll d ⟨level, outer, .listed⟩ [.comma, .space] = some ⟨level, outer, .tables 0 false⟩ := rfl
      rw [List.intercalate_cons_of_ne_nil (List.cons_ne_nil us xs)]
      exact readAll_append (readAll_append (here level outer) gap) (ih others (List.cons_ne_nil us xs))

end QueryReader

end SqlDialects
