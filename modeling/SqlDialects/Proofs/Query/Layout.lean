import SqlDialects.Proofs.Draft.Forms

/-!
# The layout of a query

What is written for a query, clause by clause. A SELECT is its select list, the column of a search path where it
has one, the clauses from FROM to HAVING, and the clauses that a set operation would take for its own
(`SelectForm.tokens_draft`). A set operation is its parts with the words of the operator between each two of
them, behind the WITH clause and in front of the clauses of the whole (`QueryForm.tokens_draft_set`).
-/

namespace SqlDialects

open Draft

/-- The words of a set operation. -/
def SetOperator.words : SetOperator → List Token
  | union => [.keyword .union]
  | unionAll => [.keyword .union, .space, .keyword .all]
  | intersect => [.keyword .intersect]
  | intersectAll => [.keyword .intersect, .space, .keyword .all]
  | except => [.keyword .except]
  | exceptAll => [.keyword .except, .space, .keyword .all]

/-- The tokens between two parts of a set operation. -/
def SetOperator.joint (operator : SetOperator) : List Token := .space :: operator.words ++ [.space]

/-- The clauses that order a query and limit its rows. -/
def Dialect.arrangement (d : Dialect) (orderBy : List SortKey) (limit : RowLimit) : Draft :=
  d.orderByClause orderBy ++ (if limit.isEmpty then .empty else d.limitClause limit)

variable {d : Dialect} {mode : RenderingMode} {depth : Nat}

/-! ## A single SELECT -/

namespace SelectForm

/-- The select list, behind its word. -/
def selectList (d : Dialect) (f : SelectForm) : Draft :=
  (if f.distinct then .wordSpace .distinct else .empty) ++ .listed (f.items.map d.aliasedItem)

/-- The clauses from FROM to HAVING. -/
def restrictions (d : Dialect) (f : SelectForm) (standalone : Bool) : Draft :=
  f.fromClause d standalone
    ++ .optional (f.filter.map fun p => .spacedWord .whereWord ++ p)
    ++ .optional (d.groupByClause? f.groupBy)
    ++ .optional (f.having.map fun p => .spacedWord .having ++ p)

/-- The clauses behind all others. -/
def arrangement (d : Dialect) (f : SelectForm) : Draft := d.arrangement f.orderBy f.limit

/-- A SELECT that can be written is written clause by clause. -/
theorem tokens_draft (d : Dialect) (f : SelectForm) (path : Option PathPart) (standalone : Bool) :
    (f.draft d path standalone).refusal? mode depth = none →
      (f.selectList d).refusal? mode depth = none ∧
      (Draft.optional (path.map d.pathColumn)).refusal? mode depth = none ∧
      (f.restrictions d standalone).refusal? mode depth = none ∧
      (f.arrangement d).refusal? mode depth = none ∧
      (f.draft d path standalone).tokens mode depth =
        [.keyword .select, .space] ++ (f.selectList d).tokens mode depth
          ++ (Draft.optional (path.map d.pathColumn)).tokens mode depth
          ++ (f.restrictions d standalone).tokens mode depth ++ (f.arrangement d).tokens mode depth := by
  unfold draft
  split
  · nofun
  · intro h
    simp only [refusal?_append_eq_none] at h
    obtain ⟨⟨⟨⟨⟨⟨⟨⟨⟨-, distinct⟩, items⟩, column⟩, source⟩, filter⟩, groupBy⟩, having⟩, orderBy⟩, limit⟩ := h
    simp [selectList, restrictions, arrangement, Dialect.arrangement, tokens_append, refusal?_append_eq_none,
      distinct, items, column, source, filter, groupBy, having, orderBy, limit]

end SelectForm

/-! ## Set operations -/

namespace QueryForm

/-- A part of a set operation, the first one or a further one. -/
def partDraft (d : Dialect) (path : Option PathForm) (first : Bool) (part : QueryForm) : Draft :=
  match part, path with
  | select f, some p =>
    .parensIf f.needsParens (f.draft d (some (if first then .seed p else .step p)) false)
  | set _ _, some _ => .malformed .pathPartNotSelect
  | select f, none =>
    if f.tables.isEmpty then .parensIf f.needsParens (f.draft d none false)
    else .parens (.nested (part.draft d false none))
  | set _ _, none => .parens (.nested (part.draft d false none))

theorem setParts_cons (d : Dialect) (operator : SetOperator) (path : Option PathForm) (first : Bool)
    (part : QueryForm) (parts : List QueryForm) :
    setParts d operator path first (part :: parts) =
      (if first then .empty else .space ++ Dialect.setWords operator ++ .space)
        ++ part.partDraft d path first ++ setParts d operator path false parts := by
  rw [setParts.eq_def]
  cases part <;> cases path <;> rfl

/-- Each further part of a set operation stands behind the words of the operator. -/
theorem tokens_setParts_further {operator : SetOperator} {path : Option PathForm} {parts : List QueryForm}
    (h : (setParts d operator path false parts).refusal? mode depth = none) :
    (∀ part ∈ parts, (part.partDraft d path false).refusal? mode depth = none) ∧
      (setParts d operator path false parts).tokens mode depth =
        parts.flatMap fun part => operator.joint ++ (part.partDraft d path false).tokens mode depth := by
  induction parts with
  | nil =>
    rw [setParts]
    exact ⟨nofun, rfl⟩
  | cons part parts ih =>
    rw [setParts_cons] at h ⊢
    obtain ⟨front, rest⟩ := refusal?_append_eq_none.1 h
    obtain ⟨words, here⟩ := refusal?_append_eq_none.1 front
    obtain ⟨others, tokens⟩ := ih rest
    have joint : (if false then Draft.empty else .space ++ Dialect.setWords operator ++ .space).tokens mode depth =
        operator.joint := by
      cases operator <;> rfl
    refine ⟨List.forall_mem_cons.2 ⟨here, others⟩, ?_⟩
    rw [tokens_append front, tokens_append words, joint, tokens, List.flatMap_cons]

/-- A set operation that can be written has parts, and more than one if it has a search path. -/
theorem setBody_eq {operator : SetOperator} {path : Option PathForm} {parts : List QueryForm}
    (h : (setBody d operator path parts).refusal? mode depth = none) :
    setBody d operator path parts = setParts d operator path true parts ∧
      ∃ first rest, parts = first :: rest ∧ (path.isSome = true → rest ≠ []) := by
  cases parts with
  | nil => cases h
  | cons first rest =>
    cases path with
    | none => exact ⟨rfl, first, rest, rfl, nofun⟩
    | some p =>
      cases rest with
      | nil => cases h
      | cons second rest =>
        refine ⟨?_, first, second :: rest, rfl, fun _ => List.cons_ne_nil _ _⟩
        simp only [setBody, List.isEmpty_cons, Bool.false_eq_true, if_false, List.length_cons]
        exact if_neg (by omega)

/-- The parts of a set operation are between its WITH clause and the clauses of the whole. -/
theorem draft_set (d : Dialect) (f : SetForm) (standalone : Bool) (path : Option PathForm) (parts : List QueryForm) :
    (set f parts).draft d standalone path =
      d.innerWithClause f.tables ++ setBody d f.operator path parts ++ d.orderByClause f.orderBy
        ++ (if f.limit.isEmpty then .empty else d.limitClause f.limit) := by
  rw [draft.eq_def]
  rfl

/-- A set operation that can be written is written with the words of the operator between its parts. -/
theorem tokens_draft_set (d : Dialect) (f : SetForm) (standalone : Bool) (path : Option PathForm)
    (parts : List QueryForm) (h : ((set f parts).draft d standalone path).refusal? mode depth = none) :
    ∃ first rest, parts = first :: rest ∧ (path.isSome = true → rest ≠ []) ∧
      (d.innerWithClause f.tables).refusal? mode depth = none ∧
      (first.partDraft d path true).refusal? mode depth = none ∧
      (∀ part ∈ rest, (part.partDraft d path false).refusal? mode depth = none) ∧
      (d.arrangement f.orderBy f.limit).refusal? mode depth = none ∧
      ((set f parts).draft d standalone path).tokens mode depth =
        (d.innerWithClause f.tables).tokens mode depth ++ (first.partDraft d path true).tokens mode depth
          ++ rest.flatMap (fun part => f.operator.joint ++ (part.partDraft d path false).tokens mode depth)
          ++ (d.arrangement f.orderBy f.limit).tokens mode depth := by
  rw [draft_set] at h ⊢
  obtain ⟨upToOrder, limit⟩ := refusal?_append_eq_none.1 h
  obtain ⟨upToParts, orderBy⟩ := refusal?_append_eq_none.1 upToOrder
  obtain ⟨withClause, body⟩ := refusal?_append_eq_none.1 upToParts
  obtain ⟨same, first, rest, rfl, several⟩ := setBody_eq body
  rw [same, setParts_cons] at body
  obtain ⟨front, further⟩ := refusal?_append_eq_none.1 body
  obtain ⟨others, tokens⟩ := tokens_setParts_further further
  have one := (refusal?_append_eq_none.1 front).2
  refine ⟨first, rest, rfl, several, withClause, one, others, refusal?_append_eq_none.2 ⟨orderBy, limit⟩, ?_⟩
  rw [tokens_append upToOrder, tokens_append upToParts, tokens_append withClause, same, setParts_cons,
    tokens_append front, tokens_append rfl, tokens, Dialect.arrangement, tokens_append orderBy]
  simp only [List.append_assoc]
  rfl

end QueryForm

end SqlDialects
