import SqlDialects.Render.Choice
import SqlDialects.Render.QueryForm
import SqlDialects.Proofs.Nesting.Formed

/-!
# Well-formed clauses

A clause is well-formed if the operands in it are. An operand tells of which shape it is: a cast is put around
parameters and constants only, and so no parameter gets a second cast and none loses the one that it has.
-/

namespace SqlDialects

open Draft

variable {d : Dialect} {arrays : Bool}

/-- A constant: one token, or the refusal of a value that cannot be written. -/
inductive Draft.IsConstant (d : Dialect) : Draft → Prop where
  | token {t : Token} : t.isInert = true → (∀ i, t.nesting d i = some i) → Region.expression.bars t = false →
    IsConstant d (token t)
  | refuse (cause : TranslationError) : IsConstant d (refuse cause)

theorem Draft.IsConstant.flat {x : Draft} (h : x.IsConstant d) : x.Flat d arrays .expression := by
  cases h with
  | token inert nesting free => exact flat_token inert nesting free
  | refuse cause => exact flat_refuse cause

/-- The clauses that an EXISTS keeps are well-formed. -/
structure SubqueryFrame.Formed (d : Dialect) (arrays : Bool) (f : SubqueryFrame) : Prop where
  withClause : d.capabilities.withInSubquery = true → f.withClause.Flat d arrays .query
  fromClause : f.fromClause.Flat d arrays .expression
  filter : ∀ x ∈ f.filter, x.Flat d arrays .expression
  groupBy : ∀ x ∈ f.groupBy, x.Flat d arrays .expression
  having : ∀ x ∈ f.having, x.Flat d arrays .expression

/-- The drafts in an operand are well-formed, and a parameter or a constant is drafted as one. -/
inductive Operand.Formed (d : Dialect) (arrays : Bool) : Operand → Prop where
  | parameter (name : String) (multiValued : Bool) (source : ParameterSource) (type : ResolvedType) :
    Formed d arrays (.scalar (.parameter name multiValued) (some type) (.parameter d ⟨source, type⟩))
  | literal (value : Value) (type : ResolvedType) {x : Draft} : x.IsConstant d →
    Formed d arrays (.scalar (.literal value) (some type) x)
  | summarization {type : Option ResolvedType} {x : Draft} : x.Flat d arrays .expression →
    Formed d arrays (.scalar .summarization type x)
  | other {type : Option ResolvedType} {x : Draft} : x.Flat d arrays .expression →
    Formed d arrays (.scalar .other type x)
  | tuple {components : List Operand} : (∀ o ∈ components, Formed d arrays o) → Formed d arrays (.tuple components)
  | subquery {type : Option ResolvedType} {x : Draft} {frame : Option SubqueryFrame} {items : List Operand} :
    x.Flat d arrays .expression → (∀ f ∈ frame, f.Formed d arrays) → (∀ o ∈ items, Formed d arrays o) →
    Formed d arrays (.subquery type x frame items)

namespace Operand

variable {o : Operand} {os : List Operand}

theorem Formed.flat (h : o.Formed d arrays) : o.draft.Flat d arrays .expression := by
  induction h with
  | parameter => exact flat_parameter _
  | literal _ _ constant => exact constant.flat
  | summarization flat => exact flat
  | other flat => exact flat
  | tuple _ ih =>
    rw [Operand.draft, drafts_eq_map]
    exact (flat_listed_map ih).inQuery.parens
  | subquery flat _ _ _ => exact flat

theorem Formed.components (h : (Operand.tuple os).Formed d arrays) : ∀ o ∈ os, o.Formed d arrays := by
  cases h with
  | tuple components => exact components

theorem flat_of_mem_drafts (h : ∀ o ∈ os, o.Formed d arrays) : ∀ x ∈ drafts os, x.Flat d arrays .expression := by
  intro x hx
  rw [drafts_eq_map] at hx
  obtain ⟨o, ho, rfl⟩ := List.mem_map.1 hx
  exact (h o ho).flat

theorem flat_listed_drafts (h : ∀ o ∈ os, o.Formed d arrays) : (listed (drafts os)).Flat d arrays .expression :=
  flat_listed (flat_of_mem_drafts h)

/-- A parameter or a constant may be put in a cast. -/
theorem Formed.casted (h : o.Formed d arrays) (single : o.isParameter = true ∨ o.isLiteral = true) :
    (o.casted d).Flat d arrays .expression := by
  cases h with
  | parameter name multiValued source type => exact fun i => .castParameter ⟨source, type⟩
  | literal value type constant =>
    cases constant with
    | token inert nesting _ => exact fun i => .castToken type inert nesting
    | refuse cause => exact fun i => .castRefusal type cause
  | _ => rcases single with single | single <;> cases single

theorem isLiteral_of_isNullLiteral (h : o.isNullLiteral = true) : o.isLiteral = true := by
  cases o with
  | scalar shape type x =>
    cases shape with
    | literal => rfl
    | _ => cases h
  | _ => cases h

end Operand

/-! ## Choices -/

namespace Choice

variable {c : Choice} {mode : RenderingMode}

/-- The parts of a choice are well-formed. -/
structure Formed (d : Dialect) (arrays : Bool) (c : Choice) : Prop where
  subject : ∀ x ∈ c.subject, x.Flat d arrays .expression
  arms : ∀ arm ∈ c.arms, arm.test.Flat d arrays .expression ∧ arm.result.Formed d arrays
  otherwise : ∀ o ∈ c.otherwise, o.Formed d arrays

/-- A cast is only asked for if every result is a parameter or a constant. -/
theorem isParameter_or_isLiteral_of_needsCast (h : c.needsCast mode = true) :
    ∀ arm ∈ c.arms, arm.result.isParameter = true ∨ arm.result.isLiteral = true := by
  intro arm harm
  have result : arm.result ∈ c.results := List.mem_map_of_mem harm
  rw [needsCast, Bool.or_eq_true] at h
  rcases h with h | h
  · simp only [allParameters, Bool.and_eq_true, List.all_eq_true] at h
    exact .inl (h.2.1.2 _ result)
  · simp only [allPlain, Bool.and_eq_true, List.all_eq_true] at h
    have plain := h.2 _ result
    split at plain
    · next parameter => exact .inl parameter
    · exact .inr plain

theorem flat_armDraft {arm : ChoiceArm} (h : arm.test.Flat d arrays .expression ∧ arm.result.Formed d arrays)
    {cast : Bool} (single : cast = true → arm.result.isParameter = true ∨ arm.result.isLiteral = true) :
    (armDraft d cast arm).Flat d arrays .expression := by
  have result : (if cast then arm.result.casted d else arm.result.draft).Flat d arrays .expression := by
    split
    · next wanted => exact h.2.casted (single wanted)
    · exact h.2.flat
  exact (((flat_spacedWord rfl).append h.1).append (flat_spacedWord rfl)).append result

theorem flat_armDrafts {arms : List ChoiceArm}
    (h : ∀ arm ∈ arms, arm.test.Flat d arrays .expression ∧ arm.result.Formed d arrays) {cast : Bool}
    (single : cast = true → ∀ arm ∈ arms, arm.result.isParameter = true ∨ arm.result.isLiteral = true) :
    (armDrafts d cast arms).Flat d arrays .expression := by
  induction arms generalizing cast with
  | nil => exact flat_empty
  | cons arm arms ih =>
    obtain ⟨harm, harms⟩ := List.forall_mem_cons.1 h
    exact (flat_armDraft harm fun wanted => single wanted arm List.mem_cons_self).append (ih harms nofun)

theorem Formed.standard (h : c.Formed d arrays) {cast : Bool}
    (single : cast = true → ∀ arm ∈ c.arms, arm.result.isParameter = true ∨ arm.result.isLiteral = true) :
    (c.standard d cast).Flat d arrays .expression := by
  have subject : (Draft.optional (c.subject.map fun s => space ++ s)).Flat d arrays .expression :=
    flat_optional_map fun x hx => flat_space.append (h.subject x hx)
  have otherwise : (Draft.optional (c.otherwise.map fun o => spacedWord .elseWord ++ o.draft)).Flat d arrays
      .expression :=
    flat_optional_map fun o ho => (flat_spacedWord rfl).append (h.otherwise o ho).flat
  unfold Choice.standard
  split
  · exact flat_malformed _
  · exact ((((flat_word rfl).append subject).append (flat_armDrafts h.arms single)).append otherwise).append
      (flat_spaceWord rfl)

theorem Formed.draft (h : c.Formed d arrays) : (c.draft d).Flat d arrays .expression := by
  unfold Choice.draft
  split
  · exact fun i => .byMode (h.standard isParameter_or_isLiteral_of_needsCast i)
      (h.standard isParameter_or_isLiteral_of_needsCast i)
  · exact h.standard nofun

end Choice

/-! ## Parts of clauses -/

/-- The drafts in row limits are well-formed. -/
structure RowLimit.Formed (d : Dialect) (arrays : Bool) (l : RowLimit) : Prop where
  offset : ∀ x ∈ l.offset, x.Flat d arrays .expression
  fetch : ∀ x ∈ l.fetch, x.1.Flat d arrays .expression

namespace Dialect

variable {x y : Draft} {o : Operand} {os : List Operand}

theorem flat_arithmetic (op : ArithmeticOperator) (hx : x.Flat d arrays .expression)
    (hy : y.Flat d arrays .expression) : (d.arithmetic op x y).Flat d arrays .expression := by
  unfold arithmetic standardArithmetic
  split
  · split
    · intro i
      have left := (opening_raw (by decide) i : (raw "mod(").Formed hsql arrays .expression i (i + 1)).append
        (hx.within i)
      have gap : (raw ", ").Formed hsql arrays .expression (i + 1) (i + 1) := flat_raw (by decide) (i + 1)
      have right := (left.append gap).append (hy.within i)
      exact right.append (closing_raw (by decide) i)
    · intro i
      have blank : (raw " ").Formed hsql arrays .expression (i + 1) (i + 1) := flat_raw (by decide) (i + 1)
      have operator : (raw op.text).Formed hsql arrays .expression (i + 1) (i + 1) :=
        flat_raw (by cases op <;> decide) (i + 1)
      have left := (opening_raw (by decide) i : (raw "(").Formed hsql arrays .expression i (i + 1)).append
        (hx.typed.within i)
      have right := (((left.append blank).append operator).append blank).append (hy.typed.within i)
      exact right.append (closing_raw (by decide) i)
  · have spaced : (raw (" " ++ op.text ++ " ")).Flat d arrays .expression :=
      flat_raw (by cases d <;> cases op <;> decide)
    exact ((hx.append spaced).append hy).inQuery.parens

theorem flat_booleanCondition (h : x.Flat d arrays .expression) (negated : Bool) :
    (d.booleanCondition x negated).Flat d arrays .expression := by
  unfold booleanCondition standardBoolean
  split
  · exact flat_ite (h.inQuery.between (by decide) (by decide)) h
  · exact flat_ite ((flat_wordSpace rfl).append h) h

theorem flat_nullCheck (h : o.Formed d arrays) (negated : Bool) : (nullCheck o negated).Flat d arrays .expression := by
  have check : (spaceWord (if negated then .isNotNull else .isNull)).Flat d arrays .expression :=
    flat_spaceWord (by cases negated <;> rfl)
  simp only [nullCheck]
  split
  · next c cs =>
    have each : ∀ x ∈ (Operand.drafts (c :: cs)).map (· ++ spaceWord (if negated then .isNotNull else .isNull)),
        x.Flat d arrays .expression := by
      intro x hx
      obtain ⟨y, hy, rfl⟩ := List.mem_map.1 hx
      exact (Operand.flat_of_mem_drafts h.components y hy).append check
    exact (flat_separated (flat_spacedWord rfl) each).inQuery.parens
  · exact h.flat.append check

theorem flat_filteredArgument (hx : x.Flat d arrays .expression) {arg : Option Draft}
    (h : ∀ y ∈ arg, y.Flat d arrays .expression) : (filteredArgument x arg).Flat d arrays .expression := by
  have value : (arg.getD (token (.literal (.integer 1)))).Flat d arrays .expression := by
    cases arg with
    | none => exact flat_literal _
    | some y => exact h y rfl
  have test : (word .caseWord ++ spacedWord .whenWord ++ x).Flat d arrays .expression :=
    ((flat_word rfl).append (flat_spacedWord rfl)).append hx
  exact ((((test.append (flat_spacedWord rfl)).append value).append (flat_spacedWord rfl)).append
    (flat_word rfl)).append (flat_spaceWord rfl)

theorem flat_aggregateCall (name : String) (distinct : Bool) {args : List Draft} {filter : Option Draft}
    (hargs : ∀ y ∈ args, y.Flat d arrays .expression) (hfilter : ∀ y ∈ filter, y.Flat d arrays .expression) :
    (d.aggregateCall name args distinct filter).Flat d arrays .expression := by
  have arguments : (d.aggregateArguments args filter).Flat d arrays .expression := by
    unfold aggregateArguments
    split
    · next f hf =>
      have condition : f.Flat d arrays .expression := by
        split at hf
        · cases hf
        · exact hfilter f hf
      split
      · exact flat_filteredArgument condition nofun
      · exact flat_listed_map fun a ha => flat_filteredArgument condition (by simpa using hargs a ha)
    · split
      · exact flat_token rfl (fun _ => rfl) rfl
      · exact flat_listed hargs
  have native : ∀ y ∈ (if d.capabilities.filterClause then filter else none), y.Flat d arrays .expression := by
    split
    · exact hfilter
    · nofun
  have distinction : (if distinct then wordSpace .distinct else empty).Flat d arrays .expression :=
    flat_ite (flat_wordSpace rfl) flat_empty
  have function : (token (.functionName name)).Flat d arrays .expression := flat_token rfl (fun _ => rfl) rfl
  refine (function.append (distinction.append arguments).inQuery.parens).append (flat_optional_map fun p hp => ?_)
  exact (flat_spacedWord rfl).append ((flat_wordSpace rfl).append (native p hp)).inQuery.parens

theorem flat_partitionItem (h : o.Formed d arrays) : (d.partitionItem o).Flat d arrays .expression := by
  unfold partitionItem standardPartitionItem
  split
  · split
    · exact flat_raw (by decide)
    · exact flat_refuse _
    · exact h.flat
  · split
    · intro i
      have opening : (token .leftParen).Formed d arrays .expression i (i + 1) := .token rfl rfl fun _ => rfl
      exact opening.append (.token rfl rfl fun _ => rfl)
    · exact h.flat

theorem flat_listed_partitionItems (h : ∀ o ∈ os, o.Formed d arrays) :
    (listed (os.map d.partitionItem)).Flat d arrays .expression :=
  flat_listed_map fun o ho => flat_partitionItem (h o ho)

theorem flat_nullRank (hx : x.Flat d arrays .expression) (nulls : NullPrecedence) :
    (nullRank x nulls).Flat d arrays .expression := by
  have test : (word .caseWord ++ spacedWord .whenWord ++ x).Flat d arrays .expression :=
    ((flat_word rfl).append (flat_spacedWord rfl)).append hx
  exact ((((((test.append (flat_spacedWord rfl)).append (flat_word rfl)).append flat_space).append
    (flat_literal _)).append (flat_spacedWord rfl)).append (flat_literal _)).append (flat_spaceWord rfl)

theorem flat_sortKey {k : SortKey} (h : k.key.Flat d arrays .expression) :
    (d.sortKey k).Flat d arrays .expression := by
  refine (((flat_optional_map fun n _ => ?ranks).append h).append (flat_spaceWord ?direction)).append
    (flat_optional_map fun n _ => flat_spaceWord ?words)
  case ranks => exact (flat_nullRank h n).append flat_comma
  case direction => cases k.direction <;> rfl
  case words => cases n <;> rfl

theorem flat_sortList {keys : List SortKey} (h : ∀ k ∈ keys, k.key.Flat d arrays .expression) :
    (d.sortList keys).Flat d arrays .expression :=
  flat_listed_map fun k hk => flat_sortKey (h k hk)

theorem flat_of_mem_groupByClause? (h : ∀ o ∈ os, o.Formed d arrays) :
    ∀ x ∈ d.groupByClause? os, x.Flat d arrays .expression := by
  intro x hx
  unfold groupByClause? at hx
  split at hx
  · cases hx
  · cases hx
    exact (flat_spacedWord rfl).append (flat_listed_partitionItems h)

/-- The words that order a window are inside its parentheses. -/
theorem flat_overWindow {order : List SortKey} (hx : x.Flat d arrays .expression) (hos : ∀ o ∈ os, o.Formed d arrays)
    (horder : ∀ k ∈ order, k.key.Flat d arrays .expression) :
    (d.overWindow x os order).Flat d arrays .expression := by
  have partitionBy : (if os.isEmpty then empty
      else wordSpace .partitionBy ++ listed (os.map d.partitionItem)).Flat d arrays .query :=
    flat_ite flat_empty ((flat_wordSpace rfl).append (flat_listed_partitionItems hos).inQuery)
  have gap : (if os.isEmpty then empty else space).Flat d arrays .query := flat_ite flat_empty flat_space
  have orderBy : (if order.isEmpty then empty
      else (if os.isEmpty then empty else space) ++ wordSpace .orderBy ++ d.sortList order).Flat d arrays .query :=
    flat_ite flat_empty ((gap.append (flat_wordSpace rfl)).append (flat_sortList horder).inQuery)
  exact (hx.append (flat_spacedWord rfl)).append (partitionBy.append orderBy).parens

theorem flat_selectItem (h : o.Formed d arrays) : (d.selectItem o).Flat d arrays .expression := by
  unfold selectItem castedSelectItem
  split
  · split
    · next wanted =>
      rw [Bool.or_eq_true] at wanted
      exact h.casted (wanted.imp_right Operand.isLiteral_of_isNullLiteral)
    · exact h.flat
  · exact h.flat

/-! ## Clauses behind a query -/

theorem flat_orderByClause {keys : List SortKey} (h : ∀ k ∈ keys, k.key.Flat d arrays .expression) :
    (d.orderByClause keys).Flat d arrays .clauses :=
  flat_ite flat_empty ((flat_spacedWord rfl).append (flat_sortList h).inClause)

theorem flat_offsetFetchClause {l : RowLimit} (h : l.Formed d arrays) (rowsKeyword : Bool) :
    (offsetFetchClause l rowsKeyword).Flat d arrays .clauses := by
  refine Flat.append (flat_optional_map fun n hn => ?_) (flat_optional_map fun fetch hfetch => ?_)
  · have rows : (if rowsKeyword then spaceWord .rows else empty).Flat d arrays .clauses :=
      flat_ite (flat_spaceWord rfl) flat_empty
    exact ((flat_spacedWord rfl).append (h.offset n hn).inClause).append rows
  · obtain ⟨n, kind⟩ := fetch
    have count : n.Flat d arrays .clauses := (h.fetch (n, kind) hfetch).inClause
    have percent : (if kind.isPercent then wordSpace .percent else empty).Flat d arrays .clauses :=
      flat_ite (flat_wordSpace rfl) flat_empty
    have ties : (word (if kind.keepsTies then .withTies else .only)).Flat d arrays .clauses :=
      flat_word (by cases kind <;> rfl)
    exact ((((((flat_spacedWord rfl).append (flat_wordSpace rfl)).append count).append flat_space).append
      percent).append (flat_wordSpace rfl)).append ties

theorem flat_requireRowsOnly (l : RowLimit) : (d.requireRowsOnly l).Flat d arrays .clauses := by
  unfold requireRowsOnly
  split
  · exact flat_ite flat_empty (flat_refuse _)
  · exact flat_empty

theorem flat_limitOffsetClause {l : RowLimit} (h : l.Formed d arrays) :
    (d.limitOffsetClause l).Flat d arrays .clauses := by
  refine ((flat_requireRowsOnly l).append (flat_optional_map fun fetch hfetch => ?_)).append
    (flat_optional_map fun n hn => ?_)
  · exact (flat_spacedWord rfl).append (h.fetch fetch hfetch).inClause
  · exact (flat_spacedWord rfl).append (h.offset n hn).inClause

theorem flat_limitClause {l : RowLimit} (h : l.Formed d arrays) : (d.limitClause l).Flat d arrays .clauses := by
  cases d with
  | ansi => exact flat_offsetFetchClause h true
  | hsql => exact (flat_requireRowsOnly l).append (flat_offsetFetchClause h true)
  | postgres =>
    simp only [limitClause]
    split
    · exact flat_ite (flat_refuse _) (flat_offsetFetchClause h true)
    · exact flat_offsetFetchClause h true
  | mysql =>
    simp only [limitClause]
    split
    · next n hn _ =>
      have nesting : ∀ i, (Token.raw " LIMIT ").nesting mysql i = some i := by
        intro i
        have start : (Token.raw " LIMIT ").nesting mysql 0 = some 0 := by decide
        have shifted := Token.nesting_add start i
        rwa [Nat.zero_add] at shifted
      have limit : (raw " LIMIT ").Flat mysql arrays .clauses := flat_token (by decide) nesting rfl
      have unlimited : (raw unlimitedRows).Flat mysql arrays .clauses := flat_raw (by decide)
      have offset : (raw " OFFSET ").Flat mysql arrays .clauses := flat_raw (by decide)
      exact ((limit.append unlimited).append offset).append (h.offset n hn).inClause
    · exact flat_limitOffsetClause h

end Dialect

end SqlDialects
