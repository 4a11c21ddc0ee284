import SqlDialects.Proofs.Draft.Statements
import SqlDialects.Proofs.Query.Layout
import SqlDialects.Proofs.Sort.Reader

/-!
# Sort lists as they are written

A sort list is written behind the words ORDER BY, at the end of a query or inside the parentheses of a window. The keys
that are read back order any two rows as the items of the list ask for, also under a dialect that has no words for the
side of nulls (`SortPlace.order_of_run`).
-/

namespace SqlDialects

open Draft

variable {ctx : TranslationContext} {mode : RenderingMode} {depth : Nat}

/-- The tokens of a piece in a text that is written in the given surroundings. -/
def SortPiece.tokens (ctx : TranslationContext) (mode : RenderingMode) (depth : Nat) : SortPiece → List Token
  | token t => [t]
  | expression e => (e.operand ctx).draft.tokens mode depth

@[simp] theorem SortPiece.tokens_token (t : Token) : (token t).tokens ctx mode depth = [t] := rfl

@[simp] theorem SortPiece.tokens_expression (e : Expression) :
    (expression e).tokens ctx mode depth = (e.operand ctx).draft.tokens mode depth := rfl

/-- The keys that a dialect has for an item of a sort list. -/
def Dialect.orderKeys (d : Dialect) (item : SortItem) : List OrderKey :=
  if d.capabilities.nullsOrdering then [item.key] else item.separatedKeys

theorem Dialect.orderKeys_ne_nil (d : Dialect) (item : SortItem) : d.orderKeys item ≠ [] := by
  unfold orderKeys SortItem.separatedKeys
  split <;> simp

/-- The keys that a dialect has for a sort list. -/
def Dialect.allOrderKeys (d : Dialect) (items : List SortItem) : List OrderKey := items.flatMap d.orderKeys

namespace Dialect

variable {d : Dialect} {item : SortItem} {items : List SortItem}

theorem allOrderKeys_cons (d : Dialect) (item : SortItem) (items : List SortItem) :
    d.allOrderKeys (item :: items) = d.orderKeys item ++ d.allOrderKeys items := rfl

theorem allOrderKeys_ne_nil (d : Dialect) (nonempty : items ≠ []) : d.allOrderKeys items ≠ [] := by
  obtain ⟨item, rest, rfl⟩ := List.exists_cons_of_ne_nil nonempty
  rw [allOrderKeys_cons]
  exact List.append_ne_nil_of_left_ne_nil (d.orderKeys_ne_nil item) _

/-- With words for the side of nulls the keys are those that are asked for. -/
theorem allOrderKeys_of_nullsOrdering (native : d.capabilities.nullsOrdering = true) (items : List SortItem) :
    d.allOrderKeys items = items.map SortItem.key := by
  have each (item : SortItem) : d.orderKeys item = [item.key] := if_pos native
  rw [allOrderKeys, List.map_eq_flatMap]
  exact List.flatMap_congr fun item _ => each item

/-- Without words for the side of nulls the keys separate nulls. -/
theorem allOrderKeys_of_not_nullsOrdering (lacks : d.capabilities.nullsOrdering = false) (items : List SortItem) :
    d.allOrderKeys items = items.flatMap SortItem.separatedKeys := by
  have each (item : SortItem) : d.orderKeys item = item.separatedKeys := if_neg (by simp [lacks])
  exact List.flatMap_congr fun item _ => each item

end Dialect

/-! ## The tokens of a sort list -/

/-- The key that is drafted for an item. -/
def SortItem.draftedKey (ctx : TranslationContext) (item : SortItem) : SortKey :=
  ⟨(item.expression.operand ctx).draft, item.direction, item.nulls⟩

theorem sortKeys_eq_map (ctx : TranslationContext) (items : List SortItem) :
    sortKeys ctx items = items.map (·.draftedKey ctx) := by
  induction items with
  | nil => rfl
  | cons item items ih =>
    cases item
    rw [sortKeys, ih]
    rfl

theorem Dialect.sortKey_eq (d : Dialect) (k : SortKey) : d.sortKey k =
    .optional ((if d.capabilities.nullsOrdering then none else k.nulls).map fun nulls => nullRank k.key nulls ++ .comma)
      ++ k.key ++ .spaceWord k.direction.keyword
      ++ .optional ((if d.capabilities.nullsOrdering then k.nulls else none).map fun nulls =>
        .spaceWord nulls.keyword) := rfl

/-- A number for null and another one for every value are written as a key. -/
theorem SortItem.tokens_nullRank (item : SortItem) (nulls : NullPrecedence)
    (h : (item.expression.operand ctx).draft.refusal? mode depth = none) :
    (Dialect.nullRank (item.expression.operand ctx).draft nulls).tokens mode depth =
      (item.nullKey nulls).pieces.flatMap (SortPiece.tokens ctx mode depth) := by
  cases nulls <;>
    simp [Dialect.nullRank, nullKey, NullPrecedence.ranks, OrderKey.pieces, OrderOperand.pieces, tokens_append,
      refusal?_append_eq_none, h]

/-- An expression is followed by its direction, and by the side of nulls if this is said. -/
theorem OrderKey.tokens_expression (ctx : TranslationContext) (mode : RenderingMode) (depth : Nat) (e : Expression)
    (direction : SortDirection) (nulls : Option NullPrecedence) :
    (pieces ⟨.expression e, some direction, nulls⟩).flatMap (SortPiece.tokens ctx mode depth) =
      (e.operand ctx).draft.tokens mode depth ++ [.space, .keyword direction.keyword]
        ++ nulls.elim [] (fun nulls => [.space, .keyword nulls.keyword]) := by
  cases nulls <;> simp [pieces, OrderOperand.pieces]

/-- An item is written as its keys. -/
theorem SortItem.tokens_sortKey (item : SortItem)
    (h : (ctx.dialect.sortKey (item.draftedKey ctx)).refusal? mode depth = none) :
    (ctx.dialect.sortKey (item.draftedKey ctx)).tokens mode depth =
      (OrderKey.listedPieces (ctx.dialect.orderKeys item)).flatMap (SortPiece.tokens ctx mode depth) := by
  rw [Dialect.sortKey_eq] at h ⊢
  obtain ⟨upToDirection, -⟩ := refusal?_append_eq_none.1 h
  obtain ⟨upToKey, -⟩ := refusal?_append_eq_none.1 upToDirection
  obtain ⟨rank, written⟩ := refusal?_append_eq_none.1 upToKey
  rw [tokens_append upToDirection, tokens_append upToKey, tokens_append rank, tokens_spaceWord, Dialect.orderKeys]
  obtain ⟨e, direction, nulls⟩ := item
  cases native : ctx.dialect.capabilities.nullsOrdering with
  | true =>
    rw [if_pos rfl, if_pos rfl, if_pos rfl, OrderKey.listedPieces_singleton]
    refine Eq.trans ?_ (OrderKey.tokens_expression ctx mode depth e direction nulls).symm
    cases nulls <;> rfl
  | false =>
    rw [if_neg Bool.false_ne_true, if_neg Bool.false_ne_true, if_neg Bool.false_ne_true]
    have value := OrderKey.tokens_expression ctx mode depth e direction none
    cases nulls with
    | none => exact value.symm
    | some nulls =>
      rw [native] at rank
      have separated : (Dialect.nullRank (e.operand ctx).draft nulls ++ comma).tokens mode depth = _ :=
        tokens_append (refusal?_append_eq_none.1 rank).1
      have ranked := tokens_nullRank ⟨e, direction, some nulls⟩ nulls written
      have keys : separatedKeys ⟨e, direction, some nulls⟩ =
          [nullKey ⟨e, direction, some nulls⟩ nulls] ++ [⟨.expression e, some direction, none⟩] := rfl
      rw [keys, OrderKey.listedPieces_append (List.cons_ne_nil _ _) (List.cons_ne_nil _ _),
        OrderKey.listedPieces_singleton, OrderKey.listedPieces_singleton, List.flatMap_append, List.flatMap_append,
        ← ranked, value]
      simp [draftedKey, Draft.optional, separated]

/-- A sort list is written as its keys. -/
theorem tokens_sortList {items : List SortItem}
    (h : (ctx.dialect.sortList (sortKeys ctx items)).refusal? mode depth = none) :
    (ctx.dialect.sortList (sortKeys ctx items)).tokens mode depth =
      (OrderKey.listedPieces (ctx.dialect.allOrderKeys items)).flatMap (SortPiece.tokens ctx mode depth) := by
  rw [Dialect.sortList, sortKeys_eq_map, List.map_map] at h ⊢
  rw [tokens_listed h, List.map_map]
  have each : ∀ item ∈ items, (ctx.dialect.sortKey (item.draftedKey ctx)).tokens mode depth =
      (OrderKey.listedPieces (ctx.dialect.orderKeys item)).flatMap (SortPiece.tokens ctx mode depth) :=
    fun item hitem => item.tokens_sortKey (refusal?_of_mem_listed h (List.mem_map_of_mem hitem))
  clear h
  -- an item may have two keys, so the commas within items and those between them are put together
  induction items with
  | nil => rfl
  | cons item items ih =>
    obtain ⟨first, others⟩ := List.forall_mem_cons.1 each
    rw [Dialect.allOrderKeys_cons]
    cases items with
    | nil =>
      rw [List.map_singleton, List.intercalate_singleton, Dialect.allOrderKeys, List.flatMap_nil, List.append_nil]
      exact first
    | cons next rest =>
      rw [OrderKey.listedPieces_append (ctx.dialect.orderKeys_ne_nil item)
        (ctx.dialect.allOrderKeys_ne_nil (List.cons_ne_nil next rest)), List.flatMap_append, List.flatMap_append,
        ← first, ← ih others, List.map_cons, List.intercalate_cons_of_ne_nil (by simp)]
      rfl

/-- A clause is written as its keys. -/
theorem tokens_orderBy (gap : List SortPiece) {words : Draft} (fixed : words.refusal? mode depth = none)
    (start : words.tokens mode depth = gap.flatMap (SortPiece.tokens ctx mode depth) ++ [.keyword .orderBy, .space])
    {items : List SortItem}
    (h : (if (sortKeys ctx items).isEmpty then empty
      else words ++ ctx.dialect.sortList (sortKeys ctx items)).refusal? mode depth = none) :
    (if (sortKeys ctx items).isEmpty then empty
      else words ++ ctx.dialect.sortList (sortKeys ctx items)).tokens mode depth =
      (OrderKey.clausePieces gap (ctx.dialect.allOrderKeys items)).flatMap (SortPiece.tokens ctx mode depth) := by
  cases items with
  | nil => rfl
  | cons item items =>
    have present : (sortKeys ctx (item :: items)).isEmpty = false := by
      rw [sortKeys_eq_map]
      rfl
    have keys : (ctx.dialect.allOrderKeys (item :: items)).isEmpty = false := by
      simpa using ctx.dialect.allOrderKeys_ne_nil (List.cons_ne_nil item items)
    rw [present, if_neg Bool.false_ne_true] at h ⊢
    have list := (refusal?_append_eq_none.1 h).2
    rw [tokens_append fixed, start, tokens_sortList list, OrderKey.clausePieces, keys, if_neg Bool.false_ne_true,
      List.flatMap_append, List.flatMap_append]
    rfl

theorem tokens_orderByClause {items : List SortItem}
    (h : (ctx.dialect.orderByClause (sortKeys ctx items)).refusal? mode depth = none) :
    (ctx.dialect.orderByClause (sortKeys ctx items)).tokens mode depth =
      (OrderKey.clausePieces [.token .space] (ctx.dialect.allOrderKeys items)).flatMap
        (SortPiece.tokens ctx mode depth) :=
  tokens_orderBy [.token .space] (refusal?_spacedWord mode depth .orderBy) rfl h

/-! ## The places of sort lists -/

/-- A place of a sort list. -/
inductive SortPlace where
  /-- A SELECT, on its own or as a part of a set operation. -/
  | select (s : SelectQuery) (path : Option PathPart) (standalone : Bool)
  | set (g : SetQuery) (path : Option PathForm) (standalone : Bool)
  | window (w : Over)

namespace SortPlace

/-- The sort list. -/
def items : SortPlace → List SortItem
  | select s _ _ => s.orderBy
  | set g _ _ => g.orderBy
  | window w => w.order

/-- What the sort list is a part of. -/
def draft (ctx : TranslationContext) : SortPlace → Draft
  | select s path standalone => (s.form ctx).draft ctx.dialect path standalone
  | set g path standalone => ((Query.set g).form ctx).draft ctx.dialect standalone path
  | window w => ((Expression.windowed w).operand ctx).draft

/-- What stands in front of the words ORDER BY and the space around them. -/
def front (ctx : TranslationContext) : SortPlace → Draft
  | select s path standalone =>
    .wordSpace .select ++ (s.form ctx).selectList ctx.dialect ++ .optional (path.map ctx.dialect.pathColumn)
      ++ (s.form ctx).restrictions ctx.dialect standalone
  | set g path _ =>
    ctx.dialect.innerWithClause (tableForms ctx g.ctes)
      ++ QueryForm.setBody ctx.dialect g.operator path (queryForms ctx g.parts)
  | window w =>
    (w.function.operand ctx).draft ++ .spacedWord .overWord ++ .token .leftParen
      ++ if w.partitions.isEmpty then .empty
        else .wordSpace .partitionBy ++ .listed ((operands ctx w.partitions).map ctx.dialect.partitionItem)

/-- What stands behind the sort list. -/
def back (ctx : TranslationContext) : SortPlace → Draft
  | select s _ _ => if (s.form ctx).limit.isEmpty then .empty else ctx.dialect.limitClause (s.form ctx).limit
  | set g _ _ => if (g.form ctx).limit.isEmpty then .empty else ctx.dialect.limitClause (g.form ctx).limit
  | window _ => .token .rightParen

/-- The space in front of the words ORDER BY. -/
def gap : SortPlace → List SortPiece
  | window w => if w.partitions.isEmpty then [] else [.token .space]
  | _ => [.token .space]

/-- The pieces of the sort list, with the words in front of them. -/
def pieces (d : Dialect) (p : SortPlace) : List SortPiece := OrderKey.clausePieces p.gap (d.allOrderKeys p.items)

theorem withoutSpaces_gap (p : SortPlace) : SortPiece.withoutSpaces p.gap = [] := by
  cases p with
  | select => rfl
  | set => rfl
  | window w =>
    rw [gap]
    split <;> rfl

/-- A sort list is written between what is in front of it and what is behind it. -/
theorem tokens_draft (p : SortPlace) (h : (p.draft ctx).refusal? mode depth = none) :
    (p.draft ctx).tokens mode depth =
      (p.front ctx).tokens mode depth ++ (p.pieces ctx.dialect).flatMap (SortPiece.tokens ctx mode depth)
        ++ (p.back ctx).tokens mode depth := by
  cases p with
  | select s path standalone =>
    obtain ⟨list, column, -, arrangement, tokens⟩ := (s.form ctx).tokens_draft ctx.dialect path standalone h
    have orderBy := (refusal?_append_eq_none.1 arrangement).1
    have front : (SortPlace.front ctx (select s path standalone)).tokens mode depth =
        [.keyword .select, .space] ++ ((s.form ctx).selectList ctx.dialect).tokens mode depth
          ++ (Draft.optional (path.map ctx.dialect.pathColumn)).tokens mode depth
          ++ ((s.form ctx).restrictions ctx.dialect standalone).tokens mode depth := by
      simp [SortPlace.front, tokens_append, refusal?_append_eq_none, list, column]
    rw [draft, tokens, SelectForm.arrangement, Dialect.arrangement, tokens_append orderBy, front, ← List.append_assoc]
    exact congrArg (_ ++ · ++ _) (tokens_orderByClause orderBy)
  | set g path standalone =>
    rw [draft, Query.form_set, QueryForm.draft_set] at h ⊢
    obtain ⟨upToOrder, -⟩ := refusal?_append_eq_none.1 h
    obtain ⟨front, orderBy⟩ := refusal?_append_eq_none.1 upToOrder
    rw [tokens_append upToOrder, tokens_append front]
    exact congrArg (_ ++ · ++ _) (tokens_orderByClause orderBy)
  | window w =>
    obtain ⟨function, partitions, order⟩ := w
    have alone : (operands ctx partitions).isEmpty = partitions.isEmpty := by
      rw [operands_eq_map, List.isEmpty_map]
    rw [draft, Expression.operand, Operand.draft, Dialect.overWindow, alone] at h ⊢
    obtain ⟨words, inner⟩ := refusal?_append_eq_none.1 h
    obtain ⟨call, -⟩ := refusal?_append_eq_none.1 words
    obtain ⟨partitionBy, orderBy⟩ := refusal?_append_eq_none.1 (refusal?_parens.1 inner)
    have clause := tokens_orderBy (SortPlace.gap (window ⟨function, partitions, order⟩))
      (by split <;> rfl) (by rw [gap]; split <;> rfl) orderBy
    have front : (SortPlace.front ctx (window ⟨function, partitions, order⟩)).tokens mode depth =
        (function.operand ctx).draft.tokens mode depth ++ [.space, .keyword .overWord, .space] ++ [.leftParen]
          ++ (if partitions.isEmpty then empty
            else wordSpace .partitionBy ++ listed ((operands ctx partitions).map ctx.dialect.partitionItem)).tokens
              mode depth := by
      simp [SortPlace.front, tokens_append, refusal?_append_eq_none, call]
    rw [tokens_append words, tokens_append call, tokens_parens (refusal?_parens.1 inner), tokens_append partitionBy,
      clause, front]
    simp only [List.append_assoc]
    rfl

/-- The keys that are written behind the words ORDER BY, in a query or in a window, order any two rows as the items of
the sort list ask for, wherever the database would put nulls. They are the keys that the items ask for if the dialect
has words for the side of nulls, and none of them has such words if it has not. -/
theorem order_of_run.{u} (ctx : TranslationContext) (p : SortPlace) {page after : Page}
    (h : (p.draft ctx).run page = (none, after)) :
    after.tokens.toList = page.tokens.toList ++ ((p.front ctx).tokens page.mode page.depth
      ++ (p.pieces ctx.dialect).flatMap (SortPiece.tokens ctx page.mode page.depth)
      ++ (p.back ctx).tokens page.mode page.depth) ∧
    ∃ keys, SortPiece.readOrderBy (p.pieces ctx.dialect) = some keys ∧
      (ctx.dialect.capabilities.nullsOrdering = true → keys = p.items.map SortItem.key) ∧
      (ctx.dialect.capabilities.nullsOrdering = false → ∀ k ∈ keys, k.nulls = none) ∧
      ∀ (own : SortDirection → NullPrecedence) (α : Expression → Type u) [∀ e, LinearOrder (α e)]
        (row other : ∀ e, Option (α e)),
        OrderKey.rowOrder own row other keys = OrderKey.rowOrder own row other (p.items.map SortItem.key) := by
  obtain ⟨success, added⟩ := tokens_of_run h
  rw [added, p.tokens_draft success]
  refine ⟨rfl, ctx.dialect.allOrderKeys p.items, OrderKey.readOrderBy_clausePieces p.withoutSpaces_gap _,
    fun native => Dialect.allOrderKeys_of_nullsOrdering native _, fun lacks k hk => ?_, fun own α _ row other => ?_⟩
  · rw [Dialect.allOrderKeys_of_not_nullsOrdering lacks] at hk
    obtain ⟨item, -, member⟩ := List.mem_flatMap.1 hk
    exact item.nulls_of_mem_separatedKeys member
  · cases native : ctx.dialect.capabilities.nullsOrdering with
    | true => rw [Dialect.allOrderKeys_of_nullsOrdering native]
    | false =>
      rw [Dialect.allOrderKeys_of_not_nullsOrdering native]
      exact OrderKey.rowOrder_separated own row other p.items

/-- MySQL takes nulls for smaller than all values, but here it puts them behind. -/
theorem order_of_run_nullsLast :
    let column : Expression := .column none "a" none
    let p : SortPlace := .select ⟨[], false, [⟨column, none⟩], [⟨"t", none⟩], none, [], none,
      [⟨column, .ascending, some .last⟩], none, none⟩ none true
    let run := (p.draft (.ofDialect .mysql)).run .blank
    run.1 = none ∧
    run.2.tokens.toList = [.keyword .select, .space, .qualifiedName none "a", .space, .keyword .fromWord, .space,
      .name "t", .space, .keyword .orderBy, .space, .keyword .caseWord, .space, .keyword .whenWord, .space,
      .qualifiedName none "a", .space, .keyword .isNull, .space, .keyword .thenWord, .space, .literal (.integer 1),
      .space, .keyword .elseWord, .space, .literal (.integer 0), .space, .keyword .endWord, .comma, .space,
      .qualifiedName none "a", .space, .keyword .asc] ∧
    ∃ keys, SortPiece.readOrderBy (p.pieces .mysql) = some keys ∧ (∀ k ∈ keys, k.nulls = none) ∧
      @OrderKey.rowOrder (fun _ => Int) _ SortDirection.sideOfSmallest (fun _ => none) (fun _ => some 5) keys = .gt := by
  intro column p run
  have success : run = (none, run.2) := rfl
  obtain ⟨tokens, keys, read, -, none, order⟩ := order_of_run (.ofDialect .mysql) p success
  refine ⟨rfl, tokens.trans rfl, keys, read, none rfl, ?_⟩
  rw [order]
  rfl

end SortPlace

end SqlDialects
