import Mathlib.Order.Compare
import Mathlib.Order.WithBot
import SqlDialects.Sql.Syntax

/-!
# The order of rows

Rows are sorted by a list of keys, of which the first one that tells two rows apart decides. Each row gives an
expression a value of an ordered domain, or null. A key says on which side of all values it puts nulls, or leaves that
to the database, for which nulls may be the smallest values (`SortDirection.orderNullable_sideOfSmallest`) or not.

A key that puts nulls on a side can do without words for it: a key in front of it that compares no more than whether
the expression is null separates nulls from values, so that the side on which the database would put nulls does not
matter any more (`OrderKey.rowOrder_separated`).
-/

namespace SqlDialects

namespace NullPrecedence

/-- The order of nulls and values in which nulls are on the given side. -/
def side : NullPrecedence → Ordering
  | first => .lt
  | last => .gt

theorem side_then (nulls : NullPrecedence) (o : Ordering) : nulls.side.then o = nulls.side := by
  cases nulls <;> rfl

theorem swap_side_then (nulls : NullPrecedence) (o : Ordering) : nulls.side.swap.then o = nulls.side.swap := by
  cases nulls <;> rfl

end NullPrecedence

namespace SortDirection

variable {α : Type*} [LinearOrder α]

/-- The order of two values. -/
def order : SortDirection → α → α → Ordering
  | ascending, a, b => compare a b
  | descending, a, b => compare b a

/-- The order of two values that may be null. Nulls are on the same side in both directions. -/
def orderNullable (direction : SortDirection) (nulls : NullPrecedence) : Option α → Option α → Ordering
  | none, none => .eq
  | none, some _ => nulls.side
  | some _, none => nulls.side.swap
  | some a, some b => direction.order a b

/-- The side on which nulls are if they are smaller than all values. -/
def sideOfSmallest : SortDirection → NullPrecedence
  | ascending => .first
  | descending => .last

/-- Nulls on this side are ordered as the smallest value. -/
theorem orderNullable_sideOfSmallest (direction : SortDirection) (a b : Option α) :
    direction.orderNullable direction.sideOfSmallest a b = @order (WithBot α) _ direction a b := by
  have coe (a b : α) : compare (a : WithBot α) b = compare a b := by
    rw [← cmp_eq_compare, WithBot.coe_strictMono.cmp_map_eq, cmp_eq_compare]
  cases a with
  | none => cases b <;> cases direction <;> rfl
  | some a =>
    cases b with
    | none => cases direction <;> rfl
    | some b =>
      cases direction with
      | ascending => exact (coe a b).symm
      | descending => exact (coe b a).symm

end SortDirection

/-- What a key compares. -/
inductive OrderOperand where
  | expression (e : Expression)
  /-- One number for null and another one for every value. -/
  | nullRank (e : Expression) (null value : Int)

/-- A key by which rows are ordered. -/
structure OrderKey where
  operand : OrderOperand
  /-- The direction, which is ascending where none is given. -/
  direction : Option SortDirection
  /-- The side on which nulls are, which is for the database to choose where none is given. -/
  nulls : Option NullPrecedence

/-- The key that an item of a sort list asks for. -/
def SortItem.key (item : SortItem) : OrderKey := ⟨.expression item.expression, some item.direction, item.nulls⟩

namespace OrderKey

universe u

variable {α : Expression → Type u} [∀ e, LinearOrder (α e)]

/-- The order of two rows by a single key. -/
def order (own : SortDirection → NullPrecedence) (row other : ∀ e, Option (α e)) (k : OrderKey) : Ordering :=
  let direction := k.direction.getD .ascending
  let nulls := k.nulls.getD (own direction)
  match k.operand with
  | .expression e => direction.orderNullable nulls (row e) (other e)
  | .nullRank e null value =>
    let rank (x : Option (α e)) : Int := if x.isNone then null else value
    direction.orderNullable nulls (some (rank (row e))) (some (rank (other e)))

/-- The order of two rows by the first key that tells them apart. -/
def rowOrder (own : SortDirection → NullPrecedence) (row other : ∀ e, Option (α e)) (keys : List OrderKey) :
    Ordering :=
  (keys.map (order own row other)).foldr .then .eq

variable (own : SortDirection → NullPrecedence) (row other : ∀ e, Option (α e))

theorem rowOrder_cons (k : OrderKey) (keys : List OrderKey) :
    rowOrder own row other (k :: keys) = (k.order own row other).then (rowOrder own row other keys) := rfl

theorem rowOrder_append (keys more : List OrderKey) :
    rowOrder own row other (keys ++ more) = (rowOrder own row other keys).then (rowOrder own row other more) := by
  induction keys with
  | nil => rfl
  | cons k keys ih => rw [List.cons_append, rowOrder_cons, ih, rowOrder_cons, Ordering.then_assoc]

end OrderKey

/-! ## Keys that separate nulls -/

namespace NullPrecedence

/-- The numbers for null and for every value that put nulls on the given side. -/
def ranks : NullPrecedence → Int × Int
  | first => (0, 1)
  | last => (1, 0)

/-- The number for a value or null. -/
def rank {α : Type*} (nulls : NullPrecedence) (x : Option α) : Int :=
  if x.isNone then nulls.ranks.1 else nulls.ranks.2

variable {α : Type*} (nulls : NullPrecedence)

theorem compare_rank_none (b : α) : compare (nulls.rank (none : Option α)) (nulls.rank (some b)) = nulls.side := by
  cases nulls <;> rfl

theorem compare_rank_some (a : α) :
    compare (nulls.rank (some a)) (nulls.rank (none : Option α)) = nulls.side.swap := by
  cases nulls <;> rfl

end NullPrecedence

/-- Behind the numbers for nulls and values, nulls are on the wanted side wherever they would be otherwise. -/
theorem SortDirection.rank_then_orderNullable {α : Type*} [LinearOrder α] (direction : SortDirection)
    (nulls own : NullPrecedence) (a b : Option α) :
    (compare (nulls.rank a) (nulls.rank b)).then (direction.orderNullable own a b) =
      direction.orderNullable nulls a b := by
  have same (n : Int) (o : Ordering) : (compare n n).then o = o := by
    rw [compare_eq_iff_eq.2 rfl, Ordering.eq_then]
  cases a with
  | none =>
    cases b with
    | none => exact same _ _
    | some b =>
      rw [nulls.compare_rank_none]
      exact nulls.side_then _
  | some a =>
    cases b with
    | none =>
      rw [nulls.compare_rank_some]
      exact nulls.swap_side_then _
    | some b => exact same _ _

/-- The key that separates nulls from values. -/
def SortItem.nullKey (item : SortItem) (nulls : NullPrecedence) : OrderKey :=
  ⟨.nullRank item.expression nulls.ranks.1 nulls.ranks.2, none, none⟩

/-- The key of an item that leaves nulls to the database. -/
def SortItem.valueKey (item : SortItem) : OrderKey := ⟨.expression item.expression, some item.direction, none⟩

/-- The keys of an item without words for the side of nulls. -/
def SortItem.separatedKeys (item : SortItem) : List OrderKey :=
  (item.nulls.map item.nullKey).toList ++ [item.valueKey]

theorem SortItem.nulls_of_mem_separatedKeys (item : SortItem) {k : OrderKey} (h : k ∈ item.separatedKeys) :
    k.nulls = none := by
  rcases List.mem_append.1 h with rank | value
  · obtain ⟨nulls, -, rfl⟩ := Option.mem_map.1 (Option.mem_toList.1 rank)
    rfl
  · rw [List.mem_singleton.1 value, valueKey]

namespace OrderKey

universe u

variable {α : Expression → Type u} [∀ e, LinearOrder (α e)] (own : SortDirection → NullPrecedence)
  (row other : ∀ e, Option (α e))

theorem rowOrder_separatedKeys (item : SortItem) :
    rowOrder own row other item.separatedKeys = item.key.order own row other := by
  obtain ⟨e, direction, nulls⟩ := item
  cases nulls with
  | none => exact Ordering.then_eq
  | some nulls =>
    have separated := direction.rank_then_orderNullable nulls (own direction) (row e) (other e)
    exact (congrArg _ Ordering.then_eq).trans separated

/-- Two rows are ordered in the same way with words for the sides of nulls and without them. -/
theorem rowOrder_separated (items : List SortItem) :
    rowOrder own row other (items.flatMap SortItem.separatedKeys) =
      rowOrder own row other (items.map SortItem.key) := by
  induction items with
  | nil => rfl
  | cons item items ih =>
    rw [List.flatMap_cons, rowOrder_append, rowOrder_separatedKeys, ih, List.map_cons, rowOrder_cons]

end OrderKey

end SqlDialects
