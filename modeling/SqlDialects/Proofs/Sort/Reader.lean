import Mathlib.Data.List.Basic
import SqlDialects.Proofs.Sort.Order
import SqlDialects.Sql.Token

/-!
# Reading sort lists

A sort list is read from its pieces, with what is written for an expression taken as one of them. Commas separate the
keys. A key is an expression, or a CASE by which null gets one number and every value another one; behind it there may
be a direction, and the side on which nulls are. What is written for some keys is read as these keys
(`OrderKey.readOrderBy_clausePieces`).
-/

theorem List.intercalate_append {α : Type} {xs ys : List (List α)} (sep : List α) (hx : xs ≠ []) (hy : ys ≠ []) :
    sep.intercalate (xs ++ ys) = sep.intercalate xs ++ sep ++ sep.intercalate ys := by
  induction xs with
  | nil => exact absurd rfl hx
  | cons x xs ih =>
    cases xs with
    | nil => rw [List.cons_append, List.nil_append, List.intercalate_cons_of_ne_nil hy, List.intercalate_singleton]
    | cons x' xs =>
      rw [List.cons_append, List.intercalate_cons_of_ne_nil (by simp), ih (List.cons_ne_nil _ _),
        List.intercalate_cons_of_ne_nil (List.cons_ne_nil _ _)]
      simp only [List.append_assoc]

namespace SqlDialects

/-- A piece of a sort list: a token, or what is written for an expression. -/
inductive SortPiece where
  | token (t : Token)
  | expression (e : Expression)

namespace SortPiece

/-- A keyword as a piece. -/
abbrev word (w : Keyword) : SortPiece := token (.keyword w)

/-- A number as a piece. -/
abbrev number (n : Int) : SortPiece := token (.literal (.integer n))

def isSpace : SortPiece → Bool
  | token .space => true
  | _ => false

def isComma : SortPiece → Bool
  | token .comma => true
  | _ => false

/-- Spaces are of no importance. -/
def withoutSpaces (ps : List SortPiece) : List SortPiece := ps.filter (!·.isSpace)

/-! ## Reading -/

/-- Reads what a key compares. -/
def readOperand : List SortPiece → Option (OrderOperand × List SortPiece)
  | expression e :: rest => some (.expression e, rest)
  | token (.keyword .caseWord) :: token (.keyword .whenWord) :: expression e :: token (.keyword .isNull)
      :: token (.keyword .thenWord) :: token (.literal (.integer null)) :: token (.keyword .elseWord)
      :: token (.literal (.integer value)) :: token (.keyword .endWord) :: rest =>
    some (.nullRank e null value, rest)
  | _ => none

/-- Reads the direction of a key, if one is given. -/
def readDirection : List SortPiece → Option SortDirection × List SortPiece
  | token (.keyword .asc) :: rest => (some .ascending, rest)
  | token (.keyword .desc) :: rest => (some .descending, rest)
  | rest => (none, rest)

/-- Reads the side of nulls, which ends a key if one is given. -/
def readNulls : List SortPiece → Option (Option NullPrecedence)
  | [] => some none
  | [token (.keyword .nullsFirst)] => some (some .first)
  | [token (.keyword .nullsLast)] => some (some .last)
  | _ => none

/-- Reads a key. -/
def readKey (ps : List SortPiece) : Option OrderKey := do
  let (operand, rest) ← readOperand ps
  let (direction, rest) := readDirection rest
  let nulls ← readNulls rest
  return ⟨operand, direction, nulls⟩

/-- Reads the keys behind the words ORDER BY. Rows are in no order if there are none. -/
def readOrderBy (ps : List SortPiece) : Option (List OrderKey) :=
  match withoutSpaces ps with
  | [] => some []
  | token (.keyword .orderBy) :: rest => (rest.splitOnP isComma).mapM readKey
  | _ => none

end SortPiece

open SortPiece

/-! ## The pieces of keys -/

/-- The word for a direction. -/
def SortDirection.keyword : SortDirection → Keyword
  | ascending => .asc
  | descending => .desc

/-- The words for a side of nulls. -/
def NullPrecedence.keyword : NullPrecedence → Keyword
  | first => .nullsFirst
  | last => .nullsLast

/-- The pieces of what a key compares. -/
def OrderOperand.pieces : OrderOperand → List SortPiece
  | expression e => [.expression e]
  | nullRank e null value =>
    [word .caseWord, token .space, word .whenWord, token .space, .expression e, token .space, word .isNull,
      token .space, word .thenWord, token .space, number null, token .space, word .elseWord, token .space,
      number value, token .space, word .endWord]

namespace OrderKey

/-- The pieces of a key. -/
def pieces (k : OrderKey) : List SortPiece :=
  k.operand.pieces ++ k.direction.elim [] (fun direction => [token .space, word direction.keyword])
    ++ k.nulls.elim [] (fun nulls => [token .space, word nulls.keyword])

theorem readKey_pieces (k : OrderKey) : readKey (withoutSpaces k.pieces) = some k := by
  obtain ⟨operand, direction, nulls⟩ := k
  have solid : withoutSpaces (pieces ⟨operand, direction, nulls⟩) = withoutSpaces operand.pieces
      ++ direction.elim [] (fun direction => [word direction.keyword])
      ++ nulls.elim [] (fun nulls => [word nulls.keyword]) := by
    rw [pieces, withoutSpaces, List.filter_append, List.filter_append]
    cases direction <;> cases nulls <;> rfl
  rw [solid]
  cases operand <;> rcases direction with _ | (_ | _) <;> rcases nulls with _ | (_ | _) <;> rfl

theorem isComma_of_mem_pieces (k : OrderKey) : ∀ p ∈ withoutSpaces k.pieces, p.isComma = false := by
  obtain ⟨operand, direction, nulls⟩ := k
  have none : (withoutSpaces (pieces ⟨operand, direction, nulls⟩)).all (!·.isComma) = true := by
    cases operand <;> rcases direction with _ | (_ | _) <;> rcases nulls with _ | (_ | _) <;> rfl
  exact fun p hp => Bool.not_eq_true' _ ▸ List.all_eq_true.1 none p hp

/-- The pieces of some keys with commas between them. -/
def listedPieces (keys : List OrderKey) : List SortPiece := [token .comma, token .space].intercalate (keys.map pieces)

theorem listedPieces_singleton (k : OrderKey) : listedPieces [k] = k.pieces := List.intercalate_singleton

/-- Keys with commas between them are read one by one. -/
theorem mapM_readKey_listedPieces {keys : List OrderKey} (nonempty : keys ≠ []) :
    ((withoutSpaces (listedPieces keys)).splitOnP isComma).mapM readKey = some keys := by
  induction keys with
  | nil => exact absurd rfl nonempty
  | cons k keys ih =>
    cases keys with
    | nil =>
      rw [listedPieces, List.map_singleton, List.intercalate_singleton,
        List.splitOnP_eq_singleton k.isComma_of_mem_pieces, List.mapM_cons, k.readKey_pieces]
      rfl
    | cons k' keys =>
      have form : withoutSpaces (listedPieces (k :: k' :: keys)) =
          withoutSpaces k.pieces ++ token .comma :: withoutSpaces (listedPieces (k' :: keys)) := by
        rw [listedPieces, List.map_cons, List.intercalate_cons_of_ne_nil (by simp), withoutSpaces, List.filter_append,
          List.filter_append, List.append_assoc]
        rfl
      rw [form, List.splitOnP_append_cons_of_forall_mem k.isComma_of_mem_pieces _ rfl, List.mapM_cons, k.readKey_pieces,
        ih (List.cons_ne_nil _ _)]
      rfl

theorem listedPieces_append {keys more : List OrderKey} (hk : keys ≠ []) (hm : more ≠ []) :
    listedPieces (keys ++ more) = listedPieces keys ++ [token .comma, token .space] ++ listedPieces more := by
  rw [listedPieces, List.map_append, List.intercalate_append _ (by simpa using hk) (by simpa using hm)]
  rfl

/-- The pieces of a clause, which is absent if there are no keys. -/
def clausePieces (gap : List SortPiece) (keys : List OrderKey) : List SortPiece :=
  if keys.isEmpty then [] else gap ++ [word .orderBy, token .space] ++ listedPieces keys

/-- A clause is read as its keys. -/
theorem readOrderBy_clausePieces {gap : List SortPiece} (spaces : withoutSpaces gap = []) (keys : List OrderKey) :
    readOrderBy (clausePieces gap keys) = some keys := by
  cases keys with
  | nil => rfl
  | cons k keys =>
    have form : withoutSpaces (clausePieces gap (k :: keys)) =
        word .orderBy :: withoutSpaces (listedPieces (k :: keys)) := by
      rw [clausePieces, if_neg (by simp), withoutSpaces, List.filter_append, List.filter_append]
      exact congrArg (· ++ _ ++ _) spaces
    rw [readOrderBy, form]
    exact mapM_readKey_listedPieces (List.cons_ne_nil _ _)

end OrderKey

end SqlDialects
