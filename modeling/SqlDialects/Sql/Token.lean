import SqlDialects.Value.Literal
import SqlDialects.Text.Uppercase

/-!
# Tokens

The pieces of SQL text. A token does not depend on the dialect; its text does, in the quotes around
names and in the spelling of a few constants.
-/

namespace SqlDialects

/-- A word of SQL, or a fixed group of words. -/
inductive Keyword where
  | select
  | fromWord
  | whereWord
  | and
  | or
  | not
  | asWord
  | groupBy
  | having
  | orderBy
  | asc
  | desc
  | nullsFirst
  | nullsLast
  | limit
  | offset
  | fetch
  | first
  | rows
  | only
  | withTies
  | percent
  | caseWord
  | whenWord
  | thenWord
  | elseWord
  | endWord
  | isNull
  | isNotNull
  | distinct
  | all
  | union
  | intersect
  | except
  | withWord
  | recursive
  | existsWord
  | null
  | filter
  | overWord
  | partitionBy
deriving DecidableEq, Repr

namespace Keyword

/-- Every keyword. -/
def every : List Keyword :=
  [select, fromWord, whereWord, and, or, not, asWord, groupBy, having, orderBy, asc, desc, nullsFirst,
    nullsLast, limit, offset, fetch, first, rows, only, withTies, percent, caseWord, whenWord, thenWord,
    elseWord, endWord, isNull, isNotNull, distinct, all, union, intersect, except, withWord,
    recursive, existsWord, null, filter, overWord, partitionBy]

/-- The text of a keyword. -/
def text : Keyword → String
  | select => "SELECT"
  | fromWord => "FROM"
  | whereWord => "WHERE"
  | and => "AND"
  | or => "OR"
  | not => "NOT"
  | asWord => "AS"
  | groupBy => "GROUP BY"
  | having => "HAVING"
  | orderBy => "ORDER BY"
  | asc => "ASC"
  | desc => "DESC"
  | nullsFirst => "NULLS FIRST"
  | nullsLast => "NULLS LAST"
  | limit => "LIMIT"
  | offset => "OFFSET"
  | fetch => "FETCH"
  | first => "FIRST"
  | rows => "ROWS"
  | only => "ONLY"
  | withTies => "WITH TIES"
  | percent => "PERCENT"
  | caseWord => "CASE"
  | whenWord => "WHEN"
  | thenWord => "THEN"
  | elseWord => "ELSE"
  | endWord => "END"
  | isNull => "IS NULL"
  | isNotNull => "IS NOT NULL"
  | distinct => "DISTINCT"
  | all => "ALL"
  | union => "UNION"
  | intersect => "INTERSECT"
  | except => "EXCEPT"
  | withWord => "WITH"
  | recursive => "RECURSIVE"
  | existsWord => "EXISTS"
  | null => "NULL"
  | filter => "FILTER"
  | overWord => "OVER"
  | partitionBy => "PARTITION BY"

end Keyword

/-- A piece of SQL text. -/
inductive Token where
  | keyword (word : Keyword)
  | comma
  | star
  | leftParen
  | rightParen
  | concat
  | space
  /-- The name of a table, a column or an alias. -/
  | name (name : String)
  /-- A name behind a qualifier, if there is one. -/
  | qualifiedName (qualifier? : Option String) (name : String)
  | literal (value : Literal)
  /-- The place of a bound value. -/
  | placeholder
  /-- The name of a function, written in upper case. -/
  | functionName (name : String)
  /-- Text that is written as it is. -/
  | raw (text : String)
deriving DecidableEq

namespace Token

/-- The text of a token that can be written. -/
def text (d : Dialect) : Token → String
  | keyword word => word.text
  | comma => ","
  | star => "*"
  | leftParen => "("
  | rightParen => ")"
  | concat => Dialect.concatText
  | space => " "
  | name n => d.quoteName n
  | qualifiedName (some q) n => d.quoteName q ++ "." ++ d.quoteName n
  | qualifiedName none n => d.quoteName n
  | literal value => value.text d
  | placeholder => "?"
  | functionName n => Text.uppercase n
  | raw s => s

/-- What keeps a token from being written, if anything does. -/
def unwritable? : Token → Option Unwritable
  | literal value => value.unwritable?
  | _ => none

/-- Number of placeholders among tokens. -/
def placeholderCount (tokens : List Token) : Nat := tokens.count placeholder

/-- The text of tokens, or the first obstacle to writing it. -/
def textOfAll (d : Dialect) (tokens : List Token) : Except Unwritable String :=
  match tokens.findSome? unwritable? with
  | some obstacle => .error obstacle
  | none => .ok (String.join (tokens.map (text d)))

end Token

end SqlDialects
