import SqlDialects.Render.Expression
import SqlDialects.Sql.Traversal

/-!
# Translating statements

A statement is drafted and carried out on a blank page, and the tokens on it are written down. Under a
dialect without WITH clauses in subqueries, all tables of nested queries move to the front of the
statement.
-/

namespace SqlDialects

/-- SQL text with its parameters in the order of their placeholders. -/
structure Operation where
  sql : String
  parameters : List Parameter

/-- Why no operation came out of a translation. -/
inductive TranslationFailure where
  | rejected (cause : TranslationError)
  /-- A number on the page cannot be written. -/
  | unwritable (obstacle : Unwritable)

/-- The tables of the WITH clause in front of a statement, in order. -/
def Query.leadingTables (d : Dialect) (q : Query) : List CommonTable :=
  if d.capabilities.withInSubquery then q.ctes else q.nestedTables ++ q.ctes

/-- A query as a statement of its own. -/
def Query.statementDraft (ctx : TranslationContext) (q : Query) : Draft :=
  ctx.dialect.withClause (tableForms ctx (q.leadingTables ctx.dialect))
    ++ (q.form ctx).draft ctx.dialect true none

/-- A statement. -/
def Statement.draft (ctx : TranslationContext) : Statement → Draft
  | select query => query.statementDraft ctx

namespace Page

/-- The text on the page with its parameters. -/
def operation (d : Dialect) (page : Page) : Except Unwritable Operation := do
  let sql ← Token.textOfAll d page.tokens.toList
  .ok ⟨sql, page.parameters.toList⟩

end Page

namespace Draft

/-- Carries out a draft on a page and writes the page down. -/
def translateOn (d : Dialect) (draft : Draft) (page : Page) : Except TranslationFailure Operation :=
  match draft.run page with
  | (some cause, _) => .error (.rejected cause)
  | (none, page) =>
    match page.operation d with
    | .ok operation => .ok operation
    | .error obstacle => .error (.unwritable obstacle)

end Draft

/-- Translates a statement. -/
def Statement.translate (ctx : TranslationContext) (s : Statement) :
    Except TranslationFailure Operation :=
  (s.draft ctx).translateOn ctx.dialect .blank

end SqlDialects
