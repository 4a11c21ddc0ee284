import SqlDialects.Proofs.CommonTable.Parts

/-!
# Scopes of common tables

A table name in a FROM clause is resolved to the innermost visible common table of that name, or else to a
table of the database. Visible are the tables of the WITH clauses of the query and of the queries around it,
and in a body of a WITH clause the tables before it, and the table itself if it is recursive
(`Query.Stands`). When all tables stand in one WITH clause, a body sees the tables before its own there, and
whatever is not in a body sees all of them (`Place.candidates`).
-/

namespace SqlDialects

/-- Where a common table is declared, as seen from a place. -/
inductive Origin where
  /-- By the statement itself. -/
  | leading
  /-- By a nested query, outside of the innermost body around the place. -/
  | outer
  /-- By a nested query, inside the innermost body around the place if there is one. -/
  | inner
  /-- Below a row limit or in a search path, where tables are overlooked. -/
  | lost
deriving DecidableEq, Repr

namespace Origin

/-- The same table as seen from inside a body at the place. -/
def fromBody : Origin → Origin
  | inner => outer
  | o => o

@[simp] theorem fromBody_eq_outer {o : Origin} : o.fromBody = outer ↔ o = outer ∨ o = inner := by
  cases o <;> decide

@[simp] theorem fromBody_eq_leading {o : Origin} : o.fromBody = leading ↔ o = leading := by
  cases o <;> decide

@[simp] theorem fromBody_ne_inner {o : Origin} : o.fromBody ≠ inner := by
  cases o <;> decide

/-- The origin of what the queries inside a query declare, given that of what it declares itself. -/
def below : Origin → Origin
  | lost => lost
  | _ => inner

/-- A table of this origin stands in front of the table that the host declares, or there is no host, so that
it is seen where all tables stand in one WITH clause. -/
def isSeenFrom (host : Option Origin) (o : Origin) : Bool :=
  match host with
  | none => o ≠ lost
  | some leading => o ≠ lost
  | some lost => false
  | some _ => o = outer

end Origin

/-- A common table that is visible at a place. -/
structure Binding where
  table : CommonTable
  origin : Origin

/-- The same table as seen from inside a body at the place. -/
def Binding.fromBody (b : Binding) : Binding := ⟨b.table, b.origin.fromBody⟩

/-- A place at which a query stands. -/
structure Place where
  /-- The tables that are visible outside of the query, the innermost one first. -/
  visible : List Binding
  /-- The table in whose body the place is, the innermost one if there are several. -/
  host : Option Binding
  /-- The origin of the tables that the query declares. -/
  declares : Origin

namespace Place

/-- The place of a statement. -/
def statement : Place := ⟨[], none, .leading⟩

/-- Tables that a query at the place declares. -/
def bindings (p : Place) (tables : List CommonTable) : List Binding := tables.map fun t => ⟨t, p.declares⟩

/-- The place of the clauses of a query that declares the given tables. -/
def inside (p : Place) (tables : List CommonTable) : Place where
  visible := p.bindings tables.reverse ++ p.visible
  host := p.host
  declares := p.declares.below

/-- The place of the body of a table behind the given ones of its WITH clause. -/
def body (p : Place) (before : List CommonTable) (t : CommonTable) : Place where
  visible := (p.bindings ((if t.recursive then [t] else []) ++ before.reverse)
    ++ p.visible).map Binding.fromBody
  host := some ⟨t, p.declares⟩
  declares := p.declares.below

/-- The same place where tables are overlooked. -/
def overlooked (p : Place) : Place := { p with declares := .lost }

/-- What is at the place is written, which is not so in the body of a table that is lost. -/
def isWritten (p : Place) : Bool := p.host.all (·.origin ≠ .lost)

/-- The visible table of a name. -/
def binding? (p : Place) (name : String) : Option Binding := p.visible.find? (·.table.name = name)

/-- The tables that are seen from the place where the given ones stand in one WITH clause. -/
def candidates (tables : List CommonTable) (p : Place) : List CommonTable :=
  match p.host with
  | none => tables
  | some e => tables.takeWhile (·.name ≠ e.table.name) ++ if e.table.recursive then [e.table] else []

/-- The name stands for the same common table, or for a table of the database, where the given tables stand
in one WITH clause. -/
def Agrees (tables : List CommonTable) (p : Place) (name : String) : Prop :=
  p.isWritten = true ∧
    match p.binding? name, (p.candidates tables).find? (·.name = name) with
    | none, none => True
    | some b, some t => b.origin ≠ .lost ∧ b.table = t
    | _, _ => False

/-- The visible table of the name is seen in one WITH clause, or there is none and the name is not taken
there. -/
def Reaches (tables : List CommonTable) (p : Place) (name : String) : Prop :=
  match p.binding? name with
  | some b => b.origin.isSeenFrom (p.host.map (·.origin)) = true
  | none => p.isWritten = true ∧ name ∉ (p.candidates tables).map (·.name)

end Place

namespace Query

/-- A query stands at a place of a statement. -/
inductive Stands (q : Query) : Place → Query → Prop where
  | statement : Stands q .statement q
  | body {p : Place} {x : Query} {before after : List CommonTable} {t : CommonTable} :
    Stands q p x → x.ctes = before ++ t :: after → Stands q (p.body before t) t.query
  | part {p : Place} {x y : Query} :
    Stands q p x → y ∈ x.clauseQueries → Stands q (p.inside x.ctes) y
  | limit {p : Place} {x y : Query} :
    Stands q p x → y ∈ x.limitQueries → Stands q (p.inside x.ctes).overlooked y
  | path {p : Place} {x y : Query} {before after : List CommonTable} {t : CommonTable} :
    Stands q p x → x.ctes = before ++ t :: after → y ∈ t.pathQueries →
      Stands q ((p.body before t).inside t.query.ctes).overlooked y

/-- Where the given tables stand in one WITH clause, their names are distinct and each name in a FROM clause
stands for the same table as before. -/
def KeepsNames (q : Query) (tables : List CommonTable) : Prop :=
  (tables.map (·.name)).Nodup ∧
    ∀ p s, q.Stands p (.select s) → ∀ r ∈ s.tables, (p.inside s.ctes).Agrees tables r.name

end Query

end SqlDialects
