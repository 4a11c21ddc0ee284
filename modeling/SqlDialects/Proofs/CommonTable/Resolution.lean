import SqlDialects.Proofs.CommonTable.Scope
import SqlDialects.Proofs.CommonTable.Hoisting

/-!
# Names behind a single WITH clause

Where all common tables of a statement stand in one WITH clause, those of a nested query follow those of the
queries around it, and those of the statement itself come last. So the visible tables of nested queries are
in order (`Place.Ordered`), and so are those of the statement (`Place.Led`), for every query of the statement
(`Query.Stands.located`). From this it follows which of them are seen under their names from a body
(`Place.isSeenFrom_iff`), and when all names stand for the same tables (`Query.resolution_of_translate`).
-/

namespace SqlDialects

/-! ## Distinct names -/

section Names

variable {tables front back : List CommonTable} {t e : CommonTable}

/-- A name finds its table among tables with distinct names. -/
theorem find?_name_of_mem (distinct : (tables.map (·.name)).Nodup) (ht : t ∈ tables) :
    tables.find? (·.name = t.name) = some t := by
  induction tables with
  | nil => cases ht
  | cons u tables ih =>
    obtain ⟨new, rest⟩ := List.nodup_cons.1 distinct
    rcases List.mem_cons.1 ht with rfl | ht
    · simp
    · have other : u.name ≠ t.name := by
        intro same
        exact new (List.mem_map.2 ⟨t, ht, same.symm⟩)
      rw [List.find?_cons_of_neg (by simpa using other), ih rest ht]

theorem find?_name_eq_none {name : String} :
    tables.find? (·.name = name) = none ↔ name ∉ tables.map (·.name) := by
  rw [List.find?_eq_none, List.mem_map]
  exact ⟨fun h ⟨t, ht, same⟩ => h t ht (by simpa using same), fun h t ht same => h ⟨t, ht, by simpa using same⟩⟩

/-- The tables in front of one of them, if the names are distinct. -/
theorem takeWhile_name (distinct : ((front ++ e :: back).map (·.name)).Nodup) :
    (front ++ e :: back).takeWhile (·.name ≠ e.name) = front := by
  rw [List.map_append, List.map_cons, List.nodup_append] at distinct
  have others : ∀ t ∈ front, decide (t.name ≠ e.name) = true := by
    intro t ht
    have := distinct.2.2 t.name (List.mem_map_of_mem ht) e.name List.mem_cons_self
    simpa using this
  rw [List.takeWhile_append_of_pos others, List.takeWhile_cons_of_neg (by simp), List.append_nil]

end Names

/-! ## The order of visible tables -/

namespace Place

variable {p : Place} {tables before after front back own : List CommonTable} {t : CommonTable} {b : Binding}

theorem mem_visible_inside :
    b ∈ (p.inside tables).visible ↔ (b.table ∈ tables ∧ b.origin = p.declares) ∨ b ∈ p.visible := by
  simp only [inside, bindings, List.mem_append, List.mem_map, List.mem_reverse]
  constructor
  · rintro (⟨t, ht, rfl⟩ | hb)
    · exact .inl ⟨ht, rfl⟩
    · exact .inr hb
  · rintro (⟨ht, ho⟩ | hb)
    · exact .inl ⟨b.table, ht, by rw [← ho]⟩
    · exact .inr hb

theorem mem_visible_body (h : b ∈ (p.body before t).visible) :
    ∃ o, b.origin = Origin.fromBody o ∧ (((b.table ∈ before ∨ (b.table = t ∧ t.recursive = true)) ∧
      o = p.declares) ∨ ⟨b.table, o⟩ ∈ p.visible) := by
  simp only [body, bindings, List.mem_map, List.mem_append, List.mem_reverse] at h
  obtain ⟨c, ⟨u, hu, rfl⟩ | hc, rfl⟩ := h
  · refine ⟨p.declares, rfl, .inl ⟨?_, rfl⟩⟩
    rcases hu with self | earlier
    · split at self
      · next recursive => exact .inr ⟨List.mem_singleton.1 self, recursive⟩
      · cases self
    · exact .inl earlier
  · exact ⟨c.origin, rfl, .inr hc⟩

/-- The visible tables of nested queries stand in `front`. In the body of such a table, the outer ones stand
before it or are that table, and the inner ones stand behind it. -/
structure Ordered (p : Place) (front : List CommonTable) : Prop where
  nested : ∀ b ∈ p.visible, b.origin = .outer ∨ b.origin = .inner → b.table ∈ front
  host : ∀ e ∈ p.host, e.origin = .inner → ∃ before after, front = before ++ e.table :: after ∧
    ∀ b ∈ p.visible,
      (b.origin = .outer → b.table ∈ before ∨ (b.table = e.table ∧ e.table.recursive = true)) ∧
      (b.origin = .inner → b.table ∈ after)
  kind : ∀ e ∈ p.host, e.origin ≠ .outer

/-- The visible tables of the statement are among its own. In the body of such a table, they stand before it
or are that table. -/
structure Led (p : Place) (own : List CommonTable) : Prop where
  leading : ∀ b ∈ p.visible, b.origin = .leading → b.table ∈ own
  host : ∀ e ∈ p.host, e.origin = .leading → ∃ before after, own = before ++ e.table :: after ∧
    ∀ b ∈ p.visible, b.origin = .leading →
      b.table ∈ before ∨ (b.table = e.table ∧ e.table.recursive = true)

theorem Ordered.append (h : p.Ordered front) (back : List CommonTable) : p.Ordered (front ++ back) where
  nested b hb origin := List.mem_append_left _ (h.nested b hb origin)
  host e he origin := by
    obtain ⟨before, after, rfl, order⟩ := h.host e he origin
    refine ⟨before, after ++ back, by simp, fun b hb => ⟨(order b hb).1, fun inner => ?_⟩⟩
    exact List.mem_append_left _ ((order b hb).2 inner)
  kind := h.kind

theorem Ordered.inside (h : p.Ordered front) (declares : p.declares = .inner) (tables : List CommonTable) :
    (p.inside tables).Ordered (front ++ tables) where
  nested b hb origin := by
    rcases mem_visible_inside.1 hb with ⟨own, -⟩ | hb
    · exact List.mem_append_right _ own
    · exact List.mem_append_left _ (h.nested b hb origin)
  host e he origin := by
    obtain ⟨before, after, rfl, order⟩ := h.host e he origin
    refine ⟨before, after ++ tables, by simp, fun b hb => ?_⟩
    rcases mem_visible_inside.1 hb with ⟨own, new⟩ | hb
    · rw [declares] at new
      exact ⟨fun outer => (by rw [new] at outer; cases outer), fun _ => List.mem_append_right _ own⟩
    · exact ⟨(order b hb).1, fun inner => List.mem_append_left _ ((order b hb).2 inner)⟩
  kind := h.kind

theorem Ordered.inside_of_ne (h : p.Ordered front) (outer : p.declares ≠ .outer) (inner : p.declares ≠ .inner)
    (tables : List CommonTable) : (p.inside tables).Ordered front where
  nested b hb origin := by
    rcases mem_visible_inside.1 hb with ⟨-, new⟩ | hb
    · rw [new] at origin
      exact (origin.elim outer inner).elim
    · exact h.nested b hb origin
  host e he origin := by
    obtain ⟨before, after, rfl, order⟩ := h.host e he origin
    refine ⟨before, after, rfl, fun b hb => ?_⟩
    rcases mem_visible_inside.1 hb with ⟨-, new⟩ | hb
    · exact ⟨fun o => (outer (new.symm.trans o)).elim, fun i => (inner (new.symm.trans i)).elim⟩
    · exact order b hb
  kind := h.kind

theorem Ordered.body (h : p.Ordered front) (declares : p.declares = .inner) (before : List CommonTable)
    (t : CommonTable) (after : List CommonTable) :
    (p.body before t).Ordered (front ++ (before ++ t :: after)) where
  nested b hb origin := by
    obtain ⟨o, seen, ⟨own | ⟨own, -⟩, -⟩ | visible⟩ := mem_visible_body hb
    · simp [own]
    · simp [own]
    · rw [seen] at origin
      exact List.mem_append_left _ (h.nested ⟨b.table, o⟩ visible (by simpa using origin))
  host e he _ := by
    cases he
    refine ⟨front ++ before, after, by simp, fun b hb => ⟨fun outer => ?_, fun inner => ?_⟩⟩
    · obtain ⟨o, seen, ⟨own | own, -⟩ | visible⟩ := mem_visible_body hb
      · exact .inl (List.mem_append_right _ own)
      · exact .inr own
      · rw [seen] at outer
        exact .inl (List.mem_append_left _ (h.nested ⟨b.table, o⟩ visible (Origin.fromBody_eq_outer.1 outer)))
    · obtain ⟨o, seen, -⟩ := mem_visible_body hb
      exact (Origin.fromBody_ne_inner (seen.symm.trans inner)).elim
  kind e he outer := by
    cases he
    rw [declares] at outer
    cases outer

theorem Ordered.body_of_ne (h : p.Ordered front) (outer : p.declares ≠ .outer) (inner : p.declares ≠ .inner)
    (before : List CommonTable) (t : CommonTable) : (p.body before t).Ordered front where
  nested b hb origin := by
    obtain ⟨o, seen, ⟨-, new⟩ | visible⟩ := mem_visible_body hb
    · rw [seen, new] at origin
      simp [outer, inner] at origin
    · rw [seen] at origin
      exact h.nested ⟨b.table, o⟩ visible (by simpa using origin)
  host e he origin := by
    cases he
    exact (inner origin).elim
  kind e he := by
    cases he
    exact outer

theorem Led.inside (h : p.Led own) (leading : p.declares ≠ .leading) (tables : List CommonTable) :
    (p.inside tables).Led own where
  leading b hb origin := by
    rcases mem_visible_inside.1 hb with ⟨-, new⟩ | hb
    · exact (leading (new.symm.trans origin)).elim
    · exact h.leading b hb origin
  host e he origin := by
    obtain ⟨before, after, rfl, order⟩ := h.host e he origin
    refine ⟨before, after, rfl, fun b hb own => ?_⟩
    rcases mem_visible_inside.1 hb with ⟨-, new⟩ | hb
    · exact (leading (new.symm.trans own)).elim
    · exact order b hb own

theorem Led.body (h : p.Led own) (leading : p.declares ≠ .leading) (before : List CommonTable)
    (t : CommonTable) : (p.body before t).Led own where
  leading b hb origin := by
    obtain ⟨o, seen, ⟨-, new⟩ | visible⟩ := mem_visible_body hb
    · rw [seen, new, Origin.fromBody_eq_leading] at origin
      exact (leading origin).elim
    · rw [seen, Origin.fromBody_eq_leading] at origin
      exact h.leading ⟨b.table, o⟩ visible origin
  host e he origin := by
    cases he
    exact (leading origin).elim

/-! The statement declares the first tables, and its bodies see no others at first. -/

theorem ordered_statement : statement.Ordered [] where
  nested _ hb := nomatch hb
  host _ he := nomatch he
  kind _ he := nomatch he

theorem led_statement : (statement.inside own).Led own where
  leading b hb _ := by
    rcases mem_visible_inside.1 hb with ⟨own, -⟩ | hb
    · exact own
    · cases hb
  host _ he := nomatch he

theorem led_statement_body : (statement.body before t).Led (before ++ t :: after) where
  leading b hb _ := by
    obtain ⟨o, -, ⟨own | ⟨own, -⟩, -⟩ | visible⟩ := mem_visible_body hb
    · simp [own]
    · simp [own]
    · cases visible
  host e he _ := by
    cases he
    refine ⟨before, after, rfl, fun b hb _ => ?_⟩
    obtain ⟨o, -, ⟨own, -⟩ | visible⟩ := mem_visible_body hb
    · exact own
    · cases visible

end Place

namespace Query

/-! ## Where queries stand -/

/-- What is known about a query at a place: it is the statement, or its tables follow `front` among the tables
of nested queries, and the visible tables are ordered by that; or its tables are lost. -/
inductive Located (q : Query) : Place → Query → Prop where
  | statement : Located q .statement q
  | nested {p : Place} {x : Query} (front back : List CommonTable) : p.declares = .inner →
    q.nestedTables = front ++ (x.ctes ++ x.nestedTables) ++ back → p.Ordered front → p.Led q.ctes →
      Located q p x
  | lost {p : Place} {x : Query} : p.declares = .lost → p.Ordered q.nestedTables → p.Led q.ctes →
    Located q p x

variable {q x y : Query} {p : Place} {before after : List CommonTable} {t : CommonTable}

theorem Located.part (h : q.Located p x) (hy : y ∈ x.clauseQueries) : q.Located (p.inside x.ctes) y := by
  obtain ⟨left, right, split⟩ := exists_nestedTables_eq (List.mem_append_right x.bodies hy)
  cases h with
  | statement =>
    have ordered := Place.ordered_statement.inside_of_ne nofun nofun q.ctes
    exact .nested left right rfl split (ordered.append left) Place.led_statement
  | nested front back declares place ordered led =>
    refine .nested (front ++ x.ctes ++ left) (right ++ back) (by simp [Place.inside, declares, Origin.below])
      ?_ ((ordered.inside declares x.ctes).append left) (led.inside (by simp [declares]) x.ctes)
    rw [place, split]
    simp
  | lost declares ordered led =>
    exact .lost (by simp [Place.inside, declares, Origin.below])
      (ordered.inside_of_ne (by simp [declares]) (by simp [declares]) x.ctes)
      (led.inside (by simp [declares]) x.ctes)

theorem Located.body (h : q.Located p x) (tables : x.ctes = before ++ t :: after) :
    q.Located (p.body before t) t.query := by
  have part : t.query ∈ x.bodies ++ x.clauseQueries := by
    simp [bodies, tables]
  obtain ⟨left, right, split⟩ := exists_nestedTables_eq part
  cases h with
  | statement =>
    have ordered := Place.ordered_statement.body_of_ne (by decide) (by decide) before t
    have led : (Place.statement.body before t).Led q.ctes := by
      rw [tables]
      exact Place.led_statement_body
    exact .nested left right rfl split (ordered.append left) led
  | nested front back declares place ordered led =>
    have inside := ordered.body declares before t after
    rw [← tables] at inside
    refine .nested (front ++ x.ctes ++ left) (right ++ back) (by simp [Place.body, declares, Origin.below])
      ?_ (inside.append left) (led.body (by simp [declares]) before t)
    rw [place, split]
    simp
  | lost declares ordered led =>
    exact .lost (by simp [Place.body, declares, Origin.below])
      (ordered.body_of_ne (by simp [declares]) (by simp [declares]) before t)
      (led.body (by simp [declares]) before t)

/-- The tables that are visible in a query are ordered like all tables of the statement. -/
theorem Located.inside (h : q.Located p x) :
    (p.inside x.ctes).Ordered q.nestedTables ∧ (p.inside x.ctes).Led q.ctes := by
  cases h with
  | statement =>
    exact ⟨(Place.ordered_statement.inside_of_ne nofun nofun _).append q.nestedTables, Place.led_statement⟩
  | nested front back declares place ordered led =>
    refine ⟨?_, led.inside (by simp [declares]) x.ctes⟩
    rw [place, ← List.append_assoc front, List.append_assoc]
    exact (ordered.inside declares x.ctes).append _
  | lost declares ordered led =>
    exact ⟨ordered.inside_of_ne (by simp [declares]) (by simp [declares]) x.ctes,
      led.inside (by simp [declares]) x.ctes⟩

theorem Stands.located (h : q.Stands p x) : q.Located p x := by
  induction h with
  | statement => exact .statement
  | body _ tables ih => exact ih.body tables
  | part _ hy ih => exact ih.part hy
  | limit _ _ ih =>
    obtain ⟨ordered, led⟩ := ih.inside
    exact .lost rfl ⟨ordered.nested, ordered.host, ordered.kind⟩ ⟨led.leading, led.host⟩
  | path _ tables _ ih =>
    obtain ⟨ordered, led⟩ := (ih.body tables).inside
    exact .lost rfl ⟨ordered.nested, ordered.host, ordered.kind⟩ ⟨led.leading, led.host⟩

end Query

/-! ## What is seen in a single WITH clause -/

namespace Place

variable {p : Place} {tables front back nested own : List CommonTable} {t : CommonTable} {b e : Binding}
  {name : String}

theorem candidates_eq (host : p.host = some e)
    (distinct : ((front ++ e.table :: back).map (·.name)).Nodup) :
    p.candidates (front ++ e.table :: back) = front ++ if e.table.recursive then [e.table] else [] := by
  simp only [candidates, host, takeWhile_name distinct]

/-- A body sees the tables in front of its own one, and that one if it is recursive. -/
theorem find?_candidates_of_mem (host : p.host = some e)
    (distinct : ((front ++ e.table :: back).map (·.name)).Nodup)
    (ht : t ∈ front ∨ (t = e.table ∧ e.table.recursive = true)) :
    (p.candidates (front ++ e.table :: back)).find? (·.name = t.name) = some t := by
  rw [candidates_eq host distinct]
  refine find?_name_of_mem ?_ ?_
  · refine distinct.sublist (List.Sublist.map _ (List.Sublist.append_left ?_ front))
    split <;> simp
  · rcases ht with ht | ⟨rfl, recursive⟩
    · exact List.mem_append_left _ ht
    · simp [recursive]

/-- A body does not see the tables behind its own one. -/
theorem find?_candidates_of_mem_back (host : p.host = some e)
    (distinct : ((front ++ e.table :: back).map (·.name)).Nodup) (ht : t ∈ back) :
    (p.candidates (front ++ e.table :: back)).find? (·.name = t.name) = none := by
  rw [candidates_eq host distinct, find?_name_eq_none]
  intro mem
  obtain ⟨u, hu, same⟩ := List.mem_map.1 mem
  rw [List.append_cons, List.map_append, List.nodup_append] at distinct
  refine distinct.2.2 u.name (List.mem_map.2 ⟨u, ?_, rfl⟩) t.name (List.mem_map.2 ⟨t, ht, rfl⟩) same
  rcases List.mem_append.1 hu with hu | hu
  · exact List.mem_append_left _ hu
  · split at hu
    · exact List.mem_append_right _ hu
    · cases hu

/-- Which visible tables are seen under their names where all tables stand in one WITH clause. -/
theorem isSeenFrom_iff (ordered : p.Ordered nested) (led : p.Led own)
    (distinct : ((nested ++ own).map (·.name)).Nodup) (hb : b ∈ p.visible) :
    b.origin.isSeenFrom (p.host.map (·.origin)) = true ↔
      p.isWritten = true ∧ b.origin ≠ .lost ∧
        (p.candidates (nested ++ own)).find? (·.name = b.table.name) = some b.table := by
  have mem (kept : b.origin ≠ .lost) : b.table ∈ nested ++ own := by
    cases origin : b.origin with
    | leading => exact List.mem_append_right _ (led.leading b hb origin)
    | outer => exact List.mem_append_left _ (ordered.nested b hb (.inl origin))
    | inner => exact List.mem_append_left _ (ordered.nested b hb (.inr origin))
    | lost => exact (kept origin).elim
  cases host : p.host with
  | none =>
    have all : p.candidates (nested ++ own) = nested ++ own := by simp only [candidates, host]
    rw [all]
    simp only [Option.map_none, Origin.isSeenFrom, decide_eq_true_eq, isWritten, host, Option.all_none, true_and]
    exact ⟨fun kept => ⟨kept, find?_name_of_mem distinct (mem kept)⟩, And.left⟩
  | some e =>
    cases declared : e.origin with
    | outer => exact (ordered.kind e host declared).elim
    | lost => simp [Origin.isSeenFrom, isWritten, host, declared]
    | leading =>
      obtain ⟨before, after, rfl, order⟩ := led.host e host declared
      rw [← List.append_assoc] at distinct ⊢
      have seen (kept : b.origin ≠ .lost) :
          b.table ∈ nested ++ before ∨ (b.table = e.table ∧ e.table.recursive = true) := by
        cases origin : b.origin with
        | leading => exact (order b hb origin).imp_left (List.mem_append_right _)
        | outer => exact .inl (List.mem_append_left _ (ordered.nested b hb (.inl origin)))
        | inner => exact .inl (List.mem_append_left _ (ordered.nested b hb (.inr origin)))
        | lost => exact (kept origin).elim
      simp only [Option.map_some, declared, Origin.isSeenFrom, decide_eq_true_eq, isWritten, host,
        Option.all_some, ne_eq, reduceCtorEq, not_false_eq_true, decide_true, true_and]
      exact ⟨fun kept => ⟨kept, find?_candidates_of_mem host distinct (seen kept)⟩, And.left⟩
    | inner =>
      obtain ⟨before, after, rfl, order⟩ := ordered.host e host declared
      rw [List.append_assoc, List.cons_append] at distinct ⊢
      simp only [Option.map_some, declared, Origin.isSeenFrom, decide_eq_true_eq, isWritten, host,
        Option.all_some, ne_eq, reduceCtorEq, not_false_eq_true, decide_true, true_and]
      have hidden (behind : b.table ∈ after ++ own) :
          (p.candidates (before ++ e.table :: (after ++ own))).find? (·.name = b.table.name) ≠ some b.table := by
        rw [find?_candidates_of_mem_back host distinct behind]
        nofun
      cases origin : b.origin with
      | outer =>
        simpa using find?_candidates_of_mem host distinct ((order b hb).1 origin)
      | inner => simpa using hidden (List.mem_append_left _ ((order b hb).2 origin))
      | leading => simpa using hidden (List.mem_append_right _ (led.leading b hb origin))
      | lost => simp

/-- A name stands for the same table as before if and only if its visible table is seen, or there is none and
the name is not taken. -/
theorem agrees_iff (ordered : p.Ordered nested) (led : p.Led own)
    (distinct : ((nested ++ own).map (·.name)).Nodup) :
    p.Agrees (nested ++ own) name ↔ p.Reaches (nested ++ own) name := by
  unfold Agrees Reaches
  cases found : p.binding? name with
  | none =>
    rw [← find?_name_eq_none]
    cases (p.candidates (nested ++ own)).find? (·.name = name) <;> simp
  | some b =>
    have visible : b ∈ p.visible := List.mem_of_find?_eq_some found
    have named : b.table.name = name := by simpa using List.find?_some found
    have seen := isSeenFrom_iff ordered led distinct visible
    rw [named] at seen
    simp only [seen]
    cases (p.candidates (nested ++ own)).find? (·.name = name) with
    | none => simp
    | some t => rw [Option.some.injEq, @eq_comm _ t]

end Place

namespace Query

/-- Common tables in a single WITH clause in front of a statement, as a dialect without WITH in subqueries
has them. The text is that clause, with the tables of nested queries in order and those of the statement
itself behind them, and the statement without the others. The names are distinct and each name in a FROM
clause stands for the same table as before if and only if they are distinct and what was visible is seen: it
is declared in front of the body in which the name stands and not overlooked, and where nothing was visible,
the name is not taken. -/
theorem resolution_of_translate (ctx : TranslationContext) (q : Query) (op : Operation)
    (hd : ctx.dialect.capabilities.withInSubquery = false)
    (h : (Statement.select q).translate ctx = .ok op) :
    let tables := q.leadingTables ctx.dialect
    let body := ((q.form ctx).draft ctx.dialect true none).tokens .plain 0
    Token.textOfAll ctx.dialect (withTokens ctx tables ++ body) = .ok op.sql ∧
      tables = q.nestedTables ++ q.ctes ∧
      (q.KeepsNames tables ↔ (tables.map (·.name)).Nodup ∧
        ∀ p s, q.Stands p (.select s) → ∀ r ∈ s.tables, (p.inside s.ctes).Reaches tables r.name) := by
  intro tables body
  have order : tables = q.nestedTables ++ q.ctes := by
    simp only [tables, leadingTables, hd, Bool.false_eq_true, if_false]
  refine ⟨text_of_translate h, order, and_congr_right fun distinct => ?_⟩
  rw [order] at distinct ⊢
  have same {p : Place} {s : SelectQuery} (stands : q.Stands p (.select s)) (name : String) :
      (p.inside s.ctes).Agrees (q.nestedTables ++ q.ctes) name ↔
        (p.inside s.ctes).Reaches (q.nestedTables ++ q.ctes) name := by
    obtain ⟨ordered, led⟩ := stands.located.inside
    exact Place.agrees_iff ordered led distinct
  exact ⟨fun agrees p s stands r hr => (same stands r.name).1 (agrees p s stands r hr),
    fun reaches p s stands r hr => (same stands r.name).2 (reaches p s stands r hr)⟩

/-- A query of a column of a table, restricted to the values of another query. -/
def restricted (name table : String) (values : Query) : SelectQuery :=
  { column name table with
    filter := some (.comparison (.column none name none) .equal (.subquery values)) }

/-- A table that is declared by a statement. -/
def outerTable : CommonTable := { name := "o", query := .select (column "n" "s") }

/-- A table that is declared further inside, and uses the outer one. -/
def innerTable : CommonTable := { name := "c", query := .select (column "n" "o") }

/-- A statement with the outer table, and with a subquery with the inner one. -/
def usesOuterTable : Query :=
  .select { restricted "id" "t" (.select { column "n" "c" with ctes := [innerTable] }) with
    ctes := [outerTable] }

/-- The inner table is put in front of the outer one, which it is made from. -/
theorem resolution_of_usesOuterTable :
    ∃ op, (Statement.select usesOuterTable).translate (.ofDialect .hsql) = .ok op ∧
      (usesOuterTable.leadingTables .hsql).map (·.name) = ["c", "o"] ∧
      ¬usesOuterTable.KeepsNames (usesOuterTable.leadingTables .hsql) := by
  refine ⟨_, rfl, rfl, fun keeps => ?_⟩
  obtain ⟨-, -, exact⟩ := resolution_of_translate (.ofDialect .hsql) usesOuterTable _ rfl rfl
  have subquery : usesOuterTable.Stands (Place.statement.inside [outerTable])
      (.select { column "n" "c" with ctes := [innerTable] }) := .part .statement List.mem_cons_self
  have body : usesOuterTable.Stands ((Place.statement.inside [outerTable]).body [] innerTable)
      (.select (column "n" "o")) := .body subquery rfl
  exact Bool.false_ne_true ((exact.1 keeps).2 _ _ body ⟨"o", none⟩ List.mem_cons_self)

end Query

end SqlDialects
