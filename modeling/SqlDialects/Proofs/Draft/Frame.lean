import SqlDialects.Proofs.Draft.Writes

/-!
# What carrying out a draft leaves alone

Whatever is drafted is carried out on a page that has been written on before, in some mode and at some
depth. It adds to the page and puts modes and depth back, and that is so when it gives up as well, and for
each draft that is carried out on the way (`Draft.CarriesOut`): a refusal goes up through all the modes
and queries that were entered around it, and nothing is written behind it. A page is therefore worth as
much after a call that failed as before it (`Draft.run_after_runAll`). What stands in a draft is carried out
on the way if nothing is refused (`Draft.Encloses`).
-/

namespace SqlDialects

/-- What is written on the earlier page is still there on the later one, in front. -/
structure Page.Precedes (earlier later : Page) : Prop where
  tokens : earlier.tokens.toList <+: later.tokens.toList
  parameters : earlier.parameters.toList <+: later.parameters.toList

/-- The later page is the earlier one with more written on it, at the same place: in the same modes and
inside as many queries. -/
structure Page.Extends (earlier later : Page) : Prop extends Page.Precedes earlier later where
  modes : later.modes = earlier.modes
  depth : later.depth = earlier.depth

/-- From the earlier page to the later one more was written, and modes and queries were entered. -/
structure Page.LeadsTo (earlier later : Page) : Prop extends Page.Precedes earlier later where
  modes : earlier.modes <:+ later.modes
  depth : earlier.depth ≤ later.depth

namespace Page

variable {a b c page : Page}

theorem Precedes.refl (a : Page) : a.Precedes a := ⟨List.prefix_rfl, List.prefix_rfl⟩

theorem Precedes.trans (h : a.Precedes b) (k : b.Precedes c) : a.Precedes c :=
  ⟨h.tokens.trans k.tokens, h.parameters.trans k.parameters⟩

theorem Extends.refl (a : Page) : a.Extends a := ⟨.refl a, rfl, rfl⟩

theorem Extends.trans (h : a.Extends b) (k : b.Extends c) : a.Extends c :=
  ⟨h.toPrecedes.trans k.toPrecedes, k.modes.trans h.modes, k.depth.trans h.depth⟩

theorem LeadsTo.refl (a : Page) : a.LeadsTo a := ⟨.refl a, List.suffix_rfl, Nat.le_refl a.depth⟩

theorem LeadsTo.trans (h : a.LeadsTo b) (k : b.LeadsTo c) : a.LeadsTo c :=
  ⟨h.toPrecedes.trans k.toPrecedes, h.modes.trans k.modes, Nat.le_trans h.depth k.depth⟩

theorem Extends.leadsTo (h : a.Extends b) : a.LeadsTo b :=
  ⟨h.toPrecedes, ⟨[], h.modes.symm⟩, Nat.le_of_eq h.depth.symm⟩

theorem leadsTo_enterMode (a : Page) (mode : RenderingMode) : a.LeadsTo (a.enterMode mode) :=
  ⟨⟨List.prefix_rfl, List.prefix_rfl⟩, List.suffix_cons mode a.modes, Nat.le_refl a.depth⟩

theorem leadsTo_enterQuery (a : Page) : a.LeadsTo a.enterQuery :=
  ⟨⟨List.prefix_rfl, List.prefix_rfl⟩, List.suffix_rfl, Nat.le_succ a.depth⟩

/-- The page with the modes and the depth of another one. -/
def backTo (page origin : Page) : Page := { page with modes := origin.modes, depth := origin.depth }

theorem Extends.backTo_eq (h : a.Extends b) : page.backTo b = page.backTo a := by
  rw [backTo, backTo, h.modes, h.depth]

theorem Extends.backTo_self (h : a.Extends b) : b.backTo a = b := h.backTo_eq.symm

theorem extends_writeAll (page : Page) (ws : List Write) : page.Extends (page.writeAll ws) where
  tokens := ⟨_, (page.tokens_writeAll ws).symm⟩
  parameters := ⟨_, (page.parameters_writeAll ws).symm⟩
  modes := page.modes_writeAll ws
  depth := page.depth_writeAll ws

end Page

namespace Draft

/-- In the course of carrying out the first draft on the first page, the second draft is carried out on
the second page. -/
inductive CarriesOut : Draft → Page → Draft → Page → Prop where
  | itself (d : Draft) (page : Page) : CarriesOut d page d page
  | first {first second x : Draft} {page there : Page} (h : CarriesOut first page x there) :
    CarriesOut (append first second) page x there
  | second {first second x : Draft} {page there : Page} (done : (first.run page).1 = none)
    (h : CarriesOut second (first.run page).2 x there) : CarriesOut (append first second) page x there
  | inMode {mode : RenderingMode} {d x : Draft} {page there : Page}
    (h : CarriesOut d (page.enterMode mode) x there) : CarriesOut (inMode mode d) page x there
  | plain {plain typed x : Draft} {page there : Page} (mode : page.mode = .plain)
    (h : CarriesOut plain page x there) : CarriesOut (byMode plain typed) page x there
  | typed {plain typed x : Draft} {page there : Page} (mode : page.mode = .typed)
    (h : CarriesOut typed page x there) : CarriesOut (byMode plain typed) page x there
  | nested {d x : Draft} {page there : Page} (h : CarriesOut d page.enterQuery x there) :
    CarriesOut (nested d) page x there
  | whenNested {d x : Draft} {page there : Page} (inside : page.depth ≠ 0)
    (h : CarriesOut d page x there) : CarriesOut (whenNested d) page x there

theorem extends_run (d : Draft) (page : Page) : page.Extends (d.run page).2 := by
  rw [run_eq]
  exact page.extends_writeAll _

section Steps

variable {first second plain typed d : Draft} {mode : RenderingMode} {page : Page}

theorem run_append_of_none (done : (first.run page).1 = none) :
    (append first second).run page = second.run (first.run page).2 := by
  rw [run]
  cases outcome : first.run page with
  | mk cause? next =>
    rw [outcome] at done
    cases done
    rfl

theorem run_append_of_some {cause : TranslationError} (failed : (first.run page).1 = some cause) :
    (append first second).run page = (some cause, (first.run page).2) := by
  rw [run]
  cases outcome : first.run page with
  | mk cause? next =>
    rw [outcome] at failed
    cases failed
    rfl

theorem run_inMode : (inMode mode d).run page =
    ((d.run (page.enterMode mode)).1, (d.run (page.enterMode mode)).2.backTo page) := by
  -- inside, modes and depth are put back to those behind the entry, and leaving undoes the entry
  have inner := d.extends_run (page.enterMode mode)
  have depth : (d.run (page.enterMode mode)).2.depth = page.depth := inner.depth
  rw [run, Page.backTo, ← depth]
  refine congrArg (Prod.mk _) ?_
  rw [Page.leaveMode, inner.modes]
  rfl

theorem run_nested : (nested d).run page =
    ((d.run page.enterQuery).1, (d.run page.enterQuery).2.backTo page) := by
  have inner := d.extends_run page.enterQuery
  have modes : (d.run page.enterQuery).2.modes = page.modes := inner.modes
  rw [run, Page.backTo, ← modes]
  refine congrArg (Prod.mk _) ?_
  rw [Page.leaveQuery, inner.depth]
  rfl

theorem run_byMode_plain (h : page.mode = .plain) : (byMode plain typed).run page = plain.run page := by
  rw [run, h]

theorem run_byMode_typed (h : page.mode = .typed) : (byMode plain typed).run page = typed.run page := by
  rw [run, h]

theorem run_whenNested (h : page.depth ≠ 0) : (whenNested d).run page = d.run page := by
  rw [run, if_neg h]

end Steps

namespace CarriesOut

variable {d x : Draft} {page there : Page}

/-- Up to a draft on the way, the page has been added to, and modes and queries have been entered. -/
theorem leadsTo (h : d.CarriesOut page x there) : page.LeadsTo there := by
  induction h with
  | itself d page => exact .refl page
  | first _ ih => exact ih
  | second _ _ ih => exact (extends_run _ _).leadsTo.trans ih
  | inMode _ ih => exact (Page.leadsTo_enterMode _ _).trans ih
  | plain _ _ ih => exact ih
  | typed _ _ ih => exact ih
  | nested _ ih => exact (Page.leadsTo_enterQuery _).trans ih
  | whenNested _ _ ih => exact ih

/-- What a draft on the way has written stays to the end. -/
theorem written (h : d.CarriesOut page x there) : (x.run there).2.Precedes (d.run page).2 := by
  induction h with
  | itself d page => exact .refl _
  | @first first second x page there _ ih =>
    cases outcome : (first.run page).1 with
    | none =>
      rw [run_append_of_none outcome]
      exact ih.trans (second.extends_run _).toPrecedes
    | some cause =>
      rw [run_append_of_some outcome]
      exact ih
  | second done _ ih =>
    rw [run_append_of_none done]
    exact ih
  | inMode _ ih =>
    rw [run_inMode]
    exact ⟨ih.tokens, ih.parameters⟩
  | plain mode _ ih =>
    rw [run_byMode_plain mode]
    exact ih
  | typed mode _ ih =>
    rw [run_byMode_typed mode]
    exact ih
  | nested _ ih =>
    rw [run_nested]
    exact ⟨ih.tokens, ih.parameters⟩
  | whenNested inside _ ih =>
    rw [run_whenNested inside]
    exact ih

/-- If a draft on the way gives up, so does the whole, for the same cause: it writes nothing more, and
only puts modes and depth back. -/
theorem failed {cause : TranslationError} (h : d.CarriesOut page x there)
    (gaveUp : (x.run there).1 = some cause) :
    d.run page = (some cause, (x.run there).2.backTo page) := by
  induction h with
  | itself d page => rw [(d.extends_run page).backTo_self, ← gaveUp]
  | first _ ih =>
    have inner := ih gaveUp
    rw [run_append_of_some (congrArg Prod.fst inner), inner]
  | @second first second x page there done _ ih =>
    -- the page between the two drafts is at the place of the page in front of them
    rw [run_append_of_none done, ih gaveUp, (first.extends_run page).backTo_eq]
  | inMode _ ih =>
    rw [run_inMode, ih gaveUp]
    rfl
  | plain mode _ ih => rw [run_byMode_plain mode, ih gaveUp]
  | typed mode _ ih => rw [run_byMode_typed mode, ih gaveUp]
  | nested _ ih =>
    rw [run_nested, ih gaveUp]
    rfl
  | whenNested inside _ ih => rw [run_whenNested inside, ih gaveUp]

end CarriesOut

/-- Whatever is carried out, wherever and with whatever success, the page has only been added to, and is
in the modes and at the depth it was in before. The same is true of everything that is carried out on the
way, and if any of it gives up, the whole gives up there and then. -/
theorem run_frame (d : Draft) (page : Page) :
    page.Extends (d.run page).2 ∧
    ∀ x there, d.CarriesOut page x there →
      page.LeadsTo there ∧ there.Extends (x.run there).2 ∧ (x.run there).2.Precedes (d.run page).2 ∧
      ∀ cause, (x.run there).1 = some cause →
        d.run page = (some cause, (x.run there).2.backTo page) := by
  constructor
  · exact d.extends_run page
  · intro x there h
    exact ⟨h.leadsTo, x.extends_run there, h.written, fun cause gaveUp => h.failed gaveUp⟩

/-- A query without items is refused behind its first parenthesis, inside a query, in another mode than
that of the page. -/
theorem run_frame_emptySelect :
    let query := inMode .typed (nested (parens (word .select ++ malformed .emptySelect)))
    let page : Page := ⟨#[.comma], #[], [.plain], 2⟩
    query.run page = (some (.invalidExpression .emptySelect),
      ⟨#[.comma, .leftParen, .keyword .select], #[], [.plain], 2⟩) := by
  intro query page
  have onTheWay : query.CarriesOut page (malformed .emptySelect)
      ⟨#[.comma, .leftParen, .keyword .select], #[], [.typed, .plain], 3⟩ :=
    .inMode (.nested (.first (.second rfl (.second rfl (.itself _ _)))))
  exact ((query.run_frame page).2 _ _ onTheWay).2.2.2 _ rfl

/-! ## Drafts within drafts -/

/-- The second draft stands in the first one, and is due there in its own mode and at its own depth when the first
one is carried out in the given ones. Unlike `CarriesOut` this does not end with a refusal: what stands behind one
is enclosed as well. -/
inductive Encloses : Draft → RenderingMode → Nat → Draft → RenderingMode → Nat → Prop where
  | itself (d : Draft) (mode : RenderingMode) (depth : Nat) : Encloses d mode depth d mode depth
  | first {first second x : Draft} {mode m : RenderingMode} {depth n : Nat}
    (h : Encloses first mode depth x m n) : Encloses (append first second) mode depth x m n
  | second {first second x : Draft} {mode m : RenderingMode} {depth n : Nat}
    (h : Encloses second mode depth x m n) : Encloses (append first second) mode depth x m n
  | inMode {inner mode m : RenderingMode} {d x : Draft} {depth n : Nat} (h : Encloses d inner depth x m n) :
    Encloses (inMode inner d) mode depth x m n
  | plain {plain typed x : Draft} {m : RenderingMode} {depth n : Nat} (h : Encloses plain .plain depth x m n) :
    Encloses (byMode plain typed) .plain depth x m n
  | typed {plain typed x : Draft} {m : RenderingMode} {depth n : Nat} (h : Encloses typed .typed depth x m n) :
    Encloses (byMode plain typed) .typed depth x m n
  | nested {d x : Draft} {mode m : RenderingMode} {depth n : Nat} (h : Encloses d mode (depth + 1) x m n) :
    Encloses (nested d) mode depth x m n
  | whenNested {d x : Draft} {mode m : RenderingMode} {depth n : Nat} (inside : depth ≠ 0)
    (h : Encloses d mode depth x m n) : Encloses (whenNested d) mode depth x m n

/-- If a draft is carried out to its end, so is on the way everything that stands in it. -/
theorem Encloses.exists_carriesOut {d x : Draft} {mode m : RenderingMode} {depth n : Nat}
    (h : d.Encloses mode depth x m n) (success : d.refusal? mode depth = none) {page : Page}
    (hmode : page.mode = mode) (hdepth : page.depth = depth) :
    ∃ there, there.mode = m ∧ there.depth = n ∧ d.CarriesOut page x there := by
  induction h generalizing page with
  | itself d mode depth => exact ⟨page, hmode, hdepth, .itself d page⟩
  | first _ ih =>
    obtain ⟨there, place, level, reached⟩ := ih (refusal?_append_eq_none.1 success).1 hmode hdepth
    exact ⟨there, place, level, .first reached⟩
  | @second first second x mode m depth n _ ih =>
    obtain ⟨front, behind⟩ := refusal?_append_eq_none.1 success
    have done : (first.run page).1 = none := by rw [run_eq, hmode, hdepth, front]
    have between := first.extends_run page
    have sameMode : (first.run page).2.mode = mode := by rw [Page.mode, between.modes, ← hmode, Page.mode]
    obtain ⟨there, place, level, reached⟩ := ih behind sameMode (between.depth.trans hdepth)
    exact ⟨there, place, level, .second done reached⟩
  | @inMode inner _ _ _ _ _ _ _ ih =>
    obtain ⟨there, place, level, reached⟩ := @ih success (page.enterMode inner) rfl hdepth
    exact ⟨there, place, level, .inMode reached⟩
  | plain _ ih =>
    obtain ⟨there, place, level, reached⟩ := ih success hmode hdepth
    exact ⟨there, place, level, .plain hmode reached⟩
  | typed _ ih =>
    obtain ⟨there, place, level, reached⟩ := ih success hmode hdepth
    exact ⟨there, place, level, .typed hmode reached⟩
  | nested _ ih =>
    obtain ⟨there, place, level, reached⟩ := @ih success page.enterQuery hmode (congrArg (· + 1) hdepth)
    exact ⟨there, place, level, .nested reached⟩
  | whenNested inside _ ih =>
    rw [refusal?, if_neg inside] at success
    obtain ⟨there, place, level, reached⟩ := ih success hmode hdepth
    exact ⟨there, place, level, .whenNested (hdepth ▸ inside) reached⟩

/-! ## Where a token comes from -/

/-- A token that was added to the page was written by a draft on the way, unless it is a placeholder. -/
theorem exists_carriesOut_of_getElem? {d : Draft} {page : Page} {i : Nat} {t : Token} (ne : t ≠ .placeholder)
    (added : page.tokens.size ≤ i) (h : (d.run page).2.tokens[i]? = some t) :
    ∃ here, d.CarriesOut page (token t) here ∧ here.tokens.size = i := by
  have absent : page.tokens[i]? ≠ some t := by
    rw [Array.getElem?_eq_none added]
    nofun
  induction d generalizing page with
  | empty => exact absurd h absent
  | refuse cause => exact absurd h absent
  | token u =>
    rw [run, Page.push, Array.getElem?_push] at h
    split at h
    · next last =>
      cases h
      exact ⟨page, .itself _ _, last.symm⟩
    · exact absurd h absent
  | placeholder p =>
    rw [run, Page.pushParameter, Array.getElem?_push] at h
    split at h
    · cases h
      exact absurd rfl ne
    · exact absurd h absent
  | append first second ihf ihs =>
    cases outcome : (first.run page).1 with
    | some cause =>
      rw [run_append_of_some outcome] at h
      obtain ⟨here, reached, place⟩ := ihf added h absent
      exact ⟨here, .first reached, place⟩
    | none =>
      rw [run_append_of_none outcome] at h
      by_cases front : i < (first.run page).2.tokens.size
      · obtain ⟨rest, whole⟩ := (second.extends_run (first.run page).2).tokens
        rw [← Array.getElem?_toList, ← whole, List.getElem?_append_left (by simpa using front),
          Array.getElem?_toList] at h
        obtain ⟨here, reached, place⟩ := ihf added h absent
        exact ⟨here, .first reached, place⟩
      · have behind : (first.run page).2.tokens.size ≤ i := Nat.not_lt.1 front
        have missing : (first.run page).2.tokens[i]? ≠ some t := by
          rw [Array.getElem?_eq_none behind]
          nofun
        obtain ⟨here, reached, place⟩ := ihs behind h missing
        exact ⟨here, .second outcome reached, place⟩
  | inMode mode d ih =>
    rw [run_inMode] at h
    have behind : (page.enterMode mode).tokens.size ≤ i := added
    obtain ⟨here, reached, place⟩ := ih behind h absent
    exact ⟨here, .inMode reached, place⟩
  | byMode plain typed ihp iht =>
    cases mode : page.mode with
    | plain =>
      rw [run_byMode_plain mode] at h
      obtain ⟨here, reached, place⟩ := ihp added h absent
      exact ⟨here, .plain mode reached, place⟩
    | typed =>
      rw [run_byMode_typed mode] at h
      obtain ⟨here, reached, place⟩ := iht added h absent
      exact ⟨here, .typed mode reached, place⟩
  | nested d ih =>
    rw [run_nested] at h
    have behind : page.enterQuery.tokens.size ≤ i := added
    obtain ⟨here, reached, place⟩ := ih behind h absent
    exact ⟨here, .nested reached, place⟩
  | whenNested d ih =>
    by_cases inside : page.depth = 0
    · rw [run, if_pos inside] at h
      exact absurd h absent
    · rw [run_whenNested inside] at h
      obtain ⟨here, reached, place⟩ := ih added h absent
      exact ⟨here, .whenNested inside reached, place⟩

/-! ## One draft after another -/

/-- The page after some drafts were carried out one after another, whatever became of them. -/
def runAll (ds : List Draft) (page : Page) : Page := ds.foldl (fun page d => (d.run page).2) page

theorem extends_runAll (ds : List Draft) (page : Page) : page.Extends (runAll ds page) := by
  induction ds generalizing page with
  | nil => exact .refl page
  | cons d ds ih => exact (d.extends_run page).trans (ih (d.run page).2)

/-- Earlier calls leave no trace but what they wrote: whether any of them failed or not, a draft has the
outcome and adds the writes that it would have and add without them. -/
theorem run_after_runAll (ds : List Draft) (d : Draft) (page : Page) :
    ∃ ws, d.run page = ((d.run page).1, page.writeAll ws) ∧
      d.run (runAll ds page) = ((d.run page).1, (runAll ds page).writeAll ws) := by
  have before := extends_runAll ds page
  have mode : (runAll ds page).mode = page.mode := by rw [Page.mode, before.modes, Page.mode]
  refine ⟨d.writes page.mode page.depth, ?_, ?_⟩
  · rw [run_eq]
  · rw [run_eq, run_eq, mode, before.depth]

end Draft

end SqlDialects
