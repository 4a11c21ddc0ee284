import SqlDialects.Render.Binding
import SqlDialects.Proofs.Draft.Statements

/-!
# Placeholders in lock-step with parameters

A placeholder comes onto the page in the same act as its parameter. So after every act of a translation
as many placeholders stand on the page as parameters are recorded, and the position of a placeholder
among the placeholders is that of its parameter among the parameters. Binding goes through the
parameters in order and gives each one a value, which is therefore the value of its placeholder.
-/

namespace SqlDialects

/-- The act does not add a placeholder without a parameter. -/
def Write.Paired (w : Write) : Prop := w.added = .placeholder → w.recorded?.isSome

namespace Page

variable {page : Page} {w : Write} {ws : List Write}

/-- Number of placeholders on the page. -/
def placeholders (page : Page) : Nat := Token.placeholderCount page.tokens.toList

/-- As many placeholders stand on the page as parameters are recorded. -/
def LockStep (page : Page) : Prop := page.placeholders = page.parameters.size

theorem lockStep_blank : blank.LockStep := rfl

/-- A single act keeps the page in lock-step. -/
theorem LockStep.write (h : page.LockStep) (hw : w.Paired) : (page.write w).LockStep := by
  unfold LockStep placeholders Token.placeholderCount at *
  cases w with
  | token t =>
    have other : t ≠ .placeholder := fun ht => by simpa [Write.recorded?] using hw ht
    simp [Page.write, push, h, other]
  | placeholder p => simp [Page.write, pushParameter, h]

/-- Acts in a row keep the page in lock-step. -/
theorem LockStep.writeAll (h : page.LockStep) (hws : ∀ w ∈ ws, w.Paired) : (page.writeAll ws).LockStep := by
  induction ws generalizing page with
  | nil => exact h
  | cons w ws ih =>
    obtain ⟨hw, hws⟩ := List.forall_mem_cons.1 hws
    exact ih (h.write hw) hws

/-- The parameter of an act that comes with a placeholder is found in the end at the position that the
placeholder has among the placeholders. -/
theorem LockStep.getElem?_parameters (h : page.LockStep) {done : List Write} (rest : List Write)
    (hdone : ∀ w ∈ done, w.Paired) (hw : w.Paired) (added : w.added = .placeholder) :
    ∃ p, w.recorded? = some p ∧
      (page.writeAll (done ++ w :: rest)).parameters[(page.writeAll done).placeholders]? = some p := by
  obtain ⟨p, hp⟩ := Option.isSome_iff_exists.1 (hw added)
  refine ⟨p, hp, ?_⟩
  have position := h.writeAll hdone
  rw [position, ← Array.getElem?_toList, ← Array.length_toList, parameters_writeAll, parameters_writeAll,
    List.filterMap_append, List.filterMap_cons_some hp, ← List.append_assoc]
  simp

end Page

namespace Parameter

variable {b : Bindings} {types : TypeRegistry} {preferred : RepresentationMap}

/-- The values bound to parameters are those of each of them, one by one. -/
theorem getElem_boundFrom {ps : List Parameter} {position : Nat} {values : List BoundValue}
    (h : boundFrom b types preferred position ps = .ok values) :
    ps.length = values.length ∧ ∀ (k : Nat) (hp : k < ps.length) (hv : k < values.length),
      ps[k].bound b types preferred (position + k) = .ok values[k] := by
  induction ps generalizing position values with
  | nil =>
    cases h
    exact ⟨rfl, by simp⟩
  | cons p ps ih =>
    rw [boundFrom] at h
    cases hvalue : p.bound b types preferred position with
    | error e => simp [hvalue, bind, Except.bind] at h
    | ok value =>
      cases hrest : boundFrom b types preferred (position + 1) ps with
      | error e => simp [hvalue, hrest, bind, Except.bind] at h
      | ok rest =>
        simp only [hvalue, hrest, bind, Except.bind, Except.ok.injEq] at h
        subst h
        obtain ⟨length, values⟩ := ih hrest
        refine ⟨by simp [length], fun k hp hv => ?_⟩
        cases k with
        | zero => exact hvalue
        | succ k =>
          have value := values k (Nat.lt_of_succ_lt_succ hp) (Nat.lt_of_succ_lt_succ hv)
          rwa [Nat.add_right_comm] at value

/-- A value bound to a parameter stands at the position that was asked for, with the type of the
parameter, and is made of what its source has under the bindings. -/
theorem bound_eq_ok {p : Parameter} {position : Nat} {value : BoundValue}
    (h : p.bound b types preferred position = .ok value) :
    value.position = position ∧ value.descriptor = p.type.descriptor ∧
      ∃ v, p.source.resolve b = .ok v ∧ (p.toDriver types preferred v).result = .ok value.value := by
  unfold bound at h
  split at h
  · cases h
  · next v hv =>
    split at h
    · cases h
    · next x hx =>
      cases h
      exact ⟨rfl, rfl, v, hv, hx⟩

end Parameter

namespace Draft

variable {x : Draft} {d : Dialect} {op : Operation}

/-- No act of a draft without bare placeholders adds one without a parameter. -/
theorem Every.paired (h : x.Every (· ≠ .placeholder)) {mode : RenderingMode} {depth : Nat} {w : Write}
    (hw : w ∈ x.writes mode depth) : w.Paired := by
  intro added
  rcases h.of_mem_writes hw with ⟨t, rfl, ht⟩ | ⟨p, rfl⟩
  · exact absurd added ht
  · rfl

end Draft

namespace Statement

variable (ctx : TranslationContext) (s : Statement)

theorem paired_of_mem_acts {w : Write} (hw : w ∈ s.acts ctx) : w.Paired := by
  refine Draft.Every.paired ((s.every_draft ctx).mono fun t ht => ?_) hw
  rcases ht with rfl | ht
  · simp
  · rintro rfl
    exact ht

theorem lockStep_page : (s.page ctx).LockStep :=
  Page.lockStep_blank.writeAll fun _ hw => s.paired_of_mem_acts ctx hw

variable {ctx s}

theorem placeholders_page {op : Operation} (h : s.translate ctx = .ok op) :
    (s.page ctx).placeholders = op.parameters.length := by
  rw [(of_translate_eq_ok h).2.2, Array.length_toList]
  exact s.lockStep_page ctx

/-- Translating a statement is carrying out a sequence of acts, after each of which the page is in
lock-step, and each of which that adds a placeholder records the parameter at its position. If the
translation succeeds, the placeholders of the text are as many as the parameters; and if binding these
succeeds, there is exactly one value for each placeholder, at its position and from its source. -/
theorem placeholders_in_lock_step (ctx : TranslationContext) (s : Statement) :
    (s.draft ctx).run .blank = ((s.draft ctx).refusal? .plain 0, s.page ctx) ∧
    (∀ done, done <+: s.acts ctx → (Page.blank.writeAll done).LockStep) ∧
    (∀ done w, done ++ [w] <+: s.acts ctx → w.added = .placeholder →
      ∃ p, w.recorded? = some p ∧
        (s.page ctx).parameters[(Page.blank.writeAll done).placeholders]? = some p) ∧
    ∀ op, s.translate ctx = .ok op →
      Token.textOfAll ctx.dialect (s.page ctx).tokens.toList = .ok op.sql ∧
      op.parameters = (s.page ctx).parameters.toList ∧
      (s.page ctx).placeholders = op.parameters.length ∧
      ∀ b types preferred values, op.bindValues b types preferred = .ok values →
        values.length = (s.page ctx).placeholders ∧
        ∀ (k : Nat) (hp : k < op.parameters.length) (hv : k < values.length),
          values[k].position = k + 1 ∧ values[k].descriptor = op.parameters[k].type.descriptor ∧
          ∃ v, op.parameters[k].source.resolve b = .ok v ∧
            (op.parameters[k].toDriver types preferred v).result = .ok values[k].value := by
  have paired : ∀ w ∈ s.acts ctx, w.Paired := fun w hw => s.paired_of_mem_acts ctx hw
  refine ⟨s.run_draft ctx, fun done hdone => ?_, fun done w hdone added => ?_, fun op hop => ?_⟩
  · exact Page.lockStep_blank.writeAll fun w hw => paired w (hdone.subset hw)
  · obtain ⟨rest, hrest⟩ := hdone
    rw [List.append_assoc, List.singleton_append] at hrest
    have mem : ∀ v ∈ done ++ w :: rest, v.Paired := fun v hv => paired v (hrest ▸ hv)
    have found := Page.lockStep_blank.getElem?_parameters rest
      (fun v hv => mem v (List.mem_append_left _ hv)) (mem w (by simp)) added
    rwa [hrest] at found
  · obtain ⟨-, text, parameters⟩ := of_translate_eq_ok hop
    have count := placeholders_page hop
    refine ⟨text, parameters, count, fun b types preferred values hvalues => ?_⟩
    obtain ⟨length, bound⟩ := Parameter.getElem_boundFrom hvalues
    refine ⟨by rw [count, length], fun k hp hv => ?_⟩
    obtain ⟨position, descriptor, source⟩ := Parameter.bound_eq_ok (bound k hp hv)
    exact ⟨by rw [position, Nat.add_comm], descriptor, source⟩

/-- A comparison of rows that is taken apart has a placeholder for each occurrence of a parameter. -/
example : ∃ op, (Statement.select (.select
      { items := [⟨.parameter "p" ⟨"integer", .ofCode .integer⟩ false, none⟩]
        filter := some (.comparison
          (.tuple [.parameter "a" ⟨"integer", .ofCode .integer⟩ false,
            .parameter "b" ⟨"integer", .ofCode .integer⟩ false])
          .lessThan (.tuple [.column none "x" none, .column none "y" none])) })).translate
      (.ofDialect .hsql) = .ok op ∧
    op.parameters.map (·.source) = [.named "p", .named "a", .named "a", .named "b"] :=
  ⟨_, rfl, rfl⟩

end Statement

end SqlDialects
