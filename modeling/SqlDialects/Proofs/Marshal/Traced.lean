import SqlDialects.Marshal.Converter

/-!
# Traced computations step by step

A traced computation that succeeds is taken apart into its successful steps: `result_bind` for two
steps in a row, `result_of_mem_mapM` for a step that is made for every item of a list. A pass over a list
fails where its step fails first (`List.FailsFirst`), and it has used converters up to there
(`calls_mapM_of_failsFirst`).
-/

theorem Except.bind_eq_ok {ε α β : Type} {x : Except ε α} {f : α → Except ε β} {b : β} :
    x >>= f = .ok b ↔ ∃ a, x = .ok a ∧ f a = .ok b := by
  cases x <;> simp [bind, Except.bind]

theorem Except.bind_eq_error {ε α β : Type} {x : Except ε α} {f : α → Except ε β} {e : ε} :
    x >>= f = .error e ↔ x = .error e ∨ ∃ a, x = .ok a ∧ f a = .error e := by
  cases x <;> simp [bind, Except.bind]

theorem Except.map_eq_ok {ε α β : Type} {x : Except ε α} {f : α → β} {b : β} :
    x.map f = .ok b ↔ ∃ a, x = .ok a ∧ f a = b := by
  cases x <;> simp [Except.map]

theorem Except.map_eq_error {ε α β : Type} {x : Except ε α} {f : α → β} {e : ε} :
    x.map f = .error e ↔ x = .error e := by
  cases x <;> simp [Except.map]

theorem Except.mapError_eq_ok {ε ε' α : Type} {x : Except ε α} {f : ε → ε'} {a : α} :
    x.mapError f = .ok a ↔ x = .ok a := by
  cases x with
  | error cause => exact ⟨nofun, nofun⟩
  | ok a => exact ⟨fun h => congrArg _ (Except.ok.inj h), fun h => congrArg _ (Except.ok.inj h)⟩

theorem Except.mapError_eq_error {ε ε' α : Type} {x : Except ε α} {f : ε → ε'} {e : ε'} :
    x.mapError f = .error e ↔ ∃ cause, x = .error cause ∧ f cause = e := by
  cases x with
  | error cause =>
    constructor
    · intro h
      exact ⟨cause, rfl, Except.error.inj h⟩
    · rintro ⟨_, ⟨⟩, rfl⟩
      rfl
  | ok a => exact ⟨nofun, nofun⟩

/-- A step fails for an item of a list and for none before it; `tried` are the items up to that one. -/
inductive List.FailsFirst {ε α β : Type} (f : α → Except ε β) : List α → List α → ε → Prop where
  | here {x : α} {xs : List α} {e : ε} : f x = .error e → FailsFirst f (x :: xs) [x] e
  | later {x : α} {xs tried : List α} {b : β} {e : ε} : f x = .ok b → FailsFirst f xs tried e →
    FailsFirst f (x :: xs) (x :: tried) e

namespace List

variable {ε α β γ : Type} {f : α → Except ε β} {g : α → Except ε γ} {xs tried : List α} {e : ε}

/-- A pass fails with the failure of the first item that its step fails for. -/
theorem mapM_eq_error : xs.mapM f = .error e ↔ ∃ tried, FailsFirst f xs tried e := by
  induction xs with
  | nil =>
    refine ⟨nofun, ?_⟩
    rintro ⟨tried, h⟩
    cases h
  | cons x xs ih =>
    rw [mapM_cons]
    cases hx : f x with
    | error e' =>
      constructor
      · rintro ⟨⟩
        exact ⟨[x], .here hx⟩
      · rintro ⟨tried, here | ⟨passed, -⟩⟩
        · rw [hx] at here
          cases here
          rfl
        · rw [hx] at passed
          cases passed
    | ok b =>
      have rest : (xs.mapM f >>= fun bs => pure (b :: bs)) = Except.error e ↔ xs.mapM f = .error e := by
        cases xs.mapM f <;> simp [bind, Except.bind, pure, Except.pure]
      refine rest.trans (ih.trans ?_)
      constructor
      · rintro ⟨tried, h⟩
        exact ⟨x :: tried, .later hx h⟩
      · rintro ⟨tried, here | ⟨-, h⟩⟩
        · rw [hx] at here
          cases here
        · exact ⟨_, h⟩

theorem FailsFirst.exists_mem (h : FailsFirst f xs tried e) : ∃ x ∈ xs, f x = .error e := by
  induction h with
  | here h => exact ⟨_, mem_cons_self, h⟩
  | later _ _ ih =>
    obtain ⟨x, hx, h⟩ := ih
    exact ⟨x, mem_cons_of_mem _ hx, h⟩

/-- What a step gives for the items that it succeeds for does not matter. -/
theorem FailsFirst.imp (ok : ∀ x b, f x = .ok b → ∃ c, g x = .ok c)
    (error : ∀ x e, f x = .error e → g x = .error e) (h : FailsFirst f xs tried e) : FailsFirst g xs tried e := by
  induction h with
  | here h => exact .here (error _ _ h)
  | later h _ ih =>
    obtain ⟨c, hc⟩ := ok _ _ h
    exact .later hc ih

theorem failsFirst_map {h : β → γ} : FailsFirst (fun x => (f x).map h) xs tried e ↔ FailsFirst f xs tried e := by
  constructor
  · refine FailsFirst.imp (fun x c hx => ?_) fun x e hx => Except.map_eq_error.1 hx
    obtain ⟨b, hb, -⟩ := Except.map_eq_ok.1 hx
    exact ⟨b, hb⟩
  · refine FailsFirst.imp (fun x b hx => ?_) fun x e hx => Except.map_eq_error.2 hx
    exact ⟨h b, Except.map_eq_ok.2 ⟨b, hx, rfl⟩⟩

end List

namespace SqlDialects.Traced

variable {α β : Type}

instance : LawfulMonad Traced := LawfulMonad.mk' Traced
  (by
    rintro α ⟨result, calls⟩
    cases result <;> simp [Functor.map])
  (by
    intro α β a f
    simp [pure, bind])
  (by
    rintro α β γ ⟨result, calls⟩ f g
    cases result with
    | error e => rfl
    | ok a =>
      simp only [bind]
      cases (f a).result <;> simp)

@[simp] theorem result_pure (a : α) : (pure a : Traced α).result = .ok a := rfl

theorem result_bind {x : Traced α} {f : α → Traced β} {b : β} :
    (x >>= f).result = .ok b ↔ ∃ a, x.result = .ok a ∧ (f a).result = .ok b := by
  cases h : x.result with
  | error e => simp [bind, h]
  | ok a => simp [bind, h]

/-- The result of two steps in a row is that of the steps without their uses of converters. -/
theorem result_bind_eq {x : Traced α} {f : α → Traced β} :
    (x >>= f).result = x.result >>= fun a => (f a).result := by
  cases h : x.result with
  | error e => simp [bind, Except.bind, h]
  | ok a => simp [bind, Except.bind, h]

theorem result_mapM {f : α → Traced β} {xs : List α} :
    (xs.mapM f).result = xs.mapM fun x => (f x).result := by
  induction xs with
  | nil => rfl
  | cons x xs ih =>
    simp only [List.mapM_cons, result_bind_eq, ih]
    rfl

theorem calls_bind_of_ok {x : Traced α} {f : α → Traced β} {a : α} (h : x.result = .ok a) :
    (x >>= f).calls = x.calls ++ (f a).calls := by
  simp [bind, h]

/-- What uses no converter adds nothing to the uses. -/
theorem calls_bind_ofExcept {x : Traced α} {f : α → Except MarshalError β} :
    (x >>= fun a => ofExcept (f a)).calls = x.calls := by
  cases h : x.result <;> simp [bind, ofExcept, h]

theorem calls_bind_pure {x : Traced α} {f : α → β} : (x >>= fun a => (pure (f a) : Traced β)).calls = x.calls :=
  calls_bind_ofExcept (f := fun a => .ok (f a))

theorem liftM_ok_bind {a : α} {f : α → Traced β} :
    (liftM (Except.ok a : Except MarshalError α) : Traced α) >>= f = f a := rfl

/-- A pass that uses no converter is one without a trace. -/
theorem mapM_ofExcept {f : α → Except MarshalError β} {xs : List α} :
    (xs.mapM fun x => ofExcept (f x)) = ofExcept (xs.mapM f) := by
  induction xs with
  | nil => rfl
  | cons x xs ih =>
    rw [List.mapM_cons, List.mapM_cons, ih]
    cases f x with
    | error e => rfl
    | ok b => cases xs.mapM f <;> rfl

/-- Every result of a traced pass over a list comes from an item of the list. -/
theorem result_of_mem_mapM {f : α → Traced β} {xs : List α} {ys : List β}
    (h : (xs.mapM f).result = .ok ys) {y : β} (hy : y ∈ ys) :
    ∃ x ∈ xs, (f x).result = .ok y := by
  induction xs generalizing ys with
  | nil =>
    rw [List.mapM_nil, result_pure] at h
    cases h
    cases hy
  | cons x xs ih =>
    rw [List.mapM_cons, result_bind] at h
    obtain ⟨first, hfirst, h⟩ := h
    obtain ⟨rest, hrest, h⟩ := result_bind.1 h
    rw [result_pure] at h
    cases h
    rcases List.mem_cons.1 hy with rfl | hy
    · exact ⟨x, List.mem_cons_self, hfirst⟩
    · obtain ⟨z, hz, hfz⟩ := ih hrest hy
      exact ⟨z, List.mem_cons_of_mem x hz, hfz⟩

/-- A pass that fails has used converters for the items up to the one that it fails for. -/
theorem calls_mapM_of_failsFirst {f : α → Traced β} {xs tried : List α} {e : MarshalError}
    (h : List.FailsFirst (fun x => (f x).result) xs tried e) :
    (xs.mapM f).calls = tried.flatMap fun x => (f x).calls := by
  induction h with
  | here h => simp [bind, h]
  | later h _ ih =>
    rw [List.mapM_cons, calls_bind_of_ok h, calls_bind_pure, ih]
    rfl

/-- A pass whose step succeeds for all items has used converters for all of them. -/
theorem calls_mapM_of_forall {f : α → Traced β} {xs : List α} (h : ∀ x ∈ xs, ∃ b, (f x).result = .ok b) :
    (xs.mapM f).calls = xs.flatMap fun x => (f x).calls := by
  induction xs with
  | nil => rfl
  | cons x xs ih =>
    obtain ⟨⟨b, hb⟩, rest⟩ := List.forall_mem_cons.1 h
    rw [List.mapM_cons, calls_bind_of_ok hb, calls_bind_pure, ih rest]
    rfl

end SqlDialects.Traced
