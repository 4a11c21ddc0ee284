/-!
# Formulas and levels of a text

A formula is made of numbered atoms. A level is what stands between two parentheses, read with AND in
front of OR: alternatives, each of which is a list of factors. Texts that follow each other on one level
make up a level (`Level.append`): the last alternative of the first text goes on with the first one of
the second. That is what a text without parentheses loses, and the reason why it matters here whether a
level has a single alternative.
-/

namespace SqlDialects

/-- A formula over numbered atoms. -/
inductive Formula where
  | atom (n : Nat)
  | not (f : Formula)
  | all (fs : List Formula)
  | any (fs : List Formula)

mutual

/-- The truth value of a formula under one of each atom. -/
def Formula.holds (v : Nat → Bool) : Formula → Bool
  | .atom n => v n
  | .not f => !f.holds v
  | .all fs => allHold v fs
  | .any fs => someHolds v fs

/-- All of some formulas hold. -/
def allHold (v : Nat → Bool) : List Formula → Bool
  | [] => true
  | f :: fs => f.holds v && allHold v fs

/-- One of some formulas holds. -/
def someHolds (v : Nat → Bool) : List Formula → Bool
  | [] => false
  | f :: fs => f.holds v || someHolds v fs

end

variable {v : Nat → Bool} {b : Bool}

theorem allHold_eq (fs : List Formula) : allHold v fs = fs.all (·.holds v) := by
  induction fs with
  | nil => rfl
  | cons f fs ih => rw [allHold, ih, List.all_cons]

theorem someHolds_eq (fs : List Formula) : someHolds v fs = fs.any (·.holds v) := by
  induction fs with
  | nil => rfl
  | cons f fs ih => rw [someHolds, ih, List.any_cons]

/-- A formula behind some negations. -/
def Formula.negated (f : Formula) : Nat → Formula
  | 0 => f
  | n + 1 => .not (f.negated n)

/-- Alternatives of factors: those that an OR has ended, and the one that goes on. -/
structure Level where
  ended : List (List Formula)
  current : List Formula

namespace Level

variable {l r : Level} {fs : List Formula}

/-- All alternatives. -/
def alternatives (l : Level) : List (List Formula) := l.ended ++ [l.current]

/-- The formula that a level stands for. -/
def formula (l : Level) : Formula := .any (l.alternatives.map .all)

/-- Nothing. -/
def start : Level := ⟨[], []⟩

/-- A single factor. -/
def factor (f : Formula) : Level := ⟨[], [f]⟩

/-- The word OR. -/
def or : Level := ⟨[[]], []⟩

/-- A text of a level behind another one. -/
def append (l r : Level) : Level :=
  match r.ended with
  | [] => ⟨l.ended, l.current ++ r.current⟩
  | first :: rest => ⟨l.ended ++ (l.current ++ first) :: rest, r.current⟩

instance : Append Level := ⟨append⟩

theorem append_eq (l r : Level) : l ++ r = l.append r := rfl

theorem start_append (l : Level) : start ++ l = l := by
  obtain ⟨ended, current⟩ := l
  cases ended <;> rfl

theorem append_start (l : Level) : l ++ start = l := by
  simp [append_eq, append, start]

theorem append_assoc (l m r : Level) : l ++ m ++ r = l ++ (m ++ r) := by
  obtain ⟨mEnded, mCurrent⟩ := m
  obtain ⟨rEnded, rCurrent⟩ := r
  cases mEnded <;> cases rEnded <;> simp [append_eq, append]

theorem alternatives_append_or (l r : Level) :
    (l ++ or ++ r).alternatives = l.alternatives ++ r.alternatives := by
  obtain ⟨ended, current⟩ := r
  cases ended <;> simp [append_eq, append, alternatives, or]

/-- The last alternative goes on with the first one of what follows. -/
theorem exists_alternatives_append (l r : Level) : ∃ first rest, r.alternatives = first :: rest ∧
    (l ++ r).alternatives = l.ended ++ (l.current ++ first) :: rest := by
  obtain ⟨ended, current⟩ := r
  cases ended with
  | nil => exact ⟨current, [], rfl, rfl⟩
  | cons first rest =>
    exact ⟨first, rest ++ [current], rfl, by simp [append_eq, append, alternatives]⟩

/-- What an OR has ended stays as it is. -/
theorem mem_ended_append (h : fs ∈ l.ended) (r : Level) : fs ∈ (l ++ r).ended := by
  rw [append_eq, append]
  split
  · exact h
  · exact List.mem_append_left _ h

theorem current_append (h : r.ended ≠ []) (l : Level) : (l ++ r).current = r.current := by
  obtain ⟨ended, current⟩ := r
  cases ended with
  | nil => exact absurd rfl h
  | cons first rest => rfl

/-! ## Truth of levels -/

theorem holds_formula (l : Level) :
    l.formula.holds v = l.alternatives.any fun fs => fs.all (·.holds v) := by
  rw [formula, Formula.holds, someHolds_eq, List.any_map]
  simp only [Function.comp_def, Formula.holds, allHold_eq]

theorem holds_of_mem (h : fs ∈ l.alternatives) (hfs : ∀ f ∈ fs, f.holds v = true) :
    l.formula.holds v = true := by
  rw [holds_formula]
  exact List.any_eq_true.2 ⟨fs, h, List.all_eq_true.2 hfs⟩

@[simp] theorem holds_factor (f : Formula) : (factor f).formula.holds v = f.holds v := by
  simp [holds_formula, alternatives, factor]

theorem holds_append_or (l r : Level) :
    (l ++ or ++ r).formula.holds v = (l.formula.holds v || r.formula.holds v) := by
  rw [holds_formula, alternatives_append_or, List.any_append, holds_formula, holds_formula]

/-- Levels of a single alternative can stand side by side. -/
theorem holds_append (hl : l.ended = []) (hr : r.ended = []) :
    (l ++ r).formula.holds v = (l.formula.holds v && r.formula.holds v) := by
  simp [holds_formula, alternatives, append_eq, append, hl, hr]

/-- Every alternative has factors, and all of these have the same truth value. -/
def Uniform (v : Nat → Bool) (b : Bool) (l : Level) : Prop :=
  ∀ fs ∈ l.alternatives, fs ≠ [] ∧ ∀ f ∈ fs, f.holds v = b

theorem uniform_factor {f : Formula} : (factor f).Uniform v b ↔ f.holds v = b := by
  simp [Uniform, alternatives, factor]

theorem Uniform.holds (h : l.Uniform v b) : l.formula.holds v = b := by
  have current := h l.current (by simp [alternatives])
  cases b with
  | true => exact holds_of_mem (by simp [alternatives]) current.2
  | false =>
    rw [holds_formula, List.any_eq_false]
    intro fs hfs
    obtain ⟨factors, value⟩ := h fs hfs
    obtain ⟨f, hf⟩ := List.exists_mem_of_ne_nil fs factors
    intro all
    have true := List.all_eq_true.1 all f hf
    rw [value f hf] at true
    cases true

theorem Uniform.append_or (hl : l.Uniform v b) (hr : r.Uniform v b) : (l ++ or ++ r).Uniform v b := by
  intro fs hfs
  rw [alternatives_append_or, List.mem_append] at hfs
  exact hfs.elim (hl fs) (hr fs)

theorem Uniform.append (hl : l.Uniform v b) (hr : r.Uniform v b) : (l ++ r).Uniform v b := by
  obtain ⟨first, rest, split, joined⟩ := exists_alternatives_append l r
  have last := hl l.current (by simp [alternatives])
  have next := hr first (by simp [split])
  intro fs hfs
  rw [joined, List.mem_append, List.mem_cons] at hfs
  rcases hfs with hfs | rfl | hfs
  · exact hl fs (by simp [alternatives, hfs])
  · exact ⟨by simp [last.1], fun f hf => (List.mem_append.1 hf).elim (last.2 f) (next.2 f)⟩
  · exact hr fs (by simp [split, hfs])

end Level

end SqlDialects
