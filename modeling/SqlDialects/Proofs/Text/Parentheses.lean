import SqlDialects.Proofs.Text.Fragment

/-!
# Parentheses in text

A reader of SQL text counts parentheses where they stand outside of quotes. A text spans from `i` to `j` if it
leaves no quotes open and `j` parentheses are open behind it as soon as `i` were in front of it (`Lexical.Spans`);
it does not close what it has not opened, apart from these `i`. Texts can be put together (`Spans.append`), and
more parentheses around them make no difference (`Spans.shift`).
-/

namespace SqlDialects

namespace Lexical

/-- The number of open parentheses behind a character outside of quotes. -/
def deepen (n : Nat) (c : Char) : Option Nat :=
  if c = '(' then some (n + 1)
  else if c = ')' then if n = 0 then none else some (n - 1)
  else some n

/-- The characters of a text that stand outside of quotes, read from some place on. -/
def unquoted (d : Dialect) : Place → List Char → List Char
  | _, [] => []
  | p, c :: cs => (if p.isOutside then [c] else []) ++ unquoted d (p.next d c) cs

/-- The number of open parentheses behind a text, if there are enough in front of it. -/
def nesting (d : Dialect) (n : Nat) (s : String) : Option Nat := (unquoted d .outside s.toList).foldlM deepen n

/-- A text that leaves no quotes open and takes its reader from `i` open parentheses to `j`. -/
def Spans (d : Dialect) (i j : Nat) (s : String) : Prop :=
  (scan d .outside s.toList).1.isOutside = true ∧ nesting d i s = some j

instance (d : Dialect) (i j : Nat) (s : String) : Decidable (Spans d i j s) :=
  inferInstanceAs (Decidable (_ ∧ _))

variable {d : Dialect} {i j k : Nat} {s t : String}

theorem deepen_add {n m : Nat} {c : Char} (h : deepen n c = some m) (k : Nat) :
    deepen (n + k) c = some (m + k) := by
  unfold deepen at h ⊢
  split at h
  · next opens =>
    cases h
    rw [if_pos opens, Nat.add_right_comm]
  · next opens =>
    rw [if_neg opens]
    split at h
    · next closes =>
      split at h
      · cases h
      · next positive =>
        cases h
        rw [if_pos closes, if_neg (by omega), Nat.sub_add_comm (by omega)]
    · next closes =>
      cases h
      rw [if_neg closes]

theorem foldlM_deepen_add {n m : Nat} {cs : List Char} (h : cs.foldlM deepen n = some m) (k : Nat) :
    cs.foldlM deepen (n + k) = some (m + k) := by
  induction cs generalizing n with
  | nil =>
    cases h
    rfl
  | cons c cs ih =>
    rw [List.foldlM_cons] at h ⊢
    obtain ⟨l, first, rest⟩ := Option.bind_eq_some_iff.1 h
    rw [deepen_add first k]
    exact ih rest

theorem nesting_add {n m : Nat} (h : nesting d n s = some m) (k : Nat) : nesting d (n + k) s = some (m + k) :=
  foldlM_deepen_add h k

/-- More parentheses around a text make no difference to it. -/
theorem Spans.shift (h : Spans d i j s) (k : Nat) : Spans d (i + k) (j + k) s := ⟨h.1, nesting_add h.2 k⟩

theorem unquoted_append (p : Place) (xs ys : List Char) :
    unquoted d p (xs ++ ys) = unquoted d p xs ++ unquoted d (scan d p xs).1 ys := by
  induction xs generalizing p with
  | nil => rfl
  | cons x xs ih => rw [List.cons_append, unquoted, unquoted, ih, List.append_assoc, scan]

/-- A place outside of quotes may be taken for the start of a text. -/
theorem unquoted_of_isOutside {p : Place} (h : p.isOutside = true) (cs : List Char) :
    unquoted d p cs = unquoted d .outside cs := by
  cases cs with
  | nil => rfl
  | cons c cs =>
    cases p with
    | outside => rfl
    | closing q =>
      rw [unquoted, unquoted, next_closing]
      rfl
    | inside q => cases h
    | escaped => cases h

/-- Texts, one after the other. -/
theorem Spans.append (hs : Spans d i j s) (ht : Spans d j k t) : Spans d i k (s ++ t) := by
  refine ⟨?_, ?_⟩
  · rw [String.toList_append, scan_append]
    exact (scan_of_isOutside hs.1 t.toList).1.trans ht.1
  · have first : (unquoted d .outside s.toList).foldlM deepen i = some j := hs.2
    rw [nesting, String.toList_append, unquoted_append, unquoted_of_isOutside hs.1, List.foldlM_append, first]
    exact ht.2

/-- The text has no parentheses outside of quotes. -/
theorem spans_of_forall_unquoted (closed : (scan d .outside s.toList).1.isOutside = true)
    (h : ∀ c ∈ unquoted d .outside s.toList, c ≠ '(' ∧ c ≠ ')') (i : Nat) : Spans d i i s := by
  refine ⟨closed, ?_⟩
  rw [nesting]
  generalize unquoted d .outside s.toList = cs at h
  induction cs with
  | nil => rfl
  | cons c cs ih =>
    obtain ⟨⟨opens, closes⟩, rest⟩ := List.forall_mem_cons.1 h
    rw [List.foldlM_cons, deepen, if_neg opens, if_neg closes]
    exact ih rest

theorem mem_of_mem_unquoted {p : Place} {cs : List Char} {c : Char} (h : c ∈ unquoted d p cs) : c ∈ cs := by
  induction cs generalizing p with
  | nil => exact h
  | cons x xs ih =>
    rw [unquoted, List.mem_append] at h
    rcases h with h | h
    · split at h
      · exact List.mem_singleton.1 h ▸ List.mem_cons_self
      · cases h
    · exact List.mem_cons_of_mem x (ih h)

theorem spans_of_isBare (h : IsBare s) (i : Nat) : Spans d i i s := by
  refine spans_of_forall_unquoted (closed_of_isPlain h.isPlain).1 (fun c hc => ?_) i
  have bare := h c (mem_of_mem_unquoted hc)
  simp only [isBare, Bool.and_eq_true, bne_iff_ne] at bare
  exact ⟨bare.1.2, bare.2⟩

/-! ## Texts between quotes -/

/-- Of what is written between quotes, only quote characters count as outside of them, where a backslash means
nothing. -/
theorem mem_unquoted_encode {q : Quote} (plain : d ≠ .mysql) (cs rest : List Char) {c : Char}
    (h : c ∈ unquoted d (.inside q) (Text.Quoted.encode (q.char d) cs ++ rest)) :
    c = q.char d ∨ c ∈ unquoted d (.inside q) rest := by
  induction cs with
  | nil => exact .inr h
  | cons x cs ih =>
    by_cases same : x = q.char d
    · rw [Text.Quoted.encode, if_pos same, List.cons_append, List.cons_append] at h
      simp only [unquoted, Place.next, Place.isOutside, if_true, List.nil_append,
        List.singleton_append, List.mem_cons, Bool.false_eq_true, if_false] at h
      exact h.imp_right ih |>.elim .inl id
    · rw [Text.Quoted.encode_cons_of_ne same, List.cons_append] at h
      simp only [unquoted, Place.next, Place.isOutside, same, plain, false_and, if_false, Bool.false_eq_true,
        List.nil_append] at h
      exact ih h

theorem spans_quoteText (plain : d ≠ .mysql) (s : String) (i : Nat) : Spans d i i (Dialect.quoteText s) := by
  refine spans_of_forall_unquoted (closed_quoteText plain s).1 (fun c hc => ?_) i
  have opens : unquoted d .outside (Dialect.quoteText s).toList =
      '\'' :: unquoted d (.inside .text) (Text.Quoted.encode '\'' s.toList ++ ['\'']) := by
    rw [Dialect.quoteText, Text.Quoted.text, String.toList_ofList]
    rfl
  have quote : c = '\'' := by
    rw [opens, List.mem_cons] at hc
    rcases hc with hc | hc
    · exact hc
    · rcases mem_unquoted_encode (q := .text) plain s.toList _ hc with hc | hc
      · exact hc
      · cases hc
  exact quote ▸ ⟨by decide, by decide⟩

end Lexical

open Lexical

/-! ## Type names and constants -/

variable {d : Dialect}

/-- The parentheses of a type name are around its length. -/
theorem NamesType.spans {s : String} (h : NamesType s) (i : Nat) : Spans d i i s := by
  obtain ⟨name, length, suffix, hname, hsuffix, rfl⟩ := h
  refine Spans.append (j := i) ?_ (spans_of_isBare hsuffix i)
  cases length with
  | none => exact spans_of_isBare hname i
  | some n =>
    have opens : Spans d 0 1 "(" := by cases d <;> decide
    have closes : Spans d 1 0 ")" := by cases d <;> decide
    have sized := ((opens.append (spans_of_isBare (isBare_toString_nat n.toNat) 1)).append closes).shift i
    rw [Nat.zero_add] at sized
    have whole := (spans_of_isBare (d := d) hname i).append sized
    rwa [← String.append_assoc, ← String.append_assoc] at whole

/-- The end of a cast closes one parenthesis. -/
theorem Dialect.spans_castClosing (type : TypeDescriptor) (i : Nat) :
    Spans d (i + 1) i (" as " ++ d.castName type ++ ")") := by
  have front : Spans d 1 1 " as " := by cases d <;> decide
  have closes : Spans d 1 0 ")" := by cases d <;> decide
  have whole := ((front.append ((d.namesType_castName type).spans 1)).append closes).shift i
  rwa [Nat.zero_add, Nat.add_comm] at whole

theorem Literal.spans_text {l : Literal} (plain : d ≠ .mysql) (h : l.WellFormed) (i : Nat) :
    Spans d i i (l.text d) := by
  cases l with
  | null => exact spans_of_isBare (s := Dialect.nullText) (by decide) i
  | boolean b => exact spans_of_isBare (s := d.booleanText b) (by cases d <;> cases b <;> decide) i
  | integer n => exact spans_of_isBare (isBare_toString_int n) i
  | float x => exact spans_of_isBare (Binary.isBare_text _ x) i
  | string s => exact spans_quoteText plain s i
  | decimal s => exact spans_of_isBare (isBare_of_isDecimal h) i

theorem spans_intercalate {texts : List String} {i : Nat} (h : ∀ t ∈ texts, Spans d i i t) :
    Spans d i i (",".intercalate texts) := by
  induction texts with
  | nil => exact spans_of_isBare (s := "") (by decide) i
  | cons t rest ih =>
    obtain ⟨ht, hrest⟩ := List.forall_mem_cons.1 h
    cases rest with
    | nil => rwa [String.intercalate_singleton]
    | cons u rest =>
      rw [String.intercalate_cons_cons]
      exact (ht.append (spans_of_isBare (s := ",") (by decide) i)).append (ih hrest)

/-- The parentheses in an array of constants are in quotes. -/
theorem spans_arrayText {texts : List String} (plain : d ≠ .mysql)
    (constants : ∀ t ∈ texts, ∃ l : Literal, l.Sound ∧ l.text d = t) (i : Nat) :
    Spans d i i (Dialect.arrayText texts) := by
  have each : ∀ t ∈ texts, Spans d i i t := by
    intro t ht
    obtain ⟨l, sound, rfl⟩ := constants t ht
    exact l.spans_text plain sound.wellFormed i
  exact ((spans_of_isBare (s := "ARRAY[") (by decide) i).append (spans_intercalate each)).append
    (spans_of_isBare (s := "]") (by decide) i)

end SqlDialects
