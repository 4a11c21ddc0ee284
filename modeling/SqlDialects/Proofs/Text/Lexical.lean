import SqlDialects.Dialect.Basic

/-!
# Reading SQL text character by character

A reader of SQL text knows at every character whether it stands inside quotes. A quote character ends
the text that it opened unless another one follows, and in MySQL a backslash inside a text takes the
next character with it. `scan` is that reader; it counts the question marks outside of quotes. A text
is `Closed` with a count if the reader that starts outside of quotes also ends there and has counted so
many of them. Closed texts can be put together: the counts add up (`Closed.append`).

Names and texts between quotes are closed where a backslash means nothing (`closed_quoted`). In MySQL a
text is so only if its backslashes spare the quotes (`closed_quoteText_iff`).
-/

namespace SqlDialects.Lexical

/-- The two kinds of quotes. -/
inductive Quote where
  | text
  | name
deriving DecidableEq, Repr

/-- The character of a kind of quotes. -/
def Quote.char (d : Dialect) : Quote → Char
  | text => '\''
  | name => d.nameQuote

/-- Where the next character stands. -/
inductive Place where
  | outside
  | inside (q : Quote)
  /-- Behind a quote character that ends the quotes, unless another one follows. -/
  | closing (q : Quote)
  /-- Behind a backslash that takes the next character of a text with it. -/
  | escaped
deriving DecidableEq, Repr

namespace Place

/-- The place is outside of any quotes. -/
def isOutside : Place → Bool
  | outside => true
  | closing _ => true
  | _ => false

/-- The place behind a character that stands outside of quotes. -/
def opened (d : Dialect) (c : Char) : Place :=
  if c = '\'' then inside .text else if c = d.nameQuote then inside .name else outside

/-- The place behind a character. -/
def next (d : Dialect) (c : Char) : Place → Place
  | outside => opened d c
  | closing q => if c = q.char d then inside q else opened d c
  | inside q =>
    if c = q.char d then closing q
    else if d = .mysql ∧ q = .text ∧ c = '\\' then escaped
    else inside q
  | escaped => inside .text

/-- A character counts as a place for a value if it is a question mark outside of quotes. -/
def marks (c : Char) (p : Place) : Nat := if c = '?' ∧ p.isOutside then 1 else 0

end Place

/-- Reads a text from some place on: the place behind it, and the number of question marks outside of
quotes. -/
def scan (d : Dialect) : Place → List Char → Place × Nat
  | p, [] => (p, 0)
  | p, c :: cs => ((scan d (p.next d c) cs).1, p.marks c + (scan d (p.next d c) cs).2)

/-- A text that leaves its reader outside of quotes, after so many question marks. -/
def Closed (d : Dialect) (n : Nat) (s : String) : Prop :=
  (scan d .outside s.toList).1.isOutside = true ∧ (scan d .outside s.toList).2 = n

instance (d : Dialect) (n : Nat) (s : String) : Decidable (Closed d n s) :=
  inferInstanceAs (Decidable (_ ∧ _))

variable {d : Dialect}

theorem scan_append (p : Place) (xs ys : List Char) :
    scan d p (xs ++ ys) =
      ((scan d (scan d p xs).1 ys).1, (scan d p xs).2 + (scan d (scan d p xs).1 ys).2) := by
  induction xs generalizing p with
  | nil => simp [scan]
  | cons x xs ih =>
    rw [List.cons_append, scan, ih (p.next d x), scan]
    simp only [Nat.add_assoc]

/-- Behind a quote character that closes, a text is read as outside of quotes: a second quote character
opens what the first one closed. -/
theorem next_closing (c : Char) (q : Quote) : (Place.closing q).next d c = Place.outside.next d c := by
  have different : d.nameQuote ≠ '\'' := by cases d <;> decide
  by_cases h : c = q.char d
  · cases q with
    | text => simp_all [Place.next, Place.opened, Quote.char]
    | name => simp_all [Place.next, Place.opened, Quote.char]
  · simp [Place.next, h]

theorem scan_closing (q : Quote) (c : Char) (cs : List Char) :
    scan d (.closing q) (c :: cs) = scan d .outside (c :: cs) := by
  rw [scan, scan, next_closing]
  rfl

/-- A place outside of quotes may be taken for the start of a text. -/
theorem scan_of_isOutside {p : Place} (h : p.isOutside = true) (cs : List Char) :
    (scan d p cs).1.isOutside = (scan d .outside cs).1.isOutside ∧
      (scan d p cs).2 = (scan d .outside cs).2 := by
  cases p with
  | outside => exact ⟨rfl, rfl⟩
  | closing q =>
    cases cs with
    | nil => exact ⟨rfl, rfl⟩
    | cons c cs => rw [scan_closing]; exact ⟨rfl, rfl⟩
  | inside q => cases h
  | escaped => cases h

theorem Closed.append {n m : Nat} {s t : String} (hs : Closed d n s) (ht : Closed d m t) :
    Closed d (n + m) (s ++ t) := by
  obtain ⟨place, count⟩ := scan_of_isOutside (d := d) hs.1 t.toList
  rw [Closed, String.toList_append, scan_append]
  exact ⟨place.trans ht.1, by rw [hs.2, count, ht.2]⟩

theorem closed_empty : Closed d 0 "" := ⟨rfl, rfl⟩

/-- A text behind one that is closed is closed if both are closed together. -/
theorem Closed.of_append_left {n m : Nat} {s t : String} (hs : Closed d n s)
    (h : Closed d (n + m) (s ++ t)) : Closed d m t := by
  obtain ⟨place, count⟩ := scan_of_isOutside (d := d) hs.1 t.toList
  rw [Closed, String.toList_append, scan_append] at h
  refine ⟨place.symm.trans h.1, ?_⟩
  have total := h.2
  simp only [hs.2, count] at total
  omega

/-! ## Texts without quotes -/

/-- A character that neither opens quotes nor is a question mark, in any dialect. -/
def isPlain (c : Char) : Bool := c != '?' && c != '\'' && c != '"' && c != Char.ofNat 0x60

/-- A text of such characters. -/
def IsPlain (s : String) : Prop := ∀ c ∈ s.toList, isPlain c = true

instance (s : String) : Decidable (IsPlain s) := decidable_of_iff (s.toList.all isPlain = true) List.all_eq_true

theorem IsPlain.append {s t : String} (hs : IsPlain s) (ht : IsPlain t) : IsPlain (s ++ t) := by
  intro c hc
  rw [String.toList_append, List.mem_append] at hc
  exact hc.elim (hs c) (ht c)

/-- A plain character that is no parenthesis. -/
def isBare (c : Char) : Bool := isPlain c && c != '(' && c != ')'

/-- A text of such characters. -/
def IsBare (s : String) : Prop := ∀ c ∈ s.toList, isBare c = true

instance (s : String) : Decidable (IsBare s) := decidable_of_iff (s.toList.all isBare = true) List.all_eq_true

theorem isPlain_of_isBare {c : Char} (h : isBare c = true) : isPlain c = true := by
  simp only [isBare, Bool.and_eq_true] at h
  exact h.1.1

theorem IsBare.isPlain {s : String} (h : IsBare s) : IsPlain s := fun c hc => isPlain_of_isBare (h c hc)

theorem IsBare.append {s t : String} (hs : IsBare s) (ht : IsBare t) : IsBare (s ++ t) := by
  intro c hc
  rw [String.toList_append, List.mem_append] at hc
  exact hc.elim (hs c) (ht c)

theorem next_of_isPlain {c : Char} (h : isPlain c = true) :
    Place.outside.next d c = .outside ∧ Place.outside.marks c = 0 ∧
      ∀ q, (Place.inside q).next d c = .inside q ∨ (Place.inside q).next d c = .escaped := by
  simp only [isPlain, Bool.and_eq_true, bne_iff_ne, ne_eq] at h
  obtain ⟨⟨⟨mark, text⟩, double⟩, back⟩ := h
  have name : c ≠ d.nameQuote := by cases d <;> assumption
  refine ⟨by simp [Place.next, Place.opened, text, name], by simp [Place.marks, mark], ?_⟩
  intro q
  have other : c ≠ q.char d := by cases q <;> assumption
  simp only [Place.next, if_neg other]
  split
  · exact .inr rfl
  · exact .inl rfl

/-- Outside of quotes, plain text leaves the reader where it is. -/
theorem scan_of_isPlain {cs : List Char} (h : ∀ c ∈ cs, isPlain c = true) :
    scan d .outside cs = (.outside, 0) := by
  induction cs with
  | nil => rfl
  | cons c cs ih =>
    obtain ⟨head, rest⟩ := List.forall_mem_cons.1 h
    obtain ⟨next, marks, -⟩ := next_of_isPlain (d := d) head
    rw [scan, next, marks, ih rest]
    rfl

/-- Inside quotes, plain text leaves the reader inside. -/
theorem scan_inside_of_isPlain {cs : List Char} (h : ∀ c ∈ cs, isPlain c = true) {p : Place}
    (hp : p.isOutside = false) : (scan d p cs).1.isOutside = false := by
  induction cs generalizing p with
  | nil => exact hp
  | cons c cs ih =>
    obtain ⟨head, rest⟩ := List.forall_mem_cons.1 h
    rw [scan]
    refine ih rest ?_
    cases p with
    | outside => cases hp
    | closing q => cases hp
    | inside q => rcases (next_of_isPlain (d := d) head).2.2 q with e | e <;> rw [e] <;> rfl
    | escaped => rfl

theorem closed_of_isPlain {s : String} (h : IsPlain s) : Closed d 0 s := by
  rw [Closed, scan_of_isPlain h]
  exact ⟨rfl, rfl⟩

/-- A text in front of plain text is closed if both are closed together. -/
theorem Closed.of_append_right {n : Nat} {s t : String} (h : Closed d n (s ++ t)) (ht : IsPlain t) :
    Closed d n s := by
  rw [Closed, String.toList_append, scan_append] at h
  by_cases out : (scan d .outside s.toList).1.isOutside = true
  · have count := (scan_of_isOutside (d := d) out t.toList).2
    rw [scan_of_isPlain ht] at count
    refine ⟨out, ?_⟩
    have total := h.2
    simp only [count] at total
    exact total
  · have stuck := scan_inside_of_isPlain (d := d) ht (Bool.eq_false_iff.2 out)
    rw [stuck] at h
    cases h.1

/-! ## Texts between quotes -/

theorem Quote.char_ne_mark (q : Quote) : q.char d ≠ '?' := by
  cases q <;> cases d <;> decide

/-- A doubled quote character leads back inside. -/
theorem scan_doubled (q : Quote) (rest : List Char) :
    scan d (.inside q) (q.char d :: q.char d :: rest) = scan d (.inside q) rest := by
  simp [scan, Place.next, Place.marks, q.char_ne_mark]

/-- Inside quotes of a kind in which the dialect knows no backslash, the written form of a text keeps
the reader inside. -/
theorem scan_encode {q : Quote} (h : d ≠ .mysql ∨ q = .name) (cs rest : List Char) :
    scan d (.inside q) (Text.Quoted.encode (q.char d) cs ++ rest) = scan d (.inside q) rest := by
  induction cs with
  | nil => rfl
  | cons c cs ih =>
    by_cases same : c = q.char d
    · rw [Text.Quoted.encode, if_pos same, List.cons_append, List.cons_append, scan_doubled, ih]
    · have noEscape : ¬ (d = .mysql ∧ q = .text ∧ c = '\\') := by
        rintro ⟨hd, hq, -⟩
        rcases h with h | h
        · exact h hd
        · rw [hq] at h; cases h
      rw [Text.Quoted.encode_cons_of_ne same, List.cons_append, scan]
      simp [Place.next, Place.marks, Place.isOutside, same, noEscape, ih]

theorem closed_quoted {q : Quote} (h : d ≠ .mysql ∨ q = .name) (s : String) :
    Closed d 0 (Text.Quoted.text (q.char d) s) := by
  have opens : Place.outside.next d (q.char d) = .inside q ∧ Place.outside.marks (q.char d) = 0 := by
    cases q <;> cases d <;> decide
  rw [Closed, Text.Quoted.text, String.toList_ofList, scan, opens.1, opens.2, scan_encode h]
  cases q <;> cases d <;> decide

theorem closed_quoteName (s : String) : Closed d 0 (d.quoteName s) := closed_quoted (.inr rfl) s

/-- Outside MySQL, every text between quotes is closed. -/
theorem closed_quoteText (h : d ≠ .mysql) (s : String) : Closed d 0 (Dialect.quoteText s) :=
  closed_quoted (q := .text) (.inl h) s

/-! ## Backslashes -/

/-- If a backslash takes the character behind it with it, no backslash takes a quote character, and
none is left over at the end. -/
def sparesQuotes : List Char → Bool
  | [] => true
  | [c] => c != '\\'
  | c :: e :: cs => if c = '\\' then e != '\'' && sparesQuotes cs else sparesQuotes (e :: cs)

/-- Where a reader stands behind the first quote character that a backslash took: the rest of the text
is read as if it stood outside, or in a name. -/
def Place.Stray (p : Place) : Prop := p.isOutside = true ∨ p = .inside .name

/-- A doubled quote character does not bring a stray reader back. -/
theorem Place.Stray.doubled {p : Place} (h : p.Stray) :
    ((p.next .mysql '\'').next .mysql '\'').Stray ∧ (p.next .mysql '\'').isOutside = false := by
  rcases h with h | rfl
  · cases p with
    | outside => exact ⟨.inl (by decide), by decide⟩
    | closing q => cases q <;> exact ⟨.inl (by decide), by decide⟩
    | inside q => cases h
    | escaped => cases h
  · exact ⟨.inr (by decide), by decide⟩

/-- Nor does another character. -/
theorem Place.Stray.next {p : Place} (h : p.Stray) {c : Char} (hc : c ≠ '\'') :
    (p.next .mysql c).Stray := by
  have opened : (Place.opened .mysql c).Stray := by
    unfold Place.opened
    split
    · contradiction
    · split
      · exact .inr rfl
      · exact .inl rfl
  rcases h with h | rfl
  · cases p with
    | outside => exact opened
    | closing q =>
      rw [Place.next]
      split
      · next same =>
        cases q with
        | text => exact absurd same hc
        | name => exact .inr rfl
      · exact opened
    | inside q => cases h
    | escaped => cases h
  · rw [Place.next]
    split
    · exact .inl rfl
    · rw [if_neg (by simp)]
      exact .inr rfl

/-- A stray reader takes the quote character at the end of a text for one that opens. -/
theorem Place.Stray.scan_encode {p : Place} (h : p.Stray) (cs : List Char) :
    (scan .mysql p (Text.Quoted.encode '\'' cs ++ ['\''])).1.isOutside = false := by
  induction cs generalizing p with
  | nil => exact h.doubled.2
  | cons c cs ih =>
    by_cases quote : c = '\''
    · rw [Text.Quoted.encode, if_pos quote, List.cons_append, List.cons_append, scan, scan]
      exact ih h.doubled.1
    · rw [Text.Quoted.encode_cons_of_ne quote, List.cons_append, scan]
      exact ih (h.next quote)

/-- A backslash takes any character with it. -/
theorem scan_backslash (c : Char) (rest : List Char) :
    scan .mysql (.inside .text) ('\\' :: c :: rest) = scan .mysql (.inside .text) rest := by
  simp [scan, Place.next, Place.marks, Place.isOutside, Quote.char]

theorem scan_inside_text {c : Char} (quote : c ≠ '\'') (back : c ≠ '\\') (rest : List Char) :
    scan .mysql (.inside .text) (c :: rest) = scan .mysql (.inside .text) rest := by
  simp [scan, Place.next, Place.marks, Place.isOutside, Quote.char, quote, back]

/-- In MySQL the end of a written text is found if and only if backslashes spare the quotes. -/
theorem scan_encode_mysql (cs : List Char) :
    (scan .mysql (.inside .text) (Text.Quoted.encode '\'' cs ++ ['\''])).1.isOutside = sparesQuotes cs ∧
      (sparesQuotes cs = true →
        (scan .mysql (.inside .text) (Text.Quoted.encode '\'' cs ++ ['\''])).2 = 0) := by
  fun_induction sparesQuotes cs with
  | case1 => decide
  | case2 c =>
    by_cases quote : c = '\''
    · subst quote
      decide
    · rw [Text.Quoted.encode_cons_of_ne quote]
      by_cases back : c = '\\'
      · subst back
        decide
      · rw [List.cons_append, scan_inside_text quote back]
        simp [Text.Quoted.encode, scan, Place.next, Place.marks, Place.isOutside, Quote.char, back]
  | case3 e cs ih =>
    rw [Text.Quoted.encode_cons_of_ne (by decide), List.cons_append]
    by_cases quote : e = '\''
    · -- The backslash takes the first of two quote characters, and the second one ends the text.
      subst quote
      have stray := Place.Stray.scan_encode (p := .closing .text) (.inl rfl) cs
      rw [Text.Quoted.encode, if_pos rfl, List.cons_append, List.cons_append, scan_backslash, scan]
      exact ⟨stray, by simp⟩
    · have spared : (e != '\'' && sparesQuotes cs) = sparesQuotes cs := by simp [quote]
      rw [Text.Quoted.encode_cons_of_ne quote, List.cons_append, scan_backslash, spared]
      exact ih
  | case4 c e cs back ih =>
    by_cases quote : c = '\''
    · subst quote
      have doubled := scan_doubled (d := .mysql) .text (Text.Quoted.encode '\'' (e :: cs) ++ ['\''])
      rw [Quote.char] at doubled
      rw [Text.Quoted.encode, if_pos rfl, List.cons_append, List.cons_append, doubled]
      exact ih
    · rw [Text.Quoted.encode_cons_of_ne quote, List.cons_append, scan_inside_text quote back]
      exact ih

/-- A text is written in closed form if and only if, in MySQL, its backslashes spare the quotes. -/
theorem closed_quoteText_iff (d : Dialect) (s : String) :
    Closed d 0 (Dialect.quoteText s) ↔ (d = .mysql → sparesQuotes s.toList = true) := by
  by_cases hd : d = .mysql
  · subst hd
    obtain ⟨place, count⟩ := scan_encode_mysql s.toList
    have start : Closed .mysql 0 (Dialect.quoteText s) ↔
        (scan .mysql (.inside .text) (Text.Quoted.encode '\'' s.toList ++ ['\''])).1.isOutside = true ∧
          (scan .mysql (.inside .text) (Text.Quoted.encode '\'' s.toList ++ ['\''])).2 = 0 := by
      rw [Closed, Dialect.quoteText, Text.Quoted.text, String.toList_ofList, scan]
      simp [Place.next, Place.opened, Place.marks]
    rw [start, place]
    exact ⟨fun h _ => h.1, fun h => ⟨h rfl, count (h rfl)⟩⟩
  · exact iff_of_true (closed_quoteText hd s) (absurd · hd)

end SqlDialects.Lexical
