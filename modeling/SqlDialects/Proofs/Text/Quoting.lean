import SqlDialects.Sql.Token

/-!
# Reading names and texts between quotes

A reader of a text between quotes takes a doubled quote character for one, and stops at the first one that is not
doubled (`Quoted.read`). What it finds is what was written (`Quoted.read_eq_some_iff`): names, with or without a
qualifier, and string literals are read back from whatever they stand in front of, and nothing in them ends the
reading (`Token.reading_of_text`). A backslash means nothing to this reader; what it does to a text in MySQL is said
by `Lexical.closed_quoteText_iff`.
-/

namespace SqlDialects.Text.Quoted

variable {quote c : Char} {cs rest body left : List Char} {s : String}

/-! ## The reader -/

/-- What stands in front of the first quote character that is not doubled, and what is left behind it. -/
def readBody (quote : Char) : List Char → Option (List Char × List Char)
  | [] => none
  | [c] => if c = quote then some ([], []) else none
  | c :: d :: rest =>
    if c = quote then
      if d = quote then (readBody quote rest).map (Prod.map (quote :: ·) id) else some ([], d :: rest)
    else (readBody quote (d :: rest)).map (Prod.map (c :: ·) id)

/-- The text between quotes with which some characters start, and what is left behind it. -/
def read (quote : Char) : List Char → Option (String × List Char)
  | [] => none
  | c :: rest => if c = quote then (readBody quote rest).map (Prod.map String.ofList id) else none

theorem readBody_cons_of_ne (h : c ≠ quote) (rest : List Char) :
    readBody quote (c :: rest) = (readBody quote rest).map (Prod.map (c :: ·) id) := by
  cases rest with
  | nil => simp [readBody, h]
  | cons d rest => rw [readBody, if_neg h]

theorem readBody_doubled (quote : Char) (rest : List Char) :
    readBody quote (quote :: quote :: rest) = (readBody quote rest).map (Prod.map (quote :: ·) id) := by
  rw [readBody, if_pos rfl, if_pos rfl]

theorem readBody_end (h : rest.head? ≠ some quote) : readBody quote (quote :: rest) = some ([], rest) := by
  cases rest with
  | nil => rw [readBody, if_pos rfl]
  | cons d rest => rw [readBody, if_pos rfl, if_neg (fun same => h (congrArg some same))]

/-- The written form of characters is read as these characters, whatever follows. -/
theorem readBody_encode_append (quote : Char) (cs rest : List Char) :
    readBody quote (encode quote cs ++ rest) = (readBody quote rest).map (Prod.map (cs ++ ·) id) := by
  induction cs with
  | nil => exact (congrFun Option.map_id (readBody quote rest)).symm
  | cons c cs ih =>
    by_cases same : c = quote
    · rw [encode, if_pos same, List.cons_append, List.cons_append, readBody_doubled, ih, Option.map_map, same]
      rfl
    · rw [encode_cons_of_ne same, List.cons_append, readBody_cons_of_ne same, ih, Option.map_map]
      rfl

/-- Only a written form is read, with a quote character behind it that is not doubled. -/
theorem eq_encode_of_readBody (h : readBody quote cs = some (body, left)) :
    cs = encode quote body ++ quote :: left ∧ left.head? ≠ some quote := by
  fun_induction readBody quote cs generalizing body with
  | case1 => cases h
  | case2 =>
    cases h
    exact ⟨rfl, nofun⟩
  | case3 => cases h
  | case4 rest ih =>
    obtain ⟨⟨further, _⟩, read, ⟨⟩⟩ := Option.map_eq_some_iff.1 h
    obtain ⟨rfl, single⟩ := ih read
    exact ⟨by rw [encode, if_pos rfl]; rfl, single⟩
  | case5 d rest other =>
    cases h
    exact ⟨rfl, fun same => other (Option.some.inj same)⟩
  | case6 c d rest other ih =>
    obtain ⟨⟨further, _⟩, read, ⟨⟩⟩ := Option.map_eq_some_iff.1 h
    obtain ⟨form, single⟩ := ih read
    exact ⟨by rw [encode_cons_of_ne other, form]; rfl, single⟩

/-- Behind a text, the reader has come to its closing quote character. -/
theorem read_text_append (quote : Char) (s : String) (rest : List Char) :
    read quote ((text quote s).toList ++ rest) =
      (readBody quote (quote :: rest)).map (Prod.map (fun cs => String.ofList (s.toList ++ cs)) id) := by
  have form : (text quote s).toList ++ rest = quote :: (encode quote s.toList ++ quote :: rest) := by simp [text]
  rw [form, read, if_pos rfl, readBody_encode_append, Option.map_map]
  rfl

/-- A text is read if and only if it is written there, and its closing quote character is not doubled. -/
theorem read_eq_some_iff :
    read quote cs = some (s, rest) ↔ cs = (text quote s).toList ++ rest ∧ rest.head? ≠ some quote := by
  constructor
  · intro h
    cases cs with
    | nil => cases h
    | cons c cs =>
      rw [read] at h
      split at h
      · next same =>
        obtain ⟨⟨body, _⟩, found, ⟨⟩⟩ := Option.map_eq_some_iff.1 h
        obtain ⟨rfl, single⟩ := eq_encode_of_readBody found
        exact ⟨by simp [text, same], single⟩
      · cases h
  · rintro ⟨rfl, single⟩
    rw [read_text_append, readBody_end single]
    simp

example : read '\'' "'it''s' AND".toList = some ("it's", " AND".toList) := rfl

/-- However it goes on behind a text, the reader does not stop within the text. -/
theorem suffix_of_read {found : String} (h : read quote ((text quote s).toList ++ rest) = some (found, left)) :
    left <:+ rest := by
  rw [read_text_append] at h
  obtain ⟨⟨body, _⟩, further, ⟨⟩⟩ := Option.map_eq_some_iff.1 h
  have form := (eq_encode_of_readBody further).1
  cases written : encode quote body with
  | nil =>
    rw [written] at form
    exact (List.cons.inj form).2 ▸ List.suffix_refl rest
  | cons c cs =>
    rw [written] at form
    exact ⟨cs ++ [quote], by simp [(List.cons.inj form).2]⟩

/-! ## What is read back -/

/-- A reader reads a value back from a text in front of whatever does not start with the quote character, and in
front of nothing else. It never stops within the text. -/
structure ReadsBack {α : Type} (quote : Char) (reader : List Char → Option (α × List Char)) (written : String)
    (value : α) : Prop where
  found : ∀ rest, reader (written.toList ++ rest) = some (value, rest) ↔ rest.head? ≠ some quote
  passed : ∀ {rest left : List Char} {other : α}, reader (written.toList ++ rest) = some (other, left) → left <:+ rest

theorem readsBack_text (quote : Char) (s : String) : ReadsBack quote (read quote) (text quote s) s where
  found _ := read_eq_some_iff.trans (and_iff_right rfl)
  passed := suffix_of_read

/-- What is read behind more text, and becomes part of another value, is read back from both texts together. -/
theorem ReadsBack.map {α β : Type} {reader : List Char → Option (α × List Char)}
    {reader' : List Char → Option (β × List Char)} {written written' : String} {value : α} {f : α → β}
    (h : ReadsBack quote reader written value) (injective : Function.Injective f)
    (along : ∀ rest, reader' (written'.toList ++ rest) = (reader (written.toList ++ rest)).map (Prod.map f id)) :
    ReadsBack quote reader' written' (f value) where
  found rest := by
    rw [along, ← h.found]
    constructor
    · intro found
      obtain ⟨⟨other, _⟩, read, same⟩ := Option.map_eq_some_iff.1 found
      obtain ⟨equal, rfl⟩ := Prod.mk.inj same
      rw [read, injective equal]
      rfl
    · intro found
      rw [found]
      rfl
  passed {rest left} _ found := by
    rw [along] at found
    obtain ⟨⟨other, _⟩, read, ⟨⟩⟩ := Option.map_eq_some_iff.1 found
    exact h.passed read

/-- The name with which some characters start, behind a qualifier and a point if there is to be one, and what is
left behind it. Whether there is to be one has to be given, since what follows a name may start with a point. -/
def readName (quote : Char) : (qualified : Bool) → List Char → Option ((Option String × String) × List Char)
  | false, cs => (read quote cs).map (Prod.map (none, ·) id)
  | true, cs =>
    match read quote cs with
    | some (qualifier, '.' :: rest) => (read quote rest).map (Prod.map (some qualifier, ·) id)
    | _ => none

/-- Behind a qualifier and a point, a name is read as if it stood there alone. -/
theorem readName_qualified (h : quote ≠ '.') (qualifier : String) (cs : List Char) :
    readName quote true ((text quote qualifier).toList ++ '.' :: cs) =
      (read quote cs).map (Prod.map (some qualifier, ·) id) := by
  have point : ('.' :: cs).head? ≠ some quote := fun same => h (Option.some.inj same).symm
  rw [readName, read_eq_some_iff.2 ⟨rfl, point⟩]
  rfl

end SqlDialects.Text.Quoted

namespace SqlDialects.Token

open Text.Quoted

theorem nameQuote_ne_point (d : Dialect) : d.nameQuote ≠ '.' := by
  cases d <;> decide

theorem readsBack_qualifiedName (d : Dialect) (qualifier? : Option String) (name : String) :
    ReadsBack d.nameQuote (readName d.nameQuote qualifier?.isSome) ((qualifiedName qualifier? name).text d)
      (qualifier?, name) := by
  cases qualifier? with
  | none => exact (readsBack_text d.nameQuote name).map (fun _ _ same => (Prod.mk.inj same).2) fun _ => rfl
  | some qualifier =>
    refine (readsBack_text d.nameQuote name).map (fun _ _ same => (Prod.mk.inj same).2) fun rest => ?_
    rw [← readName_qualified (nameQuote_ne_point d)]
    simp [text, Dialect.quoteName]

/-- Something is left behind the first name if and only if that was a qualifier. -/
theorem read_qualifiedName (d : Dialect) (qualifier? : Option String) (name : String) :
    ∃ first left, read d.nameQuote ((qualifiedName qualifier? name).text d).toList = some (first, left) ∧
      (left = [] ↔ qualifier? = none) := by
  cases qualifier? with
  | none =>
    refine ⟨name, [], read_eq_some_iff.2 ⟨(List.append_nil _).symm, nofun⟩, iff_of_true rfl rfl⟩
  | some qualifier =>
    refine ⟨qualifier, '.' :: (d.quoteName name).toList, read_eq_some_iff.2 ⟨?_, ?_⟩, iff_of_false nofun nofun⟩
    · simp [text, Dialect.quoteName]
    · exact fun same => nameQuote_ne_point d (Option.some.inj same).symm

/-- Names that are written alike are the same, and so are their qualifiers. -/
theorem qualifiedName_injective (d : Dialect) :
    Function.Injective fun p : Option String × String => (qualifiedName p.1 p.2).text d := by
  rintro ⟨qualifier?, name⟩ ⟨qualifier'?, name'⟩ same
  dsimp only at same
  have alike : qualifier?.isSome = qualifier'?.isSome := by
    obtain ⟨first, left, read, unqualified⟩ := read_qualifiedName d qualifier? name
    obtain ⟨first', left', read', unqualified'⟩ := read_qualifiedName d qualifier'? name'
    rw [same, read'] at read
    cases read
    exact Option.isSome_eq_isSome.2 (unqualified.symm.trans unqualified')
  have found := ((readsBack_qualifiedName d qualifier? name).found []).2 nofun
  have found' := ((readsBack_qualifiedName d qualifier'? name').found []).2 nofun
  rw [same, alike, found'] at found
  exact (Prod.mk.inj (Option.some.inj found)).1.symm

/-- Names, qualified names and string literals are read back in every dialect from whatever they stand in front of,
unless a quote character follows, and nothing in them ends the reading. No two names, with or without qualifiers, are
written alike. -/
theorem reading_of_text (d : Dialect) :
    (∀ n, ReadsBack d.nameQuote (read d.nameQuote) ((name n).text d) n) ∧
    (∀ qualifier? n, ReadsBack d.nameQuote (readName d.nameQuote qualifier?.isSome)
      ((qualifiedName qualifier? n).text d) (qualifier?, n)) ∧
    (∀ s, ReadsBack '\'' (read '\'') ((literal (.string s)).text d) s) ∧
    Function.Injective fun p : Option String × String => (qualifiedName p.1 p.2).text d :=
  ⟨readsBack_text d.nameQuote, readsBack_qualifiedName d, readsBack_text '\'', qualifiedName_injective d⟩

end SqlDialects.Token
