import SqlDialects.Proofs.Marshal.Traced
import SqlDialects.Settings.Basic

/-!
# Texts cut at their references

A text that refers to variables is cut into pieces from the left, in one pass. `Template.Cut` says what each piece
is by itself and by what follows it. The scanner holds the piece that it has begun as its position; what it has
read of this piece, with all that is still to come, is cut into the pieces that it gives (`Template.cut_scan`).
There is no other way to cut a text (`Template.cut_iff`), and the pieces decide what the text stands for, or which
variable is missing (`Settings.expand_of_cut`).
-/

namespace SqlDialects

/-- What a piece stands for, if that is known. -/
def Piece.value? (env : Environment) : Piece → Option String
  | .char c => some (String.singleton c)
  | .variable name => env name

namespace Template

/-- The pieces that a text is cut into, from the left. -/
inductive Cut : List Char → Template → Prop where
  | done : Cut [] []
  /-- A name in braces runs up to the first brace that closes. -/
  | braced {name rest : List Char} {pieces : Template} (inside : '\x7d' ∉ name) (further : Cut rest pieces) :
    Cut ('$' :: '\x7b' :: (name ++ '\x7d' :: rest)) (.variable (String.ofList name) :: pieces)
  /-- Where no brace closes, the name runs to the end. -/
  | unclosed {name : List Char} (inside : '\x7d' ∉ name) :
    Cut ('$' :: '\x7b' :: name) [.variable (String.ofList name)]
  /-- A bare name is a longest run of letters, numbers and underscores. -/
  | bare {name rest : List Char} {pieces : Template} (nonempty : name ≠ [])
    (inside : ∀ c ∈ name, Text.isNameChar c = true) (longest : ∀ c ∈ rest.head?, Text.isNameChar c = false)
    (further : Cut rest pieces) : Cut ('$' :: (name ++ rest)) (.variable (String.ofList name) :: pieces)
  /-- A dollar sign in front of neither kind of name stands for itself. -/
  | dollar {rest : List Char} {pieces : Template}
    (lone : ∀ c ∈ rest.head?, c ≠ '\x7b' ∧ Text.isNameChar c = false) (further : Cut rest pieces) :
    Cut ('$' :: rest) (.char '$' :: pieces)
  /-- So does any other character. -/
  | other {c : Char} {rest : List Char} {pieces : Template} (different : c ≠ '$') (further : Cut rest pieces) :
    Cut (c :: rest) (.char c :: pieces)

/-! ## The scanner cuts -/

namespace Position

/-- What has been read of the piece that was begun. -/
def begun : Position → List Char
  | outside => []
  | afterDollar => ['$']
  | inBraces name => '$' :: '\x7b' :: name.reverse
  | inName name => '$' :: name.reverse

/-- The name that was begun may go on. -/
def Proper : Position → Prop
  | outside => True
  | afterDollar => True
  | inBraces name => '\x7d' ∉ name
  | inName name => name ≠ [] ∧ ∀ c ∈ name, Text.isNameChar c = true

end Position

variable {cs rest name : List Char} {t : Template}

/-- A bare name that was begun is a piece if it cannot go on. -/
theorem cut_begun_inName (h : (Position.inName name).Proper) (longest : ∀ c ∈ rest.head?, Text.isNameChar c = false)
    (further : Cut rest t) : Cut ((Position.inName name).begun ++ rest) (reference name :: t) :=
  .bare (mt List.reverse_eq_nil_iff.1 h.1) (fun c hc => h.2 c (List.mem_reverse.1 hc)) longest further

/-- The scanner cuts what it has begun to read together with all that is still to come. -/
theorem cut_scan (p : Position) (cs : List Char) (h : p.Proper) : Cut (p.begun ++ cs) (scan p cs) := by
  fun_induction scan p cs with
  | case1 => exact .done
  | case2 cs ih => exact ih trivial
  | case3 c cs other ih => exact .other other (ih trivial)
  -- Behind a dollar sign, a brace or a name decides on the kind of the piece.
  | case4 => exact .dollar nofun .done
  | case5 cs ih => exact ih List.not_mem_nil
  | case6 c cs _ inName ih => exact ih ⟨List.cons_ne_nil _ _, List.forall_mem_singleton.2 inName⟩
  | case7 cs _ _ ih => exact .dollar (by rintro _ ⟨⟩; decide) (ih trivial)
  | case8 c cs brace inName other ih =>
    exact .dollar (by rintro _ ⟨⟩; exact ⟨brace, Bool.eq_false_iff.2 inName⟩) (.other other (ih trivial))
  -- In braces, only the brace that closes is no part of the name.
  | case9 name =>
    rw [List.append_nil]
    exact .unclosed (mt List.mem_reverse.1 h)
  | case10 name cs ih => exact .braced (mt List.mem_reverse.1 h) (ih trivial)
  | case11 name c cs brace ih =>
    simpa [Position.begun] using ih (List.not_mem_cons_of_ne_of_not_mem (Ne.symm brace) h)
  -- A bare name goes on for as long as it can.
  | case12 name => exact cut_begun_inName h nofun .done
  | case13 name c cs inName ih =>
    simpa [Position.begun] using ih ⟨List.cons_ne_nil _ _, List.forall_mem_cons.2 ⟨inName, h.2⟩⟩
  | case14 name cs inName ih => exact cut_begun_inName h (by rintro _ ⟨⟩; decide) (ih trivial)
  | case15 name c cs inName other ih =>
    exact cut_begun_inName h (by rintro _ ⟨⟩; exact Bool.eq_false_iff.2 inName) (.other other (ih trivial))

/-! ## There is no other way to cut -/

/-- A scanner that goes on with a name at each of some characters reads them as part of the name. -/
theorem scan_run {within : List Char → Position} {goesOn : Char → Prop}
    (step : ∀ name c rest, goesOn c → scan (within name) (c :: rest) = scan (within (c :: name)) rest)
    (run : ∀ c ∈ cs, goesOn c) (rest : List Char) :
    scan (within name) (cs ++ rest) = scan (within (cs.reverse ++ name)) rest := by
  induction cs generalizing name with
  | nil => rfl
  | cons c cs ih =>
    obtain ⟨first, others⟩ := List.forall_mem_cons.1 run
    rw [List.cons_append, step name c _ first, ih others, List.reverse_cons, List.append_assoc]
    rfl

theorem scan_inBraces (inside : '\x7d' ∉ cs) (rest : List Char) :
    scan (.inBraces name) (cs ++ rest) = scan (.inBraces (cs.reverse ++ name)) rest := by
  have others : ∀ c ∈ cs, c ≠ '\x7d' := fun c hc same => inside (same ▸ hc)
  refine scan_run ?_ others rest
  intro name c rest other
  rw [scan, if_neg other]

theorem scan_inName (inside : ∀ c ∈ cs, Text.isNameChar c = true) (rest : List Char) :
    scan (.inName name) (cs ++ rest) = scan (.inName (cs.reverse ++ name)) rest := by
  refine scan_run ?_ inside rest
  intro name c rest inName
  rw [scan, if_pos inName]

/-- A bare name that cannot go on is a piece, and the next piece begins behind it. -/
theorem scan_endName (longest : ∀ c ∈ rest.head?, Text.isNameChar c = false) :
    scan (.inName name) rest = reference name :: scan .outside rest := by
  cases rest with
  | nil => rfl
  | cons c rest =>
    rw [scan, scan, longest c rfl]
    split
    · contradiction
    · split <;> rfl

/-- A dollar sign in front of neither kind of name is a piece, and the next piece begins behind it. -/
theorem scan_afterDollar (lone : ∀ c ∈ rest.head?, c ≠ '\x7b' ∧ Text.isNameChar c = false) :
    scan .afterDollar rest = .char '$' :: scan .outside rest := by
  cases rest with
  | nil => rfl
  | cons c rest =>
    obtain ⟨brace, inName⟩ := lone c rfl
    rw [scan, scan, if_neg brace, inName]
    split
    · contradiction
    · split <;> rfl

/-- However a text is cut, the scanner cuts it in this way. -/
theorem Cut.eq_scan (h : Cut cs t) : t = scan .outside cs := by
  induction h with
  | done => rfl
  | @braced name rest pieces inside _ ih =>
    rw [scan, if_pos rfl, scan, if_pos rfl, scan_inBraces inside, scan, if_pos rfl, ih, reference,
      List.append_nil, List.reverse_reverse]
  | @unclosed name inside =>
    rw [scan, if_pos rfl, scan, if_pos rfl, ← List.append_nil name, scan_inBraces inside, scan, reference,
      List.append_nil, List.append_nil, List.reverse_reverse]
  | @bare name rest pieces nonempty inside longest _ ih =>
    cases name with
    | nil => exact absurd rfl nonempty
    | cons c name =>
      obtain ⟨first, others⟩ := List.forall_mem_cons.1 inside
      have brace : c ≠ '\x7b' := by
        rintro rfl
        exact absurd first (by decide)
      rw [scan, if_pos rfl, List.cons_append, scan, if_neg brace, if_pos first, scan_inName others,
        scan_endName longest, ih, reference, List.reverse_append, List.reverse_reverse]
      rfl
  | dollar lone _ ih => rw [scan, if_pos rfl, scan_afterDollar lone, ih]
  | other different _ ih => rw [scan, if_neg different, ih]

theorem cut_iff {text : String} : Cut text.toList t ↔ t = ofString text := by
  constructor
  · exact Cut.eq_scan
  · rintro rfl
    exact cut_scan .outside text.toList trivial

/-! ## What pieces stand for -/

variable {env : Environment}

/-- The text of a piece stands in front of the text of the others. -/
theorem expand_cons_of_value {p : Piece} {value : String} (h : p.value? env = some value) :
    expand env (p :: t) = (t.expand env).map (value ++ ·) := by
  have chars : expandChars env (p :: t) = (t.expandChars env).map (value.toList ++ ·) := by
    match p, h with
    | .char c, h =>
      cases h
      rw [expandChars, String.toList_singleton]
      rfl
    | .variable name, h =>
      rw [expandChars, show env name = some value from h]
      rfl
  rw [expand, expand, chars]
  cases t.expandChars env with
  | error name => rfl
  | ok cs => exact congrArg Except.ok (by rw [String.ofList_append, String.ofList_toList])

/-- Only a variable can be without a value, and nothing behind it matters then. -/
theorem expand_cons_of_missing {p : Piece} (h : p.value? env = none) :
    ∃ name, p = .variable name ∧ env name = none ∧ expand env (p :: t) = .error name := by
  match p, h with
  | .variable name, h =>
    have missing : env name = none := h
    exact ⟨name, rfl, missing, by rw [expand, expandChars, missing]; rfl⟩

/-- Pieces stand for the texts of all of them, one behind another. -/
theorem expand_eq_ok_iff {result : String} :
    t.expand env = .ok result ↔
      ∃ values : List String, t.map (Piece.value? env) = values.map some ∧ result = String.join values := by
  induction t generalizing result with
  | nil =>
    constructor
    · rintro ⟨⟩
      exact ⟨[], rfl, rfl⟩
    · rintro ⟨values, all, rfl⟩
      rw [List.map_eq_nil_iff.1 all.symm]
      rfl
  | cons p t ih =>
    rw [List.map_cons]
    cases head : p.value? env with
    | none =>
      obtain ⟨name, -, -, fails⟩ := expand_cons_of_missing (t := t) head
      rw [fails]
      constructor
      · exact nofun
      · rintro ⟨_ | ⟨first, values⟩, ⟨⟩, -⟩
    | some value =>
      rw [expand_cons_of_value head, Except.map_eq_ok]
      constructor
      · rintro ⟨further, found, rfl⟩
        obtain ⟨values, all, rfl⟩ := ih.1 found
        exact ⟨value :: values, by rw [all, List.map_cons], String.join_cons.symm⟩
      · rintro ⟨_ | ⟨first, values⟩, all, rfl⟩
        · cases all
        · obtain ⟨⟨⟩, others⟩ := List.cons.inj all
          exact ⟨_, ih.2 ⟨values, others, rfl⟩, String.join_cons.symm⟩

/-- Pieces stand for no text if and only if a variable is not set, and the first one of these is reported. -/
theorem expand_eq_error_iff {name : String} :
    t.expand env = .error name ↔ t.names.find? (fun name => (env name).isNone) = some name := by
  induction t with
  | nil => exact ⟨nofun, nofun⟩
  | cons p t ih =>
    cases head : p.value? env with
    | none =>
      obtain ⟨missing, rfl, unset, fails⟩ := expand_cons_of_missing (t := t) head
      have first : (names (.variable missing :: t)).find? (fun name => (env name).isNone) = some missing :=
        List.find?_cons_of_pos (by rw [unset]; rfl)
      rw [fails, first, Except.error.injEq, Option.some.injEq]
    | some value =>
      have behind : (names (p :: t)).find? (fun name => (env name).isNone) =
          (names t).find? fun name => (env name).isNone := by
        match p, head with
        | .char c, _ => rfl
        | .variable name, head =>
          have set : env name = some value := head
          exact List.find?_cons_of_neg (by rw [set]; exact nofun)
      rw [expand_cons_of_value head, Except.map_eq_error, ih, behind]

end Template

namespace Settings

/-- There is one way to cut a text into pieces, whatever the variables are. If all variables among the pieces are
set, the text stands for the values of the pieces one behind another; if not, the leftmost one that is not set is
reported. -/
theorem expand_of_cut (text : String) :
    ∃ t : Template, (∀ u, Template.Cut text.toList u ↔ u = t) ∧ ∀ env : Environment,
      (∀ result, expand env text = .ok result ↔
        ∃ values : List String, t.map (Piece.value? env) = values.map some ∧ result = String.join values) ∧
      ∀ e, expand env text = .error e ↔
        ∃ name, t.names.find? (fun name => (env name).isNone) = some name ∧ e = .missingVariable name := by
  refine ⟨Template.ofString text, fun u => Template.cut_iff, fun env => ⟨fun result => ?_, fun e => ?_⟩⟩
  · rw [expand, Except.mapError_eq_ok, Environment.expand, Template.expand_eq_ok_iff]
  · simp only [expand, Except.mapError_eq_error, Environment.expand, Template.expand_eq_error_iff, @eq_comm _ e]

/-- A value is not looked into for further variables. -/
example : expand (fun _ => some "$b") "a = $$a_1" = .ok "a = $$b" := rfl

end Settings

end SqlDialects
