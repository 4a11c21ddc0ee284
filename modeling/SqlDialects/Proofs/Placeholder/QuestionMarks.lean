import SqlDialects.Proofs.Placeholder.LockStep
import SqlDialects.Proofs.Text.Constant

/-!
# Placeholders as question marks of the text

Who binds the values counts question marks outside of quotes. The text of a token has one if it is a
placeholder and none otherwise, and it leaves the reader outside of quotes; two kinds of tokens keep
this up only for some texts: the name of a function, which is written without quotes, and in MySQL a
text with backslashes, which are written as they are.
-/

namespace SqlDialects

open Lexical

variable {d : Dialect}

/-- Number of question marks that a token stands for. -/
def Token.marks : Token → Nat
  | placeholder => 1
  | _ => 0

theorem Token.placeholderCount_cons (t : Token) (ts : List Token) :
    placeholderCount (t :: ts) = t.marks + placeholderCount ts := by
  unfold placeholderCount
  by_cases h : t = .placeholder
  · subst h
    simp [marks, Nat.add_comm]
  · have none : t.marks = 0 := by
      cases t
      case placeholder => exact absurd rfl h
      all_goals rfl
    rw [List.count_cons_of_ne h, none, Nat.zero_add]

theorem Keyword.isPlain_text (word : Keyword) : IsPlain word.text := by
  cases word <;> decide

/-- What has to be known of a token besides that it fits. -/
structure Token.Harmless (d : Dialect) (t : Token) : Prop where
  call : ∀ n, t = .functionName n → Closed d 0 (Text.uppercase n)
  text : ∀ s, t = .literal (.string s) → Closed d 0 (Dialect.quoteText s)

theorem Token.closed_text {t : Token} (h : t.Harmless d)
    (fits : t = .placeholder ∨ t = .keyword .withWord ∨ t.Fits d) : Closed d t.marks (t.text d) := by
  rcases fits with rfl | rfl | fits
  · cases d <;> decide
  · exact closed_of_isPlain (Keyword.isPlain_text _)
  · cases t with
    | keyword word => exact closed_of_isPlain word.isPlain_text
    | comma => exact closed_of_isPlain (s := ",") (by decide)
    | star => exact closed_of_isPlain (s := "*") (by decide)
    | leftParen => exact closed_of_isPlain (s := "(") (by decide)
    | rightParen => exact closed_of_isPlain (s := ")") (by decide)
    | concat => exact closed_of_isPlain (s := "||") (by decide)
    | space => exact closed_of_isPlain (s := " ") (by decide)
    | name n => exact closed_quoteName n
    | qualifiedName qualifier? n =>
      cases qualifier? with
      | none => exact closed_quoteName n
      | some q =>
        have dot : Closed d 0 "." := closed_of_isPlain (by decide)
        exact ((closed_quoteName q).append dot).append (closed_quoteName n)
    | literal value => exact Literal.closed_text fits fun s hs => h.text s (by rw [hs])
    | placeholder => exact fits.elim
    | functionName n => exact h.call n rfl
    | raw s => exact fits

/-- The text of tokens has as many question marks outside of quotes as there are placeholders. -/
theorem Token.closed_join {ts : List Token} (h : ∀ t ∈ ts, Closed d t.marks (t.text d)) :
    Closed d (placeholderCount ts) (String.join (ts.map (text d))) := by
  induction ts with
  | nil => exact closed_empty
  | cons t ts ih =>
    obtain ⟨ht, hts⟩ := List.forall_mem_cons.1 h
    rw [List.map_cons, String.join_cons, placeholderCount_cons]
    exact ht.append (ih hts)

theorem Token.join_of_textOfAll_eq_ok {ts : List Token} {sql : String} (h : textOfAll d ts = .ok sql) :
    sql = String.join (ts.map (text d)) := by
  unfold textOfAll at h
  split at h
  · cases h
  · cases h
    rfl

namespace Statement

variable {ctx : TranslationContext} {s : Statement} {op : Operation}

/-- Every token on the page is a placeholder, the word WITH, or fits the dialect. -/
theorem fits_of_mem_page {t : Token} (ht : t ∈ (s.page ctx).tokens) :
    t = .placeholder ∨ t = .keyword .withWord ∨ t.Fits ctx.dialect :=
  of_mem_page (s.every_draft ctx) ht

theorem closed_of_harmless (h : s.translate ctx = .ok op)
    (harmless : ∀ t ∈ (s.page ctx).tokens, t.Harmless ctx.dialect) :
    Closed ctx.dialect op.parameters.length op.sql := by
  rw [Token.join_of_textOfAll_eq_ok (of_translate_eq_ok h).2.1, ← placeholders_page h]
  refine Token.closed_join fun t ht => ?_
  rw [Array.mem_toList_iff] at ht
  exact Token.closed_text (harmless t ht) (fits_of_mem_page ht)

/-! ## Calls and texts alone -/

/-- A token that stands behind SELECT, and in front of plain text, is closed if the whole text is. -/
theorem closed_of_selected {t : Token} {behind : List Token} (h : s.translate ctx = .ok op)
    (none : op.parameters.length = 0)
    (tokens : (s.page ctx).tokens.toList = .keyword .select :: .space :: t :: behind)
    (plain : IsPlain (String.join (behind.map (Token.text ctx.dialect))))
    (whole : Closed ctx.dialect op.parameters.length op.sql) : Closed ctx.dialect 0 (t.text ctx.dialect) := by
  have front : Closed ctx.dialect 0 ("SELECT" ++ " ") := closed_of_isPlain (by decide)
  rw [none, Token.join_of_textOfAll_eq_ok (of_translate_eq_ok h).2.1, tokens, List.map_cons,
    List.map_cons, List.map_cons, String.join_cons, String.join_cons, String.join_cons,
    ← String.append_assoc] at whole
  exact (front.of_append_left whole).of_append_right plain

/-- The tokens in place of a FROM clause. -/
def nothingAlone (d : Dialect) : List Token :=
  if d.fromNothingAlone = "" then [] else [.raw d.fromNothingAlone]

/-- A call without arguments and nothing else. -/
def call (name : String) : Statement :=
  .select (.select { items := [⟨.function name [] none, none⟩] })

/-- A text and nothing else. -/
def text (s : String) : Statement :=
  .select (.select { items := [⟨.literal (.string s) ⟨"string", .ofCode .varchar⟩, none⟩] })

theorem page_eq_run (ctx : TranslationContext) (s : Statement) :
    s.page ctx = ((s.draft ctx).run .blank).2 := by
  rw [run_draft]

theorem tokens_call (d : Dialect) (name : String) :
    ((call name).page (.ofDialect d)).tokens.toList =
      .keyword .select :: .space :: .functionName name :: .leftParen :: .rightParen :: nothingAlone d := by
  rw [page_eq_run]
  cases d <;> rfl

theorem tokens_text (d : Dialect) (s : String) :
    ((text s).page (.ofDialect d)).tokens.toList =
      .keyword .select :: .space :: .literal (.string s) :: nothingAlone d := by
  rw [page_eq_run]
  cases d <;> rfl

theorem translate_call (d : Dialect) (name : String) :
    ∃ op, (call name).translate (.ofDialect d) = .ok op ∧ op.parameters.length = 0 := by
  cases d <;> exact ⟨_, rfl, rfl⟩

theorem translate_text (d : Dialect) (s : String) :
    ∃ op, (text s).translate (.ofDialect d) = .ok op ∧ op.parameters.length = 0 := by
  cases d <;> exact ⟨_, rfl, rfl⟩

/-- A single call is closed only if the name of the function is. -/
theorem closed_of_call {n : String} (h : (call n).translate (.ofDialect d) = .ok op)
    (whole : Closed d op.parameters.length op.sql) : Closed d 0 (Text.uppercase n) := by
  obtain ⟨op', hop, none⟩ := translate_call d n
  obtain rfl : op = op' := Except.ok.inj (h.symm.trans hop)
  have alone := closed_of_selected h none (tokens_call d n) (by cases d <;> decide) whole
  exact alone

/-- A single text is closed only if it is written in closed form. -/
theorem closed_of_text {t : String} (h : (text t).translate (.ofDialect d) = .ok op)
    (whole : Closed d op.parameters.length op.sql) : Closed d 0 (Dialect.quoteText t) := by
  obtain ⟨op', hop, none⟩ := translate_text d t
  obtain rfl : op = op' := Except.ok.inj (h.symm.trans hop)
  have alone := closed_of_selected h none (tokens_text d t) (by cases d <;> decide) whole
  exact alone

/-- In the text of a translation, the question marks outside of quotes are as many as the parameters,
and the text ends outside of quotes, whatever the statement is, if and only if the names of functions
that are allowed in it have this property with no question mark, and in MySQL the backslashes of the
texts that are allowed in it spare the quotes. -/
theorem question_marks_iff (d : Dialect) (names texts : String → Prop) :
    (∀ (ctx : TranslationContext) (s : Statement) (op : Operation), ctx.dialect = d →
        s.translate ctx = .ok op →
        (∀ n, .functionName n ∈ (s.page ctx).tokens → names n) →
        (∀ t, .literal (.string t) ∈ (s.page ctx).tokens → texts t) →
        Closed d op.parameters.length op.sql) ↔
      (∀ n, names n → Closed d 0 (Text.uppercase n)) ∧
      (d = .mysql → ∀ t, texts t → sparesQuotes t.toList = true) := by
  constructor
  · intro closed
    refine ⟨fun n hn => ?_, fun hd t ht => ?_⟩
    · obtain ⟨op, hop, -⟩ := translate_call d n
      refine closed_of_call hop (closed _ _ op rfl hop (fun m hm => ?_) fun t ht => ?_)
      · rw [← Array.mem_toList_iff, tokens_call] at hm
        have same : m = n := by simpa [nothingAlone] using hm
        rwa [same]
      · rw [← Array.mem_toList_iff, tokens_call] at ht
        simp [nothingAlone] at ht
    · obtain ⟨op, hop, -⟩ := translate_text d t
      refine (closed_quoteText_iff d t).1 (closed_of_text hop
        (closed _ _ op rfl hop (fun m hm => ?_) fun u hu => ?_)) hd
      · rw [← Array.mem_toList_iff, tokens_text] at hm
        simp [nothingAlone] at hm
      · rw [← Array.mem_toList_iff, tokens_text] at hu
        have same : u = t := by simpa [nothingAlone] using hu
        rwa [same]
  · rintro ⟨calls, spared⟩ ctx s op rfl hop hnames htexts
    refine closed_of_harmless hop fun t ht => ⟨?_, ?_⟩
    · rintro n rfl
      exact calls n (hnames n ht)
    · rintro u rfl
      exact (closed_quoteText_iff _ u).2 fun hd => spared hd u (htexts u ht)

/-- A text of one backslash takes the quote character behind it. -/
example : ∃ op, (text "\\").translate (.ofDialect .mysql) = .ok op ∧
    ¬Closed .mysql op.parameters.length op.sql :=
  ⟨_, rfl, by decide⟩

end Statement

end SqlDialects
