import SqlDialects.Render.Error
import SqlDialects.Render.Parameter
import SqlDialects.Sql.Token

/-!
# Drafts

A draft is a plan of what a part of a statement adds to the page: tokens, placeholders with their
parameters, and the refusal of what cannot be expressed. Two things about the surroundings are settled
only when the draft is carried out: whether parameters need a cast there, and whether a query stands
inside another one. `Draft.run` carries a draft out; what it wrote before a refusal stays on the page.
-/

namespace SqlDialects

/-- How parameters appear. -/
inductive RenderingMode where
  /-- As bare placeholders. -/
  | plain
  /-- Inside casts to their types, where the database cannot infer them. -/
  | typed
deriving DecidableEq, Repr

/-- A plan of what is added to a page. -/
inductive Draft where
  | empty
  | token (t : Token)
  /-- A placeholder, together with its parameter. -/
  | placeholder (p : Parameter)
  /-- Gives up for the given cause. -/
  | refuse (cause : TranslationError)
  | append (first second : Draft)
  /-- A draft carried out in the given mode. -/
  | inMode (mode : RenderingMode) (d : Draft)
  /-- One of two drafts, after the mode of the surroundings. -/
  | byMode (plain typed : Draft)
  /-- A draft carried out one query deeper. -/
  | nested (d : Draft)
  /-- A draft that counts only inside another query. -/
  | whenNested (d : Draft)

instance : Append Draft := ⟨Draft.append⟩

/-- What has been written so far, and the surroundings of what comes next. -/
structure Page where
  tokens : Array Token
  parameters : Array Parameter
  /-- The modes in force, the innermost one first. -/
  modes : List RenderingMode
  /-- Number of queries around the place of writing. -/
  depth : Nat

namespace Page

/-- The page on which nothing is written. -/
def blank : Page := ⟨#[], #[], [], 0⟩

/-- The mode of the place of writing. -/
def mode (page : Page) : RenderingMode := page.modes.head?.getD .plain

/-- Adds a token. -/
def push (page : Page) (t : Token) : Page := { page with tokens := page.tokens.push t }

/-- Adds a placeholder and its parameter. -/
def pushParameter (page : Page) (p : Parameter) : Page :=
  { page with tokens := page.tokens.push .placeholder, parameters := page.parameters.push p }

/-- Enters a mode. -/
def enterMode (page : Page) (mode : RenderingMode) : Page := { page with modes := mode :: page.modes }

/-- Leaves the innermost mode. -/
def leaveMode (page : Page) : Page := { page with modes := page.modes.tail }

/-- Enters a query. -/
def enterQuery (page : Page) : Page := { page with depth := page.depth + 1 }

/-- Leaves a query. -/
def leaveQuery (page : Page) : Page := { page with depth := page.depth - 1 }

end Page

namespace Draft

/-- Carries out a draft: the cause for which it gave up, if it did, and the page it left. -/
def run : Draft → Page → Option TranslationError × Page
  | empty, page => (none, page)
  | token t, page => (none, page.push t)
  | placeholder p, page => (none, page.pushParameter p)
  | refuse cause, page => (some cause, page)
  | append first second, page =>
    match first.run page with
    | (none, page) => second.run page
    | (some cause, page) => (some cause, page)
  | inMode mode d, page =>
    let (cause?, page) := d.run (page.enterMode mode)
    (cause?, page.leaveMode)
  | byMode plain typed, page =>
    match page.mode with
    | .plain => plain.run page
    | .typed => typed.run page
  | nested d, page =>
    let (cause?, page) := d.run page.enterQuery
    (cause?, page.leaveQuery)
  | whenNested d, page => if page.depth = 0 then (none, page) else d.run page

/-- A keyword. -/
def word (w : Keyword) : Draft := token (.keyword w)

/-- A keyword between blanks. -/
def spacedWord (w : Keyword) : Draft := token .space ++ word w ++ token .space

/-- A keyword behind a blank. -/
def spaceWord (w : Keyword) : Draft := token .space ++ word w

/-- A keyword in front of a blank. -/
def wordSpace (w : Keyword) : Draft := word w ++ token .space

/-- Fixed text; the empty text adds no token. -/
def raw (s : String) : Draft := if s = "" then empty else token (.raw s)

/-- A blank. -/
def space : Draft := token .space

/-- A comma and a blank. -/
def comma : Draft := token .comma ++ token .space

/-- A draft between parentheses. -/
def parens (d : Draft) : Draft := token .leftParen ++ d ++ token .rightParen

/-- A draft between parentheses, where these are wanted. -/
def parensIf (wanted : Bool) (d : Draft) : Draft := if wanted then parens d else d

/-- Drafts with a separator between each two of them. -/
def separated (separator : Draft) : List Draft → Draft
  | [] => empty
  | [d] => d
  | d :: ds => d ++ separator ++ separated separator ds

/-- Drafts separated by commas. -/
def listed (ds : List Draft) : Draft := separated comma ds

/-- The draft, or nothing. -/
def optional : Option Draft → Draft
  | some d => d
  | none => empty

/-- A blank, AS, a blank and a name. -/
def named (name : String) : Draft := spacedWord .asWord ++ token (.name name)

/-- Refuses a malformed statement. -/
def malformed (fault : Malformed) : Draft := refuse (.invalidExpression fault)

/-- A draft inside a cast to the given type. -/
def castAs (d : Dialect) (type : ResolvedType) (inner : Draft) : Draft :=
  raw "cast(" ++ inner ++ raw (" as " ++ d.castName type.descriptor ++ ")")

/-- A parameter, with a cast to its type where one is needed. -/
def parameter (d : Dialect) (p : Parameter) : Draft :=
  byMode (placeholder p) (castAs d p.type (placeholder p))

end Draft

end SqlDialects
