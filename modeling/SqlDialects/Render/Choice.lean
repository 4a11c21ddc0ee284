import SqlDialects.Render.Operand

/-!
# Choices

The two forms of CASE. Where every result of a choice could be an untyped parameter, HSQL needs a
cast around the first one, so that the choice as a whole has a type.
-/

namespace SqlDialects

/-- An arm of a choice: what is tested, and the result. -/
structure ChoiceArm where
  test : Draft
  result : Operand

/-- A choice whose parts are drafted. -/
structure Choice where
  /-- The subject of a choice by values. -/
  subject : Option Draft
  arms : List ChoiceArm
  otherwise : Option Operand

namespace Choice

/-- The results of the arms. -/
def results (c : Choice) : List Operand := c.arms.map (·.result)

/-- Every result, and the alternative if there is one, is a parameter. -/
def allParameters (results : List Operand) (otherwise : Option Operand) : Bool :=
  !results.isEmpty && results.all (·.isParameter) && otherwise.all (·.isParameter)

/-- Every result is a literal or a parameter that is plain in the given mode. -/
def allPlain (mode : RenderingMode) (results : List Operand) : Bool :=
  !results.isEmpty
    && results.all fun o => if o.isParameter then mode == .plain else o.isLiteral

/-- The first result of the choice needs a cast in the given mode. -/
def needsCast (mode : RenderingMode) (c : Choice) : Bool :=
  (mode == .plain && allParameters c.results c.otherwise) || allPlain mode c.results

/-- The draft of an arm. -/
def armDraft (d : Dialect) (castResult : Bool) (arm : ChoiceArm) : Draft :=
  .spacedWord .whenWord ++ arm.test ++ .spacedWord .thenWord
    ++ (if castResult then arm.result.casted d else arm.result.draft)

/-- The drafts of the arms, the first one with a cast if asked for. -/
def armDrafts (d : Dialect) (castFirst : Bool) : List ChoiceArm → Draft
  | [] => .empty
  | arm :: arms => armDraft d castFirst arm ++ armDrafts d false arms

/-- The choice with a cast around its first result, or without. -/
def standard (d : Dialect) (castFirst : Bool) (c : Choice) : Draft :=
  if c.arms.isEmpty then .malformed .emptyCase
  else .word .caseWord
    ++ .optional (c.subject.map fun s => .space ++ s)
    ++ armDrafts d castFirst c.arms
    ++ .optional (c.otherwise.map fun o => .spacedWord .elseWord ++ o.draft)
    ++ .spaceWord .endWord

/-- The choice as the dialect wants it. -/
def draft (d : Dialect) (c : Choice) : Draft :=
  match d with
  | .hsql =>
    .byMode (standard d (needsCast .plain c) c) (standard d (needsCast .typed c) c)
  | _ => standard d false c

end Choice

end SqlDialects
