/-!
# Quoted text

A text between two quote characters, in which a quote character is written twice.
-/

namespace SqlDialects.Text.Quoted

/-- Writes every quote character twice. -/
def encode (quote : Char) : List Char → List Char
  | [] => []
  | c :: rest => if c = quote then quote :: quote :: encode quote rest else c :: encode quote rest

/-- The text between quote characters. -/
def text (quote : Char) (s : String) : String :=
  String.ofList (quote :: (encode quote s.toList ++ [quote]))

theorem encode_cons_of_ne {quote c : Char} {rest : List Char} (h : c ≠ quote) :
    encode quote (c :: rest) = c :: encode quote rest := by
  simp [encode, h]

end SqlDialects.Text.Quoted
