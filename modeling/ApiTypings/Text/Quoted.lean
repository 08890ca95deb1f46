/-! # Single-quoted text -/

namespace ApiTypings.Text

/-- The written form of a character between single quotes. -/
def escapeChar (c : Char) : List Char :=
  if c = '\\' then ['\\', '\\'] else if c = '\'' then ['\\', '\''] else [c]

/-- A backslash stands in front of every backslash and every single quote. -/
def escapeQuoted (s : String) : String :=
  String.ofList (s.toList.flatMap escapeChar)

/-- The text between single quotes, escaped. -/
def quote (s : String) : String :=
  "'" ++ escapeQuoted s ++ "'"

theorem toList_quote (s : String) :
    (quote s).toList = '\'' :: (s.toList.flatMap escapeChar ++ ['\'']) := by
  simp [quote, escapeQuoted]

end ApiTypings.Text
