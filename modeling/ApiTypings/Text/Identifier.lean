import ApiTypings.Text.Case
import ApiTypings.Text.Split

/-! # Identifiers made from arbitrary text -/

namespace ApiTypings.Text

/-- Words that TypeScript keeps for itself. -/
def reservedWords : List String :=
  ["break", "case", "catch", "class", "const", "continue", "debugger", "default", "delete",
   "do", "else", "enum", "export", "extends", "false", "finally", "for", "function", "if",
   "import", "in", "instanceof", "new", "null", "return", "super", "switch", "this", "throw",
   "true", "try", "typeof", "var", "void", "while", "with", "yield", "let", "static",
   "implements", "interface", "package", "private", "protected", "public", "await", "async"]

/-- Whether a character may stand in a sanitized identifier. -/
def isIdentifierChar (c : Char) : Bool :=
  c.isAlphanum || c = '_' || c = '$'

/-- Puts an underscore in front of a leading digit. -/
def guardDigit (cs : List Char) : List Char :=
  if cs.head?.any Char.isDigit then '_' :: cs else cs

/-- Puts an underscore in front of a reserved word. -/
def guardReserved (cs : List Char) : List Char :=
  if String.ofList cs ∈ reservedWords then '_' :: cs else cs

/-- The words run together, each but the first with a capital. -/
def camelCase : List (List Char) → List Char
  | [] => []
  | word :: rest => word ++ rest.flatMap (mapFirst upperChar)

/-- The characters a text contributes to its identifier: its words, split at dashes, dots and
spaces and run together, without the characters that no identifier admits. -/
def identifierChars (s : String) : List Char :=
  (camelCase (words (fun c => c = '-' || c = '.' || c = ' ') s.toList)).filter isIdentifierChar

/-- A legal TypeScript identifier for a text. -/
def sanitizeIdentifier (s : String) : String :=
  match identifierChars s with
  | [] => "_empty"
  | cs => String.ofList (guardReserved (guardDigit cs))

/-- The words of a text run together, each with a capital. Apostrophes vanish and every other
character outside the ASCII letters and digits separates words. -/
def pascalCase (s : String) : String :=
  let letters := s.toList.filter (· ≠ '\'')
  String.ofList
    (guardDigit ((words (fun c => !c.isAlphanum) letters).flatMap (mapFirst upperChar)))

end ApiTypings.Text
