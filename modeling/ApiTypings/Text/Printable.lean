import ApiTypings.Text.Printable.Table

/-! # Text inside messages -/

namespace ApiTypings.Text

/-- Whether a character has a visible form of its own. -/
def isPrintable (c : Char) : Bool :=
  if c.toNat < 0x7F then 0x20 ≤ c.toNat
  else !unprintableRanges.any fun (first, last) => first ≤ c.toNat && c.toNat ≤ last

/-- The form of a character between double quotes: a backslash in front of quotes and
backslashes, short escapes for line ends, tabs and the null character, and the code point in
braces for every other character without a visible form. -/
def spellChar (c : Char) : List Char :=
  match c with
  | '"' => ['\\', '"']
  | '\\' => ['\\', '\\']
  | '\n' => ['\\', 'n']
  | '\r' => ['\\', 'r']
  | '\t' => ['\\', 't']
  | '\x00' => ['\\', '0']
  | c =>
      if isPrintable c then [c]
      else "\\u\x7b".toList ++ Nat.toDigits 16 c.toNat ++ "\x7d".toList

/-- The text between double quotes, with what is not visible spelled out. -/
def spell (s : String) : String :=
  "\"" ++ String.ofList (s.toList.flatMap spellChar) ++ "\""

end ApiTypings.Text
