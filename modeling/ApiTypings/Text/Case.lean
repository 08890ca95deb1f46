import ApiTypings.Text.Case.Table

/-! # Letter case -/

namespace ApiTypings.Text

/-- The case mapping given by a table of runs and a table of longer images; a character in
neither maps to itself. -/
def mapCase (runs : List CaseRun) (specials : List (Nat × List Nat)) (c : Char) : List Char :=
  match specials.lookup c.toNat with
  | some codes => codes.map Char.ofNat
  | none =>
      match runs.findSome? (·.map? c.toNat) with
      | some code => [Char.ofNat code]
      | none => [c]

/-- The upper case of a character, which may be several characters. -/
def upperChar (c : Char) : List Char :=
  if c.toNat < 0x80 then [c.toUpper] else mapCase upperRuns upperSpecials c

/-- The lower case of a character, which may be several characters. -/
def lowerChar (c : Char) : List Char :=
  if c.toNat < 0x80 then [c.toLower] else mapCase lowerRuns lowerSpecials c

theorem upperChar_of_ascii {c : Char} (h : c.toNat < 0x80) : upperChar c = [c.toUpper] := by
  simp [upperChar, h]

theorem lowerChar_of_ascii {c : Char} (h : c.toNat < 0x80) : lowerChar c = [c.toLower] := by
  simp [lowerChar, h]

/-- Applies a mapping to the first character and keeps the rest. -/
def mapFirst (f : Char → List Char) : List Char → List Char
  | [] => []
  | c :: cs => f c ++ cs

/-- The text with its first character in upper case. -/
def capitalizeFirst (s : String) : String :=
  String.ofList (mapFirst upperChar s.toList)

/-- The text with its first character in lower case. -/
def lowercaseFirst (s : String) : String :=
  String.ofList (mapFirst lowerChar s.toList)

/-- The text with its ASCII letters in lower case and every other character as it is. -/
def lowerAscii (s : String) : String :=
  String.ofList (s.toList.map Char.toLower)

/-- Whether two texts agree up to the case of ASCII letters. -/
def equalIgnoringAsciiCase (s t : String) : Bool :=
  lowerAscii s == lowerAscii t

end ApiTypings.Text
