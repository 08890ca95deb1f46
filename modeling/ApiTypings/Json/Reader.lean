import ApiTypings.Json.Numeral

/-! # Reading JSON text

The grammar is RFC 8259 without extensions. The nesting of arrays and objects is limited, which
is also what the recursion of the reader is on.
-/

namespace ApiTypings

namespace Json

namespace Reader

/-- The four blank characters between tokens. -/
def isSpace (c : Char) : Bool :=
  c = ' ' || c = '\t' || c = '\n' || c = '\r'

/-- Drops the blanks in front of a token. -/
def skipSpace (cs : List Char) : List Char :=
  cs.dropWhile isSpace

/-! ## Strings -/

/-- The value of a hexadecimal digit of either case. -/
def hexDigit? (c : Char) : Option Nat :=
  if c.isDigit then some (c.toNat - '0'.toNat)
  else if 'a' ≤ c ∧ c ≤ 'f' then some (c.toNat - 'a'.toNat + 10)
  else if 'A' ≤ c ∧ c ≤ 'F' then some (c.toNat - 'A'.toNat + 10)
  else none

def hex? (digits : List Char) : Option Nat :=
  digits.foldlM (fun n c => (hexDigit? c).map (16 * n + ·)) 0

/-- The character escaped by a backslash and a single character. -/
def shortEscape? : Char → Option Char
  | '"' => some '"'
  | '\\' => some '\\'
  | '/' => some '/'
  | 'b' => some '\x08'
  | 'f' => some '\x0c'
  | 'n' => some '\n'
  | 'r' => some '\r'
  | 't' => some '\t'
  | _ => none

/-- The character of two surrogate code units. -/
def surrogatePair? (high low : Nat) : Option Char :=
  if 0xD800 ≤ high ∧ high < 0xDC00 ∧ 0xDC00 ≤ low ∧ low < 0xE000 then
    some (Char.ofNat (0x10000 + (high - 0xD800) * 0x400 + (low - 0xDC00)))
  else
    none

/-- Reads a string whose opening quote is past. The characters read so far are held in reverse. -/
def stringTail (read : List Char) : List Char → Option (String × List Char)
  | '"' :: rest => some (String.ofList read.reverse, rest)
  | '\\' :: 'u' :: a :: b :: c :: d :: rest =>
      match hex? [a, b, c, d] with
      | none => none
      | some unit =>
          if 0xD800 ≤ unit ∧ unit < 0xE000 then
            match rest with
            | '\\' :: 'u' :: e :: f :: g :: h :: rest =>
                match (hex? [e, f, g, h]).bind (surrogatePair? unit) with
                | none => none
                | some char => stringTail (char :: read) rest
            | _ => none
          else
            stringTail (Char.ofNat unit :: read) rest
  | '\\' :: c :: rest =>
      match shortEscape? c with
      | none => none
      | some char => stringTail (char :: read) rest
  | c :: rest => if c.toNat < 0x20 then none else stringTail (c :: read) rest
  | [] => none

def string? : List Char → Option (String × List Char)
  | '"' :: rest => stringTail [] rest
  | _ => none

/-! ## Values -/

/-- Reads a value that is neither an array nor an object. -/
def scalar? : List Char → Option (Json × List Char)
  | 'n' :: 'u' :: 'l' :: 'l' :: rest => some (.null, rest)
  | 't' :: 'r' :: 'u' :: 'e' :: rest => some (.boolean true, rest)
  | 'f' :: 'a' :: 'l' :: 's' :: 'e' :: rest => some (.boolean false, rest)
  | '"' :: rest => (stringTail [] rest).map fun (s, rest) => (.text s, rest)
  | cs => do
      let (numeral, rest) ← Numeral.read? cs
      return (.number (← numeral.number?), rest)

/-- Reads the items after a first one: each behind a comma, up to the closing bracket. The first
argument bounds their number. -/
def moreItems (item : List Char → Option (α × List Char)) (close : Char) :
    Nat → List Char → Option (List α × List Char)
  | 0, _ => none
  | bound + 1, cs =>
      match skipSpace cs with
      | [] => none
      | c :: rest =>
          if c = close then
            some ([], rest)
          else if c = ',' then do
            let (first, rest) ← item (skipSpace rest)
            let (others, rest) ← moreItems item close bound rest
            return (first :: others, rest)
          else
            none

/-- Reads items between commas, up to the closing bracket; the opening one is past. -/
def items (item : List Char → Option (α × List Char)) (close : Char) (cs : List Char) :
    Option (List α × List Char) :=
  match skipSpace cs with
  | [] => none
  | c :: rest =>
      if c = close then
        some ([], rest)
      else do
        let (first, rest) ← item (c :: rest)
        let (others, rest) ← moreItems item close (rest.length + 1) rest
        return (first :: others, rest)

def entry (value : List Char → Option (Json × List Char)) (cs : List Char) :
    Option ((String × Json) × List Char) := do
  let (key, rest) ← string? cs
  match skipSpace rest with
  | ':' :: rest =>
      let (v, rest) ← value (skipSpace rest)
      return ((key, v), rest)
  | _ => none

/-- Reads a value that starts at the first character, with room for the given number of nested
arrays and objects. -/
def value : Nat → List Char → Option (Json × List Char)
  | room + 1, '[' :: rest => do
      let (values, rest) ← items (value room) ']' rest
      return (.array values, rest)
  | room + 1, '\x7b' :: rest => do
      let (entries, rest) ← items (entry (value room)) '\x7d' rest
      return (.object (mergeEntries entries), rest)
  | _, cs => scalar? cs

end Reader

/-- The value that a text consists of, with at most `depth` nested arrays and objects. -/
def parseWithin? (depth : Nat) (source : String) : Option Json := do
  let (value, rest) ← Reader.value depth (Reader.skipSpace source.toList)
  if (Reader.skipSpace rest).isEmpty then some value else none

/-- The number of nested arrays and objects that a document may have. -/
def depthLimit : Nat := 127

def parse? (source : String) : Option Json :=
  parseWithin? depthLimit source

end Json

end ApiTypings
