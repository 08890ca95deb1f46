import ApiTypings.Json.Reader
import ApiTypings.Options.Basic

/-! # Options in TOML

An options file is a TOML document whose values are booleans, strings and arrays of strings, each
under a key of its own at the top level. Every other TOML document has a value of the wrong type
or a key that is no option, so the reader knows no tables, numbers or dates: it refuses them
with everything else that is no options file.
-/

namespace ApiTypings

namespace Toml

/-- A value that an option can have. -/
inductive Value where
  | boolean (value : Bool)
  | text (value : String)
  | texts (values : List String)
  deriving DecidableEq, Repr

/-! ## Blanks and line ends -/

/-- The blanks inside a line. -/
def isBlank (c : Char) : Bool :=
  c = ' ' || c = '\t'

/-- Drops the blanks inside a line. -/
def skipBlank (cs : List Char) : List Char :=
  cs.dropWhile isBlank

/-- The rest after a line end, if there is one. -/
def newline? : List Char → Option (List Char)
  | '\n' :: rest => some rest
  | '\r' :: '\n' :: rest => some rest
  | _ => none

/-- Whether a character may stand for itself in comments and strings: it is no control but the
tab. -/
def isTextChar (c : Char) : Bool :=
  c = '\t' || (0x20 ≤ c.toNat && c.toNat ≠ 0x7F)

/-- Drops a comment up to the end of its line. -/
def skipComment : List Char → List Char
  | '#' :: rest => rest.dropWhile isTextChar
  | cs => cs

/-- Drops blanks and line ends. The first argument bounds the number of lines. -/
def skipBlankLines : Nat → List Char → List Char
  | 0, cs => cs
  | bound + 1, cs =>
      match newline? (skipBlank cs) with
      | some rest => skipBlankLines bound rest
      | none => skipBlank cs

/-- Drops blanks, comments and line ends. The first argument bounds the number of lines. -/
def skipLines : Nat → List Char → List Char
  | 0, cs => cs
  | bound + 1, cs =>
      match newline? (skipComment (skipBlank cs)) with
      | some rest => skipLines bound rest
      | none => skipBlank cs

/-! ## Strings -/

/-- The character with a code point written by hexadecimal digits. -/
def codePoint? (digits : List Char) : Option Char := do
  let code ← Json.Reader.hex? digits
  if code.isValidChar then some (Char.ofNat code) else none

/-- Reads what follows the backslash of an escape. -/
def escape? : List Char → Option (Char × List Char)
  | 'b' :: rest => some ('\x08', rest)
  | 't' :: rest => some ('\t', rest)
  | 'n' :: rest => some ('\n', rest)
  | 'f' :: rest => some ('\x0c', rest)
  | 'r' :: rest => some ('\r', rest)
  | '"' :: rest => some ('"', rest)
  | '\\' :: rest => some ('\\', rest)
  | 'u' :: rest =>
      if rest.length < 4 then none
      else (codePoint? (rest.take 4)).map fun c => (c, rest.drop 4)
  | 'U' :: rest =>
      if rest.length < 8 then none
      else (codePoint? (rest.take 8)).map fun c => (c, rest.drop 8)
  | _ => none

/-- Reads a string of one line whose opening delimiter is past; in a literal string the backslash
stands for itself. The characters read so far are held in reverse, and the first argument bounds
how many are to come. -/
def lineTail (delimiter : Char) (literal : Bool) (read : List Char) :
    Nat → List Char → Option (String × List Char)
  | 0, _ | _, [] => none
  | bound + 1, c :: rest =>
      if c = delimiter then
        some (String.ofList read.reverse, rest)
      else if c = '\\' && !literal then
        match escape? rest with
        | some (c, rest) => lineTail delimiter literal (c :: read) bound rest
        | none => none
      else if isTextChar c then
        lineTail delimiter literal (c :: read) bound rest
      else
        none

/-- Reads a string of several lines whose opening delimiters are past. A run of three delimiters
ends it, and up to two more belong to the text. A backslash at the end of a line joins the line
to the next text. -/
def blockTail (delimiter : Char) (literal : Bool) (read : List Char) :
    Nat → List Char → Option (String × List Char)
  | 0, _ | _, [] => none
  | bound + 1, c :: rest =>
      if c = delimiter then
        let run := c :: rest.takeWhile (· = delimiter)
        let after := rest.dropWhile (· = delimiter)
        if run.length < 3 then
          blockTail delimiter literal (run ++ read) bound after
        else
          let own := min (run.length - 3) 2
          some (String.ofList (List.replicate own delimiter ++ read).reverse,
            List.replicate (run.length - 3 - own) delimiter ++ after)
      else if c = '\\' && !literal then
        match escape? rest with
        | some (c, rest) => blockTail delimiter literal (c :: read) bound rest
        | none =>
            match newline? (skipBlank rest) with
            | some rest =>
                blockTail delimiter literal read bound (skipBlankLines rest.length rest)
            | none => none
      else if isTextChar c then
        blockTail delimiter literal (c :: read) bound rest
      else
        match newline? (c :: rest) with
        | some rest => blockTail delimiter literal ('\n' :: read) bound rest
        | none => none

/-- Drops the line end right after the opening delimiters of a string of several lines. -/
def skipFirstNewline (cs : List Char) : List Char :=
  (newline? cs).getD cs

def lineString? : List Char → Option (String × List Char)
  | '"' :: rest => lineTail '"' false [] (rest.length + 1) rest
  | '\'' :: rest => lineTail '\'' true [] (rest.length + 1) rest
  | _ => none

def string? : List Char → Option (String × List Char)
  | '"' :: '"' :: '"' :: rest =>
      blockTail '"' false [] (rest.length + 1) (skipFirstNewline rest)
  | '\'' :: '\'' :: '\'' :: rest =>
      blockTail '\'' true [] (rest.length + 1) (skipFirstNewline rest)
  | cs => lineString? cs

/-! ## Documents -/

/-- Reads the strings of an array whose opening bracket is past. The first argument bounds their
number. -/
def strings? : Nat → List Char → Option (List String × List Char)
  | 0, _ => none
  | bound + 1, cs =>
      match skipLines cs.length cs with
      | ']' :: rest => some ([], rest)
      | cs => do
          let (s, rest) ← string? cs
          match skipLines rest.length rest with
          | ',' :: rest =>
              let (others, rest) ← strings? bound rest
              return (s :: others, rest)
          | ']' :: rest => return ([s], rest)
          | _ => none

def value? : List Char → Option (Value × List Char)
  | 't' :: 'r' :: 'u' :: 'e' :: rest => some (.boolean true, rest)
  | 'f' :: 'a' :: 'l' :: 's' :: 'e' :: rest => some (.boolean false, rest)
  | '[' :: rest => (strings? (rest.length + 1) rest).map fun (ss, rest) => (.texts ss, rest)
  | cs => (string? cs).map fun (s, rest) => (.text s, rest)

/-- Whether a character may stand in a key without quotes. -/
def isBareKeyChar (c : Char) : Bool :=
  c.isAlphanum || c = '_' || c = '-'

def key? (cs : List Char) : Option (String × List Char) :=
  match cs.span isBareKeyChar with
  | ([], _) => lineString? cs
  | (bare, rest) => some (String.ofList bare, rest)

def binding? (cs : List Char) : Option ((String × Value) × List Char) := do
  let (key, rest) ← key? cs
  match skipBlank rest with
  | '=' :: rest =>
      let (value, rest) ← value? (skipBlank rest)
      return ((key, value), rest)
  | _ => none

/-- Reads the entries of a document, at most one on a line. The first argument bounds the number
of lines. -/
def entries? : Nat → List Char → Option (List (String × Value))
  | 0, _ => none
  | bound + 1, cs => do
      let cs := skipBlank cs
      let (found, rest) ←
        match skipComment cs with
        | [] => some ([], [])
        | c :: rest =>
            if c = '\n' || c = '\r' then
              some ([], c :: rest)
            else
              (binding? cs).map fun (entry, rest) => ([entry], rest)
      match skipComment (skipBlank rest) with
      | [] => return found
      | rest => return found ++ (← entries? bound (← newline? rest))

/-- The entries of a document; a byte order mark may stand in front of it. -/
def parse? (source : String) : Option (List (String × Value)) :=
  match source.toList with
  | '\uFEFF' :: cs | cs => entries? (cs.length + 1) cs

end Toml

namespace Options

def set? (options : Options) : String × Toml.Value → Option Options
  | ("full-request", .boolean b) => some { options with fullRequest := b }
  | ("full-response", .boolean b) => some { options with fullResponse := b }
  | ("optional-headers", .texts headers) => some { options with optionalHeaders := headers }
  | ("client-name", .text name) => some { options with clientName := some name }
  | _ => none

/-- The options of a TOML document. Options it does not set keep their defaults; a repeated key
is an error like an unknown one. -/
def ofToml? (source : String) : Option Options := do
  let entries ← Toml.parse? source
  if (entries.map Prod.fst).Nodup then entries.foldlM set? {} else none

end Options

end ApiTypings
