import ApiTypings.Json.Basic
import ApiTypings.Text.Split

/-! # Pointers into a JSON value

A pointer is empty or a sequence of segments, each behind a slash. Inside a segment `~1` stands
for a slash and `~0` for a tilde.
-/

namespace ApiTypings

namespace Json

namespace Pointer

/-- Replaces each tilde followed by the given mark. -/
def replaceMark (mark by_ : Char) : List Char → List Char
  | '~' :: c :: rest =>
      if c = mark then by_ :: replaceMark mark by_ rest
      else '~' :: replaceMark mark by_ (c :: rest)
  | c :: rest => c :: replaceMark mark by_ rest
  | [] => []

/-- The key that a segment stands for: first the slashes are restored, then the tildes. -/
def unescape (segment : List Char) : String :=
  String.ofList (replaceMark '0' '~' (replaceMark '1' '/' segment))

/-- The written form of a character of a key. -/
def escapeChar (c : Char) : List Char :=
  if c = '~' then ['~', '0'] else if c = '/' then ['~', '1'] else [c]

/-- The segment that stands for a key. -/
def escape (key : String) : List Char :=
  key.toList.flatMap escapeChar

/-- The keys along a pointer; `none` when a nonempty pointer does not start with a slash. -/
def keys? : List Char → Option (List String)
  | [] => some []
  | '/' :: rest => some ((Text.pieces (· = '/') rest).map unescape)
  | _ => none

/-- The array index that a key denotes: digits without a leading zero. -/
def index? (key : String) : Option Nat :=
  match key.toList with
  | ['0'] => some 0
  | '0' :: _ | [] => none
  | digits =>
      if digits.all Char.isDigit then
        some (digits.foldl (fun n c => 10 * n + (c.toNat - '0'.toNat)) 0)
      else
        none

/-- The last key of a pointer: what follows the last slash, or all of it without one. -/
def lastKey (pointer : String) : String :=
  unescape (Text.lastPiece (· = '/') pointer.toList)

end Pointer

/-- The child of a value under a key, which for an array is an index. -/
def child? (value : Json) (key : String) : Option Json :=
  match value with
  | .object entries => get? key entries
  | .array items => (Pointer.index? key).bind (items[·]?)
  | _ => none

/-- The node reached along a list of keys. -/
def at? (value : Json) : List String → Option Json
  | [] => some value
  | key :: rest => (value.child? key).bind (·.at? rest)

/-- The node that a pointer designates. -/
def pointer? (value : Json) (pointer : List Char) : Option Json :=
  (Pointer.keys? pointer).bind value.at?

end Json

end ApiTypings
