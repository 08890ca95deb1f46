import ApiTypings.Text.Case
import ApiTypings.Text.Identifier

/-! # Status codes -/

namespace ApiTypings.Http

/-- The registered status codes with their reason phrases. -/
def reasonPhrases : List (Nat × String) :=
  [(100, "Continue"), (101, "Switching Protocols"), (102, "Processing"), (103, "Early Hints"),
   (200, "OK"), (201, "Created"), (202, "Accepted"), (203, "Non-Authoritative Information"),
   (204, "No Content"), (205, "Reset Content"), (206, "Partial Content"), (207, "Multi-Status"),
   (208, "Already Reported"), (226, "IM Used"), (300, "Multiple Choices"),
   (301, "Moved Permanently"), (302, "Found"), (303, "See Other"), (304, "Not Modified"),
   (305, "Use Proxy"), (307, "Temporary Redirect"), (308, "Permanent Redirect"),
   (400, "Bad Request"), (401, "Unauthorized"), (402, "Payment Required"), (403, "Forbidden"),
   (404, "Not Found"), (405, "Method Not Allowed"), (406, "Not Acceptable"),
   (407, "Proxy Authentication Required"), (408, "Request Timeout"), (409, "Conflict"),
   (410, "Gone"), (411, "Length Required"), (412, "Precondition Failed"),
   (413, "Payload Too Large"), (414, "URI Too Long"), (415, "Unsupported Media Type"),
   (416, "Range Not Satisfiable"), (417, "Expectation Failed"), (418, "I'm a teapot"),
   (421, "Misdirected Request"), (422, "Unprocessable Entity"), (423, "Locked"),
   (424, "Failed Dependency"), (425, "Too Early"), (426, "Upgrade Required"),
   (428, "Precondition Required"), (429, "Too Many Requests"),
   (431, "Request Header Fields Too Large"), (451, "Unavailable For Legal Reasons"),
   (500, "Internal Server Error"), (501, "Not Implemented"), (502, "Bad Gateway"),
   (503, "Service Unavailable"), (504, "Gateway Timeout"), (505, "HTTP Version Not Supported"),
   (506, "Variant Also Negotiates"), (507, "Insufficient Storage"), (508, "Loop Detected"),
   (510, "Not Extended"), (511, "Network Authentication Required")]

/-- The reason phrase of a registered status code. -/
def reasonPhrase? (code : Nat) : Option String :=
  reasonPhrases.lookup code

/-- What the key of a response stands for. -/
inductive Status where
  /-- A single status code. -/
  | exact (code : Nat)
  /-- All codes with a leading digit, such as `2XX`. -/
  | range (leading : Nat)
  /-- Every code without a response of its own. -/
  | default
  | other (key : String)
  deriving DecidableEq, Repr

namespace Status

/-- The status code that a key writes out: digits of at most 16 bits, perhaps behind a plus
sign. -/
def code? (key : String) : Option Nat :=
  let digits :=
    match key.toList with
    | '+' :: digits => digits
    | digits => digits
  if digits.isEmpty || !digits.all Char.isDigit then
    none
  else
    let code := digits.foldl (fun n c => 10 * n + (c.toNat - '0'.toNat)) 0
    if code < 0x10000 then some code else none

/-- The leading digit of a key such as `2XX`. -/
def leading? (key : String) : Option Nat :=
  match key.toList with
  | [d, x, y] =>
      if '1' ≤ d ∧ d ≤ '5' ∧ x.toLower = 'x' ∧ y.toLower = 'x' then
        some (d.toNat - '0'.toNat)
      else
        none
  | _ => none

/-- The status that a key stands for. -/
def ofKey (key : String) : Status :=
  if Text.equalIgnoringAsciiCase key "default" then
    .default
  else
    match code? key with
    | some code => .exact code
    | none =>
        match leading? key with
        | some leading => .range leading
        | none => .other key

/-- Whether a status reports success for certain. -/
def isSuccess : Status → Bool
  | .exact code => 200 ≤ code && code < 300
  | .range leading => leading = 2
  | .default | .other _ => false

/-- Whether a status is a range of codes. -/
def isRange : Status → Bool
  | .range _ => true
  | _ => false

/-- The name of the response type of an operation for a status. A registered code is named by
its reason phrase. -/
def responseName (operation : String) : Status → String
  | .exact code =>
      match reasonPhrase? code with
      | some phrase => operation ++ "Response" ++ Text.pascalCase phrase
      | none => operation ++ toString code ++ "Response"
  | .range leading => operation ++ toString leading ++ "XXResponse"
  | .default => operation ++ "DefaultResponse"
  | .other key => operation ++ Text.pascalCase key ++ "Response"

end Status

end ApiTypings.Http
