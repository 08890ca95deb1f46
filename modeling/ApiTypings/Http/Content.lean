import ApiTypings.Text.Blank
import ApiTypings.Text.Case

/-! # Content of media types -/

namespace ApiTypings.Http

/-- How a client decodes a body. -/
inductive Content where
  | json
  | text
  | binary
  | unknown
  deriving DecidableEq, Repr

/-- A media type without its parameters, in lower case. -/
def essence (mediaType : String) : List Char :=
  let (essence, _) := mediaType.toList.span (· ≠ ';')
  (Text.trim essence).map Char.toLower

/-- How a body of a media type is decoded. -/
def Content.ofMediaType (mediaType : String) : Content :=
  let type := essence mediaType
  let starts (s : String) : Bool := s.toList.isPrefixOf type
  let ends (s : String) : Bool := s.toList.isSuffixOf type
  let equals (s : String) : Bool := type = s.toList
  if equals "application/json" || ends "+json" then .json
  else if starts "text/" || equals "application/xml" || ends "+xml" then .text
  else if equals "application/octet-stream" || starts "image/" || starts "audio/" ||
      starts "video/" || equals "application/pdf" then .binary
  else .unknown

end ApiTypings.Http
