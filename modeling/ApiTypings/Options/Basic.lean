import ApiTypings.Text.Case

/-! # Generation options -/

namespace ApiTypings

/-- The choices a caller has about the generated declarations. -/
structure Options where
  /-- Requests are always divided into body, path, query and headers. -/
  fullRequest : Bool := false
  /-- Responses are always wrapped in the envelope. -/
  fullResponse : Bool := false
  /-- Headers that a caller may leave out, whatever the document says. -/
  optionalHeaders : List String := ["Authorization"]
  /-- The name of the client interface, if it is not the default one. -/
  clientName : Option String := none
  deriving DecidableEq, Repr, Inhabited

/-- Whether a header may always be left out: names of headers ignore case. -/
def Options.isOptionalHeader (options : Options) (name : String) : Bool :=
  options.optionalHeaders.any (Text.equalIgnoringAsciiCase · name)

end ApiTypings
