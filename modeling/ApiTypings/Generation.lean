import ApiTypings.Reading

/-! # The outcome of a generation -/

namespace ApiTypings

/-- Why nothing could be generated. -/
inductive GenerationError where
  | unknownType (name : String)
  /-- The body of a request has a type that no client can send. -/
  | unsupportedBody (operation type : String)
  | missingResponses (operation : String)
  | cyclicReference (pointer : String)
  | unresolvedReference (pointer : String)
  | duplicateOperation (name : String)
  | unreadable (cause : ReadError)
  deriving DecidableEq, Repr

def GenerationError.message : GenerationError → String
  | .unknownType name => "unknown type: " ++ name
  | .unsupportedBody operation type =>
      "type '" ++ type ++ "' is not supported for the request body of " ++ operation
  | .missingResponses operation => "operation " ++ operation ++ " has no responses"
  | .cyclicReference pointer => "cyclic schema reference: " ++ pointer
  | .unresolvedReference pointer => "unresolved reference: " ++ pointer
  | .duplicateOperation name => "duplicate operation name '" ++ name ++ "'"
  | .unreadable cause => "invalid document: " ++ cause.message

/-- The parts of a request. -/
inductive RequestPart where
  | path
  | query
  | headers
  | body
  deriving DecidableEq, Repr

def RequestPart.name : RequestPart → String
  | .path => "path"
  | .query => "query"
  | .headers => "headers"
  | .body => "body"

/-- A request property that was dropped, since an earlier one has its name. -/
structure Shadowing where
  operation : String
  property : String
  part : RequestPart
  deriving DecidableEq, Repr

def Shadowing.message (s : Shadowing) : String :=
  s.operation ++ ": " ++ s.part.name ++ " property '" ++ s.property ++
    "' is shadowed by an earlier property of the same name"

/-- The generated text. -/
structure Output where
  /-- The declarations of types. -/
  declarations : String
  /-- The declaration of the client interface. -/
  client : String
  diagnostics : List Shadowing := []
  deriving DecidableEq, Repr

end ApiTypings
