import ApiTypings.Http.Content
import ApiTypings.Http.Status
import ApiTypings.OpenApi.Schema.Typing
import ApiTypings.Options.Basic
import ApiTypings.TypeScript.Declaration

/-! # Responses

Each response of an operation has an alias, and the union of the aliases is the result of the
operation. The aliases are either all bodies or all envelopes, which tell the status apart; an
operation needs envelopes if it has several successes or a body that a client cannot interpret.
-/

namespace ApiTypings.OpenApi

open TypeScript Http

def envelopeName : String := "FullResponse"

/-- The name of the type of the status codes in a range. -/
def statusRangeName : String := "StatusRange"

/-- The envelope of a body and a status. -/
def envelope (body status : TypeExpr) : TypeExpr :=
  .generic envelopeName [body, status]

def statusType : Status → TypeExpr
  | .exact code => .literal (.integer code)
  | .range leading => .generic statusRangeName [.literal (.integer leading)]
  | .default | .other _ => .number

/-- A response with the type of its body. -/
structure TypedResponse where
  status : Status
  body : TypeExpr
  /-- Whether the body alone does not tell the client enough. -/
  needsEnvelope : Bool := false
  deriving Repr

/-- The declared responses of an operation. -/
structure Responses where
  /-- One alias for each response, in document order. -/
  aliases : List Declaration
  union : Declaration
  /-- Whether the aliases are envelopes. -/
  enveloped : Bool
  /-- Whether an envelope has a range of status codes. -/
  usesRange : Bool
  deriving Repr

/-- The type of the body of a response, by its first media type. Without content there is no
body after the status 204, and otherwise nothing is known. -/
def Document.typedResponse (doc : Document) (status : Status) (response : Response) :
    Except GenerationError TypedResponse :=
  match (response.content.getD []).head? with
  | none =>
      if status = .exact 204 then
        return { status, body := .primitive .undefined }
      else
        return { status, body := .unknown, needsEnvelope := true }
  | some (mediaType, content) =>
      match Content.ofMediaType mediaType with
      | .json =>
          match content.schema with
          | some s => do return { status, body := ← doc.typeOf .response s }
          | none => return { status, body := .unknown }
      | .text => return { status, body := .string }
      | .binary => return { status, body := .named "Blob" }
      | .unknown => return { status, body := .string, needsEnvelope := true }

/-- Whether the aliases of responses are envelopes. -/
def needsEnvelopes (fullResponse : Bool) (responses : List TypedResponse) : Bool :=
  fullResponse || responses.any (·.needsEnvelope) ||
    1 < (responses.filter (·.status.isSuccess)).length

/-- The alias of a response. -/
def TypedResponse.declaration (operation : String) (enveloped : Bool) (r : TypedResponse) :
    Declaration :=
  .typeAlias (r.status.responseName operation)
    (if enveloped then envelope r.body (statusType r.status) else r.body)

/-- The declarations for typed responses. Without any, the result is an envelope of nothing
known. -/
def Responses.ofTyped (operation : String) (fullResponse : Bool)
    (responses : List TypedResponse) : Responses :=
  let enveloped := needsEnvelopes fullResponse responses
  let aliases := responses.map (·.declaration operation enveloped)
  let name := operation ++ "Responses"
  { aliases
    union :=
      if aliases.isEmpty then .typeAlias name (envelope .unknown (.literal (.integer 200)))
      else .union name (aliases.map Declaration.name)
    enveloped
    usesRange := enveloped && responses.any (·.status.isRange) }

def Document.responses (doc : Document) (options : Options) (operation : String)
    (responses : List (String × Response)) : Except GenerationError Responses := do
  let typed ← responses.mapM fun (key, response) => do
    doc.typedResponse (.ofKey key) (← doc.deref response)
  return .ofTyped operation options.fullResponse typed

end ApiTypings.OpenApi
