import ApiTypings.OpenApi.Operation
import ApiTypings.OpenApi.Request.Layout
import ApiTypings.OpenApi.Responses
import ApiTypings.TypeScript.Render

/-! # Declarations for an API

Every operation of a description gets a request, responses and a method of the client, and is
typed on its own, in document order.
-/

namespace ApiTypings.OpenApi

open TypeScript

/-! ## Typed operations -/

/-- The declarations for an operation. -/
structure TypedOperation where
  name : String
  request : Option Request
  responses : Responses
  diagnostics : List Shadowing
  deriving Repr

/-- The declarations for an operation: its request is built before its responses. -/
def Document.typedOperation (doc : Document) (options : Options) (o : NamedOperation) :
    Except GenerationError TypedOperation := do
  let (request, diagnostics) ← doc.request options o.name o.operation o.shared
  let responses ← doc.responses options o.name o.responses
  return { name := o.name, request, responses, diagnostics }

/-- The typed operations of a document. -/
def Document.operations (doc : Document) (options : Options) :
    Except GenerationError (List TypedOperation) := do
  let description ←
    match Description.read doc.root with
    | .ok d => pure d
    | .error cause => throw (.unreadable cause)
  let named ← description.namedOperations
  named.mapM (doc.typedOperation options)

/-! ## The module -/

def envelopeDeclaration : Declaration where
  name := envelopeName
  typeParameters := ["TBody", "TStatus"]
  definition := .interface
    { properties :=
        [{ name := "statusCode", type := .named "TStatus" },
         { name := "headers", type := .record .string },
         { name := "body", type := .named "TBody" }] }
    []

/-- The declaration of the type of the status codes in a range: numbers with a mark. -/
def statusRangeDeclaration : Declaration where
  name := statusRangeName
  typeParameters := ["Class extends number"]
  definition := .typeAlias (.intersection
    [.number,
     .object { properties :=
       [{ name := "__statusClass", type := .named "Class", optional := true }] }])

/-- The declarations of an operation: its request, its aliases and their union. -/
def TypedOperation.declarations (o : TypedOperation) : List Declaration :=
  (o.request.map Request.declaration).toList ++ o.responses.aliases ++ [o.responses.union]

/-- The declarations of an API: the envelope, the status ranges if an operation uses them, and
the declarations of each operation. -/
def apiModule (operations : List TypedOperation) : List Declaration :=
  envelopeDeclaration ::
    (if operations.any (·.responses.usesRange) then [statusRangeDeclaration] else []) ++
    operations.flatMap TypedOperation.declarations

def promise (t : TypeExpr) : TypeExpr :=
  .generic "Promise" [t]

def TypedOperation.method (o : TypedOperation) : Method where
  name := methodName o.name
  arguments := (o.request.map fun request =>
    { name := "request"
      type := .named request.declaration.name
      optional := request.optional : Argument }).toList
  result := promise (.named o.responses.union.name)

/-- The client interface: a method for each operation. -/
def apiClient (name : String) (operations : List TypedOperation) : Declaration where
  name := name
  definition := .interface {} (operations.map TypedOperation.method)

/-- The name of the client interface if the options give none. -/
def defaultClientName : String := "ApiClient"

/-- The declarations for the API that a document describes. -/
def Document.generate (doc : Document) (options : Options) : Except GenerationError Output := do
  let operations ← doc.operations options
  return {
    declarations := renderModule (apiModule operations)
    client := (apiClient (options.clientName.getD defaultClientName) operations).render
    diagnostics := operations.flatMap TypedOperation.diagnostics }

def generate (root : Json) (options : Options) : Except GenerationError Output :=
  (Document.ofJson root).generate options

end ApiTypings.OpenApi
