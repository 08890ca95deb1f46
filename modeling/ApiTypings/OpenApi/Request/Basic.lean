import ApiTypings.OpenApi.Schema.Typing
import ApiTypings.Options.Basic

/-! # The parts of a request

The parameters of an operation become properties of the part of the request that they travel in,
and its body becomes a form or a JSON value.
-/

namespace ApiTypings.OpenApi

open TypeScript

/-- How a JSON body goes together with parameters. -/
inductive BodyKind where
  /-- Its fields can stand among them. -/
  | object
  /-- It needs a property of its own. -/
  | value
  deriving DecidableEq, Repr

/-- The body that a client sends. -/
inductive Body where
  | form (required : Bool)
  | json (type : TypeExpr) (kind : BodyKind) (required : Bool)
  deriving Repr

/-- A property of a request with the part it belongs to. -/
structure PartProperty where
  part : RequestPart
  property : Property TypeExpr
  deriving Repr

/-! ## Parameters -/

/-- The part of a request that the parameters of a location are in. -/
def Location.part? : Location → Option RequestPart
  | .path => some .path
  | .query => some .query
  | .header => some .headers
  | .body | .other _ => none

/-- Appends a parameter, unless one of its name and location is there. -/
def addParameter (parameters : List Parameter) (p : Parameter) : List Parameter :=
  if parameters.any fun q => q.name = p.name ∧ q.location = p.location then parameters
  else parameters ++ [p]

/-- The parameters of an operation: its own ones, then the shared ones that it does not
override. -/
def Document.parameters (doc : Document) (own shared : List Parameter) :
    Except GenerationError (List Parameter) := do
  let own ← own.mapM doc.deref
  shared.foldlM (fun parameters p => do return addParameter parameters (← doc.deref p)) own

/-- Whether a parameter may be left out: it is not required, or an optional header. -/
def Parameter.isOptional (options : Options) (p : Parameter) : Bool :=
  !p.required || (p.location = .header && options.isOptionalHeader p.name)

/-- The property for a parameter, if a client sets it. -/
def Document.partProperty? (doc : Document) (options : Options) (p : Parameter) :
    Except GenerationError (Option PartProperty) :=
  match p.location.part? with
  | none => return none
  | some part => do
      let type ← doc.typeOf .request p.valueSchema
      return some { part, property := { name := p.name, type, optional := p.isOptional options } }

def Document.partProperties (doc : Document) (options : Options) (parameters : List Parameter) :
    Except GenerationError (List PartProperty) :=
  parameters.filterMapM (doc.partProperty? options)

/-- The parts that parameters are in, in the order in which they are laid out. -/
def parameterParts : List RequestPart :=
  [.path, .query, .headers]

/-! ## Bodies -/

/-- The kind of a JSON body with a schema, which must not be of a type unknown to JSON. -/
def bodyKind (operation : String) (s : Schema) : Except GenerationError BodyKind :=
  match s.primaryType with
  | some "object" => return .object
  | some "array" | some "string" | some "integer" | some "number" | some "boolean" =>
      return .value
  | some type => throw (.unsupportedBody operation type)
  | none => return if s.allOf.isSome then .object else .value

/-- The JSON body with a schema. -/
def Document.jsonBody (doc : Document) (operation : String) (s : Schema) (required : Bool) :
    Except GenerationError Body := do
  let kind ← bodyKind operation (← doc.deref s)
  return .json (← doc.typeOf .request s) kind required

/-- The body of an operation: a form if the content has one, else its JSON if it has that. An
operation without a request body may have a parameter for it. -/
def Document.body? (doc : Document) (operation : String) (requestBody : Option RequestBody)
    (parameter : Option Parameter) : Except GenerationError (Option Body) := do
  match requestBody with
  | some body =>
      let body ← doc.deref body
      match body.content with
      | none => return none
      | some content =>
          if (content.lookup "multipart/form-data").isSome then
            return some (.form body.required)
          else
            match (content.lookup "application/json").bind MediaType.schema with
            | some s => return some (← doc.jsonBody operation s body.required)
            | none => return none
  | none =>
      match parameter with
      | some p =>
          match p.schema with
          | some s => return some (← doc.jsonBody operation s p.required)
          | none => return none
      | none => return none

def formType : TypeExpr := .named "FormData"

/-- The fields that a body has by name in the flat layout. -/
def Body.names : Body → List String
  | .form _ => ["body"]
  | .json (.object shape) .object _ => shape.properties.map Property.name
  | .json _ _ _ => []

/-- The property for a body in the divided layout. An object body may be left out if all of its
fields may. -/
def Body.property : Body → Property TypeExpr
  | .form required => { name := "body", type := formType, optional := !required }
  | .json (.object shape) _ _ =>
      { name := "body", type := .object shape, optional := shape.allOptional }
  | .json type _ required => { name := "body", type, optional := !required }

end ApiTypings.OpenApi
