import ApiTypings.OpenApi.Request.Basic
import ApiTypings.TypeScript.Declaration

/-! # The layout of a request

The input of an operation is declared in one of two layouts. The flat one is a single object of
all parameters and of the fields of an object body. The divided one has a property for the body
and one for each group of parameters; it is used on request, where two parts share a name, and
where a body that is no object stands beside path or query parameters.
-/

namespace ApiTypings.OpenApi

open TypeScript

/-- How the parts of a request are laid out. -/
inductive Layout where
  | flat
  | divided
  deriving DecidableEq, Repr

/-- The declared input of an operation. -/
structure Request where
  declaration : Declaration
  /-- Whether a caller may leave out the request as a whole. -/
  optional : Bool
  layout : Layout
  deriving Repr

/-! ## Choosing the layout -/

/-- Whether a name occurs in two parts. -/
def sharesName (names : List (RequestPart × String)) : Bool :=
  names.any fun (part, name) => names.any fun (part', name') => name = name' && part ≠ part'

/-- The names in a request with their parts. -/
def partNames (ps : List PartProperty) (body : Option Body) : List (RequestPart × String) :=
  ps.map (fun p => (p.part, p.property.name)) ++
    ((body.map Body.names).getD []).map (RequestPart.body, ·)

/-- Whether a body is a JSON value that is no object. -/
def Body.isValue : Body → Bool
  | .json _ .value _ => true
  | _ => false

/-- The layout of a request. -/
def layoutOf (options : Options) (ps : List PartProperty) (body : Option Body) : Layout :=
  if options.fullRequest || sharesName (partNames ps body) ||
      (ps.any (fun p => p.part = .path || p.part = .query) && body.any Body.isValue) then
    .divided
  else
    .flat

/-! ## Laying out -/

/-- Divides a list into the first element of each key, seen keys apart, and the later ones. -/
def firstOfEach {α : Type} (key : α → String) : List String → List α → List α × List α
  | _, [] => ([], [])
  | seen, a :: rest =>
      if key a ∈ seen then
        let (first, later) := firstOfEach key seen rest
        (first, a :: later)
      else
        let (first, later) := firstOfEach key (key a :: seen) rest
        (a :: first, later)

/-- The name of the request type of an operation. -/
def requestName (operation : String) : String :=
  operation ++ "Request"

/-- The diagnostics for dropped properties. -/
def shadowings (operation : String) (dropped : List PartProperty) : List Shadowing :=
  dropped.map fun p => { operation, property := p.property.name, part := p.part }

/-- The fields that a body adds in the flat layout. -/
def Body.flatProperties : Body → List (Property TypeExpr)
  | .form required => [{ name := "body", type := formType, optional := !required }]
  | .json (.object shape) .object _ => shape.properties
  | .json _ _ _ => []

/-- The index signature that a body adds in the flat layout. -/
def Body.flatIndex : Body → Option TypeExpr
  | .json (.object shape) .object _ => shape.index
  | _ => none

/-- The type of a body whose fields cannot stand among parameters, and whether it is required. -/
def Body.standalone? : Body → Option (TypeExpr × Bool)
  | .form _ | .json (.object _) .object _ => none
  | .json type _ required => some (type, required)

/-- The flat layout. Parameters come first, by part, then the fields of the body; only the first
property of a name is kept. -/
def flatRequest (operation : String) (ps : List PartProperty) (body : Option Body) :
    Option Request × List Shadowing :=
  let parameters := parameterParts.flatMap fun part => ps.filter (·.part = part)
  let fields := ((body.map Body.flatProperties).getD []).map (PartProperty.mk .body)
  let (kept, dropped) :=
    firstOfEach (fun p : PartProperty => p.property.name) [] (parameters ++ fields)
  let shape : Shape TypeExpr :=
    { properties := kept.map PartProperty.property, index := body.bind Body.flatIndex }
  let name := requestName operation
  let request : Option Request :=
    match body.bind Body.standalone? with
    | some (type, required) =>
        if shape.isEmpty then
          some { declaration := .typeAlias name type, optional := !required, layout := .flat }
        else
          some { declaration := .typeAlias name (.intersection [.object shape, type])
                 optional := false
                 layout := .flat }
    | none =>
        if shape.isEmpty then none
        else
          some { declaration := .interface name shape
                 optional := shape.allOptional
                 layout := .flat }
  (request, shadowings operation dropped)

/-- The divided layout: the body, then each part that has parameters. In each part only the first
property of a name is kept. -/
def dividedRequest (operation : String) (ps : List PartProperty) (body : Option Body) :
    Option Request × List Shadowing :=
  let parts := parameterParts.map fun part =>
    (part, firstOfEach (fun p : PartProperty => p.property.name) [] (ps.filter (·.part = part)))
  let groups : List (Property TypeExpr) := parts.filterMap fun (part, kept, _) =>
    if kept.isEmpty then
      none
    else
      let shape : Shape TypeExpr := { properties := kept.map PartProperty.property }
      some { name := part.name, type := .object shape, optional := shape.allOptional }
  let shape : Shape TypeExpr := { properties := (body.map Body.property).toList ++ groups }
  let request : Option Request :=
    if shape.isEmpty then none
    else
      some { declaration := .interface (requestName operation) shape
             optional := shape.allOptional
             layout := .divided }
  (request, shadowings operation (parts.flatMap fun (_, _, dropped) => dropped))

/-- The request of an operation in the layout that it needs, and the properties dropped from
it. -/
def Document.request (doc : Document) (options : Options) (name : String) (operation : Operation)
    (shared : List Parameter) : Except GenerationError (Option Request × List Shadowing) := do
  let parameters ← doc.parameters (operation.parameters.getD []) shared
  let ps ← doc.partProperties options parameters
  let body ← doc.body? name operation.requestBody (parameters.find? (·.location = .body))
  match layoutOf options ps body with
  | .flat => return flatRequest name ps body
  | .divided => return dividedRequest name ps body

end ApiTypings.OpenApi
