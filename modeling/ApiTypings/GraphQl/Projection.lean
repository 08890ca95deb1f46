import ApiTypings.Generation
import ApiTypings.GraphQl.Introspection
import ApiTypings.Options.Basic
import ApiTypings.TypeScript.Render

/-! # Interfaces for GraphQL types

Each object type becomes an interface. All of its fields are optional, since a query selects the
fields it wants.
-/

namespace ApiTypings.GraphQl

open TypeScript

/-- The object types without an interface: the roots of operations, and scalars that some servers
report as objects. -/
def defaultSkipped : List String :=
  ["Query", "Mutation", "Subscription", "Boolean", "String"]

/-- Whether a name belongs to introspection itself. -/
def isReserved (name : String) : Bool :=
  "__".toList.isPrefixOf name.toList

/-- The name under which a type gets an interface, if it gets one. -/
def FullType.projectedName? (skip : List String) (t : FullType) : Option String :=
  match t.name with
  | some name =>
      if t.kind = .object ∧ isReserved name = false ∧ name ∉ skip then some name else none
  | none => none

def scalarType (name : String) : Except GenerationError TypeExpr :=
  if name ∈ ["String", "ID", "Date", "DateTime"] then return .string
  else if name ∈ ["Int", "Float"] then return .number
  else throw (.unknownType name)

def TypeRef.requireName (t : TypeRef) : Except GenerationError String :=
  match t.name with
  | some name => return name
  | none => throw (.unknownType t.kind.name)

/-- The type of a field. The items of a list are named, whatever their kind. -/
def fieldType (t : TypeRef) : Except GenerationError TypeExpr :=
  match t.kind with
  | .scalar => do scalarType (← t.requireName)
  | .list =>
      match t.ofType with
      | some item => do
          return .array (.named (Text.capitalizeFirst (← item.requireName)))
      | none => throw (.unknownType Kind.list.name)
  | .object => do return .named (Text.capitalizeFirst (← t.requireName))
  | kind => throw (.unknownType kind.name)

def Field.property (f : Field) : Except GenerationError (Property TypeExpr) := do
  return { name := f.name, type := ← fieldType f.type, optional := true }

/-- The interface for a type under a name. -/
def FullType.interface (t : FullType) (name : String) : Except GenerationError Declaration := do
  return .interface (Text.capitalizeFirst name)
    { properties := ← (t.fields.getD []).mapM Field.property }

/-- The interfaces for the object types of a schema, in reported order. -/
def project (skip : List String) (schema : IntrospectionSchema) :
    Except GenerationError (List Declaration) :=
  schema.types.filterMapM fun t =>
    match t.projectedName? skip with
    | some name => some <$> t.interface name
    | none => return none

/-- The name of the client interface if the options give none. -/
def defaultClientName : String := "GraphQLClient"

/-- A method that sends a document with variables. -/
def documentMethod (name : String) : Method where
  name := name
  typeParameters := ["T = unknown"]
  arguments :=
    [{ name := "document", type := .string },
     { name := "variables", type := .record .unknown, optional := true }]
  result := .generic "Promise" [.named "T"]

/-- The client interface, which does not depend on the schema. -/
def client (name : String) : Declaration where
  name := name
  definition := .interface {} [documentMethod "query", documentMethod "mutate"]

/-- The declarations for an introspection result. -/
def generate (root : Json) (options : Options) : Except GenerationError Output := do
  let schema ←
    match IntrospectionSchema.ofResult root with
    | .ok schema => pure schema
    | .error cause => throw (.unreadable cause)
  let interfaces ← project defaultSkipped schema
  return {
    declarations := renderModule interfaces
    client := (client (options.clientName.getD defaultClientName)).render }

end ApiTypings.GraphQl
