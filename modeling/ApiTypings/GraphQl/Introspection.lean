import ApiTypings.Reading

/-! # Introspection results

The types that a GraphQL schema reports about itself. A result is read as a whole: all that a
failure tells is that the value is no introspection result.
-/

namespace ApiTypings.GraphQl

inductive Kind where
  | scalar | object | interface | union | enum | inputObject | list | nonNull
  /-- Any kind beyond these. -/
  | unknown
  deriving DecidableEq, Repr

def Kind.name : Kind → String
  | .scalar => "SCALAR"
  | .object => "OBJECT"
  | .interface => "INTERFACE"
  | .union => "UNION"
  | .enum => "ENUM"
  | .inputObject => "INPUT_OBJECT"
  | .list => "LIST"
  | .nonNull => "NON_NULL"
  | .unknown => "UNKNOWN"

def Kind.ofName : String → Kind
  | "SCALAR" => .scalar
  | "OBJECT" => .object
  | "INTERFACE" => .interface
  | "UNION" => .union
  | "ENUM" => .enum
  | "INPUT_OBJECT" => .inputObject
  | "LIST" => .list
  | "NON_NULL" => .nonNull
  | _ => .unknown

/-- A reference to a type, which may wrap another one. -/
structure TypeRef where
  kind : Kind
  name : Option String := none
  ofType : Option TypeRef := none
  deriving Repr

structure Field where
  name : String
  type : TypeRef
  deriving Repr

structure FullType where
  kind : Kind
  name : Option String := none
  fields : Option (List Field) := none
  deriving Repr

/-- A schema: its types in reported order. -/
structure IntrospectionSchema where
  types : List FullType := []
  deriving Repr

/-! ## Reading -/

/-- The values of the given keys: those of an object, or the items of an array, which lists the
values in the order of the keys and may end before the last ones. -/
def slots? (keys : List String) (required : Nat) : Json → Option (List (Option Json))
  | .object entries => some (keys.map (Json.get? · entries))
  | .array items =>
      if required ≤ items.length ∧ items.length ≤ keys.length then
        some ((items.map some) ++ List.replicate (keys.length - items.length) none)
      else
        none
  | _ => none

/-- Reads null and nothing as nothing, and any other value as the reader does. -/
def optional? {α : Type} (read : Json → Option α) : Option Json → Option (Option α)
  | none | some .null => some none
  | some value => (read value).map some

def text? : Json → Option String
  | .text s => some s
  | _ => none

def list? {α : Type} (read : Json → Option α) : Json → Option (List α)
  | .array items => items.mapM read
  | _ => none

/-- Reads a kind: its name, or an object with nothing under its name. -/
def Kind.read? : Json → Option Kind
  | .text name => some (.ofName name)
  | .object [(name, .null)] => some (.ofName name)
  | _ => none

mutual

def TypeRef.read? : Json → Option TypeRef
  | .object entries => do
      let kind ← (Json.get? "kind" entries).bind Kind.read?
      let name ← optional? text? (Json.get? "name" entries)
      let ofType ← TypeRef.readEntry? entries
      return { kind, name, ofType }
  | .array [kind, name] => do
      return { kind := ← Kind.read? kind, name := ← optional? text? (some name) }
  | .array [kind, name, .null] => do
      return { kind := ← Kind.read? kind, name := ← optional? text? (some name) }
  | .array [kind, name, ofType] => do
      return {
        kind := ← Kind.read? kind
        name := ← optional? text? (some name)
        ofType := ← TypeRef.read? ofType }
  | _ => none

/-- Reads the reference to a wrapped type among the entries of one. -/
def TypeRef.readEntry? : List (String × Json) → Option (Option TypeRef)
  | [] => some none
  | (key, value) :: rest =>
      if key = "ofType" then
        match value with
        | .null => some none
        | value => (TypeRef.read? value).map some
      else
        TypeRef.readEntry? rest

end

def Field.read? (value : Json) : Option Field :=
  match slots? ["name", "type"] 2 value with
  | some [some name, some type] => do
      return { name := ← text? name, type := ← TypeRef.read? type }
  | _ => none

def FullType.read? (value : Json) : Option FullType :=
  match slots? ["kind", "name", "fields"] 2 value with
  | some [some kind, name, fields] => do
      return {
        kind := ← Kind.read? kind
        name := ← optional? text? name
        fields := ← optional? (list? Field.read?) fields }
  | _ => none

def IntrospectionSchema.read? (value : Json) : Option IntrospectionSchema :=
  match slots? ["types"] 0 value with
  | some [some types] => do return { types := ← list? FullType.read? types }
  | some [none] => some {}
  | _ => none

def readRoot? (value : Json) : Option IntrospectionSchema :=
  match slots? ["__schema"] 1 value with
  | some [some schema] => IntrospectionSchema.read? schema
  | _ => none

/-- Reads a response, which has the schema under its data. -/
def readResponse? : Json → Option IntrospectionSchema
  | .object entries => (Json.get? "data" entries).bind readRoot?
  | _ => none

/-- Reads an introspection result: a response, or else its bare data. -/
def IntrospectionSchema.ofResult (value : Json) : Except ReadError IntrospectionSchema :=
  match (readResponse? value).or (readRoot? value) with
  | some schema => .ok schema
  | none => .error (.noAlternative "Envelope")

end ApiTypings.GraphQl
