import ApiTypings.OpenApi.Schema.Reading

/-! # API descriptions

The parts of an API description that the declarations depend on, and how they are read.
-/

namespace ApiTypings.OpenApi

/-- Where a parameter travels. -/
inductive Location where
  | path
  | query
  | header
  | body
  | other (name : String)
  deriving DecidableEq, Repr

/-- The location with a name. -/
def Location.ofName : String → Location
  | "path" => .path
  | "query" => .query
  | "header" => .header
  | "body" => .body
  | name => .other name

/-- A parameter. Its value is described by a schema or by keywords of the parameter itself. -/
structure Parameter where
  reference : Option String := none
  name : String := ""
  location : Location := .other ""
  required : Bool := false
  schema : Option Schema := none
  type : Option TypeKeyword := none
  format : Option String := none
  items : Option Schema := none
  enum : Option (List Json) := none
  deriving Repr, Inhabited

/-- The schema of a parameter's value: the schema it wraps, or else the one that its own keywords
make up, a string if they name no type. -/
def Parameter.valueSchema (p : Parameter) : Schema :=
  match p.schema with
  | some schema => { wrapped := some schema }
  | none =>
      { type := some (p.type.getD (.one "string"))
        format := p.format
        items := p.items
        enum := p.enum }

/-- The content of one media type. -/
structure MediaType where
  schema : Option Schema := none
  deriving Repr, Inhabited

structure RequestBody where
  reference : Option String := none
  required : Bool := false
  content : Option (List (String × MediaType)) := none
  deriving Repr, Inhabited

structure Response where
  reference : Option String := none
  content : Option (List (String × MediaType)) := none
  deriving Repr, Inhabited

structure Operation where
  operationId : Option String := none
  parameters : Option (List Parameter) := none
  requestBody : Option RequestBody := none
  responses : Option (List (String × Response)) := none
  deriving Repr, Inhabited

/-- The operations on a path, with the parameters they share. -/
structure PathItem where
  get : Option Operation := none
  put : Option Operation := none
  post : Option Operation := none
  delete : Option Operation := none
  options : Option Operation := none
  head : Option Operation := none
  patch : Option Operation := none
  trace : Option Operation := none
  parameters : Option (List Parameter) := none
  deriving Repr, Inhabited

/-- The operations on a path with their methods, in a fixed order of methods. -/
def PathItem.operations (item : PathItem) : List (String × Operation) :=
  [("get", item.get), ("put", item.put), ("post", item.post), ("delete", item.delete),
   ("options", item.options), ("head", item.head), ("patch", item.patch),
   ("trace", item.trace)].filterMap fun (method, operation) => operation.map (method, ·)

/-- An API description: its paths in document order. -/
structure Description where
  paths : List (String × PathItem) := []
  deriving Repr, Inhabited

/-! ## Reading -/

open Reader

def Parameter.read : Reader Parameter :=
  record "Parameter" {}
    [field "$ref" (optional text) fun reference p => { p with reference },
     trailingField "name" text fun name p => { p with name },
     trailingField "in" text fun name p => { p with location := .ofName name },
     trailingField "required" boolean fun required p => { p with required },
     field "schema" (optional Schema.read) fun schema p => { p with schema },
     field "type" (optional TypeKeyword.read) fun type p => { p with type },
     field "format" (optional text) fun format p => { p with format },
     field "items" (optional Schema.read) fun items p => { p with items },
     field "enum" (optional (list .ok)) fun enum p => { p with enum }]

def MediaType.read : Reader MediaType :=
  record "MediaType" {}
    [field "schema" (optional Schema.read) fun schema m => { m with schema }]

def RequestBody.read : Reader RequestBody :=
  record "RequestBody" {}
    [field "$ref" (optional text) fun reference b => { b with reference },
     trailingField "required" boolean fun required b => { b with required },
     field "content" (optional (entries MediaType.read)) fun content b => { b with content }]

def Response.read : Reader Response :=
  record "Response" {}
    [field "$ref" (optional text) fun reference r => { r with reference },
     field "content" (optional (entries MediaType.read)) fun content r => { r with content }]

def Operation.read : Reader Operation :=
  record "Operation" {}
    [field "operationId" (optional text) fun operationId o => { o with operationId },
     field "parameters" (optional (list Parameter.read)) fun parameters o =>
       { o with parameters },
     field "requestBody" (optional RequestBody.read) fun requestBody o => { o with requestBody },
     trailingField "responses" (optional (plainEntries Response.read)) fun responses o =>
       { o with responses }]

def PathItem.read : Reader PathItem :=
  record "PathItem" {}
    [field "get" (optional Operation.read) fun get i => { i with get },
     field "put" (optional Operation.read) fun put i => { i with put },
     field "post" (optional Operation.read) fun post i => { i with post },
     field "delete" (optional Operation.read) fun delete i => { i with delete },
     field "options" (optional Operation.read) fun options i => { i with options },
     field "head" (optional Operation.read) fun head i => { i with head },
     field "patch" (optional Operation.read) fun patch i => { i with patch },
     field "trace" (optional Operation.read) fun trace i => { i with trace },
     field "parameters" (optional (list Parameter.read)) fun parameters i =>
       { i with parameters }]

def Description.read : Reader Description :=
  record "OpenApiSpec" {}
    [trailingField "paths" (plainEntries PathItem.read) fun paths d => { d with paths }]

end ApiTypings.OpenApi
