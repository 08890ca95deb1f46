import ApiTypings.Json.Basic

/-! # Schemas

The keywords of a schema that its type depends on. All of them may be present at once; which of
them count is decided where a schema is given a type.
-/

namespace ApiTypings.OpenApi

/-- The `type` keyword: one type name, or a list of them. -/
inductive TypeKeyword where
  | one (name : String)
  | many (names : List String)
  deriving DecidableEq, Repr

/-- The `additionalProperties` keyword: a flag, or the schema of the values. -/
inductive AdditionalProperties (σ : Type) where
  | flag (allowed : Bool)
  | values (schema : σ)
  deriving Repr

/-- The `discriminator` keyword. -/
structure Discriminator where
  propertyName : String := ""
  /-- Property values and the references they stand for. -/
  mapping : Option (List (String × String)) := none
  deriving DecidableEq, Repr

/-- The keywords of a schema, each absent or present. -/
structure Schema where
  type : Option TypeKeyword := none
  /-- The `$ref` keyword. -/
  reference : Option String := none
  /-- The `schema` keyword: the node only wraps another one. -/
  wrapped : Option Schema := none
  properties : Option (List (String × Schema)) := none
  required : Option (List String) := none
  items : Option Schema := none
  enum : Option (List Json) := none
  anyOf : Option (List Schema) := none
  oneOf : Option (List Schema) := none
  allOf : Option (List Schema) := none
  additionalProperties : Option (AdditionalProperties Schema) := none
  discriminator : Option Discriminator := none
  format : Option String := none
  const : Option Json := none
  nullable : Option Bool := none
  deriving Repr, Inhabited

namespace Schema

/-- Whether null is admitted besides the declared types. -/
def isNullable (s : Schema) : Bool :=
  s.nullable == some true ||
    match s.type with
    | some (.many names) => names.contains "null"
    | _ => false

/-- The declared types in order. In a list, null is not one of them. -/
def declaredTypes (s : Schema) : List String :=
  match s.type with
  | some (.one name) => [name]
  | some (.many names) => names.filter (· ≠ "null")
  | none => []

/-- The first declared type, or else the type that the keywords for objects and arrays imply. -/
def primaryType (s : Schema) : Option String :=
  match s.declaredTypes with
  | name :: _ => some name
  | [] =>
      if s.properties.isSome || s.additionalProperties.isSome then some "object"
      else if s.items.isSome then some "array"
      else none

/-- Whether the schema combines others. -/
def isComposition (s : Schema) : Bool :=
  s.anyOf.isSome || s.oneOf.isSome || s.allOf.isSome

/-- The schema of the additional properties, if they have one. -/
def additionalSchema (s : Schema) : Option Schema :=
  match s.additionalProperties with
  | some (.values schema) => some schema
  | _ => none

end Schema

end ApiTypings.OpenApi
