import ApiTypings.OpenApi.Reference
import ApiTypings.TypeScript.Value

/-! # The types of schemas

Of the keywords that combine or replace schemas the first one counts: `$ref`, `schema`, `anyOf`,
`oneOf`, `allOf`, `const`. Without them the declared types decide, one after the other, together
with `items`, `enum`, `properties`, `additionalProperties` and `format`.
-/

namespace ApiTypings.OpenApi

open TypeScript

/-- Whether data travels to the server or from it. -/
inductive Direction where
  | request
  | response
  deriving DecidableEq, Repr

/-- The property value that marks the member behind a reference: its first key in the mapping, or
else the last key of the pointer. -/
def Discriminator.valueOf (d : Discriminator) (pointer : String) : String :=
  match (d.mapping.getD []).find? (·.2 = pointer) with
  | some (value, _) => value
  | none => Json.Pointer.lastKey pointer

namespace Schema

/-- The type of strings of a format. A client may also send a date as such. -/
def stringType (direction : Direction) (format : Option String) : TypeExpr :=
  if direction = .request ∧ (format = some "date" ∨ format = some "date-time") then
    .union [.string, .named "Date"]
  else
    .string

/-- The members of a `oneOf` with their discriminating properties pinned, if the discriminator
names a property and every member is a reference. -/
def pinMembers (discriminator : Option Discriminator) (members : List Schema)
    (types : List TypeExpr) : List TypeExpr :=
  match discriminator with
  | none => types
  | some d =>
      if d.propertyName ≠ "" ∧ members.all (·.reference.isSome) then
        List.zipWith (fun member type =>
          match member.reference with
          | some pointer => (type.pinField d.propertyName (d.valueOf pointer)).1
          | none => type) members types
      else
        types

/-- The object type with properties and with values of a schema under all other keys. A schema of
objects does not add to the properties: the values themselves have them. -/
def withValues (values : Schema) (shape : Shape TypeExpr)
    (valueType : Unit → Except GenerationError TypeExpr) : Except GenerationError TypeExpr :=
  if values.primaryType = some "object" then
    return .record (.object shape)
  else
    return .intersection [.object shape, .record (← valueType ())]

/-- Whether anything is known about the values that a schema admits. -/
def isInformative (s : Schema) : Bool :=
  s.primaryType.isSome || s.reference.isSome || s.isComposition

/-- The type of the values of one declared type, or of no declared type. The types of array items
and of objects are given, to be used where the declared type asks for them. -/
def typeNamed (direction : Direction) (s : Schema)
    (item object : Unit → Except GenerationError TypeExpr) (name : Option String) :
    Except GenerationError TypeExpr :=
  if name = some "array" then
    return .array (← item ())
  else
    match s.enum with
    | some values => return .ofEnumerated (name = some "string") values
    | none =>
        match name with
        | some "object" => object ()
        | some "string" => return stringType direction s.format
        | some "integer" | some "number" => return .number
        | some "boolean" => return .primitive .boolean
        | some "null" => return .null
        | _ => return .unknown

/-- The type of a schema without combining keywords, null apart. Several declared types share one
union of enumerated values, unless arrays are among them. -/
def declaredType (direction : Direction) (s : Schema)
    (item object : Unit → Except GenerationError TypeExpr) : Except GenerationError TypeExpr :=
  let names := s.declaredTypes
  if names.length < 2 then
    s.typeNamed direction item object s.primaryType
  else
    match s.enum, names.contains "array" with
    | some values, false => return .ofEnumerated false values
    | _, _ => return .union (← names.mapM fun name => s.typeNamed direction item object (some name))

variable (direction : Direction) (expand : String → Except GenerationError TypeExpr)

mutual

/-- The type of a schema, given the types behind references. -/
def typeWith : Schema → Except GenerationError TypeExpr
  | { type, reference, wrapped, properties, required, items, enum, anyOf, oneOf, allOf,
      additionalProperties, discriminator, format, const, nullable } =>
    match reference with
    | some pointer => expand pointer
    | none =>
      match wrapped with
      | some inner => typeWith inner
      | none =>
        match anyOf with
        | some members => return .unionOf (← typesWith members)
        | none =>
          match oneOf with
          | some members => return .unionOf (pinMembers discriminator members (← typesWith members))
          | none =>
            match allOf with
            | some members => return .intersectionOf (← typesWith members)
            | none =>
              match const.bind Literal.ofJson? with
              | some literal => return .literal literal
              | none => do
                  let s : Schema :=
                    { type, properties, items, enum, additionalProperties, format, nullable }
                  let core ← s.declaredType direction
                    (fun _ =>
                      match items with
                      | some item => typeWith item
                      | none => return .unknown)
                    (fun _ =>
                      match properties, additionalProperties with
                      | some properties, some (.values values) => do
                          let shape ← propertiesWith (required.getD []) properties
                          values.withValues { properties := shape } fun _ => typeWith values
                      | some properties, some (.flag true) => do
                          let shape ← propertiesWith (required.getD []) properties
                          return .object { properties := shape, index := some .unknown }
                      | some properties, _ => do
                          let shape ← propertiesWith (required.getD []) properties
                          return .object { properties := shape }
                      | none, some (.values values) => do
                          match ownPropertiesWith values with
                          | some shape =>
                              values.withValues { properties := ← shape } fun _ => typeWith values
                          | none =>
                              if values.isInformative then
                                return .record (← typeWith values)
                              else
                                return .primitive .object
                      | none, _ => return .primitive .object)
                  return core.orNullIf s.isNullable

def typesWith : List Schema → Except GenerationError (List TypeExpr)
  | [] => return []
  | s :: rest => do
      let type ← typeWith s
      return type :: (← typesWith rest)

def propertiesWith (required : List String) :
    List (String × Schema) → Except GenerationError (List (Property TypeExpr))
  | [] => return []
  | (name, s) :: rest => do
      let type ← typeWith s
      return { name, type, optional := !required.contains name } ::
        (← propertiesWith required rest)

/-- The properties that a schema lists itself, if it has a list of them. -/
def ownPropertiesWith :
    Schema → Option (Except GenerationError (List (Property TypeExpr)))
  | { properties, required, .. } =>
      match properties with
      | some properties => some (propertiesWith (required.getD []) properties)
      | none => none

end

theorem typesWith_eq_mapM (members : List Schema) :
    typesWith direction expand members = members.mapM (typeWith direction expand) := by
  induction members with
  | nil => rfl
  | cons s rest ih => simp [typesWith, ih]

theorem propertiesWith_eq_mapM (required : List String) (properties : List (String × Schema)) :
    propertiesWith direction expand required properties =
      properties.mapM fun (name, s) => do
        let type ← typeWith direction expand s
        return { name, type, optional := !required.contains name } := by
  induction properties with
  | nil => rfl
  | cons p rest ih =>
      obtain ⟨name, s⟩ := p
      simp [propertiesWith, ih]

end Schema

namespace Document

/-- The type behind a reference, where some references are being expanded already. The first
argument bounds how many more are. -/
def expand (doc : Document) (direction : Direction) :
    Nat → List String → String → Except GenerationError TypeExpr
  | room, active, pointer => do
      let target ← doc.resolve Schema.read pointer
      if pointer ∈ active then
        .error (.cyclicReference pointer)
      else
        match room with
        | 0 => .error (doc.overflow pointer)
        | room + 1 => target.typeWith direction (expand doc direction room (pointer :: active))

/-- The type of a schema in a document. -/
def typeOf (doc : Document) (direction : Direction) (s : Schema) :
    Except GenerationError TypeExpr :=
  s.typeWith direction (doc.expand direction doc.room [])

end Document

end ApiTypings.OpenApi
