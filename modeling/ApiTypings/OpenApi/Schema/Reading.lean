import ApiTypings.OpenApi.Schema.Basic
import ApiTypings.Reading

/-! # Reading schemas

The reader is a recursion on the JSON value. Its main statement, `Schema.read_eq_record`, says
that it is the reader of the record whose fields are the keywords.
-/

namespace ApiTypings.OpenApi

def TypeKeyword.read : Reader TypeKeyword
  | .text name => .ok (.one name)
  | value =>
      match Reader.list Reader.text value with
      | .ok names => .ok (.many names)
      | .error _ => .error (.noAlternative "SchemaType")

def Discriminator.read : Reader Discriminator :=
  Reader.record "Discriminator" {}
    [Reader.trailingField "propertyName" Reader.text fun name d => { d with propertyName := name },
     Reader.field "mapping" (Reader.optional (Reader.entries Reader.text)) fun mapping d =>
       { d with mapping }]

/-- Reads a flag, or else a schema by the given reader. -/
def AdditionalProperties.read {σ : Type} (schema : Reader σ) : Reader (AdditionalProperties σ)
  | .boolean allowed => .ok (.flag allowed)
  | value =>
      match schema value with
      | .ok s => .ok (.values s)
      | .error _ => .error (.noAlternative "AdditionalProperties")

namespace Schema

/-- The keywords in their declared order. -/
inductive Keyword where
  | type | ref | schema | properties | required | items | enum | anyOf | oneOf | allOf
  | additionalProperties | discriminator | format | const | nullable
  deriving DecidableEq, Repr

namespace Keyword

/-- All keywords in their declared order. -/
def all : List Keyword :=
  [.type, .ref, .schema, .properties, .required, .items, .enum, .anyOf, .oneOf, .allOf,
   .additionalProperties, .discriminator, .format, .const, .nullable]

/-- The key of a keyword. -/
def key : Keyword → String
  | .type => "type"
  | .ref => "$ref"
  | .schema => "schema"
  | .properties => "properties"
  | .required => "required"
  | .items => "items"
  | .enum => "enum"
  | .anyOf => "anyOf"
  | .oneOf => "oneOf"
  | .allOf => "allOf"
  | .additionalProperties => "additionalProperties"
  | .discriminator => "discriminator"
  | .format => "format"
  | .const => "const"
  | .nullable => "nullable"

def ofKey? (key : String) : Option Keyword :=
  all.find? (·.key = key)

/-- Reads the value of a keyword and sets it. The value read as a schema, as a list of schemas
and as a map of schemas is given, to be used where the keyword asks for it. -/
def set (keyword : Keyword) (value : Json) (one : Unit → Except ReadError Schema)
    (list : Unit → Except ReadError (List Schema))
    (map : Unit → Except ReadError (List (String × Schema))) (s : Schema) :
    Except ReadError Schema :=
  match keyword with
  | .type => return { s with type := ← Reader.optional TypeKeyword.read value }
  | .ref => return { s with reference := ← Reader.optional Reader.text value }
  | .schema => return { s with wrapped := ← Reader.optional (fun _ => one ()) value }
  | .properties => return { s with properties := ← Reader.optional (fun _ => map ()) value }
  | .required => return { s with required := ← Reader.optional (Reader.list Reader.text) value }
  | .items => return { s with items := ← Reader.optional (fun _ => one ()) value }
  | .enum => return { s with enum := ← Reader.optional (Reader.list .ok) value }
  | .anyOf => return { s with anyOf := ← Reader.optional (fun _ => list ()) value }
  | .oneOf => return { s with oneOf := ← Reader.optional (fun _ => list ()) value }
  | .allOf => return { s with allOf := ← Reader.optional (fun _ => list ()) value }
  | .additionalProperties =>
      return { s with
        additionalProperties :=
          ← Reader.optional (AdditionalProperties.read fun _ => one ()) value }
  | .discriminator =>
      return { s with discriminator := ← Reader.optional Discriminator.read value }
  | .format => return { s with format := ← Reader.optional Reader.text value }
  | .const => return { s with const := ← Reader.raw value }
  | .nullable => return { s with nullable := ← Reader.optional Reader.boolean value }

end Keyword

mutual

def read : Json → Except ReadError Schema
  | .object entries => readEntries entries {}
  | .array items => readItems 0 Keyword.all items {}
  | other => .error (.unexpected other.outline (.record "Schema"))

/-- Sets the keywords that have entries. -/
def readEntries : List (String × Json) → Schema → Except ReadError Schema
  | [], s => .ok s
  | (key, value) :: rest, s =>
      match Keyword.ofKey? key with
      | some keyword => do
          readEntries rest (← keyword.set value (fun _ => read value) (fun _ => readList value)
            (fun _ => readMap value) s)
      | none => readEntries rest s

/-- Sets the keywords that have items, in their declared order. -/
def readItems : Nat → List Keyword → List Json → Schema → Except ReadError Schema
  | _, [], [], s => .ok s
  | index, [], rest, _ => .error (.surplus (index + rest.length))
  | index, _ :: _, [], _ => .error (.missingField index "Schema" Keyword.all.length)
  | index, keyword :: keywords, value :: rest, s => do
      readItems (index + 1) keywords rest (← keyword.set value (fun _ => read value)
        (fun _ => readList value) (fun _ => readMap value) s)

def readList : Json → Except ReadError (List Schema)
  | .array items => readAll items
  | other => .error (.unexpected other.outline .sequence)

def readAll : List Json → Except ReadError (List Schema)
  | [] => .ok []
  | value :: rest => do
      let s ← read value
      return s :: (← readAll rest)

def readMap : Json → Except ReadError (List (String × Schema))
  | .object entries => readValues entries
  | other => .error (.unexpected other.outline .map)

/-- Reads the schemas under keys one after the other. -/
def readValues : List (String × Json) → Except ReadError (List (String × Schema))
  | [] => .ok []
  | (key, value) :: rest => do
      let s ← read value
      return (key, s) :: (← readValues rest)

end

/-! ## The reader as a record reader -/

theorem readAll_eq_mapM (items : List Json) : readAll items = items.mapM read := by
  induction items with
  | nil => rfl
  | cons value rest ih => simp [readAll, ih]

theorem readList_eq_list (value : Json) : readList value = Reader.list read value := by
  cases value <;> simp [readList, Reader.list, readAll_eq_mapM]

theorem readValues_eq_mapM (entries : List (String × Json)) :
    readValues entries = entries.mapM fun (key, value) => (key, ·) <$> read value := by
  induction entries with
  | nil => rfl
  | cons e rest ih =>
      obtain ⟨key, value⟩ := e
      simp [readValues, ih]

theorem readMap_eq_entries (value : Json) : readMap value = Reader.entries read value := by
  cases value <;> simp [readMap, Reader.entries, readValues_eq_mapM]

/-- The field of a keyword. -/
def Keyword.field (keyword : Keyword) : Reader.Field Schema where
  key := keyword.key
  set value := keyword.set value (fun _ => read value) (fun _ => Reader.list read value)
    (fun _ => Reader.entries read value)

theorem find?_field (key : String) :
    (Keyword.all.map Keyword.field).find? (·.key = key) =
      (Keyword.ofKey? key).map Keyword.field := by
  rw [List.find?_map]
  rfl

theorem readEntries_eq_setEntries (entries : List (String × Json)) (s : Schema) :
    readEntries entries s = Reader.setEntries (Keyword.all.map Keyword.field) entries s := by
  induction entries generalizing s with
  | nil => rfl
  | cons e rest ih =>
      obtain ⟨key, value⟩ := e
      rw [readEntries, Reader.setEntries, List.foldlM_cons, Reader.setEntry, find?_field]
      cases Keyword.ofKey? key with
      | none => exact ih s
      | some keyword =>
          simp only [Option.map_some, Keyword.field, readList_eq_list, readMap_eq_entries]
          congr 1
          funext s
          exact ih s

theorem readItems_eq_setItems (index : Nat) (keywords : List Keyword) (items : List Json)
    (s : Schema) :
    readItems index keywords items s =
      Reader.setItems "Schema" Keyword.all.length index (keywords.map Keyword.field) items s := by
  induction items generalizing index keywords s with
  | nil => cases keywords <;> simp [readItems, Reader.setItems, Keyword.field]
  | cons value rest ih =>
      cases keywords with
      | nil => simp [readItems, Reader.setItems]
      | cons keyword keywords =>
          simp only [List.map_cons, readItems, Reader.setItems, Keyword.field, readList_eq_list,
            readMap_eq_entries]
          congr 1
          funext s
          exact ih _ _ _

/-- A schema is read as the record of its keywords. -/
theorem read_eq_record (value : Json) :
    read value = Reader.record "Schema" {} (Keyword.all.map Keyword.field) value := by
  cases value <;>
    simp [read, Reader.record, readEntries_eq_setEntries, readItems_eq_setItems]

end Schema

end ApiTypings.OpenApi
