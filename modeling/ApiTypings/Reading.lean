import ApiTypings.Binary64.Shortest
import ApiTypings.Json.Basic
import ApiTypings.Text.Printable

/-! # Reading JSON values as typed values

A record is read from an object, whose keys are taken in document order and whose unknown keys are
passed over, or from an array that lists its fields in their declared order. The first failure
ends the reading.
-/

namespace ApiTypings

/-- What a message tells of a value. -/
inductive Json.Outline where
  | null
  | boolean (value : Bool)
  | number (value : Json.Number)
  | text (value : String)
  | sequence
  | map
  deriving DecidableEq, Repr

/-- The outline of a value: scalars as they are, containers without their contents. -/
def Json.outline : Json → Json.Outline
  | .null => .null
  | .boolean b => .boolean b
  | .number n => .number n
  | .text s => .text s
  | .array _ => .sequence
  | .object _ => .map

def Json.Outline.describe : Json.Outline → String
  | .null => "null"
  | .boolean b => "boolean `" ++ (if b then "true" else "false") ++ "`"
  | .number (.integer i) => "integer `" ++ toString i ++ "`"
  | .number (.double d) => "floating point `" ++ d.renderPointed ++ "`"
  | .text s => "string " ++ Text.spell s
  | .sequence => "sequence"
  | .map => "map"

/-- What a reader asked for. -/
inductive Expected where
  | boolean
  | text
  | sequence
  | map
  | record (name : String)
  deriving DecidableEq, Repr

def Expected.describe : Expected → String
  | .boolean => "a boolean"
  | .text => "a string"
  | .sequence => "a sequence"
  | .map => "a map"
  | .record name => "struct " ++ name

/-- Why a value could not be read. -/
inductive ReadError where
  /-- The value is of another kind. -/
  | unexpected (found : Json.Outline) (expected : Expected)
  /-- An array ends before the field at an index that cannot be left out. -/
  | missingField (index : Nat) (record : String) (fields : Nat)
  /-- An array goes on after the last field. -/
  | surplus (length : Nat)
  /-- None of the alternatives fits. -/
  | noAlternative (choice : String)
  /-- The failure is inside the entry under a key. -/
  | atKey (key : String) (cause : ReadError)
  deriving DecidableEq, Repr

def ReadError.message : ReadError → String
  | .unexpected found expected =>
      "invalid type: " ++ found.describe ++ ", expected " ++ expected.describe
  | .missingField index record fields =>
      "invalid length " ++ toString index ++ ", expected struct " ++ record ++ " with " ++
        toString fields ++ (if fields = 1 then " element" else " elements")
  | .surplus length =>
      "invalid length " ++ toString length ++ ", expected fewer elements in array"
  | .noAlternative choice => "data did not match any variant of untagged enum " ++ choice
  | .atKey key cause => key ++ ": " ++ cause.message

/-- A way to read a value. -/
abbrev Reader (α : Type) := Json → Except ReadError α

namespace Reader

variable {α : Type}

def text : Reader String
  | .text s => .ok s
  | other => .error (.unexpected other.outline .text)

def boolean : Reader Bool
  | .boolean b => .ok b
  | other => .error (.unexpected other.outline .boolean)

/-- Reads null as nothing, and any other value as the reader does. -/
def optional (read : Reader α) : Reader (Option α)
  | .null => .ok none
  | value => some <$> read value

/-- Keeps any value but null as it is. -/
def raw : Reader (Option Json)
  | .null => .ok none
  | value => .ok (some value)

def list (read : Reader α) : Reader (List α)
  | .array items => items.mapM read
  | other => .error (.unexpected other.outline .sequence)

/-- Reads the values of an object and keeps its keys. -/
def entries (read : Reader α) : Reader (List (String × α))
  | .object entries => entries.mapM fun (key, value) => (key, ·) <$> read value
  | other => .error (.unexpected other.outline .map)

/-- Whether a key marks an extension. -/
def isExtension (key : String) : Bool :=
  "x-".toList.isPrefixOf key.toList

/-- Reads the values of an object but those of extensions. A failure tells the key it is under. -/
def plainEntries (read : Reader α) : Reader (List (String × α))
  | .object entries =>
      (entries.filter (!isExtension ·.1)).mapM fun (key, value) =>
        match read value with
        | .ok a => .ok (key, a)
        | .error cause => .error (.atKey key cause)
  | other => .error (.unexpected other.outline .map)

/-! ## Records -/

/-- A field of a record under construction. -/
structure Field (α : Type) where
  key : String
  /-- Whether an array may end before the field. -/
  trailing : Bool := false
  /-- Reads the field and sets it. -/
  set : Json → α → Except ReadError α

/-- A field that a reader reads and an update sets. -/
def field {β : Type} (key : String) (read : Reader β) (update : β → α → α) : Field α where
  key := key
  set value record := do return update (← read value) record

/-- A field as `field`, which an array need not reach. -/
def trailingField {β : Type} (key : String) (read : Reader β) (update : β → α → α) : Field α :=
  { field key read update with trailing := true }

/-- Sets the field that an entry is for, if there is one. -/
def setEntry (fields : List (Field α)) (record : α) (entry : String × Json) :
    Except ReadError α :=
  match fields.find? (·.key = entry.1) with
  | some field => field.set entry.2 record
  | none => .ok record

/-- Sets the fields that have entries, in the order of the entries. -/
def setEntries (fields : List (Field α)) (entries : List (String × Json)) (record : α) :
    Except ReadError α :=
  entries.foldlM (setEntry fields) record

/-- Sets the fields that an array has items for. The index is that of the first field. -/
def setItems (name : String) (count : Nat) :
    Nat → List (Field α) → List Json → α → Except ReadError α
  | _, [], [], record => .ok record
  | index, [], items, _ => .error (.surplus (index + items.length))
  | index, field :: fields, [], record =>
      if field.trailing then setItems name count (index + 1) fields [] record
      else .error (.missingField index name count)
  | index, field :: fields, item :: items, record => do
      setItems name count (index + 1) fields items (← field.set item record)

/-- Reads a record from its entries or its items; fields without a value keep what they have in
the blank record. -/
def record (name : String) (blank : α) (fields : List (Field α)) : Reader α
  | .object entries => setEntries fields entries blank
  | .array items => setItems name fields.length 0 fields items blank
  | other => .error (.unexpected other.outline (.record name))

end Reader

end ApiTypings
