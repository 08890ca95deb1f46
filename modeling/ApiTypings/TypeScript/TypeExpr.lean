import ApiTypings.Binary64.Basic

/-! # Type expressions -/

namespace ApiTypings.TypeScript

/-- The predefined types. `object` is the type of all objects, whatever their properties. -/
inductive Primitive where
  | string | number | boolean | null | undefined | unknown | object
  deriving DecidableEq, Repr

/-- A type with a single value. -/
inductive Literal where
  | string (value : String)
  | number (value : Binary64)
  | integer (value : Int)
  | boolean (value : Bool)
  | null
  deriving DecidableEq, Repr

/-- A property of an object type, over the type `τ` of type expressions. -/
structure Property (τ : Type) where
  name : String
  type : τ
  optional : Bool := false
  deriving DecidableEq, Repr

/-- The members of an object type: properties, and possibly one index signature for all other
keys. -/
structure Shape (τ : Type) where
  properties : List (Property τ) := []
  index : Option τ := none
  deriving DecidableEq, Repr, Inhabited

/-- Type expressions. -/
inductive TypeExpr where
  | primitive (name : Primitive)
  | literal (value : Literal)
  | array (item : TypeExpr)
  | union (members : List TypeExpr)
  | intersection (members : List TypeExpr)
  | object (shape : Shape TypeExpr)
  /-- Objects with arbitrary keys and values of one type. -/
  | record (value : TypeExpr)
  | named (name : String)
  | generic (name : String) (arguments : List TypeExpr)
  deriving Repr, Inhabited

/-! ## Shapes -/

namespace Shape

def isEmpty {τ : Type} (s : Shape τ) : Bool :=
  s.properties.isEmpty && s.index.isNone

def allOptional {τ : Type} (s : Shape τ) : Bool :=
  s.properties.all (·.optional)

end Shape

/-! ## Building types -/

namespace TypeExpr

def string : TypeExpr := .primitive .string

def number : TypeExpr := .primitive .number

def unknown : TypeExpr := .primitive .unknown

def null : TypeExpr := .primitive .null

/-- Admits null as well, if so asked. -/
def orNullIf (nullable : Bool) (t : TypeExpr) : TypeExpr :=
  if nullable then .union [t, null] else t

/-- The union of any number of types: nothing is known without members, and a single member
stands for itself. -/
def unionOf : List TypeExpr → TypeExpr
  | [] => unknown
  | [t] => t
  | members => .union members

/-- The intersection of any number of types: nothing is known without members, and a single
member stands for itself. -/
def intersectionOf : List TypeExpr → TypeExpr
  | [] => unknown
  | [t] => t
  | members => .intersection members

/-! ## Pinning a field -/

/-- Makes a property of a name a required literal if its type is the type of all strings, and
tells whether it did. -/
def pinProperty (field value : String) (p : Property TypeExpr) : Property TypeExpr × Bool :=
  match p.type with
  | .primitive .string =>
      if p.name = field then
        ({ p with type := .literal (.string value), optional := false }, true)
      else
        (p, false)
  | _ => (p, false)

mutual

/-- Pins the properties of a name in the object types that are reached through unions and
intersections, and tells whether there were any to pin. -/
def pinField (field value : String) : TypeExpr → TypeExpr × Bool
  | .object shape =>
      let pinned := shape.properties.map (pinProperty field value)
      (.object { shape with properties := pinned.map Prod.fst }, pinned.any Prod.snd)
  | .union members =>
      let pinned := pinFields field value members
      (.union pinned.1, pinned.2)
  | .intersection members =>
      let pinned := pinFields field value members
      (.intersection pinned.1, pinned.2)
  | t => (t, false)

/-- Pins the properties of a name in each type of a list. -/
def pinFields (field value : String) : List TypeExpr → List TypeExpr × Bool
  | [] => ([], false)
  | t :: rest =>
      let first := pinField field value t
      let others := pinFields field value rest
      (first.1 :: others.1, first.2 || others.2)

end

theorem fst_pinFields (field value : String) (ts : List TypeExpr) :
    (pinFields field value ts).1 = ts.map fun t => (pinField field value t).1 := by
  induction ts with
  | nil => rfl
  | cons t ts ih => simp [pinFields, ih]

theorem snd_pinFields (field value : String) (ts : List TypeExpr) :
    (pinFields field value ts).2 = ts.any fun t => (pinField field value t).2 := by
  induction ts with
  | nil => rfl
  | cons t ts ih => simp [pinFields, ih]

end TypeExpr

end ApiTypings.TypeScript
