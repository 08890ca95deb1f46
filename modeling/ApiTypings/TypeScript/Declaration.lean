import ApiTypings.TypeScript.TypeExpr

/-! # Declarations -/

namespace ApiTypings.TypeScript

structure Argument where
  name : String
  type : TypeExpr
  optional : Bool := false
  deriving Repr

structure Method where
  name : String
  typeParameters : List String := []
  arguments : List Argument := []
  result : TypeExpr
  deriving Repr

/-- What a declared name stands for. -/
inductive Definition where
  /-- An interface with properties and methods. -/
  | interface (shape : Shape TypeExpr) (methods : List Method)
  /-- Another name for a type. -/
  | typeAlias (type : TypeExpr)
  /-- The union of declared types. -/
  | union (members : List String)
  deriving Repr

/-- An exported declaration of a type. -/
structure Declaration where
  name : String
  typeParameters : List String := []
  definition : Definition
  deriving Repr

namespace Declaration

def interface (name : String) (shape : Shape TypeExpr) : Declaration :=
  { name, definition := .interface shape [] }

/-- An alias without type parameters. -/
def typeAlias (name : String) (type : TypeExpr) : Declaration :=
  { name, definition := .typeAlias type }

/-- The union of declared types, without type parameters. -/
def union (name : String) (members : List String) : Declaration :=
  { name, definition := .union members }

end Declaration

end ApiTypings.TypeScript
