import ApiTypings.Binary64.Shortest
import ApiTypings.Text.Quoted
import ApiTypings.TypeScript.Declaration

/-! # The text of types and declarations

Property names and string literals are always quoted. A union inside an intersection has
parentheses; no other type needs them.
-/

namespace ApiTypings.TypeScript

def Primitive.render : Primitive → String
  | .string => "string"
  | .number => "number"
  | .boolean => "boolean"
  | .null => "null"
  | .undefined => "undefined"
  | .unknown => "unknown"
  | .object => "object"

def Literal.render : Literal → String
  | .string s => Text.quote s
  | .number d => d.render
  | .integer i => toString i
  | .boolean b => if b then "true" else "false"
  | .null => "null"

/-- The mark behind the name of something optional. -/
def optionalMark (optional : Bool) : String :=
  if optional then "?" else ""

namespace TypeExpr

/-- Puts parentheses around the text of a type that is a union. -/
def parenthesized : TypeExpr → String → String
  | .union _, text => "(" ++ text ++ ")"
  | _, text => text

mutual

/-- The text of a type. -/
def render : TypeExpr → String
  | .primitive p => p.render
  | .literal l => l.render
  | .array item => "Array<" ++ item.render ++ ">"
  | .union members => " | ".intercalate (renderAll members)
  | .intersection members => " & ".intercalate (renderOperands members)
  | .object ⟨properties, index⟩ =>
      match renderProperties properties ++ renderIndex index with
      | [] => "\x7b\x7d"
      | members => "\x7b " ++ "; ".intercalate members ++ " \x7d"
  | .record value => "Record<string, " ++ value.render ++ ">"
  | .named name => name
  | .generic name arguments => name ++ "<" ++ ", ".intercalate (renderAll arguments) ++ ">"

def renderAll : List TypeExpr → List String
  | [] => []
  | t :: rest => t.render :: renderAll rest

/-- The texts of types as operands of an intersection. -/
def renderOperands : List TypeExpr → List String
  | [] => []
  | t :: rest => t.parenthesized t.render :: renderOperands rest

def renderProperties : List (Property TypeExpr) → List String
  | [] => []
  | ⟨name, type, optional⟩ :: rest =>
      (Text.quote name ++ optionalMark optional ++ ": " ++ type.render) :: renderProperties rest

/-- The text of an index signature, if there is one. -/
def renderIndex : Option TypeExpr → List String
  | none => []
  | some value => ["[key: string]: " ++ value.render]

end

theorem renderAll_eq_map (ts : List TypeExpr) : renderAll ts = ts.map render := by
  induction ts with
  | nil => rfl
  | cons t ts ih => simp [renderAll, ih]

theorem renderOperands_eq_map (ts : List TypeExpr) :
    renderOperands ts = ts.map fun t => t.parenthesized t.render := by
  induction ts with
  | nil => rfl
  | cons t ts ih => simp [renderOperands, ih]

end TypeExpr

def Property.render (p : Property TypeExpr) : String :=
  Text.quote p.name ++ optionalMark p.optional ++ ": " ++ p.type.render

theorem TypeExpr.renderProperties_eq_map (ps : List (Property TypeExpr)) :
    renderProperties ps = ps.map Property.render := by
  induction ps with
  | nil => rfl
  | cons p ps ih => simp [renderProperties, Property.render, ih]

/-- The texts of the members of a shape: its properties, then its index signature. -/
def Shape.renderMembers (s : Shape TypeExpr) : List String :=
  TypeExpr.renderProperties s.properties ++ TypeExpr.renderIndex s.index

def Argument.render (a : Argument) : String :=
  a.name ++ optionalMark a.optional ++ ": " ++ a.type.render

def renderTypeParameters (parameters : List String) : String :=
  if parameters.isEmpty then "" else "<" ++ ", ".intercalate parameters ++ ">"

def Method.render (m : Method) : String :=
  m.name ++ renderTypeParameters m.typeParameters ++
    "(" ++ ", ".intercalate (m.arguments.map Argument.render) ++ "): " ++ m.result.render

/-- The text of a declaration, with its line end. -/
def Declaration.render (d : Declaration) : String :=
  let head := d.name ++ renderTypeParameters d.typeParameters
  match d.definition with
  | .interface shape methods =>
      let members := shape.renderMembers ++ methods.map Method.render
      "export interface " ++ head ++ " \x7b\n" ++
        String.join (members.map fun member => "  " ++ member ++ ";\n") ++ "\x7d\n"
  | .typeAlias type => "export type " ++ head ++ " = " ++ type.render ++ ";\n"
  | .union members => "export type " ++ head ++ " = " ++ "\n| ".intercalate members ++ ";\n"

/-- The text of a module: its declarations with an empty line between them. -/
def renderModule (declarations : List Declaration) : String :=
  "\n".intercalate (declarations.map Declaration.render)

end ApiTypings.TypeScript
