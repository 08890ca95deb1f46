import ApiTypings.Binary64.Shortest
import ApiTypings.Json.Basic
import ApiTypings.TypeScript.TypeExpr

/-! # The literal of a JSON value -/

namespace ApiTypings.TypeScript

namespace Literal

/-- The literal of a number: an integer if it is one of 64 bits with a sign, else a double. -/
def ofNumber? : Json.Number → Option Literal
  | .integer i =>
      if -0x8000000000000000 ≤ i ∧ i < 0x8000000000000000 then some (.integer i)
      else (Binary64.ofNat? i.natAbs).map fun d => .number (if i < 0 then d.neg else d)
  | .double d => some (.number d)

/-- The literal of a JSON scalar. Arrays and objects have none. -/
def ofJson? : Json → Option Literal
  | .null => some .null
  | .boolean b => some (.boolean b)
  | .number n => ofNumber? n
  | .text s => some (.string s)
  | .array _ | .object _ => none

/-- The string literal with the text of a number or boolean. Null stays null. -/
def asString : Literal → Literal
  | .string s => .string s
  | .number d => .string d.render
  | .integer i => .string (toString i)
  | .boolean b => .string (if b then "true" else "false")
  | .null => .null

/-- The literal of an enumerated value, which is a string literal where the type is `string`. -/
def ofEnumerated? (asText : Bool) (value : Json) : Option Literal :=
  (ofJson? value).map fun l => if asText then l.asString else l

end Literal

/-- The union of the literals of enumerated values. A value without a literal may be anything. -/
def TypeExpr.ofEnumerated (asText : Bool) (values : List Json) : TypeExpr :=
  unionOf (values.map fun value =>
    match Literal.ofEnumerated? asText value with
    | some l => .literal l
    | none => unknown)

end ApiTypings.TypeScript
