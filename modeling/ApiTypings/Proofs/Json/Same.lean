import ApiTypings.Json.Basic
import Mathlib.Data.List.Forall2
import Mathlib.Data.Option.Defs

/-! # Equality of JSON values

Numbers are compared as the doubles that they denote, and objects without regard to the order of
their keys.
-/

namespace ApiTypings.Json

/-- The double that a number denotes. -/
def Number.double? : Number → Option Binary64
  | .integer i => (Binary64.ofNat? i.natAbs).map fun d => if i < 0 then d.neg else d
  | .double d => some d

/-- Whether two numbers denote the same double. The zeros are one number. -/
def Number.Same (m n : Number) : Prop :=
  m = n ∨ ∃ d e, m.double? = some d ∧ n.double? = some e ∧ (d = e ∨ d.isZero ∧ e.isZero)

/-- Whether two values are equal. -/
inductive Same : Json → Json → Prop
  | null : Same .null .null
  | boolean (b : Bool) : Same (.boolean b) (.boolean b)
  | number {m n : Number} (h : m.Same n) : Same (.number m) (.number n)
  | text (s : String) : Same (.text s) (.text s)
  | array {vs ws : List Json} (h : List.Forall₂ Same vs ws) : Same (.array vs) (.array ws)
  | object {es fs : List (String × Json)}
      (h : ∀ key, Option.Rel Same (get? key es) (get? key fs)) : Same (.object es) (.object fs)

end ApiTypings.Json
