import ApiTypings.TypeScript.Declaration
import ApiTypings.Proofs.TypeScript.Membership
import Mathlib.Logic.Relation

/-! # Types inside types

What holds of a type and of all types inside it, and the names that a type refers to.
-/

namespace ApiTypings.TypeScript

open Relation

namespace TypeExpr

/-- A type directly inside another one. -/
inductive Part : TypeExpr → TypeExpr → Prop
  | item {t : TypeExpr} : Part (.array t) t
  | value {t : TypeExpr} : Part (.record t) t
  | member {ts : List TypeExpr} {t : TypeExpr} (ht : t ∈ ts) : Part (.union ts) t
  | operand {ts : List TypeExpr} {t : TypeExpr} (ht : t ∈ ts) : Part (.intersection ts) t
  | property {shape : Shape TypeExpr} {p : Property TypeExpr} (hp : p ∈ shape.properties) :
      Part (.object shape) p.type
  | index {shape : Shape TypeExpr} {t : TypeExpr} (h : shape.index = some t) :
      Part (.object shape) t
  | argument {name : String} {ts : List TypeExpr} {t : TypeExpr} (ht : t ∈ ts) :
      Part (.generic name ts) t

theorem Part.sizeOf_lt {t u : TypeExpr} (h : t.Part u) : sizeOf u < sizeOf t := by
  cases h with
  | item | value => simp
  | member ht | operand ht | argument ht =>
      have := List.sizeOf_lt_of_mem ht
      simp
      omega
  | @property shape p hp =>
      have := List.sizeOf_lt_of_mem hp
      obtain ⟨properties, index⟩ := shape
      obtain ⟨name, type, optional⟩ := p
      simp at this ⊢
      omega
  | @index shape t h =>
      obtain ⟨properties, index⟩ := shape
      simp only at h
      subst h
      simp
      omega

/-- What goes over from the types directly inside to the type itself holds of every type. -/
theorem part_induction {P : TypeExpr → Prop} (step : ∀ t, (∀ u, t.Part u → P u) → P t)
    (t : TypeExpr) : P t :=
  step t fun u _ => part_induction step u
termination_by sizeOf t
decreasing_by exact Part.sizeOf_lt ‹_›

/-! ## Throughout a type -/

/-- A property that a type and every type inside it has. -/
def Throughout (Q : TypeExpr → Prop) (t : TypeExpr) : Prop :=
  ∀ u, ReflTransGen Part t u → Q u

variable {Q : TypeExpr → Prop} {t : TypeExpr}

theorem Throughout.self (h : t.Throughout Q) : Q t :=
  h t .refl

theorem Throughout.part {u : TypeExpr} (h : t.Throughout Q) (hu : t.Part u) : u.Throughout Q :=
  fun v hv => h v (.head hu hv)

theorem throughout_iff : t.Throughout Q ↔ Q t ∧ ∀ u, t.Part u → u.Throughout Q := by
  refine ⟨fun h => ⟨h.self, fun u hu => h.part hu⟩, ?_⟩
  rintro ⟨hself, hparts⟩ u hu
  rcases hu.cases_head with rfl | ⟨v, hv, hu⟩
  · exact hself
  · exact hparts v hv u hu

theorem throughout_primitive {p : Primitive} (h : Q (.primitive p)) :
    (primitive p).Throughout Q :=
  throughout_iff.mpr ⟨h, fun _ hu => by cases hu⟩

theorem throughout_literal {l : Literal} (h : Q (.literal l)) : (literal l).Throughout Q :=
  throughout_iff.mpr ⟨h, fun _ hu => by cases hu⟩

theorem throughout_named {name : String} (h : Q (.named name)) : (named name).Throughout Q :=
  throughout_iff.mpr ⟨h, fun _ hu => by cases hu⟩

theorem throughout_array (h : Q (.array t)) (ht : t.Throughout Q) : (array t).Throughout Q := by
  refine throughout_iff.mpr ⟨h, fun u hu => ?_⟩
  cases hu
  exact ht

theorem throughout_record (h : Q (.record t)) (ht : t.Throughout Q) : (record t).Throughout Q := by
  refine throughout_iff.mpr ⟨h, fun u hu => ?_⟩
  cases hu
  exact ht

theorem throughout_union {ts : List TypeExpr} (h : Q (.union ts))
    (hts : ∀ t ∈ ts, t.Throughout Q) : (union ts).Throughout Q := by
  refine throughout_iff.mpr ⟨h, fun u hu => ?_⟩
  cases hu with
  | member hu => exact hts u hu

theorem throughout_intersection {ts : List TypeExpr} (h : Q (.intersection ts))
    (hts : ∀ t ∈ ts, t.Throughout Q) : (intersection ts).Throughout Q := by
  refine throughout_iff.mpr ⟨h, fun u hu => ?_⟩
  cases hu with
  | operand hu => exact hts u hu

theorem throughout_generic {name : String} {ts : List TypeExpr} (h : Q (.generic name ts))
    (hts : ∀ t ∈ ts, t.Throughout Q) : (generic name ts).Throughout Q := by
  refine throughout_iff.mpr ⟨h, fun u hu => ?_⟩
  cases hu with
  | argument hu => exact hts u hu

theorem throughout_object {shape : Shape TypeExpr} (h : Q (.object shape))
    (hproperties : ∀ p ∈ shape.properties, p.type.Throughout Q)
    (hindex : ∀ t, shape.index = some t → t.Throughout Q) : (object shape).Throughout Q := by
  refine throughout_iff.mpr ⟨h, fun u hu => ?_⟩
  cases hu with
  | property hp => exact hproperties _ hp
  | index hu => exact hindex u hu

/-! ## Pinned fields -/

/-- Pinning a field keeps what holds throughout a type, if it does so in every single type and
string literals have it. -/
theorem Throughout.pinField {field value : String}
    (hpin : ∀ t, Q t → Q (t.pinField field value).1) (hliteral : ∀ s, Q (.literal (.string s)))
    (h : t.Throughout Q) : (t.pinField field value).1.Throughout Q := by
  induction t using part_induction with | step t ih
  have hself := hpin t h.self
  cases t with
  | primitive | literal | array | record | named | generic => exact h
  | union ts =>
      refine throughout_union hself fun u hu => ?_
      rw [fst_pinFields] at hu
      obtain ⟨t, ht, rfl⟩ := List.mem_map.mp hu
      exact ih t (.member ht) (h.part (.member ht))
  | intersection ts =>
      refine throughout_intersection hself fun u hu => ?_
      rw [fst_pinFields] at hu
      obtain ⟨t, ht, rfl⟩ := List.mem_map.mp hu
      exact ih t (.operand ht) (h.part (.operand ht))
  | object shape =>
      refine throughout_object hself ?_ fun u hu => h.part (.index hu)
      intro q hq
      simp only [List.map_map, List.mem_map, Function.comp_apply] at hq
      obtain ⟨p, hp, rfl⟩ := hq
      rcases pinProperty_eq field value p with ⟨-, -, hpinned⟩ | ⟨-, hpinned⟩ <;> rw [hpinned]
      · exact throughout_literal (hliteral value)
      · exact h.part (.property hp)

/-! ## Names -/

/-- The name that a type refers to by itself. -/
def ownName : TypeExpr → Option String
  | .array _ => some "Array"
  | .record _ => some "Record"
  | .named name | .generic name _ => some name
  | .primitive _ | .literal _ | .union _ | .intersection _ | .object _ => none

/-- A type refers to a name if it does so by itself or a type inside it does. -/
inductive RefersTo : TypeExpr → String → Prop
  | here {t : TypeExpr} {name : String} (h : t.ownName = some name) : RefersTo t name
  | inside {t u : TypeExpr} {name : String} (hu : t.Part u) (h : RefersTo u name) :
      RefersTo t name

/-- Whatever is true of the own names throughout a type is true of each name it refers to. -/
theorem RefersTo.of_throughout {P : String → Prop} {name : String} (h : t.RefersTo name)
    (ht : t.Throughout fun u => ∀ name, u.ownName = some name → P name) : P name := by
  induction h with
  | here h => exact ht.self _ h
  | inside hu _ ih => exact ih (ht.part hu)

theorem ownName_pinField (field value : String) (t : TypeExpr) :
    (t.pinField field value).1.ownName = t.ownName := by
  cases t <;> rfl

end TypeExpr

/-! ## Declarations -/

/-- The types that a definition is made of. The members of a union are named types. -/
def Definition.types : Definition → List TypeExpr
  | .interface shape methods =>
      .object shape :: methods.flatMap fun m => m.arguments.map (·.type) ++ [m.result]
  | .typeAlias type => [type]
  | .union members => members.map .named

namespace Declaration

/-- A declaration refers to the names that its types refer to. -/
def RefersTo (d : Declaration) (name : String) : Prop :=
  ∃ t ∈ d.definition.types, t.RefersTo name

/-- The names of the type parameters: what stands in front of their bounds. -/
def parameterNames (d : Declaration) : List String :=
  d.typeParameters.map fun parameter => String.ofList (parameter.toList.takeWhile (· ≠ ' '))

end Declaration

end ApiTypings.TypeScript
