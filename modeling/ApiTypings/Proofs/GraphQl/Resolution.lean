import ApiTypings.GraphQl.Projection
import ApiTypings.Proofs.Outcome
import ApiTypings.Proofs.TypeScript.Inside
import Mathlib.Data.List.Nodup

/-! # Names in the interfaces for GraphQL types

An interface and the fields that refer to it have the name of a type with its first character in
upper case. Which types get an interface does not depend on the fields, and which names fields refer
to does not depend on the interfaces.
-/

namespace ApiTypings.GraphQl

open TypeScript Outcome

/-! ## Interfaces -/

/-- The types that get an interface, with their names, in reported order. -/
def IntrospectionSchema.projected (skip : List String) (schema : IntrospectionSchema) :
    List (String × FullType) :=
  schema.types.filterMap fun t => (t.projectedName? skip).map (·, t)

theorem project_eq (skip : List String) (schema : IntrospectionSchema) :
    project skip schema = (schema.projected skip).mapM fun (name, t) => t.interface name := by
  unfold project IntrospectionSchema.projected
  induction schema.types with
  | nil => rfl
  | cons t types ih =>
      rw [List.filterMapM_cons, List.filterMap_cons, ih]
      cases t.projectedName? skip with
      | none => rfl
      | some name =>
          simp only [Option.map_some, List.mapM_cons]
          cases t.interface name <;> rfl

theorem interface_eq_ok {t : FullType} {name : String} {d : Declaration} :
    t.interface name = .ok d ↔
      ∃ properties, (t.fields.getD []).mapM Field.property = .ok properties ∧
        .interface (Text.capitalizeFirst name) { properties } = d :=
  bind_eq_ok.trans (by simp [pure, Except.pure])

/-- Names resolve: no two interfaces have the same name, and each name that an interface refers to
is that of a type of the language or of one interface. -/
structure Resolves (builtIn : String → Prop) (interfaces : List Declaration) : Prop where
  nodup : (interfaces.map Declaration.name).Nodup
  closed : ∀ d ∈ interfaces, ∀ name, d.RefersTo name →
    builtIn name ∨ (interfaces.map Declaration.name).count name = 1

theorem generate_eq_ok {root : Json} {options : Options} {output : Output} :
    generate root options = .ok output ↔
      ∃ schema interfaces, IntrospectionSchema.ofResult root = .ok schema ∧
        project defaultSkipped schema = .ok interfaces ∧
        output = { declarations := renderModule interfaces
                   client := (client (options.clientName.getD defaultClientName)).render } := by
  unfold generate
  cases IntrospectionSchema.ofResult root with
  | error cause =>
      constructor
      · intro h
        cases h
      · rintro ⟨schema, interfaces, h, -⟩
        cases h
  | ok schema =>
      simp only [pure_bind, Except.ok.injEq, exists_and_left, exists_eq_left']
      refine bind_eq_ok.trans (exists_congr fun interfaces => and_congr_right fun _ => ?_)
      exact ⟨fun h => (Except.ok.inj h).symm, fun h => congrArg Except.ok h.symm⟩

end ApiTypings.GraphQl
