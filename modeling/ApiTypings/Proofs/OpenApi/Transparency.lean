import ApiTypings.Proofs.OpenApi.Contexts
import ApiTypings.Proofs.OpenApi.Cycles

/-! # References are transparent

A reference has the type of the schema that it designates, wherever it stands. Beside it one more
reference is active, but a schema with a type does not come back to that one.
-/

namespace ApiTypings.OpenApi.Document

open Relation Outcome TypeScript

variable {doc : Document} {direction : Direction} {room room' : Nat} {active active' : List String}
  {p : String} {type : TypeExpr}

/-- An expansion that succeeds does so with more room, and beside any references that it does not
lead to. -/
theorem expand_eq_ok_of_not_leads (h : doc.expand direction room active p = .ok type)
    (hroom : room ≤ room') (hactive : ∀ a ∈ active', ¬ReflTransGen doc.Leads p a) :
    doc.expand direction room' active' p = .ok type := by
  induction room generalizing room' active active' p type with
  | zero =>
      obtain ⟨-, _, n, -, hzero, -⟩ := expand_eq_ok h
      contradiction
  | succ room ih =>
      obtain ⟨-, target, n, ht, hn, htype⟩ := expand_eq_ok h
      cases hn
      obtain ⟨room', rfl⟩ := Nat.exists_eq_add_one.mpr (Nat.lt_of_lt_of_le room.succ_pos hroom)
      have hp : p ∉ active' := fun hmem => hactive p hmem .refl
      have hsame : target.typeWith direction (doc.expand direction room (p :: active)) =
          target.typeWith direction (doc.expand direction room' (p :: active')) := by
        refine Schema.typeWith_congr target fun q hq => ?_
        have hlead : doc.Leads p q := ⟨target, ht, hq⟩
        obtain ⟨type', hexpand⟩ := hq.exists_expand_eq_ok htype
        rw [hexpand]
        refine (ih hexpand (Nat.le_of_succ_le_succ hroom) fun a ha hreach => ?_).symm
        rcases List.mem_cons.mp ha with rfl | ha
        · exact not_cyclic_of_expand_eq_ok h .refl (TransGen.head' hlead hreach)
        · exact hactive a ha (hreach.head hlead)
      unfold expand
      rw [ht]
      simp only [bind, Except.bind, if_neg hp]
      exact hsame ▸ htype

/-- A reference by itself has the type of the schema that it designates. -/
theorem sameType_reference {root : Json} {target : Schema}
    (hp : (ofJson root).resolve Schema.read p = .ok target) :
    Schema.SameType direction ((ofJson root).expand direction (ofJson root).room [])
      { reference := some p } target := by
  intro type
  rw [Schema.typeWith_of_reference direction _ rfl]
  constructor
  · intro h
    obtain ⟨-, target', n, hp', hroom, htype⟩ := expand_eq_ok h
    obtain rfl : target = target' := Except.ok.inj (hp.symm.trans hp')
    rw [← htype]
    refine Schema.typeWith_congr target fun q hq => ?_
    obtain ⟨type', hexpand⟩ := hq.exists_expand_eq_ok htype
    rw [hexpand]
    exact expand_eq_ok_of_not_leads hexpand (by omega) (by simp)
  · intro htype
    have hlength : (references root).length ≤ root.texts.length :=
      Nat.le_of_lt_succ (length_references_lt_room root)
    unfold expand
    rw [hp]
    simp only [bind, Except.bind, List.not_mem_nil, if_false]
    refine Eq.trans (Schema.typeWith_congr target fun q hq => ?_) htype
    have hlead : (ofJson root).Leads p q := ⟨target, hp, hq⟩
    obtain ⟨type', hexpand⟩ := hq.exists_expand_eq_ok htype
    rw [hexpand]
    -- With one unit of room less there is still room for the references of the document.
    have hless : (ofJson root).expand direction (ofJson root).room [] q =
        (ofJson root).expand direction root.texts.length [] q :=
      expand_congr rfl hlead.mem_references (.nil (Nat.le_succ_of_le hlength)) (.nil hlength)
    rw [hless] at hexpand
    refine expand_eq_ok_of_not_leads hexpand (Nat.le_refl _) fun a ha hreach => ?_
    rw [List.mem_singleton.mp ha] at hreach
    exact not_cyclic_of_expand_eq_ok hexpand hreach (TransGen.head' hlead hreach)

/-- References are transparent: in any context that admits a reference, a reference has the same
type as the schema that it designates, if one of them has a type. -/
theorem typeOf_fill_reference (root : Json) (direction : Direction) (pointer : String)
    (target : Schema) (hp : (ofJson root).resolve Schema.read pointer = .ok target)
    (c : Schema.Context) (hc : c.AdmitsReference) (type : TypeExpr) :
    (ofJson root).typeOf direction (c.fill { reference := some pointer }) = .ok type ↔
      (ofJson root).typeOf direction (c.fill target) = .ok type :=
  Schema.Context.sameType_fill hc (sameType_reference hp) type

/-- A reference to a schema with another reference, as an array item inside a member of a `oneOf`
with a discriminator. -/
theorem typeOf_fill_reference_of_nested :
    let root : Json := .object
      [("Name", .object [("type", .text "string")]),
       ("Pet", .object [("properties", .object [("name", .object [("$ref", .text "#/Name")])])])]
    let target : Schema := { properties := some [("name", { reference := some "#/Name" })] }
    let pets : Schema.Context := .property {} [] "pets" (.item {} .hole) []
    let c : Schema.Context := .oneOf { discriminator := some { propertyName := "kind" } }
      [{ reference := some "#/Pet" }] pets []
    let pet : TypeExpr :=
      .object { properties := [{ name := "name", type := .string, optional := true }] }
    let type : TypeExpr := .union
      [pet, .object { properties := [{ name := "pets", type := .array pet, optional := true }] }]
    (ofJson root).resolve Schema.read "#/Pet" = .ok target ∧ c.AdmitsReference ∧
      (ofJson root).typeOf .response (c.fill { reference := some "#/Pet" }) = .ok type ∧
      (ofJson root).typeOf .response (c.fill target) = .ok type := by
  intro root target pets c pet type
  have hp : (ofJson root).resolve Schema.read "#/Pet" = .ok target := by rfl
  have hc : c.AdmitsReference := ⟨nofun, trivial⟩
  have h : (ofJson root).typeOf .response (c.fill { reference := some "#/Pet" }) = .ok type := by
    rfl
  exact ⟨hp, hc, h, (typeOf_fill_reference root .response "#/Pet" target hp c hc type).mp h⟩

end ApiTypings.OpenApi.Document
