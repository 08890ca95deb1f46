import ApiTypings.Proofs.Json.Keys
import ApiTypings.Proofs.OpenApi.Typed

/-! # Names of properties

If no object in a document has a key twice, no object type has a property twice.
-/

namespace ApiTypings.OpenApi

open TypeScript Outcome Reader

/-! ## Properties of schemas -/

/-- No list of properties in a schema has a key twice. -/
def Schema.HasDistinctNames (s : Schema) : Prop :=
  ∀ t, Relation.ReflTransGen Child s t → ∀ properties, t.properties = some properties →
    (properties.map Prod.fst).Nodup

theorem Schema.hasDistinctNames_of_child {s : Schema}
    (h : ∀ properties, s.properties = some properties → (properties.map Prod.fst).Nodup)
    (hchild : ∀ t, Child s t → t.HasDistinctNames) : s.HasDistinctNames := by
  intro t ht
  rcases ht.cases_head with rfl | ⟨u, hu, ht⟩
  · exact h
  · exact hchild u hu t ht

theorem Schema.hasDistinctNames_of_type (type : TypeKeyword) :
    Schema.HasDistinctNames { type := some type } :=
  hasDistinctNames_of_child (by simp) fun t ht => by cases ht <;> contradiction

theorem keys_of_entries {α : Type} {read : Reader α} {node : Json} {as : List (String × α)}
    (h : entries read node = .ok as) : as.map Prod.fst = node.keys := by
  cases node with
  | object entries =>
      refine (map_eq_map_of_forall₂ (mapM_eq_ok.mp h) fun e a ha => ?_).symm
      obtain ⟨value, -, rfl⟩ := map_eq_ok.mp ha
      rfl
  | _ => cases h

variable {root : Json} (hroot : root.HasDistinctKeys)
include hroot

theorem Schema.nodup_properties {s : Schema} (h : FoundIn Schema.read root s) :
    ∀ properties, s.properties = some properties → (properties.map Prod.fst).Nodup := by
  rw [funext Schema.read_eq_record, map_field_eq_fields] at h
  refine h.record_induction (P := fun s =>
    ∀ properties, s.properties = some properties → (properties.map Prod.fst).Nodup) (by simp) ?_
  simp only [fields, List.forall_mem_cons, List.not_mem_nil, false_implies, implies_true, and_true]
  refine ⟨keeps_field ?type, keeps_field ?ref, keeps_field ?schema, keeps_field ?properties,
    keeps_field ?required, keeps_field ?items, keeps_field ?enum, keeps_field ?anyOf,
    keeps_field ?oneOf, keeps_field ?allOf, keeps_field ?additionalProperties,
    keeps_field ?discriminator, keeps_field ?format, keeps_field ?const, keeps_field ?nullable⟩
  case properties =>
    intro x hx s _ properties hproperties
    obtain ⟨node, hnode, hread⟩ := hx.of_optional_eq_some properties hproperties
    rw [keys_of_entries hread]
    exact hroot node hnode
  all_goals exact fun _ _ _ hs => hs

theorem Schema.hasDistinctNames_of_found {s : Schema} (h : FoundIn Schema.read root s) :
    s.HasDistinctNames :=
  fun _ ht => nodup_properties hroot (found_of_reflTransGen h ht)

/-- The schema for the value of a parameter has no properties itself. -/
theorem Parameter.hasDistinctNames_valueSchema {p : Parameter}
    (h : FoundIn Parameter.read root p) : p.valueSchema.HasDistinctNames := by
  obtain ⟨-, hschema, hitems⟩ := found_of_found h
  unfold valueSchema
  split
  · next s hs =>
      refine Schema.hasDistinctNames_of_child (by simp) fun t ht => ?_
      cases ht with
      | wrapped ht =>
          cases ht
          exact Schema.hasDistinctNames_of_found hroot (hschema s hs)
      | _ => contradiction
  · refine Schema.hasDistinctNames_of_child (by simp) fun t ht => ?_
    cases ht with
    | item ht => exact Schema.hasDistinctNames_of_found hroot (hitems t ht)
    | _ => contradiction

theorem covers_hasDistinctNames : Covers root Schema.HasDistinctNames where
  found _ := Schema.hasDistinctNames_of_found hroot
  value _ := Parameter.hasDistinctNames_valueSchema hroot

/-! ## Properties of types -/

/-- An object type has no property twice. -/
def HasDistinctProperties (t : TypeExpr) : Prop :=
  ∀ shape, t = .object shape → (shape.properties.map Property.name).Nodup

omit hroot

theorem hasDistinctProperties_of_ne {t : TypeExpr} (h : ∀ shape, t ≠ .object shape) :
    HasDistinctProperties t :=
  fun shape heq => absurd heq (h shape)

theorem hasDistinctProperties_object {shape : Shape TypeExpr}
    (h : (shape.properties.map Property.name).Nodup) : HasDistinctProperties (.object shape) := by
  rintro shape' ⟨⟩
  exact h

/-- Pinning a field keeps the names of properties. -/
theorem HasDistinctProperties.pinField {t : TypeExpr} (h : HasDistinctProperties t)
    (field value : String) : HasDistinctProperties (t.pinField field value).1 := by
  cases t with
  | object shape =>
      refine hasDistinctProperties_object ?_
      simpa [TypeExpr.name_pinProperty, Function.comp_def] using h shape rfl
  | _ => exact hasDistinctProperties_of_ne (by rintro shape ⟨⟩)

theorem requestBuilding_hasDistinctProperties :
    RequestBuilding Schema.HasDistinctNames HasDistinctProperties where
  child hs hc t ht := hs t (ht.head hc)
  primitive _ := hasDistinctProperties_of_ne (by simp)
  literal _ := hasDistinctProperties_of_ne (by simp)
  date := hasDistinctProperties_of_ne (by simp)
  array _ := hasDistinctProperties_of_ne (by simp)
  record _ := hasDistinctProperties_of_ne (by simp)
  union _ _ := hasDistinctProperties_of_ne (by simp)
  intersection _ _ := hasDistinctProperties_of_ne (by simp)
  object s properties shape hs hproperties hnames :=
    hasDistinctProperties_object (hnames ▸ hs s .refl properties hproperties)
  pinField field value _ ht := ht.pinField field value
  form := hasDistinctProperties_of_ne (by simp [formType])
  shape _ h := hasDistinctProperties_object h

/-! ## Fields of a body -/

/-- No list of properties in the schema of a parameter has a key twice. -/
def Parameter.HasDistinctNames (p : Parameter) : Prop :=
  ∀ s, p.schema = some s → s.HasDistinctNames

/-- No list of properties in the schemas of an operation has a key twice. -/
structure Operation.HasDistinctNames (o : Operation) : Prop where
  parameters : ∀ ps, o.parameters = some ps → ∀ p ∈ ps, p.HasDistinctNames
  requestBody : ∀ b, o.requestBody = some b → b.HasSchemas Schema.HasDistinctNames

section Found

include hroot

theorem Parameter.hasDistinctNames_of_found {p : Parameter} (h : FoundIn Parameter.read root p) :
    p.HasDistinctNames :=
  fun s hs => Schema.hasDistinctNames_of_found hroot ((found_of_found h).2.1 s hs)

theorem Operation.hasDistinctNames_of_foundParts {o : Operation} (h : o.FoundParts root) :
    o.HasDistinctNames where
  parameters ps hps p hp := Parameter.hasDistinctNames_of_found hroot (h.1 ps hps p hp)
  requestBody b hb := RequestBody.hasSchemas_of_found
    (fun _ => Schema.hasDistinctNames_of_found hroot) (h.2.1 b hb)

end Found

/-- The fields that a body has by name are distinct. -/
theorem Document.HasParts.nodup_names {doc : Document} (hroot : doc.root.HasDistinctKeys)
    {options : Options} {name : String} {operation : Operation} {shared parameters : List Parameter}
    {ps : List PartProperty} {body : Option Body} (hoperation : operation.HasDistinctNames)
    (hshared : ∀ p ∈ shared, p.HasDistinctNames)
    (h : doc.HasParts options name operation shared parameters ps body) :
    ∀ b, body = some b → b.names.Nodup := by
  have hcovers := covers_hasDistinctNames hroot
  have hown : ∀ p ∈ operation.parameters.getD [], p.HasDistinctNames := by
    cases hps : operation.parameters with
    | none => simp
    | some ps => exact hoperation.parameters ps hps
  have hparameters : ∀ p ∈ parameters, p.HasDistinctNames :=
    parameters_preserves (fun _ => Parameter.hasDistinctNames_of_found hroot) h.parameters_eq hown
      hshared
  rintro b rfl
  unfold Body.names
  split
  · simp
  · next shape required =>
      obtain ⟨s, hs, htype⟩ := exists_of_body?
        (fun _ => RequestBody.hasSchemas_of_found hcovers.found) hoperation.requestBody
        (fun p hp => hparameters p (List.mem_of_find?_eq_some hp)) h.body_eq
      have hthroughout := typeOf_throughout requestBuilding_hasDistinctProperties.toBuilding
        hcovers.found hs htype
      exact hthroughout.self shape rfl
  · simp

end ApiTypings.OpenApi
