import ApiTypings.Proofs.OpenApi.Transparency

/-! # Dictionaries

An object schema without properties, but with a schema for the values under all keys, has the type
of dictionaries. The type of the values is that of their schema, unless this one lists properties:
such properties are looked at before its other keywords.
-/

namespace ApiTypings.OpenApi

open TypeScript Outcome

namespace Schema

/-- A schema is one of dictionaries, if objects are declared or implied, and if all that is said of
their properties is what the values are. -/
structure IsDictionary (s values : Schema) : Prop where
  decision_eq : s.decision = .declared
  enum_eq : s.enum = none
  object_mem : some "object" ∈ s.typedAs
  properties_eq : s.properties = none
  additionalProperties_eq : s.additionalProperties = some (.values values)

/-- A schema of objects with some properties, and of nothing else. -/
structure IsPlainObject (s : Schema) : Prop where
  decision_eq : s.decision = .declared
  enum_eq : s.enum = none
  length_lt : s.declaredTypes.length < 2
  primaryType_eq : s.primaryType = some "object"
  additionalProperties_eq :
    s.additionalProperties = none ∨ s.additionalProperties = some (.flag false)
  isNullable_eq : s.isNullable = false

/-- The schema with another schema of the values. -/
def setValues (s values : Schema) : Schema :=
  { s with additionalProperties := some (.values values) }

/-- The type of a schema, null apart, where its objects have a type: it is that type, or a union of
one type for each of the declared types. -/
inductive IsCore (s : Schema) (object : TypeExpr) : TypeExpr → Prop
  | only (h : s.declaredTypes.length < 2) : IsCore s object object
  | listed {members : List TypeExpr} (h : 2 ≤ s.declaredTypes.length)
      (hmembers : List.Forall₂ (fun name member => name = "object" → member = object)
        s.declaredTypes members) : IsCore s object (.union members)

variable {direction : Direction} {expand : String → Except GenerationError TypeExpr}
  {s values : Schema} {properties : List (String × Schema)} {type : TypeExpr}

/-! ## Objects among the declared types -/

theorem typedAs_of_enum_eq_none (h : s.enum = none) :
    s.typedAs =
      if s.declaredTypes.length < 2 then [s.primaryType] else s.declaredTypes.map some := by
  simp [typedAs, h]

theorem typeNamed_object {item object : Unit → Except GenerationError TypeExpr}
    (h : s.enum = none) : s.typeNamed direction item object (some "object") = object () := by
  simp [typeNamed, h]

/-- Where objects are among the declared types, their type is in its place. -/
theorem exists_isCore (hdecision : s.decision = .declared) (henum : s.enum = none)
    (hobject : some "object" ∈ s.typedAs) (h : s.typeWith direction expand = .ok type) :
    ∃ core object, type = core.orNullIf s.isNullable ∧ s.IsCore object core ∧
      s.objectTypeWith direction expand = .ok object := by
  rw [typeWith_eq, hdecision] at h
  obtain ⟨core, hcore, rfl⟩ := map_eq_ok.mp h
  rw [typedAs_of_enum_eq_none henum] at hobject
  unfold declaredType at hcore
  by_cases hlength : s.declaredTypes.length < 2
  · rw [if_pos hlength, List.mem_singleton] at hobject
    simp only [if_pos hlength, ← hobject, typeNamed_object henum] at hcore
    exact ⟨core, core, rfl, .only hlength, hcore⟩
  · rw [if_neg hlength] at hobject
    simp only [if_neg hlength, henum] at hcore
    obtain ⟨members, hmembers, hcore⟩ := bind_eq_ok.mp hcore
    cases hcore
    have hmem : "object" ∈ s.declaredTypes := by simpa using hobject
    obtain ⟨object, -, hobject⟩ := exists_mem_of_mapM hmembers hmem
    rw [typeNamed_object henum] at hobject
    refine ⟨.union members, object, rfl, .listed (Nat.le_of_not_lt hlength) ?_, hobject⟩
    refine (mapM_eq_ok.mp hmembers).imp ?_
    rintro name member hmember rfl
    rw [typeNamed_object henum] at hmember
    exact Except.ok.inj (hmember.symm.trans hobject)

/-! ## The type of the values -/

/-- The type of a plain object has its properties and nothing more. -/
theorem IsPlainObject.typeWith_eq (h : s.IsPlainObject)
    (hproperties : s.properties = some properties) :
    s.typeWith direction expand =
      (fun shape => TypeExpr.object { properties := shape }) <$>
        propertiesWith direction expand (s.required.getD []) properties := by
  have hobject : s.objectTypeWith direction expand =
      (fun shape => TypeExpr.object { properties := shape }) <$>
        propertiesWith direction expand (s.required.getD []) properties := by
    rw [objectTypeWith_eq, hproperties]
    rcases h.additionalProperties_eq with hnone | hflag
    · rw [hnone, ← bind_pure_comp]
    · rw [hflag, ← bind_pure_comp]
  have hnull : TypeExpr.orNullIf s.isNullable = id := by
    rw [h.isNullable_eq]
    rfl
  rw [Schema.typeWith_eq, h.decision_eq]
  simp only [declaredType, if_pos h.length_lt, h.primaryType_eq, typeNamed_object h.enum_eq,
    hobject, hnull, id_map]

/-- Where an object schema lists no properties, they are those of the values. -/
theorem objectTypeWith_of_properties_eq_none (hs : s.properties = none)
    (hvalues : s.additionalProperties = some (.values values)) :
    s.objectTypeWith direction expand =
      match values.properties with
      | some properties => do
          let shape ← propertiesWith direction expand (values.required.getD []) properties
          values.withValues { properties := shape } fun _ => values.typeWith direction expand
      | none =>
          if values.isInformative then TypeExpr.record <$> values.typeWith direction expand
          else .ok (.primitive .object) := by
  unfold objectTypeWith propertySource additionalSchema
  simp only [hs, hvalues, Option.bind_some]
  cases values.properties <;> rfl

namespace IsDictionary

variable (h : s.IsDictionary values)
include h

/-- Dictionaries of values that list no properties, or that are plain objects, are records of
the type of the values. -/
theorem objectTypeWith_eq_record (hinformative : values.isInformative = true)
    (hvalues : values.properties = none ∨ values.IsPlainObject) :
    s.objectTypeWith direction expand = TypeExpr.record <$> values.typeWith direction expand := by
  rw [objectTypeWith_of_properties_eq_none h.properties_eq h.additionalProperties_eq]
  cases hproperties : values.properties with
  | none => simp [hinformative]
  | some properties =>
      have hplain := hvalues.resolve_left (by simp [hproperties])
      simp only [withValues, if_pos hplain.primaryType_eq, hplain.typeWith_eq hproperties,
        bind_pure_comp, Functor.map_map]

/-- Dictionaries of values that list properties without being objects have these properties too. -/
theorem objectTypeWith_eq_intersection (hproperties : values.properties = some properties)
    (hprimary : values.primaryType ≠ some "object") :
    s.objectTypeWith direction expand = do
      let shape ← propertiesWith direction expand (values.required.getD []) properties
      let t ← values.typeWith direction expand
      return .intersection [.object { properties := shape }, .record t] := by
  rw [objectTypeWith_of_properties_eq_none h.properties_eq h.additionalProperties_eq, hproperties]
  simp only [withValues, if_neg hprimary]

/-! ## Other schemas of the values -/

theorem primaryType_setValues (t : Schema) : (s.setValues t).primaryType = s.primaryType := by
  unfold primaryType
  rw [h.additionalProperties_eq]
  rfl

theorem setValues (t : Schema) : (s.setValues t).IsDictionary t where
  decision_eq := h.decision_eq
  enum_eq := h.enum_eq
  object_mem := by
    have hobject := h.object_mem
    unfold typedAs at hobject ⊢
    rwa [h.primaryType_setValues t]
  properties_eq := h.properties_eq
  additionalProperties_eq := rfl

/-- Only the type of the values counts, not how their schema says it. -/
theorem alike (hinformative : values.isInformative = true)
    (hvalues : values.properties = none ∨ values.IsPlainObject) {t : Schema}
    (ht : SameType direction expand t values) (hinformative' : t.isInformative = true)
    (hvalues' : t.properties = none ∨ t.IsPlainObject) :
    Context.Alike direction expand (s.setValues t) s := by
  have hprimary := h.primaryType_setValues t
  have hobject : Agrees ((s.setValues t).objectTypeWith direction expand)
      (s.objectTypeWith direction expand) := by
    rw [(h.setValues t).objectTypeWith_eq_record hinformative' hvalues',
      h.objectTypeWith_eq_record hinformative hvalues]
    exact ht.map _
  have hsame : SameType direction expand (s.setValues t) s := by
    unfold SameType
    rw [typeWith_eq, typeWith_eq, (h.setValues t).decision_eq, h.decision_eq]
    have hdeclared : (s.setValues t).declaredTypes = s.declaredTypes := rfl
    exact (declaredType_agrees hdeclared hprimary rfl rfl (.refl _) hobject).map _
  have hrel : Option.Rel (List.Forall₂ (SameName (SameType direction expand))) s.properties
      s.properties := by
    rw [h.properties_eq]
    exact .none
  have hsays : (s.setValues t).isInformative = s.isInformative := by
    unfold isInformative
    rw [hprimary]
    rfl
  exact ⟨rfl, .values hsame hprimary hsays hrel rfl⟩

end IsDictionary

end Schema

namespace Document

/-- A dictionary is a record of exactly the type of its values, if their schema lists no properties
or is that of a plain object, and then it makes no difference whether that schema stands there
itself or a reference to it. Values that list properties and have another type than that of
objects give these properties to the dictionary as well. -/
theorem typeOf_dictionary (root : Json) (direction : Direction) (s values : Schema)
    (hs : s.IsDictionary values) (hinformative : values.isInformative = true) :
    (∀ room active type,
      s.typeWith direction ((ofJson root).expand direction room active) = .ok type →
      ∃ core object, type = core.orNullIf s.isNullable ∧ s.IsCore object core ∧
        (values.properties = none ∨ values.IsPlainObject → ∃ t,
          values.typeWith direction ((ofJson root).expand direction room active) = .ok t ∧
          object = .record t) ∧
        ∀ properties, values.properties = some properties → values.primaryType ≠ some "object" →
          ∃ shape t,
            Schema.propertiesWith direction ((ofJson root).expand direction room active)
              (values.required.getD []) properties = .ok shape ∧
            values.typeWith direction ((ofJson root).expand direction room active) = .ok t ∧
            object = .intersection [.object { properties := shape }, .record t]) ∧
      (values.properties = none ∨ values.IsPlainObject → ∀ pointer,
        (ofJson root).resolve Schema.read pointer = .ok values →
        ∀ (c : Schema.Context) type,
          (ofJson root).typeOf direction (c.fill (s.setValues { reference := some pointer })) =
              .ok type ↔
            (ofJson root).typeOf direction (c.fill s) = .ok type) := by
  constructor
  · intro room active type h
    obtain ⟨core, object, htype, hcore, hobject⟩ :=
      Schema.exists_isCore hs.decision_eq hs.enum_eq hs.object_mem h
    refine ⟨core, object, htype, hcore, fun hvalues => ?_, fun properties hproperties hne => ?_⟩
    · rw [hs.objectTypeWith_eq_record hinformative hvalues] at hobject
      obtain ⟨t, ht, rfl⟩ := map_eq_ok.mp hobject
      exact ⟨t, ht, rfl⟩
    · rw [hs.objectTypeWith_eq_intersection hproperties hne] at hobject
      obtain ⟨shape, hshape, hobject⟩ := bind_eq_ok.mp hobject
      obtain ⟨t, ht, hobject⟩ := bind_eq_ok.mp hobject
      cases hobject
      exact ⟨shape, t, hshape, ht, rfl⟩
  · intro hvalues pointer hpointer c
    exact (hs.alike hinformative hvalues (sameType_reference hpointer) rfl
      (.inl rfl)).sameType_fill c

/-- A property that is a dictionary or text or null, with values that are text or null, and may be
behind a reference. -/
theorem typeOf_dictionary_of_nullable :
    let root : Json := .object [("Name", .object [("type", .array [.text "string", .text "null"])])]
    let values : Schema := { type := some (.many ["string", "null"]) }
    let s : Schema :=
      { type := some (.many ["string", "object", "null"])
        additionalProperties := some (.values values) }
    let c : Schema.Context := .property {} [] "names" .hole []
    let name : TypeExpr := .union [.string, .null]
    let names : TypeExpr := .union [.union [.string, .record name], .null]
    let type : TypeExpr :=
      .object { properties := [{ name := "names", type := names, optional := true }] }
    s.IsDictionary values ∧ values.isInformative = true ∧
      (ofJson root).typeOf .response values = .ok name ∧
      (ofJson root).typeOf .response s = .ok names ∧
      (∃ core, names = core.orNullIf s.isNullable ∧ s.IsCore (.record name) core) ∧
      (ofJson root).resolve Schema.read "#/Name" = .ok values ∧
      (ofJson root).typeOf .response (c.fill s) = .ok type ∧
      (ofJson root).typeOf .response (c.fill (s.setValues { reference := some "#/Name" })) =
        .ok type := by
  intro root values s c name names type
  have hs : s.IsDictionary values := ⟨rfl, rfl, by decide, rfl, rfl⟩
  have hname : (ofJson root).typeOf .response values = .ok name := by rfl
  have hnames : (ofJson root).typeOf .response s = .ok names := by rfl
  have hp : (ofJson root).resolve Schema.read "#/Name" = .ok values := by rfl
  have htype : (ofJson root).typeOf .response (c.fill s) = .ok type := by rfl
  obtain ⟨hrecord, hreference⟩ := typeOf_dictionary root .response s values hs rfl
  obtain ⟨core, object, hcore, hobject, hkept, -⟩ := hrecord _ _ _ hnames
  obtain ⟨t, ht, rfl⟩ := hkept (.inl rfl)
  obtain rfl := Except.ok.inj (ht.symm.trans hname)
  exact ⟨hs, rfl, hname, hnames, ⟨core, hcore, hobject⟩, hp, htype,
    (hreference (.inl rfl) "#/Name" hp c type).mpr htype⟩

/-- Dictionaries do not keep the type of all values: the properties that text is said to have become
properties of the dictionary, though not if they are behind a reference. -/
theorem exists_dictionary_not_record :
    let name : Json := .object
      [("type", .text "string"),
       ("properties", .object [("name", .object [("type", .text "string")])])]
    let values : Schema :=
      { type := some (.one "string")
        properties := some [("name", { type := some (.one "string") })] }
    let s : Schema :=
      { type := some (.one "object"), additionalProperties := some (.values values) }
    let type : TypeExpr := .intersection
      [.object { properties := [{ name := "name", type := .string, optional := true }] },
       .record .string]
    Schema.read (.object [("type", .text "object"), ("additionalProperties", name)]) = .ok s ∧
      s.IsDictionary values ∧ values.isInformative = true ∧
      (ofJson (.object [("Name", name)])).typeOf .response s = .ok type ∧
      (ofJson (.object [("Name", name)])).typeOf .response values = .ok .string ∧
      ¬(∃ core, type = core.orNullIf s.isNullable ∧ s.IsCore (.record .string) core) ∧
      (ofJson (.object [("Name", name)])).resolve Schema.read "#/Name" = .ok values ∧
      (ofJson (.object [("Name", name)])).typeOf .response
        (s.setValues { reference := some "#/Name" }) = .ok (.record .string) := by
  intro name values s type
  refine ⟨by rfl, ⟨rfl, rfl, by decide, rfl, rfl⟩, rfl, by rfl, by rfl, ?_, by rfl, by rfl⟩
  rintro ⟨core, htype, hcore⟩
  have hnull : core.orNullIf s.isNullable = core := rfl
  rw [hnull] at htype
  cases hcore <;> simp [type] at htype

end Document

end ApiTypings.OpenApi
