import ApiTypings.Proofs.OpenApi.Typed

/-! # Parameters with the names of fields

In the flat layout a client finds parameters and the fields of the body in one object, and has to
tell them apart by name. The fields of a body that is merged into the object never have the name of
a parameter. Those of a body that stands beside the object may.
-/

namespace ApiTypings.OpenApi

open TypeScript Outcome

/-! ## Fields of types -/

/-- A type has a field: a property of an object type, or a field of a type in a union or
intersection. -/
inductive HasField (name : String) : TypeExpr → Prop
  | property {shape : Shape TypeExpr} {p : Property TypeExpr} (hp : p ∈ shape.properties)
      (hname : p.name = name) : HasField name (.object shape)
  | member {types : List TypeExpr} {t : TypeExpr} (ht : t ∈ types) (h : HasField name t) :
      HasField name (.union types)
  | operand {types : List TypeExpr} {t : TypeExpr} (ht : t ∈ types) (h : HasField name t) :
      HasField name (.intersection types)

theorem hasField_object_iff {name : String} {shape : Shape TypeExpr} :
    HasField name (.object shape) ↔ name ∈ shape.properties.map Property.name := by
  constructor
  · intro h
    cases h with
    | property hp hname => exact List.mem_map.mpr ⟨_, hp, hname⟩
  · intro h
    obtain ⟨p, hp, hname⟩ := List.mem_map.mp h
    exact .property hp hname

/-- The type of a body. -/
def Body.type : Body → TypeExpr
  | .form _ => formType
  | .json type _ _ => type

theorem Body.type_of_standalone? {b : Body} {type : TypeExpr} {required : Bool}
    (h : b.standalone? = some (type, required)) : b.type = type := by
  unfold standalone? at h
  split at h <;> cases h
  rfl

/-- The fields of a body that does not stand apart are known by name. -/
theorem Body.mem_names_of_hasField {b : Body} {name : String} (h : HasField name b.type)
    (hstandalone : b.standalone? = none) : name ∈ b.names := by
  unfold standalone? at hstandalone
  split at hstandalone
  · cases h
  · exact hasField_object_iff.mp h
  · cases hstandalone

/-- A body that stands apart adds no fields. -/
theorem Body.flatProperties_of_standalone? {b : Body} {standalone : TypeExpr × Bool}
    (h : b.standalone? = some standalone) : b.flatProperties = [] := by
  cases b with
  | form => cases h
  | json type kind _ =>
      cases type with
      | object =>
          cases kind with
          | object => cases h
          | value => rfl
      | _ => rfl

theorem bodyFields_of_standalone? {body : Option Body} {standalone : TypeExpr × Bool}
    (h : body.bind Body.standalone? = some standalone) : bodyFields body = [] := by
  cases body with
  | none => rfl
  | some b =>
      rw [Option.bind_some] at h
      rw [bodyFields, Option.map_some, Option.getD_some, b.flatProperties_of_standalone? h]
      rfl

/-! ## Names in the flat layout -/

theorem Location.mem_parameterParts {location : Location} {part : RequestPart}
    (h : location.part? = some part) : part ∈ parameterParts := by
  cases location with
  | path | query | header =>
      cases h
      decide
  | body | other => cases h

/-- The properties of parameters are in the parts of parameters. -/
theorem Document.HasParts.part_mem_parameterParts {doc : Document} {options : Options}
    {name : String} {operation : Operation} {shared parameters : List Parameter}
    {ps : List PartProperty} {body : Option Body}
    (h : doc.HasParts options name operation shared parameters ps body) :
    ∀ p ∈ ps, p.part ∈ parameterParts := by
  intro p hp
  obtain ⟨parameter, -, hparameter⟩ := exists_of_mem_partProperties h.properties_eq hp
  exact Location.mem_parameterParts (partProperty?_eq_ok_some hparameter).1

section Names

variable {ps : List PartProperty} (hparts : ∀ p ∈ ps, p.part ∈ parameterParts)
include hparts

/-- No parameter has the name of a field that the body has by name, if no two parts share a
name. -/
theorem not_mem_names_of_sharesName {b : Body}
    (hshares : sharesName (partNames ps (some b)) = false) {p : PartProperty} (hp : p ∈ ps) :
    p.property.name ∉ b.names := by
  intro hname
  have hparameter : (p.part, p.property.name) ∈ partNames ps (some b) :=
    List.mem_append_left _ (List.mem_map_of_mem hp)
  have hfield : (RequestPart.body, p.property.name) ∈ partNames ps (some b) :=
    List.mem_append_right _ (List.mem_map_of_mem hname)
  have hbody : p.part = .body := sharesName_eq_false_iff.mp hshares _ hparameter _ hfield rfl
  exact absurd (hbody ▸ hparts p hp) (by decide)

/-- Without fields of a body, the object has the names of the parameters. -/
theorem mem_names_shapeOf_iff {body : Option Body} {name : String}
    (hfields : bodyFields body = []) (index : Option TypeExpr) :
    name ∈ (shapeOf (flatProperties ps body) index).properties.map Property.name ↔
      ∃ p ∈ ps, p.property.name = name := by
  have hmem : name ∈ (shapeOf (flatProperties ps body) index).properties.map Property.name ↔
      name ∈ (flatProperties ps body).map fun p => p.property.name := by
    rw [shapeOf, List.map_map]
    refine mem_map_firstOfEach_iff.trans ?_
    simp only [List.not_mem_nil, not_false_eq_true, and_true]
    rfl
  rw [hmem, flatProperties, hfields, List.append_nil, List.mem_map]
  constructor
  · rintro ⟨p, hp, rfl⟩
    obtain ⟨part, -, hp⟩ := List.mem_flatMap.mp hp
    exact ⟨p, (List.mem_filter.mp hp).1, rfl⟩
  · rintro ⟨p, hp, rfl⟩
    refine ⟨p, List.mem_flatMap.mpr ⟨p.part, hparts p hp, ?_⟩, rfl⟩
    exact List.mem_filter.mpr ⟨hp, decide_eq_true rfl⟩

end Names

/-! ## Clashes -/

/-- A parameter has the name of a field of the body. -/
def Clashes (ps : List PartProperty) (body : Option Body) : Prop :=
  ∃ p ∈ ps, ∃ b, body = some b ∧ HasField p.property.name b.type

/-- A request is the intersection of an object type with the type of the body, and they have a field
in common. -/
def Request.Overlaps (operation : String) (body : Option Body) (r : Request) : Prop :=
  ∃ b shape, body = some b ∧
    r.declaration = .typeAlias (requestName operation) (.intersection [.object shape, b.type]) ∧
    ∃ q ∈ shape.properties, HasField q.name b.type

theorem intersection_ne_self (t u : TypeExpr) : TypeExpr.intersection [t, u] ≠ u := by
  intro h
  have hsize := congrArg sizeOf h
  simp only [TypeExpr.intersection.sizeOf_spec, List.cons.sizeOf_spec] at hsize
  omega

section Flat

variable {operation : String} {ps : List PartProperty} {body : Option Body} {r : Request}
  (hparts : ∀ p ∈ ps, p.part ∈ parameterParts)
  (h : (flatRequest operation ps body).1 = some r)
include hparts h

/-- A clash is with a body that stands apart, since the names of all others are known. -/
theorem overlaps_of_clashes (hshares : sharesName (partNames ps body) = false)
    (hclashes : Clashes ps body) : r.Overlaps operation body := by
  obtain ⟨p, hp, b, rfl, hfield⟩ := hclashes
  simp only [flatRequest_eq, Option.bind_some] at h
  cases hstandalone : b.standalone? with
  | none =>
      have hname := Body.mem_names_of_hasField hfield hstandalone
      exact absurd hname (not_mem_names_of_sharesName hparts hshares hp)
  | some standalone =>
      obtain ⟨type, required⟩ := standalone
      obtain rfl : b.type = type := Body.type_of_standalone? hstandalone
      have hfields : bodyFields (some b) = [] := bodyFields_of_standalone? hstandalone
      have hname := (mem_names_shapeOf_iff hparts hfields b.flatIndex).mpr ⟨p, hp, rfl⟩
      obtain ⟨q, hq, hqname⟩ := List.mem_map.mp hname
      rw [hstandalone, requestOf] at h
      -- The object has a property, so it does not stand back for the body.
      rw [if_neg (by simp [Shape.isEmpty, List.ne_nil_of_mem hq])] at h
      cases h
      exact ⟨b, _, rfl, rfl, q, hq, hqname ▸ hfield⟩

/-- The object beside a body has properties of parameters only. -/
theorem clashes_of_overlaps (hoverlaps : r.Overlaps operation body) : Clashes ps body := by
  obtain ⟨b, shape, rfl, hdeclaration, q, hq, hfield⟩ := hoverlaps
  simp only [flatRequest_eq, Option.bind_some] at h
  cases hstandalone : b.standalone? with
  | none =>
      rw [hstandalone, requestOf] at h
      split at h <;> cases h
      cases hdeclaration
  | some standalone =>
      obtain ⟨type, required⟩ := standalone
      obtain rfl : b.type = type := Body.type_of_standalone? hstandalone
      have hfields : bodyFields (some b) = [] := bodyFields_of_standalone? hstandalone
      rw [hstandalone, requestOf] at h
      split at h
      · cases h
        have htype : b.type = .intersection [.object shape, b.type] := by
          simpa [Declaration.typeAlias] using hdeclaration
        exact absurd htype.symm (intersection_ne_self _ _)
      · cases h
        cases hdeclaration
        obtain ⟨p, hp, hname⟩ :=
          (mem_names_shapeOf_iff hparts hfields b.flatIndex).mp (List.mem_map_of_mem hq)
        exact ⟨p, hp, b, rfl, hname ▸ hfield⟩

end Flat

theorem layoutOf_of_layout_eq {options : Options} {operation : String} {ps : List PartProperty}
    {body : Option Body} {r : Request}
    (h : (laidOut (layoutOf options ps body) operation ps body).1 = some r)
    (hflat : r.layout = .flat) : layoutOf options ps body = .flat := by
  cases hlayout : layoutOf options ps body with
  | flat => rfl
  | divided =>
      rw [hlayout, laidOut, dividedRequest_eq] at h
      simp only at h
      split at h <;> cases h
      cases hflat

/-- In the flat layout, a parameter has the name of a field of the body exactly where the request is
the intersection of an object type with the type of the body, and these two have a field in common.
All fields that stand in one object have names of their own. -/
theorem Document.request_flat_clashes_iff {doc : Document} {options : Options} {name : String}
    {operation : Operation} {shared : List Parameter} {r : Request} {dropped : List Shadowing}
    (h : doc.request options name operation shared = .ok (some r, dropped))
    (hflat : r.layout = .flat) :
    ∃ parameters ps body, doc.HasParts options name operation shared parameters ps body ∧
      (Clashes ps body ↔ r.Overlaps name body) := by
  obtain ⟨parameters, ps, body, hparts, hlaid⟩ := request_eq_ok.mp h
  have hrequest : (laidOut (layoutOf options ps body) name ps body).1 = some r :=
    (congrArg Prod.fst hlaid).symm
  have hlayout := layoutOf_of_layout_eq hrequest hflat
  have hshares := sharesName_of_layoutOf hlayout
  rw [hlayout, laidOut] at hrequest
  have hparameters := hparts.part_mem_parameterParts
  exact ⟨parameters, ps, body, hparts, overlaps_of_clashes hparameters hrequest hshares,
    clashes_of_overlaps hparameters hrequest⟩

/-- A parameter beside a body of two object types. -/
theorem Document.request_flat_clashes_iff_of_allOf :
    let doc := Document.ofJson (.object [])
    let object (field : String) : Schema :=
      { properties := some [(field, { type := some (.one "integer") })] }
    let operation : Operation :=
      { parameters := some [{ name := "name", location := .query }]
        requestBody := some
          { content := some [("application/json",
              { schema := some { allOf := some [object "name", object "age"] } })] } }
    let fields (field : String) (type : TypeExpr) : TypeExpr :=
      .object { properties := [{ name := field, type, optional := true }] }
    let r : Request :=
      { declaration := .typeAlias "PutRequest"
          (.intersection [fields "name" .string,
            .intersection [fields "name" .number, fields "age" .number]])
        optional := false
        layout := .flat }
    doc.request {} "Put" operation [] = .ok (some r, []) ∧ r.layout = .flat ∧
      ∃ parameters ps body, doc.HasParts {} "Put" operation [] parameters ps body ∧
        (Clashes ps body ↔ r.Overlaps "Put" body) := by
  intro doc object operation fields r
  have h : doc.request {} "Put" operation [] = .ok (some r, []) := by rfl
  have hflat : r.layout = .flat := rfl
  exact ⟨h, hflat, request_flat_clashes_iff h hflat⟩

/-- A parameter may clash with a field of a body in the flat layout: the fields of a nullable object
are not known by name, so nothing asks for the divided layout. -/
theorem exists_request_flat_clashes :
    let root : Json := .object [("paths", .object [("/pets", .object [("put", .object
      [("operationId", .text "renamePet"),
       ("parameters", .array [.object
         [("name", .text "name"), ("in", .text "query"),
          ("schema", .object [("type", .text "string")])]]),
       ("requestBody", .object
         [("required", .boolean true),
          ("content", .object [("application/json", .object [("schema", .object
            [("type", .text "object"), ("nullable", .boolean true),
             ("properties", .object [("name", .object [("type", .text "integer")])])])])])]),
       ("responses", .object [("204", .object [])])])])])]
    let operation : Operation :=
      { operationId := some "renamePet"
        parameters := some
          [{ name := "name", location := .query, schema := some { type := some (.one "string") } }]
        requestBody := some
          { required := true
            content := some [("application/json",
              { schema := some
                  { type := some (.one "object")
                    nullable := some true
                    properties := some [("name", { type := some (.one "integer") })] } })] }
        responses := some [("204", {})] }
    let fields (type : TypeExpr) : TypeExpr :=
      .object { properties := [{ name := "name", type, optional := true }] }
    let r : Request :=
      { declaration := .typeAlias "RenamePetRequest"
          (.intersection [fields .string, .union [fields .number, .null]])
        optional := false
        layout := .flat }
    Description.read root = .ok { paths := [("/pets", { put := some operation })] } ∧
      (Document.ofJson root).request {} "RenamePet" operation [] = .ok (some r, []) ∧
      r.layout = .flat ∧
      ∃ parameters ps body,
        (Document.ofJson root).HasParts {} "RenamePet" operation [] parameters ps body ∧
        Clashes ps body := by
  intro root operation fields r
  let q : PartProperty :=
    { part := .query, property := { name := "name", type := .string, optional := true } }
  let b : Body := .json (.union [fields .number, .null]) .object true
  have hparts : (Document.ofJson root).HasParts {} "RenamePet" operation []
      (operation.parameters.getD []) [q] (some b) :=
    { parameters_eq := rfl, properties_eq := rfl, body_eq := rfl }
  have hfield : HasField "name" b.type :=
    .member List.mem_cons_self (.property (List.mem_singleton_self _) rfl)
  exact ⟨rfl, rfl, rfl, _, _, _, hparts, q, List.mem_singleton_self q, b, rfl, hfield⟩

end ApiTypings.OpenApi
