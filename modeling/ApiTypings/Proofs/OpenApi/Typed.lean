import ApiTypings.Proofs.OpenApi.Built
import ApiTypings.Proofs.OpenApi.Generated
import ApiTypings.Proofs.OpenApi.Layout
import ApiTypings.Proofs.OpenApi.Termination

/-! # The types of an operation

The types of parameters, bodies and responses are types of schemas of the document. So what every
way of building types gives holds throughout the declarations of an operation as well.
-/

namespace ApiTypings.OpenApi

open TypeScript Outcome Reader

/-- The schemas of a document are of a kind, and so are those of the values of its parameters. -/
structure Covers (root : Json) (kind : Schema → Prop) : Prop where
  found : ∀ s, FoundIn Schema.read root s → kind s
  value : ∀ p, FoundIn Parameter.read root p → kind p.valueSchema

/-! ## Parameters and bodies -/

/-- The schemas in the content of a request body have a property. -/
def RequestBody.HasSchemas (P : Schema → Prop) (b : RequestBody) : Prop :=
  ∀ content, b.content = some content → ∀ m ∈ content, ∀ s, m.2.schema = some s → P s

theorem RequestBody.hasSchemas_of_found {root : Json} {P : Schema → Prop}
    (hfound : ∀ s, FoundIn Schema.read root s → P s) {b : RequestBody}
    (h : FoundIn RequestBody.read root b) : b.HasSchemas P :=
  fun content hcontent m hm s hs =>
    hfound s (MediaType.found_of_found ((found_of_found h).2 content hcontent m hm) hs)

namespace Document

variable {doc : Document} {options : Options}

/-- The parameters of an operation are read in its document. -/
theorem found_of_parameters {operation : Operation} {shared parameters : List Parameter}
    (ho : operation.FoundParts doc.root)
    (hshared : ∀ p ∈ shared, FoundIn Parameter.read doc.root p)
    (h : doc.parameters (operation.parameters.getD []) shared = .ok parameters) :
    ∀ p ∈ parameters, FoundIn Parameter.read doc.root p := by
  refine parameters_found ?_ hshared h
  cases hown : operation.parameters with
  | none => simp
  | some own => exact ho.1 own hown

/-- The property for a parameter has its name and the type of its values. -/
theorem partProperty?_eq_ok_some {parameter : Parameter} {p : PartProperty}
    (h : doc.partProperty? options parameter = .ok (some p)) :
    parameter.location.part? = some p.part ∧ p.property.name = parameter.name ∧
      p.property.optional = parameter.isOptional options ∧
      doc.typeOf .request parameter.valueSchema = .ok p.property.type := by
  unfold partProperty? at h
  split at h
  · cases h
  · next part hpart =>
      obtain ⟨type, htype, h⟩ := bind_eq_ok.mp h
      cases h
      exact ⟨hpart, rfl, rfl, htype⟩

theorem exists_of_mem_partProperties {parameters : List Parameter} {ps : List PartProperty}
    {p : PartProperty} (h : doc.partProperties options parameters = .ok ps) (hp : p ∈ ps) :
    ∃ parameter ∈ parameters, doc.partProperty? options parameter = .ok (some p) :=
  exists_of_mem_filterMapM h hp

/-- The schema of a JSON body, and whether the body is required: that of a request body behind any
references, or that of a parameter for the body. -/
inductive JsonSource (doc : Document) :
    Option RequestBody → Option Parameter → Schema → Bool → Prop
  | content {source target : RequestBody} {content : List (String × MediaType)} {m : MediaType}
      {s : Schema} (parameter : Option Parameter) (htarget : doc.deref source = .ok target)
      (hcontent : target.content = some content)
      (hmedia : content.lookup "application/json" = some m) (hs : m.schema = some s) :
      JsonSource doc (some source) parameter s target.required
  | parameter {p : Parameter} {s : Schema} (hs : p.schema = some s) :
      JsonSource doc none (some p) s p.required

/-- A body is a form, for a request body with such content, or the JSON body with a schema. -/
theorem body?_eq_ok_some {operation : String} {requestBody : Option RequestBody}
    {parameter : Option Parameter} {b : Body}
    (h : doc.body? operation requestBody parameter = .ok (some b)) :
    (∃ source target, requestBody = some source ∧ doc.deref source = .ok target ∧
        b = .form target.required) ∨
      ∃ s required, doc.JsonSource requestBody parameter s required ∧
        doc.jsonBody operation s required = .ok b := by
  unfold body? at h
  cases requestBody with
  | some source =>
      obtain ⟨target, htarget, h⟩ := bind_eq_ok.mp h
      split at h
      · cases h
      · next content hcontent =>
          split at h
          · cases h
            exact .inl ⟨source, target, rfl, htarget, rfl⟩
          · split at h
            · next s hs =>
                obtain ⟨m, hmedia, hs⟩ := Option.bind_eq_some_iff.mp hs
                obtain ⟨b', hb, h⟩ := bind_eq_ok.mp h
                cases h
                exact .inr ⟨s, _, .content _ htarget hcontent hmedia hs, hb⟩
            · cases h
  | none =>
      cases parameter with
      | none => cases h
      | some p =>
          simp only at h
          split at h
          · next s hs =>
              obtain ⟨b', hb, h⟩ := bind_eq_ok.mp h
              cases h
              exact .inr ⟨s, _, .parameter hs, hb⟩
          · cases h

/-- The kind of a JSON body is that of its schema behind any references. -/
theorem jsonBody_eq_ok {operation : String} {s : Schema} {required : Bool} {b : Body} :
    doc.jsonBody operation s required = .ok b ↔
      ∃ target kind type, doc.deref s = .ok target ∧ bodyKind operation target = .ok kind ∧
        doc.typeOf .request s = .ok type ∧ b = .json type kind required := by
  unfold jsonBody
  constructor
  · intro h
    obtain ⟨target, htarget, h⟩ := bind_eq_ok.mp h
    obtain ⟨kind, hkind, h⟩ := bind_eq_ok.mp h
    obtain ⟨type, htype, h⟩ := bind_eq_ok.mp h
    cases h
    exact ⟨target, kind, type, htarget, hkind, htype, rfl⟩
  · rintro ⟨target, kind, type, htarget, hkind, htype, rfl⟩
    exact bind_eq_ok.mpr ⟨target, htarget, bind_eq_ok.mpr ⟨kind, hkind,
      bind_eq_ok.mpr ⟨type, htype, rfl⟩⟩⟩

/-- The type of a JSON body is the type of a schema in the content of a request body or of a
parameter, so of one that has what all schemas there have. -/
theorem exists_of_body? {P : Schema → Prop} {operation : String} {requestBody : Option RequestBody}
    {parameter : Option Parameter} {type : TypeExpr} {kind : BodyKind} {required : Bool}
    (hfound : ∀ b, FoundIn RequestBody.read doc.root b → b.HasSchemas P)
    (hbody : ∀ b, requestBody = some b → b.HasSchemas P)
    (hparameter : ∀ p, parameter = some p → ∀ s, p.schema = some s → P s)
    (h : doc.body? operation requestBody parameter = .ok (some (.json type kind required))) :
    ∃ s, P s ∧ doc.typeOf .request s = .ok type := by
  rcases body?_eq_ok_some h with ⟨source, target, -, -, h⟩ | ⟨s, required', hsource, hb⟩
  · cases h
  · obtain ⟨target, kind', type', -, -, htype, hb⟩ := jsonBody_eq_ok.mp hb
    cases hb
    refine ⟨s, ?_, htype⟩
    cases hsource with
    | content _ htarget hcontent hmedia hs =>
        have hschemas := deref_preserves hfound htarget (hbody _ rfl)
        obtain ⟨before, after, hmem, -⟩ := List.lookup_eq_some_iff.mp hmedia
        exact hschemas _ hcontent ("application/json", _) (by simp [hmem]) s hs
    | parameter hs => exact hparameter _ rfl s hs

end Document

/-! ## Requests -/

/-- The type of a body has a property throughout. -/
def Body.Throughout (Q : TypeExpr → Prop) : Body → Prop
  | .form _ => formType.Throughout Q
  | .json type _ _ => type.Throughout Q

/-- A property of types that each way of building the types of an operation gives as well: a form,
and an object type whose properties have distinct names. -/
structure RequestBuilding (kind : Schema → Prop) (Q : TypeExpr → Prop) : Prop
    extends Building kind Q where
  form : Q formType
  shape : ∀ shape : Shape TypeExpr, (shape.properties.map Property.name).Nodup → Q (.object shape)

namespace Body.Throughout

variable {Q : TypeExpr → Prop} {b : Body} (h : b.Throughout Q)
include h

theorem of_flatProperties : ∀ p ∈ b.flatProperties, p.type.Throughout Q := by
  intro p hp
  unfold Body.flatProperties at hp
  split at hp
  · rw [List.mem_singleton.mp hp]
    exact h
  · exact h.part (.property hp)
  · cases hp

theorem of_flatIndex : ∀ t, b.flatIndex = some t → t.Throughout Q := by
  intro t ht
  unfold Body.flatIndex at ht
  split at ht
  · exact h.part (.index ht)
  · cases ht

theorem of_standalone? : ∀ t, b.standalone? = some t → t.1.Throughout Q := by
  intro t ht
  unfold Body.standalone? at ht
  split at ht
  · cases ht
  · cases ht
  · cases ht
    exact h

theorem of_property : b.property.type.Throughout Q := by
  unfold Body.property
  split <;> exact h

end Body.Throughout

section Requests

variable {kind : Schema → Prop} {Q : TypeExpr → Prop} (hQ : RequestBuilding kind Q)
  {operation : String} {ps : List PartProperty} {body : Option Body} {r : Request}
include hQ

theorem shapeOf_throughout {index : Option TypeExpr}
    (hps : ∀ p ∈ ps, p.property.type.Throughout Q)
    (hindex : ∀ t, index = some t → t.Throughout Q) :
    (TypeExpr.object (shapeOf ps index)).Throughout Q := by
  refine TypeExpr.throughout_object (hQ.shape _ (nodup_names_shapeOf ps index)) ?_ hindex
  intro property hproperty
  obtain ⟨p, hp, rfl⟩ := exists_of_mem_shapeOf hproperty
  exact hps p hp

variable (hps : ∀ p ∈ ps, p.property.type.Throughout Q)
  (hbody : ∀ b, body = some b → b.Throughout Q)
include hps hbody

theorem flatShape_throughout :
    (TypeExpr.object (shapeOf (flatProperties ps body) (body.bind Body.flatIndex))).Throughout
      Q := by
  refine shapeOf_throughout hQ ?_ ?_
  · intro p hp
    rcases List.mem_append.mp hp with hp | hp
    · obtain ⟨part, -, hp⟩ := List.mem_flatMap.mp hp
      exact hps p (List.mem_filter.mp hp).1
    · obtain ⟨property, hproperty, rfl⟩ := List.mem_map.mp hp
      cases hb : body with
      | none =>
          rw [hb] at hproperty
          cases hproperty
      | some b =>
          rw [hb] at hproperty
          exact (hbody b hb).of_flatProperties property hproperty
  · intro t ht
    obtain ⟨b, hb, ht⟩ := Option.bind_eq_some_iff.mp ht
    exact (hbody b hb).of_flatIndex t ht

theorem flatRequest_throughout (h : (flatRequest operation ps body).1 = some r) :
    ∀ t ∈ r.declaration.definition.types, t.Throughout Q := by
  have hshape := flatShape_throughout hQ hps hbody
  rw [flatRequest_eq] at h
  intro t ht
  cases hs : body.bind Body.standalone? with
  | none =>
      simp only [hs, requestOf] at h
      split at h <;> cases h
      rw [List.mem_singleton.mp ht]
      exact hshape
  | some standalone =>
      obtain ⟨b, hb, hstandalone⟩ := Option.bind_eq_some_iff.mp hs
      have htype := (hbody b hb).of_standalone? standalone hstandalone
      simp only [hs, requestOf] at h
      split at h <;> cases h <;> rw [List.mem_singleton.mp ht]
      · exact htype
      · exact hQ.throughout_intersection_pair hshape htype

theorem dividedShape_throughout : (TypeExpr.object (dividedShape ps body)).Throughout Q := by
  refine TypeExpr.throughout_object (hQ.shape _ (nodup_names_dividedShape ps body)) ?_
    (by simp [dividedShape])
  intro property hproperty
  rcases List.mem_append.mp hproperty with hproperty | hproperty
  · obtain ⟨b, hb, rfl⟩ := Option.map_eq_some_iff.mp (Option.mem_toList.mp hproperty)
    exact (hbody b hb).of_property
  · obtain ⟨part, -, hgroup⟩ := List.mem_filterMap.mp hproperty
    rw [(eq_of_group hgroup).2]
    refine shapeOf_throughout hQ ?_ (by simp)
    exact fun p hp => hps p (List.mem_filter.mp hp).1

theorem dividedRequest_throughout (h : (dividedRequest operation ps body).1 = some r) :
    ∀ t ∈ r.declaration.definition.types, t.Throughout Q := by
  rw [dividedRequest_eq] at h
  intro t ht
  simp only at h
  split at h <;> cases h
  rw [List.mem_singleton.mp ht]
  exact dividedShape_throughout hQ hps hbody

end Requests

namespace Document

variable {kind : Schema → Prop} {Q : TypeExpr → Prop} (hQ : RequestBuilding kind Q)
  {doc : Document} (hkind : Covers doc.root kind) {options : Options}
include hQ hkind

theorem request_throughout {name : String} {operation : Operation} {shared : List Parameter}
    {r : Request} {dropped : List Shadowing} (ho : operation.FoundParts doc.root)
    (hshared : ∀ p ∈ shared, FoundIn Parameter.read doc.root p)
    (h : doc.request options name operation shared = .ok (some r, dropped)) :
    ∀ t ∈ r.declaration.definition.types, t.Throughout Q := by
  obtain ⟨parameters, ps, body, ⟨hparameters, hps, hbody⟩, hlaid⟩ := request_eq_ok.mp h
  have hfound := found_of_parameters ho hshared hparameters
  have hps' : ∀ p ∈ ps, p.property.type.Throughout Q := by
    intro p hp
    obtain ⟨parameter, hparameter, hp⟩ := exists_of_mem_partProperties hps hp
    exact typeOf_throughout hQ.toBuilding hkind.found
      (hkind.value parameter (hfound parameter hparameter)) (partProperty?_eq_ok_some hp).2.2.2
  have hbody' : ∀ b, body = some b → b.Throughout Q := by
    rintro b rfl
    cases b with
    | form => exact TypeExpr.throughout_named hQ.form
    | json type _ required =>
        have hschemas : ∀ b, FoundIn RequestBody.read doc.root b → b.HasSchemas kind :=
          fun _ => RequestBody.hasSchemas_of_found hkind.found
        obtain ⟨s, hs, htype⟩ := exists_of_body? hschemas (fun b hb => hschemas b (ho.2.1 b hb))
          (fun p hp s hs => hkind.found s
            ((Parameter.found_of_found (hfound p (List.mem_of_find?_eq_some hp))).2.1 s hs)) hbody
        exact typeOf_throughout hQ.toBuilding hkind.found hs htype
  have hlaid' : (laidOut (layoutOf options ps body) name ps body).1 = some r :=
    (congrArg Prod.fst hlaid).symm
  cases hlayout : layoutOf options ps body with
  | flat =>
      rw [hlayout] at hlaid'
      exact flatRequest_throughout hQ hps' hbody' hlaid'
  | divided =>
      rw [hlayout] at hlaid'
      exact dividedRequest_throughout hQ hps' hbody' hlaid'

/-! ## Responses -/

omit hQ in
/-- The body of a response is of a type of its own or of the type of a schema. -/
theorem typedResponse_throughout (hQ : Building kind Q) (hblob : Q (.named "Blob"))
    {status : Http.Status} {response : Response} {r : TypedResponse}
    (hresponse : FoundIn Response.read doc.root response)
    (h : doc.typedResponse status response = .ok r) : r.body.Throughout Q := by
  unfold typedResponse at h
  split at h
  · split at h <;> cases h
    · exact TypeExpr.throughout_primitive (hQ.primitive .undefined)
    · exact hQ.throughout_unknown
  · next mediaType content hhead =>
      have hmem := List.mem_of_head? hhead
      split at h
      · split at h
        · next s hs =>
            obtain ⟨type, htype, h⟩ := bind_eq_ok.mp h
            cases h
            have hfound : FoundIn MediaType.read doc.root content := by
              cases hcontent : response.content with
              | none =>
                  rw [hcontent] at hmem
                  cases hmem
              | some entries =>
                  rw [hcontent] at hmem
                  exact (Response.found_of_found hresponse).2 entries hcontent _ hmem
            exact typeOf_throughout hQ hkind.found
              (hkind.found s (MediaType.found_of_found hfound hs)) htype
        · cases h
          exact hQ.throughout_unknown
      · cases h
        exact TypeExpr.throughout_primitive (hQ.primitive .string)
      · cases h
        exact TypeExpr.throughout_named hblob
      · cases h
        exact TypeExpr.throughout_primitive (hQ.primitive .string)

end Document

/-! ## Declarations of an operation -/

/-- A property of types that each way of building the declarations of an operation gives as well:
the types of binary bodies, envelopes, the ranges of status codes that the operation uses, and the
members of the union. -/
structure DeclarationBuilding (kind : Schema → Prop) (Q : TypeExpr → Prop) (responses : Responses) :
    Prop extends RequestBuilding kind Q where
  blob : Q (.named "Blob")
  envelope : ∀ body status, Q (OpenApi.envelope body status)
  range : responses.usesRange = true → ∀ leading : Nat,
    Q (.generic statusRangeName [.literal (.integer leading)])
  member : ∀ a ∈ responses.aliases, Q (.named a.name)

namespace DeclarationBuilding

variable {kind : Schema → Prop} {Q : TypeExpr → Prop}

theorem throughout_envelope {responses : Responses} {body status : TypeExpr}
    (hQ : DeclarationBuilding kind Q responses) (hbody : body.Throughout Q)
    (hstatus : status.Throughout Q) : (OpenApi.envelope body status).Throughout Q := by
  refine TypeExpr.throughout_generic (hQ.envelope body status) ?_
  exact List.forall_mem_cons.mpr ⟨hbody, List.forall_mem_singleton.mpr hstatus⟩

theorem throughout_statusType {responses : Responses} {status : Http.Status}
    (hQ : DeclarationBuilding kind Q responses)
    (h : status.isRange = true → responses.usesRange = true) :
    (statusType status).Throughout Q := by
  unfold statusType
  split
  · exact TypeExpr.throughout_literal (hQ.literal _)
  · refine TypeExpr.throughout_generic (hQ.range (h rfl) _) ?_
    exact List.forall_mem_singleton.mpr (TypeExpr.throughout_literal (hQ.literal _))
  all_goals exact TypeExpr.throughout_primitive (hQ.primitive .number)

variable {operation : String} {fullResponse : Bool} {typed : List TypedResponse}
  (hQ : DeclarationBuilding kind Q (.ofTyped operation fullResponse typed))
include hQ

theorem aliases_throughout (hbody : ∀ r ∈ typed, r.body.Throughout Q) :
    ∀ d ∈ (Responses.ofTyped operation fullResponse typed).aliases,
      ∀ t ∈ d.definition.types, t.Throughout Q := by
  intro d hd t ht
  obtain ⟨r, hr, rfl⟩ := List.mem_map.mp hd
  rw [List.mem_singleton.mp ht]
  split
  · next henveloped =>
      refine hQ.throughout_envelope (hbody r hr) (hQ.throughout_statusType fun hstatus => ?_)
      simp only [Responses.ofTyped, henveloped, Bool.true_and, List.any_eq_true]
      exact ⟨r, hr, hstatus⟩
  · exact hbody r hr

/-- The union of responses has the aliases for its members, or is an envelope. -/
theorem union_throughout :
    ∀ t ∈ (Responses.ofTyped operation fullResponse typed).union.definition.types,
      t.Throughout Q := by
  have hmember := hQ.member
  intro t ht
  simp only [Responses.ofTyped] at ht hmember
  split at ht
  · rw [List.mem_singleton.mp ht]
    exact hQ.throughout_envelope hQ.throughout_unknown
      (TypeExpr.throughout_literal (hQ.literal _))
  · obtain ⟨name, hname, rfl⟩ := List.mem_map.mp ht
    obtain ⟨a, ha, rfl⟩ := List.mem_map.mp hname
    exact TypeExpr.throughout_named (hmember a ha)

omit hQ in
/-- What every way of building types gives holds throughout the declarations of an operation. -/
theorem declarations_throughout {doc : Document} {options : Options} {n : NamedOperation}
    {o : TypedOperation} (hkind : Covers doc.root kind) (hn : n.FoundParts doc.root)
    (h : doc.typedOperation options n = .ok o) (hQ : DeclarationBuilding kind Q o.responses) :
    ∀ d ∈ o.declarations, ∀ t ∈ d.definition.types, t.Throughout Q := by
  obtain ⟨hoperation, hfound, hshared⟩ := hn
  obtain ⟨-, hrequest, hresponses⟩ := Document.typedOperation_eq_ok.mp h
  obtain ⟨typed, htyped, hall⟩ := Document.responses_eq_ok hresponses
  rw [htyped] at hQ
  have hbodies : ∀ r ∈ typed, r.body.Throughout Q := by
    intro r hr
    obtain ⟨entry, hentry, response, hresponse, hr⟩ := exists_mem_left hall hr
    exact Document.typedResponse_throughout hkind hQ.toBuilding hQ.blob
      (Document.found_of_deref hresponse (hfound entry hentry)) hr
  intro d hd
  rcases List.mem_append.mp hd with hd | hd
  · rcases List.mem_append.mp hd with hd | hd
    · obtain ⟨r, hr, rfl⟩ := Option.map_eq_some_iff.mp (Option.mem_toList.mp hd)
      rw [hr] at hrequest
      exact Document.request_throughout hQ.toRequestBuilding hkind hoperation hshared hrequest
    · rw [htyped] at hd
      exact hQ.aliases_throughout hbodies d hd
  · rw [List.mem_singleton.mp hd, htyped]
    exact hQ.union_throughout

end DeclarationBuilding

end ApiTypings.OpenApi
