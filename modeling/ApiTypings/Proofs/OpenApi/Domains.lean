import ApiTypings.Proofs.OpenApi.Clashes
import ApiTypings.Proofs.OpenApi.Cycles
import ApiTypings.Proofs.TypeScript.Objects

/-! # Bodies that are objects

Whether a type is one of objects can be told from the keywords of its schema. The layout of a
request goes by less than that: by the first declared type of a body, or by `allOf`. So a body that
may be text as well can end up beside parameters.
-/

namespace ApiTypings.OpenApi

open TypeScript Outcome

/-! ## The domains of schemas -/

namespace Schema

/-- The domain of enumerated values: of those that have literals, only null counts. -/
def enumDomain (values : List Json) : Domain :=
  .unionOf (values.map fun
    | .null => .null
    | _ => .other)

/-- The domain of one declared type, or of no declared type. Enumerated values are no objects, even
where objects are declared. -/
def domainNamed (s : Schema) (name : Option String) : Domain :=
  if name = some "array" then .other
  else
    match s.enum with
    | some values => enumDomain values
    | none =>
        match name with
        | some "object" => .object
        | some "null" => .null
        | _ => .other

/-- The domain of a schema without combining keywords, null apart. -/
def declaredDomain (s : Schema) : Domain :=
  if s.declaredTypes.length < 2 then s.domainNamed s.primaryType
  else
    match s.enum, s.declaredTypes.contains "array" with
    | some values, false => enumDomain values
    | _, _ => .union (s.declaredTypes.map fun name => s.domainNamed (some name))

/-- Null is not declared by name where objects are declared first. -/
theorem null_not_mem_declaredTypes {s : Schema} (hprimary : s.primaryType = some "object") :
    "null" ∉ s.declaredTypes := by
  unfold primaryType declaredTypes at hprimary
  unfold declaredTypes
  cases htype : s.type with
  | none => simp
  | some keyword =>
      cases keyword with
      | one name =>
          rw [htype] at hprimary
          cases hprimary
          simp
      | many names => simp

theorem domainNamed_of_ne_null {s : Schema} (henum : s.enum = none) {name : String}
    (hname : name ≠ "null") :
    s.domainNamed (some name) = if name = "object" then .object else .other := by
  unfold domainNamed
  by_cases hobject : name = "object"
  · simp [henum, hobject]
  · simp only [henum, if_neg hobject]
    split
    · rfl
    · split <;> simp_all

/-- The first of the declared types does not tell: all of them have to be objects. -/
theorem declaredDomain_of_primaryType {s : Schema} (henum : s.enum = none)
    (hprimary : s.primaryType = some "object") :
    s.declaredDomain = if ∀ name ∈ s.declaredTypes, name = "object" then .object else .other := by
  have hnull := null_not_mem_declaredTypes hprimary
  have hnamed (name : String) (hname : name ∈ s.declaredTypes) :=
    domainNamed_of_ne_null henum (ne_of_mem_of_not_mem hname hnull)
  unfold declaredDomain
  by_cases hlength : s.declaredTypes.length < 2
  · rw [if_pos hlength, hprimary, domainNamed_of_ne_null henum (by decide), if_pos rfl]
    refine (if_pos fun name hname => ?_).symm
    have hfirst := primaryType_of_mem_declaredTypes hlength hname
    exact Option.some.inj (hfirst.symm.trans hprimary)
  · simp only [if_neg hlength, henum]
    have hother : .other ∈ s.declaredTypes.map (fun name => s.domainNamed (some name)) ↔
        ¬∀ name ∈ s.declaredTypes, name = "object" := by
      rw [List.map_congr_left hnamed]
      simp
    simp only [Domain.union, hother, ite_not]

/-- The domain of a schema, given the domains behind references. -/
def domain (behind : String → Domain) (s : Schema) : Domain :=
  match _h : s.decision with
  | .reference pointer => behind pointer
  | .wrapped inner => inner.domain behind
  | .anyOf members => .unionOf (members.attach.map fun t => t.val.domain behind)
  | .oneOf members => .unionOf (members.attach.map fun t => t.val.domain behind)
  | .allOf members => .intersectionOf (members.attach.map fun t => t.val.domain behind)
  | .const literal => if literal = .null then .null else .other
  | .declared => .orNullIf s.isNullable s.declaredDomain
termination_by sizeOf s
decreasing_by
  · exact (Child.wrapped (decides_of_decision _h).2).sizeOf_lt
  · exact (Child.anyOf (decides_of_decision _h).2.2 t.property).sizeOf_lt
  · exact (Child.oneOf (decides_of_decision _h).2.2 t.property).sizeOf_lt
  · exact (Child.allOf (decides_of_decision _h).2.2 t.property).sizeOf_lt

/-- The domain of a schema, by the keyword that decides its type. -/
theorem domain_eq (behind : String → Domain) (s : Schema) :
    s.domain behind =
      match s.decision with
      | .reference pointer => behind pointer
      | .wrapped inner => inner.domain behind
      | .anyOf members | .oneOf members => .unionOf (members.map (domain behind))
      | .allOf members => .intersectionOf (members.map (domain behind))
      | .const literal => if literal = .null then .null else .other
      | .declared => .orNullIf s.isNullable s.declaredDomain := by
  rw [domain]
  split <;> simp [*]

/-- A schema that its declared types decide, with objects among them first, is one of objects where
nothing else is declared. -/
theorem domain_eq_object_iff_of_declared {s : Schema} (hd : s.decision = .declared)
    (henum : s.enum = none) (hprimary : s.primaryType = some "object") (behind : String → Domain) :
    s.domain behind = .object ↔ ∀ name ∈ s.declaredTypes, name = "object" := by
  rw [domain_eq, hd]
  simp only [declaredDomain_of_primaryType henum hprimary]
  rw [Domain.orNullIf_eq_object_iff (by simp [ite_eq_iff])]
  simp

theorem allOf_eq_none_of_decision {s : Schema} (hd : s.decision = .declared) : s.allOf = none := by
  unfold decision at hd
  repeat' split at hd
  all_goals first | contradiction | assumption

/-! ## The domains of types -/

theorem ofNumber?_ne_null (n : Json.Number) : Literal.ofNumber? n ≠ some .null := by
  cases n with
  | integer i => simp [Literal.ofNumber?, ite_eq_iff]
  | double d => simp [Literal.ofNumber?]

theorem domain_ofEnumerated (asText : Bool) (values : List Json) :
    (TypeExpr.ofEnumerated asText values).domain = enumDomain values := by
  rw [TypeExpr.ofEnumerated, TypeExpr.domain_unionOf, List.map_map]
  refine congrArg _ (List.map_congr_left fun value _ => ?_)
  cases value with
  | null => cases asText <;> rfl
  | boolean => cases asText <;> rfl
  | number n =>
      simp only [Function.comp_apply, Literal.ofEnumerated?, Literal.ofJson?]
      cases hliteral : Literal.ofNumber? n with
      | none => rfl
      | some l =>
          cases l with
          | null => exact absurd hliteral (ofNumber?_ne_null n)
          | _ => cases asText <;> rfl
  | text => cases asText <;> rfl
  | array => rfl
  | object => rfl

variable {direction : Direction} {s : Schema} {type : TypeExpr}

/-- The type for a declared type has its domain, if that of objects is one of objects. -/
theorem domain_of_typeNamed {item object : Unit → Except GenerationError TypeExpr}
    {name : Option String} (h : s.typeNamed direction item object name = .ok type)
    (hobject : ∀ t, object () = .ok t → t.domain = .object) : type.domain = s.domainNamed name := by
  unfold typeNamed at h
  unfold domainNamed
  by_cases harray : name = some "array"
  · rw [if_pos harray] at h ⊢
    obtain ⟨t, -, h⟩ := bind_eq_ok.mp h
    cases h
    rfl
  · rw [if_neg harray] at h ⊢
    cases henum : s.enum with
    | some values =>
        rw [henum] at h
        cases h
        exact domain_ofEnumerated _ values
    | none =>
        rw [henum] at h
        simp only at h ⊢
        split at h
        · exact hobject type h
        · cases h
          unfold stringType
          split <;> rfl
        all_goals cases h
        all_goals split <;> first | contradiction | rfl

/-- The union of the types for declared types has the domain of a union of theirs. -/
theorem domain_of_mapM_typeNamed {item object : Unit → Except GenerationError TypeExpr}
    (h : TypeExpr.union <$> s.declaredTypes.mapM
      (fun name => s.typeNamed direction item object (some name)) = .ok type)
    (hobject : ∀ t, object () = .ok t → t.domain = .object) :
    type.domain = .union (s.declaredTypes.map fun name => s.domainNamed (some name)) := by
  obtain ⟨types, htypes, rfl⟩ := map_eq_ok.mp h
  obtain ⟨g, hg, rfl⟩ := exists_map_of_mapM htypes
  rw [TypeExpr.domain_union, List.map_map]
  refine congrArg _ (List.map_congr_left fun name hname => ?_)
  exact domain_of_typeNamed (hg name hname) hobject

theorem domain_of_declaredType {item object : Unit → Except GenerationError TypeExpr}
    (h : s.declaredType direction item object = .ok type)
    (hobject : ∀ t, object () = .ok t → t.domain = .object) : type.domain = s.declaredDomain := by
  unfold declaredType at h
  unfold declaredDomain
  by_cases hlength : s.declaredTypes.length < 2
  · simp only [if_pos hlength] at h ⊢
    exact domain_of_typeNamed h hobject
  · simp only [if_neg hlength, bind_pure_comp] at h ⊢
    cases henum : s.enum with
    | none =>
        simp only [henum] at h ⊢
        exact domain_of_mapM_typeNamed h hobject
    | some values =>
        cases harray : s.declaredTypes.contains "array" with
        | true =>
            simp only [henum, harray] at h ⊢
            exact domain_of_mapM_typeNamed h hobject
        | false =>
            simp only [henum, harray] at h ⊢
            cases h
            exact domain_ofEnumerated false values

variable {expand : String → Except GenerationError TypeExpr}

/-- Every object has a type of objects, with properties or without. -/
theorem domain_of_objectTypeWith (h : s.objectTypeWith direction expand = .ok type) :
    type.domain = .object := by
  unfold objectTypeWith at h
  split at h
  · obtain ⟨shape, -, h⟩ := bind_eq_ok.mp h
    split at h
    · unfold withValues at h
      split at h
      · cases h
        rfl
      · obtain ⟨t, -, h⟩ := bind_eq_ok.mp h
        cases h
        rfl
    all_goals
      cases h
      rfl
  · split at h
    · split at h
      · obtain ⟨t, -, rfl⟩ := map_eq_ok.mp h
        rfl
      · cases h
        rfl
    · cases h
      rfl

/-- The domains of the members of a `oneOf` are the same where a property is pinned. -/
theorem map_domain_pinMembers (discriminator : Option Discriminator) (members : List Schema)
    (g : Schema → TypeExpr) :
    (pinMembers discriminator members (members.map g)).map TypeExpr.domain =
      members.map fun t => (g t).domain := by
  unfold pinMembers
  split
  · rw [List.map_map, Function.comp_def]
  · split
    · rw [List.zipWith_map_right, List.zipWith_self, List.map_map]
      refine List.map_congr_left fun t _ => ?_
      rw [Function.comp_apply]
      split
      · exact TypeExpr.domain_pinField _ _ _
      · rfl
    · rw [List.map_map, Function.comp_def]

/-- The type of a schema has the domain of the schema, if that holds behind references. -/
theorem domain_of_typeWith {behind : String → Domain}
    (hexpand : ∀ pointer type, expand pointer = .ok type → type.domain = behind pointer)
    (s : Schema) (type : TypeExpr) (h : s.typeWith direction expand = .ok type) :
    type.domain = s.domain behind := by
  have hmembers {members : List Schema} {g : Schema → TypeExpr}
      (hmember : ∀ t ∈ members, Child s t)
      (hg : ∀ t ∈ members, t.typeWith direction expand = .ok (g t)) :
      (members.map fun t => (g t).domain) = members.map (domain behind) := by
    refine List.map_congr_left fun t ht => ?_
    have := (hmember t ht).sizeOf_lt
    exact domain_of_typeWith hexpand t (g t) (hg t ht)
  rw [typeWith_eq] at h
  rw [domain_eq]
  cases hd : s.decision with
  | reference pointer =>
      rw [hd] at h
      exact hexpand pointer type h
  | wrapped inner =>
      have := (Child.wrapped (decides_of_decision hd).2).sizeOf_lt
      rw [hd] at h
      exact domain_of_typeWith hexpand inner type h
  | anyOf members =>
      rw [hd] at h
      obtain ⟨types, htypes, rfl⟩ := map_eq_ok.mp h
      obtain ⟨g, hg, rfl⟩ := exists_map_of_mapM htypes
      rw [TypeExpr.domain_unionOf, List.map_map]
      exact congrArg _ (hmembers (fun t ht => .anyOf (decides_of_decision hd).2.2 ht) hg)
  | oneOf members =>
      rw [hd] at h
      obtain ⟨types, htypes, rfl⟩ := map_eq_ok.mp h
      obtain ⟨g, hg, rfl⟩ := exists_map_of_mapM htypes
      rw [TypeExpr.domain_unionOf, map_domain_pinMembers]
      exact congrArg _ (hmembers (fun t ht => .oneOf (decides_of_decision hd).2.2 ht) hg)
  | allOf members =>
      rw [hd] at h
      obtain ⟨types, htypes, rfl⟩ := map_eq_ok.mp h
      obtain ⟨g, hg, rfl⟩ := exists_map_of_mapM htypes
      rw [TypeExpr.domain_intersectionOf, List.map_map]
      exact congrArg _ (hmembers (fun t ht => .allOf (decides_of_decision hd).2.2 ht) hg)
  | const literal =>
      rw [hd] at h
      cases h
      cases literal <;> rfl
  | declared =>
      rw [hd] at h
      obtain ⟨core, hcore, rfl⟩ := map_eq_ok.mp h
      rw [TypeExpr.domain_orNullIf,
        domain_of_declaredType hcore fun t ht => domain_of_objectTypeWith ht]
termination_by sizeOf s

end Schema

namespace Document

variable {doc : Document} {direction : Direction}

/-- The domain of the schema behind a reference. The first argument bounds how many references are
followed. -/
def domainBehind (doc : Document) : Nat → String → Domain
  | 0, _ => .other
  | room + 1, pointer =>
      match doc.resolve Schema.read pointer with
      | .ok target => target.domain (doc.domainBehind room)
      | .error _ => .other

/-- The domain of a schema in a document. -/
def domainOf (doc : Document) (s : Schema) : Domain :=
  s.domain (doc.domainBehind doc.room)

theorem domain_of_expand {room : Nat} {active : List String} {pointer : String} {type : TypeExpr}
    (h : doc.expand direction room active pointer = .ok type) :
    type.domain = doc.domainBehind room pointer := by
  induction room generalizing active pointer type with
  | zero =>
      obtain ⟨-, _, n, -, hroom, -⟩ := expand_eq_ok h
      contradiction
  | succ room ih =>
      obtain ⟨-, target, n, htarget, hroom, h⟩ := expand_eq_ok h
      cases hroom
      simp only [domainBehind, htarget]
      exact Schema.domain_of_typeWith (fun _ _ hp => ih hp) target type h

theorem domain_of_typeOf {s : Schema} {type : TypeExpr} (h : doc.typeOf direction s = .ok type) :
    type.domain = doc.domainOf s :=
  Schema.domain_of_typeWith (fun _ _ hp => domain_of_expand hp) s type h

end Document

/-! ## Bodies in the flat layout -/

/-- The kind of a body is that of objects if its first declared type is one, or if it has no type
but is combined by `allOf`. -/
theorem bodyKind_eq_object_iff {operation : String} {s : Schema} :
    bodyKind operation s = .ok .object ↔
      s.primaryType = some "object" ∨ (s.primaryType = none ∧ s.allOf.isSome = true) := by
  unfold bodyKind
  split <;> simp_all [pure, Except.pure, Option.isSome_iff_ne_none]

/-- Beside parameters of the path or the query, a JSON body in the flat layout is of the kind of
objects. -/
theorem kind_eq_object_of_layoutOf {options : Options} {ps : List PartProperty} {type : TypeExpr}
    {kind : BodyKind} {required : Bool}
    (h : layoutOf options ps (some (.json type kind required)) = .flat)
    (hps : ∃ p ∈ ps, p.part = .path ∨ p.part = .query) : kind = .object := by
  cases kind with
  | object => rfl
  | value =>
      obtain ⟨p, hp, hpart⟩ := hps
      have hany : ps.any (fun p => p.part = .path || p.part = .query) = true := by
        rw [List.any_eq_true]
        exact ⟨p, hp, by simpa using hpart⟩
      rw [layoutOf, hany] at h
      simp [Body.isValue] at h

/-- In the flat layout, a JSON body beside parameters of the path or the query is declared as an
object first of all, or combined by `allOf`. It has a type of objects exactly where its schema is of
that domain: if its declared types decide, where all of them are objects. -/
theorem Document.request_flat_isObjectLike_iff {doc : Document} {options : Options} {name : String}
    {operation : Operation} {shared : List Parameter} {r : Request} {dropped : List Shadowing}
    (h : doc.request options name operation shared = .ok (some r, dropped))
    (hflat : r.layout = .flat) :
    ∃ parameters ps body, doc.HasParts options name operation shared parameters ps body ∧
      ∀ type kind required, body = some (.json type kind required) →
        (∃ p ∈ ps, p.part = .path ∨ p.part = .query) →
        ∃ s target,
          doc.JsonSource operation.requestBody (parameters.find? (·.location = .body)) s required ∧
          doc.deref s = .ok target ∧
          (target.primaryType = some "object" ∨
            (target.primaryType = none ∧ target.allOf.isSome = true)) ∧
          (type.IsObjectLike ↔ doc.domainOf s = .object) ∧
          (s.decision = .declared → s.enum = none →
            (type.IsObjectLike ↔ ∀ name ∈ s.declaredTypes, name = "object")) := by
  obtain ⟨parameters, ps, body, hparts, hlaid⟩ := request_eq_ok.mp h
  refine ⟨parameters, ps, body, hparts, ?_⟩
  rintro type kind required rfl hps
  have hlayout := layoutOf_of_layout_eq (congrArg Prod.fst hlaid).symm hflat
  obtain rfl := kind_eq_object_of_layoutOf hlayout hps
  rcases body?_eq_ok_some hparts.body_eq with ⟨_, _, _, _, hb⟩ | ⟨s, required', hsource, hjson⟩
  · cases hb
  · obtain ⟨target, kind, type', htarget, hkind, htype, hb⟩ := jsonBody_eq_ok.mp hjson
    cases hb
    have hobject := bodyKind_eq_object_iff.mp hkind
    have hdomain : type.IsObjectLike ↔ doc.domainOf s = .object := by
      rw [TypeExpr.isObjectLike_iff, domain_of_typeOf htype]
    refine ⟨s, target, hsource, htarget, hobject, hdomain, fun hd henum => ?_⟩
    rw [deref_of_reference_eq_none (Schema.decides_of_decision hd).1] at htarget
    cases htarget
    have hprimary := hobject.resolve_right (by simp [Schema.allOf_eq_none_of_decision hd])
    exact hdomain.trans (Schema.domain_eq_object_iff_of_declared hd henum hprimary _)

/-- A parameter of the path beside a nullable object behind a reference. -/
theorem Document.request_flat_isObjectLike_iff_of_reference :
    let doc := Document.ofJson (.object [("Pet", .object
      [("type", .text "object"), ("nullable", .boolean true)])])
    let operation : Operation :=
      { parameters := some [{ name := "id", location := .path, required := true }]
        requestBody := some
          { content := some
              [("application/json", { schema := some { reference := some "#/Pet" } })] } }
    let r : Request :=
      { declaration := .typeAlias "PutRequest"
          (.intersection [.object { properties := [{ name := "id", type := .string }] },
            .union [.primitive .object, .null]])
        optional := false
        layout := .flat }
    doc.request {} "Put" operation [] = .ok (some r, []) ∧ r.layout = .flat ∧
      ∃ parameters ps body, doc.HasParts {} "Put" operation [] parameters ps body ∧
        ∀ type kind required, body = some (.json type kind required) →
          (∃ p ∈ ps, p.part = .path ∨ p.part = .query) →
          ∃ s target,
            doc.JsonSource operation.requestBody (parameters.find? (·.location = .body)) s
              required ∧
            doc.deref s = .ok target ∧
            (target.primaryType = some "object" ∨
              (target.primaryType = none ∧ target.allOf.isSome = true)) ∧
            (type.IsObjectLike ↔ doc.domainOf s = .object) ∧
            (s.decision = .declared → s.enum = none →
              (type.IsObjectLike ↔ ∀ name ∈ s.declaredTypes, name = "object")) := by
  intro doc operation r
  have h : doc.request {} "Put" operation [] = .ok (some r, []) := by rfl
  exact ⟨h, rfl, request_flat_isObjectLike_iff h rfl⟩

/-- A body may be text in the flat layout, beside a parameter of the path: a list of types that
begins with objects is taken for objects. -/
theorem exists_request_flat_not_isObjectLike :
    let root : Json := .object [("paths", .object [("/pets/\x7bid\x7d", .object [("put", .object
      [("operationId", .text "replacePet"),
       ("parameters", .array [.object
         [("name", .text "id"), ("in", .text "path"), ("required", .boolean true),
          ("schema", .object [("type", .text "string")])]]),
       ("requestBody", .object
         [("required", .boolean true),
          ("content", .object [("application/json", .object [("schema", .object
            [("type", .array [.text "object", .text "string"])])])])]),
       ("responses", .object [("204", .object [])])])])])]
    let operation : Operation :=
      { operationId := some "replacePet"
        parameters := some
          [{ name := "id"
             location := .path
             required := true
             schema := some { type := some (.one "string") } }]
        requestBody := some
          { required := true
            content := some [("application/json",
              { schema := some { type := some (.many ["object", "string"]) } })] }
        responses := some [("204", {})] }
    let type : TypeExpr := .union [.primitive .object, .string]
    let r : Request :=
      { declaration := .typeAlias "ReplacePetRequest"
          (.intersection [.object { properties := [{ name := "id", type := .string }] }, type])
        optional := false
        layout := .flat }
    Description.read root = .ok { paths := [("/pets/\x7bid\x7d", { put := some operation })] } ∧
      (Document.ofJson root).request {} "ReplacePet" operation [] = .ok (some r, []) ∧
      r.layout = .flat ∧
      (∃ parameters ps,
        (Document.ofJson root).HasParts {} "ReplacePet" operation [] parameters ps
          (some (.json type .object true)) ∧
        ∃ p ∈ ps, p.part = .path) ∧
      ¬type.IsObjectLike := by
  intro root operation type r
  let q : PartProperty := { part := .path, property := { name := "id", type := .string } }
  have hparts : (Document.ofJson root).HasParts {} "ReplacePet" operation []
      (operation.parameters.getD []) [q] (some (.json type .object true)) :=
    { parameters_eq := rfl, properties_eq := rfl, body_eq := rfl }
  refine ⟨rfl, rfl, rfl, ⟨_, _, hparts, q, List.mem_singleton_self q, rfl⟩, ?_⟩
  rw [TypeExpr.isObjectLike_iff]
  decide

end ApiTypings.OpenApi
