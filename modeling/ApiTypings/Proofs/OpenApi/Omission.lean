import ApiTypings.Proofs.OpenApi.Accounted
import ApiTypings.Proofs.OpenApi.Independence

/-! # Requests that a caller may leave out

Both layouts go by the flags of the parameters that are kept, and by the fields of a body that is an
object or the flag of any other body. They differ for a body that stands apart in the flat layout:
beside parameters the request cannot be left out at all, and alone the flag of the body counts even
if its type is an object.
-/

namespace ApiTypings

open TypeScript

/-- Whether a method can be called without arguments. -/
def TypeScript.Method.allOptional (m : Method) : Bool :=
  m.arguments.all Argument.optional

namespace OpenApi

open Outcome

/-- The request is the only argument of a method. -/
theorem TypedOperation.allOptional_method (o : TypedOperation) :
    o.method.allOptional = o.request.all Request.optional := by
  unfold method
  cases o.request <;> simp [Method.allOptional]

/-! ## What may be left out of a request -/

/-- Whether a client has to send the body. -/
def Body.required : Body → Bool
  | .form required | .json _ _ required => required

/-- The object type whose fields say whether a body may be left out: that of an object which is
merged into a flat request, and that of any object in a divided one. -/
def Body.fieldsIn : Layout → Body → Option (Shape TypeExpr)
  | .flat, .json (.object shape) .object _ => some shape
  | .divided, .json (.object shape) _ _ => some shape
  | _, _ => none

/-- Whether a body may be left out of a request: none of its fields is required, or it is not. -/
def Body.isOptionalIn (layout : Layout) (b : Body) : Bool :=
  match b.fieldsIn layout with
  | some shape => shape.allOptional
  | none => !b.required

/-- A body that is not required may be left out unless its fields say otherwise. -/
theorem Body.isOptionalIn_iff (b : Body) (h : b.required = false) (layout : Layout) :
    b.isOptionalIn layout = true ↔
      ∀ shape, b.fieldsIn layout = some shape → shape.allOptional = true := by
  rw [isOptionalIn]
  cases b.fieldsIn layout <;> simp [h]

/-- Parameters are kept beside a body whose fields cannot stand among them. -/
def StandsBeside (ps : List PartProperty) (body : Option Body) : Prop :=
  keptOf ps ≠ [] ∧ ∃ b ∈ body, b.standalone?.isSome

theorem Body.optional_property (b : Body) : b.property.optional = b.isOptionalIn .divided := by
  cases b with
  | form => rfl
  | json type => cases type <;> rfl

/-- A body that stands apart adds no fields and no index to the object. -/
theorem Body.fieldsIn_flat_of_standalone? {b : Body} {standalone : TypeExpr × Bool}
    (h : b.standalone? = some standalone) : b.fieldsIn .flat = none ∧ b.flatIndex = none := by
  constructor
  · unfold fieldsIn
    split <;> simp_all [standalone?]
  · unfold flatIndex
    split <;> simp_all [standalone?]

theorem Body.required_of_standalone? {b : Body} {type : TypeExpr} {required : Bool}
    (h : b.standalone? = some (type, required)) : b.required = required := by
  unfold standalone? at h
  split at h <;> cases h
  rfl

theorem Body.isOptionalIn_flat_of_standalone? {b : Body} {type : TypeExpr} {required : Bool}
    (h : b.standalone? = some (type, required)) : b.isOptionalIn .flat = !required := by
  rw [isOptionalIn, (fieldsIn_flat_of_standalone? h).1, required_of_standalone? h]

/-- A body that does not stand apart may be left out if its fields may. -/
theorem Body.isOptionalIn_of_standalone? {b : Body} (h : b.standalone? = none) (layout : Layout) :
    b.isOptionalIn layout = b.flatProperties.all Property.optional := by
  cases b with
  | form => cases layout <;> simp [isOptionalIn, fieldsIn, required, flatProperties]
  | json t kind _ =>
      cases t with
      | object =>
          cases kind with
          | object => cases layout <;> rfl
          | value => cases h
      | _ => cases h

/-- A request with the flag of its object may be left out if all properties of the object may. An
empty object, without a request, has no property that is required. -/
theorem all_optional_of_isEmpty {shape : Shape TypeExpr} {r : Request}
    (h : r.optional = shape.allOptional) :
    (if shape.isEmpty then none else some r).all Request.optional = shape.allOptional := by
  split
  · next hempty =>
      simp only [Shape.isEmpty, Bool.and_eq_true, List.isEmpty_iff] at hempty
      simp [Shape.allOptional, hempty.1]
  · simpa using h

section Layouts

variable (operation : String) (ps : List PartProperty) (body : Option Body)

theorem allOptional_flatShape :
    (flatShape ps body).allOptional = ((keptOf ps).all (·.property.optional) &&
      ((body.map Body.flatProperties).getD []).all Property.optional) := by
  simp [Shape.allOptional, flatShape, keptOf, List.all_map, Function.comp_def]

/-- A group may be left out if all of its properties may; one that is not there has none. -/
theorem all_optional_groupOf (part : RequestPart) (properties : List (Property TypeExpr)) :
    (groupOf part properties).all Property.optional = properties.all Property.optional := by
  cases properties with
  | nil => rfl
  | cons => rfl

theorem allOptional_groupedShape :
    (groupedShape ps body).allOptional = ((keptOf ps).all (·.property.optional) &&
      body.all (·.property.optional)) := by
  have hgroups : (parameterParts.filterMap fun part =>
        groupOf part ((firstsAt ps part).map PartProperty.property)).all Property.optional =
      (keptOf ps).all (·.property.optional) := by
    simp only [List.all_filterMap, keptOf, List.all_flatMap]
    refine congrArg _ (funext fun part => ?_)
    have hgroup := all_optional_groupOf part ((firstsAt ps part).map PartProperty.property)
    rw [List.all_map] at hgroup
    refine Eq.trans ?_ hgroup
    cases groupOf part ((firstsAt ps part).map PartProperty.property) <;> rfl
  have hbody : (body.map Body.property).toList.all Property.optional =
      body.all (·.property.optional) := by
    cases body <;> simp
  rw [Shape.allOptional, groupedShape, List.all_append, hgroups, hbody, Bool.and_comm]

theorem keptOf_eq_nil_of_isEmpty_flatShape (h : (flatShape ps body).isEmpty = true) :
    keptOf ps = [] := by
  simp only [Shape.isEmpty, flatShape, Bool.and_eq_true, List.isEmpty_iff, List.append_eq_nil_iff,
    List.map_eq_nil_iff] at h
  exact h.1.1

/-- Beside a body that stands apart, the object has properties of parameters only. -/
theorem isEmpty_flatShape_of_standalone? {b : Body} {standalone : TypeExpr × Bool}
    (h : b.standalone? = some standalone) (hkept : keptOf ps = []) :
    (flatShape ps (some b)).isEmpty = true := by
  have hproperties := Body.flatProperties_of_standalone? h
  have hindex := (Body.fieldsIn_flat_of_standalone? h).2
  rw [keptOf] at hkept
  simp [Shape.isEmpty, flatShape, hkept, hproperties, hindex]

/-- A caller may leave out a request if all that is kept and the body may be left out, and it is no
intersection. -/
theorem all_optional_requestOfFirsts (layout : Layout) :
    (requestOfFirsts operation ps body layout).all Request.optional = true ↔
      (∀ p ∈ keptOf ps, p.property.optional = true) ∧
        (∀ b, body = some b → b.isOptionalIn layout = true) ∧
        ¬(layout = .flat ∧ StandsBeside ps body) := by
  cases layout with
  | divided =>
      rw [requestOfFirsts, all_optional_of_isEmpty rfl, allOptional_groupedShape]
      simp [Body.optional_property, Option.all_eq_true]
  | flat =>
      cases body with
      | none =>
          rw [requestOfFirsts, Option.bind_none, requestOf, all_optional_of_isEmpty rfl,
            allOptional_flatShape]
          simp [StandsBeside]
      | some b =>
          rw [requestOfFirsts, Option.bind_some]
          cases hstandalone : b.standalone? with
          | none =>
              rw [requestOf, all_optional_of_isEmpty rfl, allOptional_flatShape]
              simp [StandsBeside, hstandalone, Body.isOptionalIn_of_standalone? hstandalone]
          | some standalone =>
              obtain ⟨type, required⟩ := standalone
              have hbody := Body.isOptionalIn_flat_of_standalone? hstandalone
              rw [requestOf]
              split
              · next hempty =>
                  have hkept := keptOf_eq_nil_of_isEmpty_flatShape ps (some b) hempty
                  simp [StandsBeside, hkept, hbody]
              · next hempty =>
                  have hkept : keptOf ps ≠ [] :=
                    fun hkept => hempty (isEmpty_flatShape_of_standalone? ps hstandalone hkept)
                  simp [StandsBeside, hkept, hstandalone]

/-- The layouts differ on whether a request may be left out: all parameters that are kept may, and a
body that stands apart may be a property of a divided request that is left out, though beside
parameters a flat one is not, or may not, though alone it is not required. -/
def LayoutsDiffer : Prop :=
  ∃ b type required, body = some b ∧ b.standalone? = some (type, required) ∧
    (∀ p ∈ keptOf ps, p.property.optional = true) ∧
    ((keptOf ps ≠ [] ∧ b.property.optional = true) ∨
      (keptOf ps = [] ∧ b.property.optional = required))

theorem all_optional_flat_eq_divided_iff :
    (requestOfFirsts operation ps body .flat).all Request.optional =
        (requestOfFirsts operation ps body .divided).all Request.optional ↔
      ¬LayoutsDiffer ps body := by
  rw [Bool.eq_iff_iff, all_optional_requestOfFirsts, all_optional_requestOfFirsts]
  cases body with
  | none => simp [StandsBeside, LayoutsDiffer]
  | some b =>
      cases hstandalone : b.standalone? with
      | none =>
          simp [StandsBeside, LayoutsDiffer, hstandalone,
            Body.isOptionalIn_of_standalone? hstandalone]
      | some standalone =>
          obtain ⟨type, required⟩ := standalone
          have hbody := Body.isOptionalIn_flat_of_standalone? hstandalone
          by_cases hkept : keptOf ps = [] <;> cases required <;>
            simp [StandsBeside, LayoutsDiffer, hstandalone, hbody, hkept, Body.optional_property]

end Layouts

/-! ## Kept parameters and required bodies -/

/-- The placed parameters that no earlier one has the name and the part of. -/
def keptParameters (ps : List Parameter) : List Parameter :=
  filterByEarlier (fun p earlier => p.isPlaced && p.partName? ∉ earlier.map Parameter.partName?) ps

/-- No property before one that is kept has its part and its name. -/
theorem exists_of_mem_keptOf {ps : List PartProperty} {q : PartProperty} (h : q ∈ keptOf ps) :
    ∃ before after, ps = before ++ q :: after ∧
      (q.part, q.property.name) ∉ before.map fun p => (p.part, p.property.name) := by
  obtain ⟨part, -, h⟩ := List.mem_flatMap.mp h
  rw [firstsAt, firsts] at h
  obtain ⟨earlier, later, hsplit, hfirst⟩ := mem_filterByEarlier.mp h
  obtain ⟨before, rest, rfl, rfl, hrest⟩ := List.filter_eq_append_iff.mp hsplit
  obtain ⟨skipped, after, rfl, hskipped, hpart, -⟩ := List.filter_eq_cons_iff.mp hrest
  have hpart : q.part = part := of_decide_eq_true hpart
  refine ⟨before ++ skipped, after, by simp, fun hmem => ?_⟩
  obtain ⟨p, hp, hsame⟩ := List.mem_map.mp hmem
  obtain ⟨hsame, hname⟩ := Prod.mk.inj hsame
  have hat : decide (p.part = part) = true := decide_eq_true (hsame.trans hpart)
  rcases List.mem_append.mp hp with hp | hp
  · refine of_decide_eq_true hfirst (List.mem_map.mpr ⟨p, ?_, hname⟩)
    exact List.mem_filter.mpr ⟨hp, hat⟩
  · exact hskipped p hp hat

/-- A property that is kept is that of a parameter that no earlier one has the name and the part
of. -/
theorem Document.exists_parameter_of_mem_keptOf {doc : Document} {options : Options}
    {parameters : List Parameter} {ps : List PartProperty} {q : PartProperty}
    (h : doc.partProperties options parameters = .ok ps) (hq : q ∈ keptOf ps) :
    ∃ p ∈ keptParameters parameters, doc.partProperty? options p = .ok (some q) := by
  obtain ⟨before, after, rfl, hfirst⟩ := exists_of_mem_keptOf hq
  obtain ⟨earlier, p, later, rfl, hbefore, hp⟩ := exists_of_filterMapM_eq_append_cons h
  obtain ⟨hpart, hname, -⟩ := partProperty?_eq_ok_some hp
  have hpartName : p.partName? = some (q.part, q.property.name) := by
    simp [Parameter.partName?, hpart, hname]
  rw [map_partName_partProperties hbefore] at hfirst
  refine ⟨p, mem_filterByEarlier.mpr ⟨earlier, later, rfl, ?_⟩, hp⟩
  simpa [Parameter.isPlaced, hpart, hpartName] using hfirst

/-- The request body of an operation is required behind any references, or it has none and the
parameter for one is. -/
def Document.RequiresBody (doc : Document) : Option RequestBody → Option Parameter → Prop
  | some source, _ => ∃ target, doc.deref source = .ok target ∧ target.required = true
  | none, parameter => ∃ p, parameter = some p ∧ p.required = true

theorem Document.requiresBody_of_body? {doc : Document} {operation : String}
    {requestBody : Option RequestBody} {parameter : Option Parameter} {b : Body}
    (h : doc.body? operation requestBody parameter = .ok (some b)) (hb : b.required = true) :
    doc.RequiresBody requestBody parameter := by
  rcases body?_eq_ok_some h with ⟨source, target, rfl, htarget, rfl⟩ | ⟨s, required, hsource, hjson⟩
  · exact ⟨target, htarget, hb⟩
  · obtain ⟨-, kind, type, -, -, -, rfl⟩ := jsonBody_eq_ok.mp hjson
    cases hsource with
    | content _ htarget => exact ⟨_, htarget, hb⟩
    | parameter => exact ⟨_, rfl, hb⟩

/-! ## Operations -/

namespace Document

variable {doc : Document} (hroot : doc.root.HasDistinctKeys) {options : Options}
  {name : String} {operation : Operation} {shared : List Parameter}
include hroot

/-- A caller may leave out what is laid out if all that is kept and the body may be left out, and it
is no intersection. -/
theorem HasParts.all_optional_laidOut (hoperation : operation.HasDistinctNames)
    (hshared : ∀ p ∈ shared, p.HasDistinctNames) {parameters : List Parameter}
    {ps : List PartProperty} {body : Option Body}
    (h : doc.HasParts options name operation shared parameters ps body) :
    (laidOut (layoutOf options ps body) name ps body).1.all Request.optional = true ↔
      (∀ p ∈ keptOf ps, p.property.optional = true) ∧
        (∀ b, body = some b → b.isOptionalIn (layoutOf options ps body) = true) ∧
        ¬(layoutOf options ps body = .flat ∧ StandsBeside ps body) := by
  rw [laidOut_layoutOf (h.nodup_names hroot hoperation hshared)]
  exact all_optional_requestOfFirsts name ps body _

theorem request_all_optional_inStep (hoperation : operation.HasDistinctNames)
    (hshared : ∀ p ∈ shared, p.HasDistinctNames) (options : Options) (name : String) :
    let flat := { options with fullRequest := false }
    let full := { options with fullRequest := true }
    InStep (fun x y => ∃ parameters ps body,
        doc.HasParts flat name operation shared parameters ps body ∧
        (x.1.all Request.optional = y.1.all Request.optional ↔
          ¬(layoutOf flat ps body = .flat ∧ LayoutsDiffer ps body)))
      (doc.request flat name operation shared) (doc.request full name operation shared) := by
  intro flat full
  rw [request_eq, request_eq]
  refine InStep.bind (R := Eq) (.refl fun _ _ => rfl) ?_
  rintro parameters _ hparameters - rfl
  have hsame : doc.partProperties flat parameters = doc.partProperties full parameters :=
    partProperties_eq rfl parameters
  rw [← hsame]
  refine InStep.bind (R := Eq) (.refl fun _ _ => rfl) ?_
  rintro ps _ hps - rfl
  refine InStep.bind (R := Eq) (.refl fun _ _ => rfl) ?_
  rintro body _ hbody - rfl
  have hparts : doc.HasParts flat name operation shared parameters ps body :=
    ⟨hparameters, hps, hbody⟩
  have hnames := hparts.nodup_names hroot hoperation hshared
  have hfull : layoutOf full ps body = .divided := rfl
  refine .ok ⟨parameters, ps, body, hparts, ?_⟩
  rw [laidOut_layoutOf hnames, laidOut_layoutOf hnames, hfull]
  cases hlayout : layoutOf flat ps body with
  | flat => simp [all_optional_flat_eq_divided_iff]
  | divided => simp

end Document

/-- A flat layout and a full one of an operation fail alike, and where they do not, they agree on
whether its method can be called without arguments, except where the request is in fact flat and the
layouts differ on it. -/
theorem Document.allOptional_method_fullRequest {doc : Document} (hroot : doc.root.HasDistinctKeys)
    {n : NamedOperation} (hoperation : n.operation.HasDistinctNames)
    (hshared : ∀ p ∈ n.shared, p.HasDistinctNames) (options : Options) :
    let flat := { options with fullRequest := false }
    let full := { options with fullRequest := true }
    InStep (fun o o' => ∃ parameters ps body,
        doc.HasParts flat n.name n.operation n.shared parameters ps body ∧
        (o.method.allOptional = o'.method.allOptional ↔
          ¬(layoutOf flat ps body = .flat ∧ LayoutsDiffer ps body)))
      (doc.typedOperation flat n) (doc.typedOperation full n) := by
  intro flat full
  refine (request_all_optional_inStep hroot hoperation hshared options n.name).bind ?_
  rintro ⟨request, diagnostics⟩ ⟨request', diagnostics'⟩ - - h
  refine (responses_inStep doc flat full n.name n.responses).bind ?_
  rintro responses responses' - - -
  refine .ok ?_
  rw [TypedOperation.allOptional_method, TypedOperation.allOptional_method]
  exact h

/-- A query parameter beside an object of any fields, which is required. -/
theorem Document.allOptional_method_fullRequest_of_opaque :
    let doc := Document.ofJson (.object [])
    let n : NamedOperation :=
      { name := "Put"
        operation :=
          { parameters := some [{ name := "dryRun", location := .query }]
            requestBody := some
              { required := true
                content := some
                  [("application/json", { schema := some { type := some (.one "object") } })] } }
        responses := []
        shared := [{ name := "trace", location := .header }] }
    doc.root.HasDistinctKeys ∧ n.operation.HasDistinctNames ∧
      (∀ p ∈ n.shared, p.HasDistinctNames) ∧
      ∃ o o', doc.typedOperation {} n = .ok o ∧
        doc.typedOperation { fullRequest := true } n = .ok o' ∧
        ∃ parameters ps body,
          doc.HasParts {} n.name n.operation n.shared parameters ps body ∧
          (o.method.allOptional = o'.method.allOptional ↔
            ¬(layoutOf {} ps body = .flat ∧ LayoutsDiffer ps body)) := by
  intro doc n
  have hroot : doc.root.HasDistinctKeys := by decide +kernel
  have hoperation : n.operation.HasDistinctNames :=
    { parameters := by simp [n, Parameter.HasDistinctNames]
      requestBody := by simp [n, RequestBody.HasSchemas, Schema.hasDistinctNames_of_type] }
  have hshared : ∀ p ∈ n.shared, p.HasDistinctNames := by
    simp [n, Parameter.HasDistinctNames]
  have hinStep := allOptional_method_fullRequest hroot hoperation hshared {}
  exact ⟨hroot, hoperation, hshared, _, _, rfl, rfl, hinStep.of_ok rfl rfl⟩

/-- A full request of an optional query parameter and a record that is not required may be left out,
and a flat one may not. -/
theorem exists_allOptional_method_ne :
    let root : Json := .object [("paths", .object [("/pets", .object [("patch", .object
      [("operationId", .text "tagPets"),
       ("parameters", .array [.object
         [("name", .text "dryRun"), ("in", .text "query"),
          ("schema", .object [("type", .text "boolean")])]]),
       ("requestBody", .object
         [("content", .object [("application/json", .object [("schema", .object
            [("type", .text "object"),
             ("additionalProperties", .object [("type", .text "string")])])])])]),
       ("responses", .object [("204", .object [])])])])])]
    let operation : Operation :=
      { operationId := some "tagPets"
        parameters := some
          [{ name := "dryRun"
             location := .query
             schema := some { type := some (.one "boolean") } }]
        requestBody := some
          { content := some [("application/json",
              { schema := some
                  { type := some (.one "object")
                    additionalProperties := some (.values { type := some (.one "string") }) } })] }
        responses := some [("204", {})] }
    let description : Description := { paths := [("/pets", { patch := some operation })] }
    let n : NamedOperation :=
      { name := "TagPets", operation, responses := [("204", {})], shared := [] }
    let doc := Document.ofJson root
    let full : Options := { fullRequest := true }
    Description.read root = .ok description ∧ description.namedOperations = .ok [n] ∧
      ∃ o o', doc.typedOperation {} n = .ok o ∧ doc.typedOperation full n = .ok o' ∧
        o.method.allOptional = false ∧ o'.method.allOptional = true := by
  intro root operation description n doc full
  exact ⟨rfl, rfl, _, _, rfl, rfl, rfl, rfl⟩

/-- If nothing that is kept or sent is required, a method can be called without arguments exactly
where no field is required of an object that says on its own whether it may be left out. Nothing is
said of a flat request for kept parameters and a body beside them. -/
theorem Document.allOptional_method_iff {doc : Document} (hroot : doc.root.HasDistinctKeys)
    {options : Options} {n : NamedOperation} {o : TypedOperation}
    (hoperation : n.operation.HasDistinctNames) (hshared : ∀ p ∈ n.shared, p.HasDistinctNames)
    {parameters : List Parameter} {ps : List PartProperty} {body : Option Body}
    (h : doc.typedOperation options n = .ok o)
    (hparts : doc.HasParts options n.name n.operation n.shared parameters ps body)
    (hkept : ∀ p ∈ keptParameters parameters,
      p.required = false ∨ (p.location = .header ∧ options.isOptionalHeader p.name = true))
    (hbody : ¬doc.RequiresBody n.operation.requestBody (parameters.find? (·.location = .body)))
    (hbeside : ¬(layoutOf options ps body = .flat ∧ StandsBeside ps body)) :
    o.method.allOptional = true ↔
      ∀ b shape, body = some b → b.fieldsIn (layoutOf options ps body) = some shape →
        shape.allOptional = true := by
  have hrequest := (typedOperation_eq_ok.mp h).2.1
  have hlaid := request_eq_ok.mpr ⟨parameters, ps, body, hparts, rfl⟩
  have heq : o.request = (laidOut (layoutOf options ps body) n.name ps body).1 :=
    congrArg Prod.fst (Except.ok.inj (hrequest.symm.trans hlaid))
  have hoptional : ∀ q ∈ keptOf ps, q.property.optional = true := by
    intro q hq
    obtain ⟨p, hp, hproperty⟩ := exists_parameter_of_mem_keptOf hparts.properties_eq hq
    rw [(partProperty?_eq_ok_some hproperty).2.2.1]
    simpa [Parameter.isOptional] using hkept p hp
  rw [TypedOperation.allOptional_method, heq, hparts.all_optional_laidOut hroot hoperation hshared,
    and_iff_right hoptional, and_iff_left hbeside]
  have hfields : ∀ b, body = some b → (b.isOptionalIn (layoutOf options ps body) = true ↔
      ∀ shape, b.fieldsIn (layoutOf options ps body) = some shape → shape.allOptional = true) := by
    rintro b rfl
    refine b.isOptionalIn_iff (Bool.eq_false_iff.mpr fun hrequired => hbody ?_) _
    exact requiresBody_of_body? hparts.body_eq hrequired
  constructor
  · intro hall b shape hb hshape
    exact (hfields b hb).mp (hall b hb) shape hshape
  · intro hall b hb
    exact (hfields b hb).mpr fun shape => hall b shape hb

/-- An object of any fields beside a required header that a caller may leave out. -/
theorem Document.allOptional_method_iff_of_header :
    let doc := Document.ofJson (.object [])
    let options : Options := { fullRequest := true, optionalHeaders := ["token"] }
    let n : NamedOperation :=
      { name := "Put"
        operation :=
          { parameters := some [{ name := "token", location := .header, required := true }]
            requestBody := some
              { content := some
                  [("application/json", { schema := some { type := some (.one "object") } })] } }
        responses := []
        shared := [] }
    doc.root.HasDistinctKeys ∧ n.operation.HasDistinctNames ∧
      (∀ p ∈ n.shared, p.HasDistinctNames) ∧
      ∃ o parameters ps body, doc.typedOperation options n = .ok o ∧
        doc.HasParts options n.name n.operation n.shared parameters ps body ∧
        (∀ p ∈ keptParameters parameters,
          p.required = false ∨ (p.location = .header ∧ options.isOptionalHeader p.name = true)) ∧
        ¬doc.RequiresBody n.operation.requestBody (parameters.find? (·.location = .body)) ∧
        ¬(layoutOf options ps body = .flat ∧ StandsBeside ps body) ∧
        (o.method.allOptional = true ↔
          ∀ b shape, body = some b → b.fieldsIn (layoutOf options ps body) = some shape →
            shape.allOptional = true) := by
  intro doc options n
  have hroot : doc.root.HasDistinctKeys := by decide +kernel
  have hoperation : n.operation.HasDistinctNames :=
    { parameters := by simp [n, Parameter.HasDistinctNames]
      requestBody := by simp [n, RequestBody.HasSchemas, Schema.hasDistinctNames_of_type] }
  have hshared : ∀ p ∈ n.shared, p.HasDistinctNames := by simp [n]
  let ps : List PartProperty :=
    [{ part := .headers, property := { name := "token", type := .string, optional := true } }]
  let body : Body := .json (.primitive .object) .object false
  have hparts : doc.HasParts options n.name n.operation n.shared
      [{ name := "token", location := .header, required := true }] ps (some body) :=
    { parameters_eq := rfl, properties_eq := rfl, body_eq := rfl }
  have hkept : ∀ p ∈ keptParameters [{ name := "token", location := .header, required := true }],
      p.required = false ∨ (p.location = .header ∧ options.isOptionalHeader p.name = true) := by
    decide
  have hbody : ¬doc.RequiresBody n.operation.requestBody none := by
    rintro ⟨target, htarget, hrequired⟩
    cases htarget
    cases hrequired
  have hbeside : ¬(layoutOf options ps (some body) = .flat ∧ StandsBeside ps (some body)) :=
    fun h => Layout.noConfusion h.1
  exact ⟨hroot, hoperation, hshared, _, _, _, _, rfl, hparts, hkept, hbody, hbeside,
    allOptional_method_iff hroot hoperation hshared rfl hparts hkept hbody hbeside⟩

/-- In both layouts a method cannot be called without arguments for a body that is not required, if
the body is an object with a required field. -/
theorem exists_not_allOptional_method :
    let root : Json := .object [("paths", .object [("/pets", .object [("post", .object
      [("operationId", .text "createPet"),
       ("requestBody", .object
         [("content", .object [("application/json", .object [("schema", .object
            [("type", .text "object"),
             ("required", .array [.text "name"]),
             ("properties", .object [("name", .object [("type", .text "string")])])])])])]),
       ("responses", .object [("204", .object [])])])])])]
    let operation : Operation :=
      { operationId := some "createPet"
        requestBody := some
          { content := some [("application/json",
              { schema := some
                  { type := some (.one "object")
                    required := some ["name"]
                    properties := some [("name", { type := some (.one "string") })] } })] }
        responses := some [("204", {})] }
    let description : Description := { paths := [("/pets", { post := some operation })] }
    let n : NamedOperation :=
      { name := "CreatePet", operation, responses := [("204", {})], shared := [] }
    let doc := Document.ofJson root
    Description.read root = .ok description ∧ description.namedOperations = .ok [n] ∧
      doc.parameters [] [] = .ok [] ∧ ¬doc.RequiresBody operation.requestBody none ∧
      ∃ o o', doc.typedOperation {} n = .ok o ∧
        doc.typedOperation { fullRequest := true } n = .ok o' ∧
        o.method.allOptional = false ∧ o'.method.allOptional = false := by
  intro root operation description n doc
  have hbody : ¬doc.RequiresBody operation.requestBody none := by
    rintro ⟨target, htarget, hrequired⟩
    cases htarget
    cases hrequired
  exact ⟨rfl, rfl, rfl, hbody, _, _, rfl, rfl, rfl, rfl⟩

end OpenApi

end ApiTypings
