import ApiTypings.Proofs.OpenApi.Deduplicated

/-! # Options do not interfere

With any two choices of options, the generations for a document fail alike or drop the same
properties, and each option changes nothing but what it is about.
-/

namespace ApiTypings.OpenApi

open TypeScript Outcome Reader

/-! ## Flags of headers -/

/-- Two properties of requests are the same, but for the flag of a header with one of the names. -/
structure PartProperty.SameButFlag (headers : List String) (p q : PartProperty) : Prop where
  part_eq : p.part = q.part
  name_eq : p.property.name = q.property.name
  type_eq : p.property.type = q.property.type
  optional_eq : ¬(p.part = .headers ∧ p.property.name ∈ headers) →
    p.property.optional = q.property.optional

/-- Two properties are the same, but for the flag if they have one of the names. -/
structure SameButFlag (names : List String) (p q : Property TypeExpr) : Prop where
  name_eq : p.name = q.name
  type_eq : p.type = q.type
  optional_eq : p.name ∉ names → p.optional = q.optional

/-- Two object types are the same, but for the flags of properties with one of the names. -/
structure SameButFlags (names : List String) (s t : Shape TypeExpr) : Prop where
  properties : List.Forall₂ (SameButFlag names) s.properties t.properties
  index_eq : s.index = t.index

/-- Two requests are the same, but for the flags of headers with one of the names, which are
properties in the flat layout and inside of the last property in the divided one, for the flag of
that property and for the flag of the request. -/
inductive Request.SameButFlags (headers : List String) : Request → Request → Prop
  | refl (r : Request) : SameButFlags headers r r
  | flat {name : String} {s t : Shape TypeExpr} {optional optional' : Bool}
      (h : OpenApi.SameButFlags headers s t) :
      SameButFlags headers
        { declaration := .interface name s, optional, layout := .flat }
        { declaration := .interface name t, optional := optional', layout := .flat }
  | beside {name : String} {s t : Shape TypeExpr} {type : TypeExpr} {optional : Bool}
      (h : OpenApi.SameButFlags headers s t) :
      SameButFlags headers
        { declaration := .typeAlias name (.intersection [.object s, type])
          optional
          layout := .flat }
        { declaration := .typeAlias name (.intersection [.object t, type])
          optional
          layout := .flat }
  | divided {name : String} {others : List (Property TypeExpr)} {s t : Shape TypeExpr}
      {flag flag' optional optional' : Bool} (h : OpenApi.SameButFlags headers s t) :
      SameButFlags headers
        { declaration := .interface name
            { properties := others ++
                [{ name := "headers", type := .object s, optional := flag }] }
          optional
          layout := .divided }
        { declaration := .interface name
            { properties := others ++
                [{ name := "headers", type := .object t, optional := flag' }] }
          optional := optional'
          layout := .divided }

section Layouts

variable {headers : List String} {ps qs : List PartProperty}
  (h : List.Forall₂ (PartProperty.SameButFlag headers) ps qs)
include h

theorem forall₂_filter_part (part : RequestPart) :
    List.Forall₂ (PartProperty.SameButFlag headers) (ps.filter (·.part = part))
      (qs.filter (·.part = part)) := by
  refine List.rel_filter ?_ h
  intro p q hpq
  simp only [hpq.part_eq]

/-- Only headers differ. -/
theorem filter_part_eq {part : RequestPart} (hpart : part ≠ .headers) :
    ps.filter (·.part = part) = qs.filter (·.part = part) := by
  induction h with
  | nil => rfl
  | @cons p q _ _ hpq _ ih =>
      rw [List.filter_cons, List.filter_cons, ← hpq.part_eq, ih]
      split
      · next hp =>
          have hne : p.part ≠ .headers := fun heq => hpart ((of_decide_eq_true hp).symm.trans heq)
          have heq : p = q := by
            obtain ⟨part, name, type, optional⟩ := p
            obtain ⟨part', name', type', optional'⟩ := q
            obtain ⟨hpart, hname, htype, hoptional⟩ := hpq
            simp_all
          rw [heq]
      · rfl

theorem forall₂_flatProperties (body : Option Body) :
    List.Forall₂ (PartProperty.SameButFlag headers) (flatProperties ps body)
      (flatProperties qs body) := by
  have hrefl (p : PartProperty) : p.SameButFlag headers p := ⟨rfl, rfl, rfl, fun _ => rfl⟩
  refine List.rel_append ?_ (List.forall₂_same.mpr fun p _ => hrefl p)
  refine List.rel_flatMap (List.forall₂_same.mpr fun part _ => rfl) ?_
  rintro part _ rfl
  exact forall₂_filter_part h part

theorem partNames_eq (body : Option Body) : partNames ps body = partNames qs body := by
  unfold partNames
  congr 1
  refine map_eq_map_of_forall₂ h fun p q hpq => ?_
  rw [hpq.part_eq, hpq.name_eq]

theorem layoutOf_eq {options options' : Options}
    (hfull : options.fullRequest = options'.fullRequest) (body : Option Body) :
    layoutOf options ps body = layoutOf options' qs body := by
  have hparts : ps.map (·.part) = qs.map (·.part) :=
    map_eq_map_of_forall₂ h fun _ _ hpq => hpq.part_eq
  have hany (rs : List PartProperty) : (rs.any fun p => p.part = .path || p.part = .query) =
      (rs.map (·.part)).any fun part => part = .path || part = .query := by
    rw [List.any_map]
    rfl
  unfold layoutOf
  rw [hfull, partNames_eq h, hany, hany, hparts]

theorem sameButFlags_shapeOf (index : Option TypeExpr) :
    SameButFlags headers (shapeOf ps index) (shapeOf qs index) := by
  refine ⟨?_, rfl⟩
  have hfirst : List.Forall₂ (PartProperty.SameButFlag headers) (firstOfNames ps).1
      (firstOfNames qs).1 :=
    (forall₂_firstOfEach (fun _ _ hpq => hpq.name_eq) h).1
  rw [shapeOf, shapeOf, List.forall₂_map_left_iff, List.forall₂_map_right_iff]
  refine hfirst.imp fun p q hpq => ⟨hpq.name_eq, hpq.type_eq, fun hname => ?_⟩
  exact hpq.optional_eq fun h => hname h.2

theorem shadowings_droppedOf_eq (operation : String) :
    shadowings operation (droppedOf ps) = shadowings operation (droppedOf qs) := by
  have hdropped : List.Forall₂ (PartProperty.SameButFlag headers) (droppedOf ps)
      (droppedOf qs) := by
    refine List.rel_flatMap (List.forall₂_same.mpr fun part _ => rfl) ?_
    rintro part _ rfl
    exact (forall₂_firstOfEach (fun _ _ hpq => hpq.name_eq) (forall₂_filter_part h part)).2
  refine map_eq_map_of_forall₂ hdropped fun p q hpq => ?_
  rw [hpq.name_eq, hpq.part_eq]

end Layouts

/-! ## Layouts -/

theorem SameButFlags.isEmpty_properties_eq {names : List String} {s t : Shape TypeExpr}
    (h : SameButFlags names s t) : s.properties.isEmpty = t.properties.isEmpty := by
  rw [Bool.eq_iff_iff, List.isEmpty_iff_length_eq_zero, List.isEmpty_iff_length_eq_zero,
    h.properties.length_eq]

theorem SameButFlags.isEmpty_eq {names : List String} {s t : Shape TypeExpr}
    (h : SameButFlags names s t) : s.isEmpty = t.isEmpty := by
  rw [Shape.isEmpty, Shape.isEmpty, h.isEmpty_properties_eq, h.index_eq]

theorem requestOf_sameButFlags {headers : List String} {s t : Shape TypeExpr}
    (h : SameButFlags headers s t) (name : String) (standalone : Option (TypeExpr × Bool)) :
    Option.Rel (Request.SameButFlags headers) (requestOf name s standalone)
      (requestOf name t standalone) := by
  cases standalone with
  | none =>
      simp only [requestOf, h.isEmpty_eq]
      split
      · exact .none
      · exact .some (.flat h)
  | some standalone =>
      simp only [requestOf, h.isEmpty_eq]
      split
      · exact .some (.refl _)
      · exact .some (.beside h)

section Layouts

variable {headers : List String} {ps qs : List PartProperty}
  (h : List.Forall₂ (PartProperty.SameButFlag headers) ps qs)
include h

theorem group_eq {part : RequestPart} (hpart : part ≠ .headers) :
    group ps part = group qs part := by
  unfold group
  rw [filter_part_eq h hpart]

theorem group_headers_sameButFlags :
    Option.Rel (fun p q => ∃ s t flag flag', SameButFlags headers s t ∧
        p = { name := "headers", type := .object s, optional := flag } ∧
        q = { name := "headers", type := .object t, optional := flag' })
      (group ps .headers) (group qs .headers) := by
  have hshape := sameButFlags_shapeOf (forall₂_filter_part h .headers) none
  simp only [group, hshape.isEmpty_properties_eq]
  split
  · exact .none
  · exact .some ⟨_, _, _, _, hshape, rfl, rfl⟩

omit h in
theorem dividedShape_eq (ps : List PartProperty) (body : Option Body) :
    dividedShape ps body =
      { properties :=
          ((body.map Body.property).toList ++ [RequestPart.path, .query].filterMap (group ps)) ++
            (group ps .headers).toList } := by
  have hparts : parameterParts = [RequestPart.path, .query] ++ [.headers] := rfl
  have hheaders : [RequestPart.headers].filterMap (group ps) = (group ps .headers).toList := by
    cases hg : group ps .headers <;> simp [hg]
  rw [dividedShape, hparts, List.filterMap_append, hheaders, List.append_assoc]

/-- Only the group of headers differs. -/
theorem dividedRequest_sameButFlags (operation : String) (body : Option Body) :
    Option.Rel (Request.SameButFlags headers) (dividedRequest operation ps body).1
      (dividedRequest operation qs body).1 := by
  have hothers : [RequestPart.path, .query].filterMap (group ps) =
      [RequestPart.path, .query].filterMap (group qs) := by
    refine List.filterMap_congr fun part hpart => group_eq h ?_
    rintro rfl
    exact absurd hpart (by decide)
  rw [dividedRequest_eq, dividedRequest_eq, dividedShape_eq, dividedShape_eq, hothers]
  have hgroup := group_headers_sameButFlags h
  generalize group ps .headers = g at hgroup ⊢
  generalize group qs .headers = g' at hgroup ⊢
  cases hgroup with
  | none =>
      simp only
      split
      · exact .none
      · exact .some (.refl _)
  | some hgroup =>
      obtain ⟨s, t, flag, flag', hshape, rfl, rfl⟩ := hgroup
      have hempty (others : List (Property TypeExpr)) (last : Property TypeExpr) :
          Shape.isEmpty { properties := others ++ [last] } = false := by
        simp [Shape.isEmpty]
      simp only [Option.toList_some, hempty, Bool.false_eq_true, if_false]
      exact .some (.divided hshape)

theorem laidOut_sameButFlags (layout : Layout) (operation : String) (body : Option Body) :
    Option.Rel (Request.SameButFlags headers) (laidOut layout operation ps body).1
      (laidOut layout operation qs body).1 := by
  cases layout with
  | flat =>
      simp only [laidOut, flatRequest_eq]
      exact requestOf_sameButFlags (sameButFlags_shapeOf (forall₂_flatProperties h body) _) _ _
  | divided => exact dividedRequest_sameButFlags h operation body

end Layouts

/-! ## Parameters -/

theorem Parameter.isOptional_eq {p : Parameter} (h : p.location ≠ .header)
    (options options' : Options) : p.isOptional options = p.isOptional options' := by
  simp [isOptional, h]

namespace Document

variable {doc : Document} {options options' : Options}

theorem partProperty?_inStep {headers : List String} {parameter : Parameter}
    (h : parameter.location = .header → parameter.name ∈ headers) :
    InStep (Option.Rel (PartProperty.SameButFlag headers)) (doc.partProperty? options parameter)
      (doc.partProperty? options' parameter) := by
  unfold partProperty?
  cases hpart : parameter.location.part? with
  | none => exact .ok .none
  | some part =>
      refine InStep.bind (R := Eq) (.refl fun _ _ => rfl) ?_
      rintro type _ - - rfl
      refine .ok (.some ⟨rfl, rfl, rfl, fun hnot => ?_⟩)
      refine Parameter.isOptional_eq (fun hheader => hnot ⟨?_, h hheader⟩) options options'
      rw [hheader] at hpart
      exact (Option.some.inj hpart).symm

theorem partProperties_inStep {headers : List String} {parameters : List Parameter}
    (h : ∀ p ∈ parameters, p.location = .header → p.name ∈ headers) :
    InStep (List.Forall₂ (PartProperty.SameButFlag headers))
      (doc.partProperties options parameters) (doc.partProperties options' parameters) :=
  InStep.filterMapM fun p hp => partProperty?_inStep (h p hp)

theorem partProperties_eq (h : options.optionalHeaders = options'.optionalHeaders)
    (parameters : List Parameter) :
    doc.partProperties options parameters = doc.partProperties options' parameters := by
  refine filterMapM_congr fun p _ => ?_
  simp only [partProperty?, Parameter.isOptional, Options.isOptionalHeader, h]

/-! ## Requests and responses -/

/-- The names of the headers among the parameters of an operation. -/
def headerNames (doc : Document) (n : NamedOperation) : List String :=
  match doc.parameters (n.operation.parameters.getD []) n.shared with
  | .ok parameters => (parameters.filter (·.location = .header)).map (·.name)
  | .error _ => []

end Document

/-- What two choices of options have in common for the request of an operation. -/
structure RequestsAgree (options options' : Options) (headers : List String)
    (x y : Option Request × List Shadowing) : Prop where
  dropped_eq : x.2 = y.2
  sameButFlags : options.fullRequest = options'.fullRequest →
    Option.Rel (Request.SameButFlags headers) x.1 y.1
  request_eq : options.fullRequest = options'.fullRequest →
    options.optionalHeaders = options'.optionalHeaders → x.1 = y.1

namespace Document

variable {doc : Document} {options options' : Options}

theorem request_inStep (hroot : doc.root.HasDistinctKeys) {n : NamedOperation}
    (hn : n.FoundParts doc.root) :
    InStep (RequestsAgree options options' (doc.headerNames n))
      (doc.request options n.name n.operation n.shared)
      (doc.request options' n.name n.operation n.shared) := by
  obtain ⟨hoperation, -, hshared⟩ := hn
  rw [request_eq, request_eq]
  refine InStep.bind (R := Eq) (.refl fun _ _ => rfl) ?_
  rintro parameters _ hparameters - rfl
  have hheaders : ∀ p ∈ parameters, p.location = .header → p.name ∈ doc.headerNames n := by
    intro p hp hheader
    rw [headerNames, hparameters]
    exact List.mem_map_of_mem (List.mem_filter.mpr ⟨hp, decide_eq_true hheader⟩)
  refine (partProperties_inStep hheaders).bind fun ps qs hps hqs hall => ?_
  refine InStep.bind (R := Eq) (.refl fun _ _ => rfl) ?_
  rintro body _ hbody - rfl
  -- A field that the body had twice would be dropped from the flat layout alone.
  have hnames : ∀ b, body = some b → b.names.Nodup :=
    HasParts.nodup_names hroot (Operation.hasDistinctNames_of_foundParts hroot hoperation)
      (fun p hp => Parameter.hasDistinctNames_of_found hroot (hshared p hp))
      ⟨hparameters, hps, hbody⟩
  refine .ok ⟨?_, fun hfull => ?_, fun hfull hoptional => ?_⟩
  · rw [laidOut_layoutOf hnames, laidOut_layoutOf hnames, shadowings_droppedOf_eq hall]
  · rw [layoutOf_eq hall hfull]
    exact laidOut_sameButFlags hall _ n.name body
  · rw [partProperties_eq hoptional, hqs] at hps
    cases hps
    rw [layoutOf_eq hall hfull]

/-- The responses rest on the option for full responses only, and the name of their union on
none. -/
theorem responses_inStep (doc : Document) (options options' : Options) (operation : String)
    (entries : List (String × Response)) :
    InStep (fun r r' => r.union.name = r'.union.name ∧
        (options.fullResponse = options'.fullResponse → r = r'))
      (doc.responses options operation entries) (doc.responses options' operation entries) := by
  refine InStep.bind (R := Eq) (.refl fun _ _ => rfl) ?_
  rintro typed _ - - rfl
  refine .ok ⟨?_, fun hfull => ?_⟩
  · rw [name_union, name_union]
  · rw [hfull]

end Document

/-! ## Operations -/

/-- Two methods are the same, but for the flags of their arguments. -/
structure Method.SameButFlags (m m' : Method) : Prop where
  name_eq : m.name = m'.name
  typeParameters_eq : m.typeParameters = m'.typeParameters
  arguments_eq : m.arguments.map (fun a => (a.name, a.type)) =
    m'.arguments.map fun a => (a.name, a.type)
  result_eq : m.result = m'.result

/-- What two choices of options have in common for an operation with some headers: the properties
that are dropped, the responses if the choices agree on full responses, and the request if they
agree on full requests, up to the flags of headers that they do not agree on. -/
structure OperationsAgree (options options' : Options) (headers : List String)
    (o o' : TypedOperation) : Prop where
  name_eq : o.name = o'.name
  diagnostics_eq : o.diagnostics = o'.diagnostics
  responses_eq : options.fullResponse = options'.fullResponse → o.responses = o'.responses
  request_sameButFlags : options.fullRequest = options'.fullRequest →
    Option.Rel (Request.SameButFlags headers) o.request o'.request
  method_sameButFlags : options.fullRequest = options'.fullRequest →
    Method.SameButFlags o.method o'.method
  request_eq : options.fullRequest = options'.fullRequest →
    options.optionalHeaders = options'.optionalHeaders → o.request = o'.request

theorem Request.SameButFlags.name_eq {headers : List String} {r r' : Request}
    (h : r.SameButFlags headers r') : r.declaration.name = r'.declaration.name := by
  cases h <;> rfl

theorem TypedOperation.method_sameButFlags {headers : List String} {o o' : TypedOperation}
    (hname : o.name = o'.name) (hunion : o.responses.union.name = o'.responses.union.name)
    (hrequest : Option.Rel (Request.SameButFlags headers) o.request o'.request) :
    Method.SameButFlags o.method o'.method where
  name_eq := by rw [o.name_method, o'.name_method, hname]
  typeParameters_eq := rfl
  arguments_eq := by
    unfold method
    generalize o.request = request at hrequest
    generalize o'.request = request' at hrequest
    cases hrequest with
    | none => rfl
    | some h => simp [h.name_eq]
  result_eq := by
    unfold method
    rw [hunion]

theorem Document.typedOperation_inStep {doc : Document} {options options' : Options}
    (hroot : doc.root.HasDistinctKeys) {n : NamedOperation} (hn : n.FoundParts doc.root) :
    InStep (OperationsAgree options options' (doc.headerNames n))
      (doc.typedOperation options n) (doc.typedOperation options' n) := by
  refine (request_inStep hroot hn).bind ?_
  rintro ⟨request, diagnostics⟩ ⟨request', diagnostics'⟩ - - hrequest
  refine (responses_inStep doc options options' n.name n.responses).bind ?_
  rintro responses responses' - - ⟨hunion, hresponses⟩
  exact .ok
    { name_eq := rfl
      diagnostics_eq := hrequest.dropped_eq
      responses_eq := hresponses
      request_sameButFlags := hrequest.sameButFlags
      method_sameButFlags := fun hfull =>
        TypedOperation.method_sameButFlags rfl hunion (hrequest.sameButFlags hfull)
      request_eq := hrequest.request_eq }

/-! ## Outputs -/

theorem Document.operations_inStep {doc : Document} (hroot : doc.root.HasDistinctKeys)
    (options options' : Options) :
    InStep (List.Forall₂ fun o o' => o.diagnostics = o'.diagnostics) (doc.operations options)
      (doc.operations options') := by
  unfold operations
  cases hread : Description.read doc.root with
  | error cause => exact .error (GenerationError.unreadable cause)
  | ok description =>
      simp only [pure_bind]
      refine InStep.bind (R := Eq) (.refl fun _ _ => rfl) ?_
      rintro named _ hnamed - rfl
      refine InStep.mapM fun n hn => ?_
      have hparts := foundParts_of_namedOperations hread hnamed n hn
      exact (typedOperation_inStep hroot hparts).imp fun _ _ h => h.diagnostics_eq

theorem generate_inStep {root : Json} (hroot : root.HasDistinctKeys) (options options' : Options) :
    InStep (fun output output' => output.diagnostics = output'.diagnostics)
      (generate root options) (generate root options') := by
  refine (Document.operations_inStep hroot options options').bind fun os os' _ _ hall => ?_
  refine .ok ?_
  simp only [List.flatMap_def]
  rw [map_eq_map_of_forall₂ hall fun _ _ h => h]

/-- For a document that is read from a text, options change neither the error nor the dropped
properties. -/
theorem generate_inStep_of_parse? {source : String} {root : Json}
    (h : Json.parse? source = some root) (options options' : Options) :
    InStep (fun output output' => output.diagnostics = output'.diagnostics)
      (generate root options) (generate root options') :=
  generate_inStep (Json.hasDistinctKeys_of_parse? h) options options'

/-- The operations do not rest on the name of the client. -/
theorem Document.operations_clientName (doc : Document) (options : Options)
    (name : Option String) :
    doc.operations { options with clientName := name } = doc.operations options := rfl

/-- The text of the client interface goes on after its name independently of it. -/
theorem exists_render_apiClient (operations : List TypedOperation) :
    ∃ rest, ∀ name, (apiClient name operations).render = "export interface " ++ name ++ rest := by
  refine ⟨renderTypeParameters [] ++ (" \x7b\n" ++ (String.join
    (((operations.map TypedOperation.method).map Method.render).map fun member =>
      "  " ++ member ++ ";\n") ++ "\x7d\n")), fun name => ?_⟩
  simp only [apiClient, Declaration.render, String.append_assoc]
  rfl

/-- What two choices of options have in common for a document: the dropped properties, and operation
by operation what they agree on. With choices that differ in the name of the client only, the texts
differ in that name only. -/
structure OutputsAgree (root : Json) (options options' : Options) (output output' : Output) :
    Prop where
  diagnostics_eq : output.diagnostics = output'.diagnostics
  operations : ∃ description named operations operations',
    Shows root options output description named operations ∧
    Shows root options' output' description named operations' ∧
    List.Forall₂ (fun n (o, o') =>
        OperationsAgree options options' ((Document.ofJson root).headerNames n) o o')
      named (operations.zip operations')
  client : options' = { options with clientName := options'.clientName } →
    output.declarations = output'.declarations ∧
      ∃ rest,
        output.client =
          "export interface " ++ options.clientName.getD defaultClientName ++ rest ∧
        output'.client =
          "export interface " ++ options'.clientName.getD defaultClientName ++ rest

/-- Options do not interfere: for a document without repeated keys, as every one that is read from a
text, any two choices lead to the same error or to outputs that agree. -/
theorem generate_independent (root : Json) (hroot : root.HasDistinctKeys)
    (options options' : Options) :
    (∀ e, generate root options = .error e ↔ generate root options' = .error e) ∧
      ∀ output output', generate root options = .ok output →
        generate root options' = .ok output' →
        OutputsAgree root options options' output output' := by
  have hinStep := generate_inStep hroot options options'
  refine ⟨hinStep.error_iff, fun output output' h h' => ?_⟩
  obtain ⟨description, named, operations, hshows⟩ := generate_eq_ok.mp h
  obtain ⟨description', named', operations', hshows'⟩ := generate_eq_ok.mp h'
  obtain rfl : description = description' :=
    Except.ok.inj (hshows.read_eq.symm.trans hshows'.read_eq)
  obtain rfl : named = named' := Except.ok.inj (hshows.named_eq.symm.trans hshows'.named_eq)
  refine ⟨hinStep.of_ok h h', ⟨description, named, operations, operations', hshows, hshows', ?_⟩,
    fun hoptions => ?_⟩
  · refine forall₂_zip hshows.typed hshows'.typed fun n hn o o' ho ho' => ?_
    have hparts := foundParts_of_namedOperations hshows.read_eq hshows.named_eq n hn
    exact (Document.typedOperation_inStep hroot hparts).of_ok ho ho'
  · have hoperations : operations = operations' := by
      have hsame := hshows.operations_eq
      rw [← Document.operations_clientName _ options options'.clientName, ← hoptions] at hsame
      exact Except.ok.inj (hsame.symm.trans hshows'.operations_eq)
    obtain ⟨rest, hrest⟩ := exists_render_apiClient operations
    refine ⟨?_, rest, ?_, ?_⟩
    · rw [hshows.declarations_eq, hshows'.declarations_eq, hoperations]
    · rw [hshows.client_eq, hrest]
    · rw [hshows'.client_eq, ← hoperations, hrest]

/-- A header given twice, in a flat request that may be left out and in a divided one that may
not. -/
theorem generate_independent_of_header :
    let root : Json := .object [("paths", .object [("/", .object
      [("get", .object
        [("parameters", .array
          [.object [("name", .text "Authorization"), ("in", .text "header"),
             ("required", .boolean true)],
           .object [("name", .text "Authorization"), ("in", .text "header")]]),
         ("responses", .object [("204", .object [])])])])])]
    let options : Options := {}
    let options' : Options := { fullRequest := true, optionalHeaders := [] }
    let responses :=
      "export type GetResponseNoContent = undefined;\n\n" ++
        "export type GetResponses = GetResponseNoContent;\n"
    let diagnostics : List Shadowing :=
      [{ operation := "Get", property := "Authorization", part := .headers }]
    let output : Output :=
      { declarations := envelopeDeclaration.render ++
          "\nexport interface GetRequest \x7b\n  'Authorization'?: string;\n\x7d\n\n" ++ responses
        client :=
          "export interface ApiClient \x7b\n" ++
          "  get(request?: GetRequest): Promise<GetResponses>;\n\x7d\n"
        diagnostics }
    let output' : Output :=
      { declarations := envelopeDeclaration.render ++
          "\nexport interface GetRequest \x7b\n  'headers': \x7b 'Authorization': string \x7d;\n" ++
          "\x7d\n\n" ++ responses
        client :=
          "export interface ApiClient \x7b\n" ++
          "  get(request: GetRequest): Promise<GetResponses>;\n\x7d\n"
        diagnostics }
    root.HasDistinctKeys ∧ generate root options = .ok output ∧
      generate root options' = .ok output' ∧
      (∀ e, generate root options = .error e ↔ generate root options' = .error e) ∧
      OutputsAgree root options options' output output' := by
  intro root options options' responses diagnostics output output'
  have hroot : root.HasDistinctKeys := by decide +kernel
  have h : generate root options = .ok output := by decide +kernel
  have h' : generate root options' = .ok output' := by decide +kernel
  obtain ⟨herror, hok⟩ := generate_independent root hroot options options'
  exact ⟨hroot, h, h', herror, hok output output' h h'⟩

end ApiTypings.OpenApi
