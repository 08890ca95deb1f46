import ApiTypings.Proofs.OpenApi.PropertyNames

/-! # Properties given twice

Each part of a request keeps the first property of each name, and the later ones are reported and
dropped. What the other parts have does not matter: where all parts stand in one object, no two of
them share a name.
-/

namespace ApiTypings.OpenApi

open TypeScript Outcome

/-! ## Elements and those before them -/

section Earlier

variable {α : Type}

/-- The elements that stand in a relation to the list of those before them, in order. -/
def filterByEarlier (p : α → List α → Bool) (as : List α) : List α :=
  (as.zipIdx.filter fun x => p x.1 (as.take x.2)).map Prod.fst

/-- The elements whose key no earlier element has. -/
def firsts (key : α → String) (as : List α) : List α :=
  filterByEarlier (fun a earlier => key a ∉ earlier.map key) as

/-- The elements whose key an earlier element has. -/
def repeats (key : α → String) (as : List α) : List α :=
  filterByEarlier (fun a earlier => key a ∈ earlier.map key) as

@[simp] theorem filterByEarlier_nil (p : α → List α → Bool) : filterByEarlier p [] = [] := rfl

/-- The head has nothing before it, and all others have the head before them. -/
theorem filterByEarlier_cons (p : α → List α → Bool) (a : α) (as : List α) :
    filterByEarlier p (a :: as) =
      (if p a [] then [a] else []) ++ filterByEarlier (fun b earlier => p b (a :: earlier)) as := by
  have hrest : (((as.zipIdx.map (Prod.map id (· + 1))).filter fun x =>
      p x.1 ((a :: as).take x.2)).map Prod.fst) =
        filterByEarlier (fun b earlier => p b (a :: earlier)) as := by
    simp [filterByEarlier, List.filter_map, Function.comp_def]
  rw [filterByEarlier, List.zipIdx_cons', List.filter_cons, List.take_zero]
  by_cases h : p a [] = true
  · rw [if_pos h, if_pos h, List.map_cons, hrest, List.singleton_append]
  · rw [if_neg h, if_neg h, hrest, List.nil_append]

/-- What is chosen among the elements of a kind is chosen of that kind. -/
theorem filter_filterByEarlier (r : α → Bool) (p : α → List α → Bool) (as : List α) :
    (filterByEarlier p as).filter r = filterByEarlier (fun a earlier => r a && p a earlier) as := by
  simp only [filterByEarlier, List.filter_map, List.filter_filter]
  rfl

/-- An element is chosen where it stands behind elements that it is chosen for. -/
theorem mem_filterByEarlier {p : α → List α → Bool} {a : α} {as : List α} :
    a ∈ filterByEarlier p as ↔ ∃ earlier later, as = earlier ++ a :: later ∧ p a earlier := by
  induction as generalizing p with
  | nil => simp
  | cons b as ih =>
      rw [filterByEarlier_cons, List.mem_append, ih]
      constructor
      · rintro (h | ⟨earlier, later, rfl, h⟩)
        · split at h
          · next hb =>
              rw [List.mem_singleton.mp h]
              exact ⟨[], as, rfl, hb⟩
          · cases h
        · exact ⟨b :: earlier, later, rfl, h⟩
      · rintro ⟨earlier, later, heq, h⟩
        cases earlier with
        | nil =>
            cases heq
            exact .inl (by simp [h])
        | cons c earlier =>
            cases heq
            exact .inr ⟨earlier, later, rfl, h⟩

/-- Of the elements of a kind, some are chosen by a condition and the others against it. -/
theorem perm_filterByEarlier (r : α → Bool) (p : α → List α → Bool) (as : List α) :
    (as.filter r).Perm (filterByEarlier (fun a earlier => r a && !p a earlier) as ++
      filterByEarlier (fun a earlier => r a && p a earlier) as) := by
  induction as generalizing p with
  | nil => simp
  | cons a as ih =>
      have htail := ih fun b earlier => p b (a :: earlier)
      rw [filterByEarlier_cons, filterByEarlier_cons]
      by_cases hr : r a = true
      · rw [List.filter_cons_of_pos hr]
        by_cases hp : p a [] = true
        · simpa [hr, hp] using (htail.cons a).trans List.perm_middle.symm
        · simpa [hr, hp] using htail.cons a
      · simpa [hr] using htail

/-- What comes first and what comes later is decided by the keys of the earlier elements and the
keys that were seen before. -/
theorem firstOfEach_eq_filterByEarlier (key : α → String) (seen : List String) (as : List α) :
    firstOfEach key seen as =
      (filterByEarlier (fun a earlier => key a ∉ seen ++ earlier.map key) as,
        filterByEarlier (fun a earlier => key a ∈ seen ++ earlier.map key) as) := by
  induction as generalizing seen with
  | nil => rfl
  | cons a as ih =>
      rw [filterByEarlier_cons, filterByEarlier_cons]
      by_cases h : key a ∈ seen
      · have hseen (b : α) (earlier : List α) :
            key b ∈ seen ++ (a :: earlier).map key ↔ key b ∈ seen ++ earlier.map key := by
          simp only [List.map_cons, List.mem_append, List.mem_cons]
          grind
        rw [firstOfEach_cons_of_mem h, ih seen]
        simp only [hseen, List.map_nil, List.append_nil, h]
        rfl
      · have hseen (b : α) (earlier : List α) :
            key b ∈ seen ++ (a :: earlier).map key ↔
              key b ∈ (key a :: seen) ++ earlier.map key := by
          simp only [List.map_cons, List.mem_append, List.mem_cons]
          grind
        rw [firstOfEach_cons_of_not_mem h, ih (key a :: seen)]
        simp only [hseen, List.map_nil, List.append_nil, h]
        rfl

theorem firstOfEach_eq (key : α → String) (as : List α) :
    firstOfEach key [] as = (firsts key as, repeats key as) :=
  firstOfEach_eq_filterByEarlier key [] as

/-- Every element comes first or later. -/
theorem perm_firsts_append_repeats (key : α → String) (as : List α) :
    as.Perm (firsts key as ++ repeats key as) := by
  have hperm := perm_filterByEarlier (fun _ => true) (fun a earlier => key a ∈ earlier.map key) as
  simpa only [firsts, repeats, List.filter_true, Bool.true_and, decide_not] using hperm

end Earlier

/-! ## Parts -/

/-- The properties of a part that come first with their names there. -/
def firstsAt (ps : List PartProperty) (part : RequestPart) : List PartProperty :=
  firsts (fun p => p.property.name) (ps.filter (·.part = part))

/-- The properties of a part that an earlier one there shares the name with. -/
def repeatsAt (ps : List PartProperty) (part : RequestPart) : List PartProperty :=
  repeats (fun p => p.property.name) (ps.filter (·.part = part))

/-- The properties that are kept in the parts of parameters. -/
def keptOf (ps : List PartProperty) : List PartProperty :=
  parameterParts.flatMap (firstsAt ps)

theorem firstOfNames_filter (ps : List PartProperty) (part : RequestPart) :
    firstOfNames (ps.filter (·.part = part)) = (firstsAt ps part, repeatsAt ps part) :=
  firstOfEach_eq _ _

theorem droppedOf_eq (ps : List PartProperty) :
    droppedOf ps = parameterParts.flatMap (repeatsAt ps) := by
  simp only [droppedOf, firstOfNames_filter]

theorem part_eq_of_mem_repeatsAt {ps : List PartProperty} {part : RequestPart} {p : PartProperty}
    (h : p ∈ repeatsAt ps part) : p.part = part := by
  obtain ⟨x, hx, rfl⟩ := List.mem_map.mp h
  have hmem := List.fst_mem_of_mem_zipIdx (List.mem_filter.mp hx).1
  simpa using (List.mem_filter.mp hmem).2

/-- No parameter is in the body. -/
theorem part_ne_body_of_mem_repeatsAt {ps : List PartProperty} {p : PartProperty}
    (h : p ∈ parameterParts.flatMap (repeatsAt ps)) : p.part ≠ .body := by
  obtain ⟨part, hpart, hp⟩ := List.mem_flatMap.mp h
  rw [part_eq_of_mem_repeatsAt hp]
  rintro rfl
  exact absurd hpart (by decide)

/-! ## Requests -/

/-- The object of all parts: the properties that come first in their parts, and all fields of the
body. -/
def flatShape (ps : List PartProperty) (body : Option Body) : Shape TypeExpr :=
  { properties := (parameterParts.flatMap (firstsAt ps)).map PartProperty.property ++
      (body.map Body.flatProperties).getD []
    index := body.bind Body.flatIndex }

/-- The property of a part for its properties, if there are any. -/
def groupOf (part : RequestPart) (properties : List (Property TypeExpr)) :
    Option (Property TypeExpr) :=
  if properties.isEmpty then none
  else
    some { name := part.name
           type := .object { properties }
           optional := Shape.allOptional { properties } }

/-- The object of the body as a whole and of a property for each part with the properties that come
first in it. -/
def groupedShape (ps : List PartProperty) (body : Option Body) : Shape TypeExpr :=
  { properties := (body.map Body.property).toList ++
      parameterParts.filterMap fun part =>
        groupOf part ((firstsAt ps part).map PartProperty.property) }

/-- The request with the properties that come first in their parts. -/
def requestOfFirsts (operation : String) (ps : List PartProperty) (body : Option Body) :
    Layout → Option Request
  | .flat => requestOf (requestName operation) (flatShape ps body) (body.bind Body.standalone?)
  | .divided =>
      if (groupedShape ps body).isEmpty then none
      else
        some { declaration := .interface (requestName operation) (groupedShape ps body)
               optional := (groupedShape ps body).allOptional
               layout := .divided }

theorem map_property_bodyFields (body : Option Body) :
    (bodyFields body).map PartProperty.property = (body.map Body.flatProperties).getD [] := by
  simp [bodyFields, Function.comp_def]

theorem shapeOf_flatProperties {ps : List PartProperty} {body : Option Body}
    (hshares : sharesName (partNames ps body) = false)
    (hbody : ∀ b, body = some b → b.names.Nodup) :
    shapeOf (flatProperties ps body) (body.bind Body.flatIndex) = flatShape ps body := by
  rw [shapeOf, firstOfNames_flatProperties hshares hbody, List.map_append, map_property_bodyFields]
  simp only [firstOfNames_filter]
  rfl

theorem dividedShape_eq_groupedShape (ps : List PartProperty) (body : Option Body) :
    dividedShape ps body = groupedShape ps body := by
  have hgroup : group ps = fun part =>
      groupOf part ((firstsAt ps part).map PartProperty.property) := by
    funext part
    simp only [group, groupOf, shapeOf, firstOfNames_filter]
  rw [dividedShape, groupedShape, hgroup]

/-- In the layout that is chosen, each part keeps what comes first in it and drops the rest. -/
theorem laidOut_layoutOf {options : Options} {ps : List PartProperty} {body : Option Body}
    (hbody : ∀ b, body = some b → b.names.Nodup) (operation : String) :
    laidOut (layoutOf options ps body) operation ps body =
      (requestOfFirsts operation ps body (layoutOf options ps body),
        shadowings operation (droppedOf ps)) := by
  cases hlayout : layoutOf options ps body with
  | flat =>
      have hshares := sharesName_of_layoutOf hlayout
      rw [laidOut, flatRequest_eq, shapeOf_flatProperties hshares hbody,
        firstOfNames_flatProperties hshares hbody]
      rfl
  | divided =>
      rw [laidOut, dividedRequest_eq, dividedShape_eq_groupedShape]
      rfl

/-! ## Operations -/

/-- The name of a parameter with the part it is in, if it is in one. -/
def Parameter.partName? (p : Parameter) : Option (RequestPart × String) :=
  p.location.part?.map (·, p.name)

/-- The properties have the names and parts of the parameters that are in a part. -/
theorem Document.map_partName_partProperties {doc : Document} {options : Options}
    {parameters : List Parameter} {ps : List PartProperty}
    (h : doc.partProperties options parameters = .ok ps) :
    ps.map (fun p => (p.part, p.property.name)) = parameters.filterMap Parameter.partName? := by
  rw [partProperties, filterMapM_eq_map] at h
  obtain ⟨results, hresults, rfl⟩ := map_eq_ok.mp h
  have hall := mapM_eq_ok.mp hresults
  clear h hresults
  induction hall with
  | nil => rfl
  | @cons parameter kept _ _ hkept _ ih =>
      rw [List.filterMap_cons, List.filterMap_cons, Parameter.partName?]
      cases kept with
      | none =>
          cases hpart : parameter.location.part? with
          | none => exact ih
          | some part =>
              simp only [partProperty?, hpart] at hkept
              obtain ⟨type, -, hkept⟩ := bind_eq_ok.mp hkept
              cases hkept
      | some p =>
          obtain ⟨hpart, hname, -⟩ := partProperty?_eq_ok_some hkept
          simp only [hpart, id_eq, Option.map_some, List.map_cons, hname]
          exact congrArg _ ih

/-- An operation's request keeps what comes first in each part, and the rest of each part is
reported, in the order of the parts. Nothing is reported of the body. -/
structure Deduplicated (operation : String) (ps : List PartProperty) (body : Option Body)
    (layout : Layout) (request : Option Request) (dropped : List Shadowing) : Prop where
  request_eq : request = requestOfFirsts operation ps body layout
  dropped_eq : dropped = shadowings operation (parameterParts.flatMap (repeatsAt ps))
  part_ne_body : ∀ s ∈ dropped, s.part ≠ .body

/-- Parts are deduplicated on their own: whether a parameter is kept or dropped depends on the
earlier ones in its part only, and no field of the body is dropped. The lists of properties in
schemas have no key twice, as those read from a document without repeated keys. -/
theorem Document.request_deduplicated {doc : Document} (hroot : doc.root.HasDistinctKeys)
    {options : Options} {name : String} {operation : Operation} {shared : List Parameter}
    {request : Option Request} {dropped : List Shadowing}
    (hoperation : operation.HasDistinctNames) (hshared : ∀ p ∈ shared, p.HasDistinctNames)
    (h : doc.request options name operation shared = .ok (request, dropped)) :
    ∃ parameters ps body, doc.HasParts options name operation shared parameters ps body ∧
      ps.map (fun p => (p.part, p.property.name)) = parameters.filterMap Parameter.partName? ∧
      Deduplicated name ps body (layoutOf options ps body) request dropped := by
  obtain ⟨parameters, ps, body, hparts, hlaid⟩ := request_eq_ok.mp h
  have hnames := hparts.nodup_names hroot hoperation hshared
  rw [laidOut_layoutOf hnames, droppedOf_eq] at hlaid
  cases hlaid
  refine ⟨parameters, ps, body, hparts, map_partName_partProperties hparts.properties_eq, rfl, rfl,
    fun s hs => ?_⟩
  obtain ⟨p, hp, rfl⟩ := List.mem_map.mp hs
  exact part_ne_body_of_mem_repeatsAt hp

/-- A name that is given twice in the query, once in the headers and once in the body. -/
theorem Document.request_deduplicated_of_repeated_name :
    let doc := Document.ofJson (.object [])
    let text : Schema := { type := some (.one "string") }
    let operation : Operation :=
      { parameters := some
          [{ name := "id", location := .query, schema := some text },
           { name := "id", location := .query, type := some (.one "integer") },
           { name := "id", location := .header }]
        requestBody := some
          { content := some [("application/json",
              { schema := some { properties := some [("id", text)] } })] } }
    let dropped : List Shadowing := [{ operation := "Get", property := "id", part := .query }]
    let part (name : String) : Property TypeExpr :=
      { name
        type := .object { properties := [{ name := "id", type := .string, optional := true }] }
        optional := true }
    let request : Request :=
      { declaration := .interface "GetRequest"
          { properties := [part "body", part "query", part "headers"] }
        optional := true
        layout := .divided }
    doc.root.HasDistinctKeys ∧ operation.HasDistinctNames ∧
      doc.request {} "Get" operation [] = .ok (some request, dropped) ∧
      ∃ parameters ps body, doc.HasParts {} "Get" operation [] parameters ps body ∧
        ps.map (fun p => (p.part, p.property.name)) = parameters.filterMap Parameter.partName? ∧
        Deduplicated "Get" ps body (layoutOf {} ps body) (some request) dropped := by
  intro doc text operation dropped part request
  have hroot : doc.root.HasDistinctKeys := by decide +kernel
  have htext : text.HasDistinctNames :=
    Schema.hasDistinctNames_of_child (by simp [text]) fun t ht => by cases ht <;> contradiction
  have hobject : Schema.HasDistinctNames { properties := some [("id", text)] } := by
    refine Schema.hasDistinctNames_of_child (by simp) fun t ht => ?_
    cases ht with
    | property hproperties ht =>
        cases hproperties
        rw [List.mem_singleton.mp ht]
        exact htext
    | _ => contradiction
  have hoperation : operation.HasDistinctNames :=
    { parameters := by simp [operation, Parameter.HasDistinctNames, htext]
      requestBody := by simp [operation, RequestBody.HasSchemas, hobject] }
  have h : doc.request {} "Get" operation [] = .ok (some request, dropped) := by rfl
  exact ⟨hroot, hoperation, h, request_deduplicated hroot hoperation (by simp) h⟩

end ApiTypings.OpenApi
