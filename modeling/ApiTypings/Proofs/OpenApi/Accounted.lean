import ApiTypings.Proofs.OpenApi.Clashes
import ApiTypings.Proofs.OpenApi.Deduplicated

/-! # Where the parameters of an operation go

The own parameters of an operation and the shared ones that it does not override become properties
of its request or are reported as shadowed, all but some of the shared ones: a shared parameter that
repeats an earlier shared one is left out before anything is reported.
-/

namespace ApiTypings.OpenApi

open TypeScript Outcome

/-! ## The parameters of an operation -/

/-- Whether one of some parameters has the name and the location of a parameter. -/
def Parameter.isAmong (ps : List Parameter) (p : Parameter) : Bool :=
  ps.any fun q => q.name = p.name ∧ q.location = p.location

/-- Whether a parameter is in the path, the query or the headers. -/
def Parameter.isPlaced (p : Parameter) : Bool :=
  p.location.part?.isSome

/-- The parameters that an operation has: its own ones, and the shared ones that none of its own
ones has the name and the location of. -/
def declaredParameters (own shared : List Parameter) : List Parameter :=
  (own ++ shared.filter fun p => !p.isAmong own).filter Parameter.isPlaced

/-- The shared parameters that an operation does not override itself and that an earlier shared one
has the name and the location of. -/
def repeatedShared (own shared : List Parameter) : List Parameter :=
  filterByEarlier (fun p earlier => (p.isPlaced && !p.isAmong own) && p.isAmong earlier) shared

theorem Parameter.isAmong_append (ps qs : List Parameter) (p : Parameter) :
    p.isAmong (ps ++ qs) = (p.isAmong ps || p.isAmong qs) :=
  List.any_append

/-- Only whether parameters of some name and location are there matters. -/
theorem Parameter.isAmong_append_cons {ps qs : List Parameter} {p : Parameter}
    (hp : p.isAmong ps = true) (q : Parameter) :
    q.isAmong (ps ++ p :: qs) = q.isAmong (ps ++ qs) := by
  rw [isAmong_append, isAmong_append]
  by_cases hq : p.name = q.name ∧ p.location = q.location
  · have hps : q.isAmong ps = true := by
      simpa only [isAmong, hq.1, hq.2] using hp
    rw [hps, Bool.true_or, Bool.true_or]
  · congr 1
    simp [isAmong, hq]

/-- Shared parameters are added where none of the own and none of the earlier shared ones has their
name and location. -/
theorem foldl_addParameter (own shared : List Parameter) :
    shared.foldl addParameter own =
      own ++ filterByEarlier (fun p earlier => !p.isAmong (own ++ earlier)) shared := by
  induction shared generalizing own with
  | nil => simp
  | cons p shared ih =>
      rw [List.foldl_cons, ih, filterByEarlier_cons, List.append_nil]
      by_cases hp : p.isAmong own = true
      · have hadd : addParameter own p = own := if_pos hp
        simp only [hadd, hp, Parameter.isAmong_append_cons hp, Bool.not_true, Bool.false_eq_true,
          if_false, List.nil_append]
      · have hadd : addParameter own p = own ++ [p] := if_neg hp
        simp only [hadd, hp, Bool.not_false, if_true, List.append_assoc, List.singleton_append]

/-- The placed parameters of an operation and the repeated shared ones are those that it has. -/
theorem perm_declaredParameters (own shared : List Parameter) :
    (declaredParameters own shared).Perm
      ((shared.foldl addParameter own).filter Parameter.isPlaced ++ repeatedShared own shared) := by
  have hshared := perm_filterByEarlier (fun p => p.isPlaced && !p.isAmong own)
    (fun p earlier => p.isAmong earlier) shared
  have hadded : (filterByEarlier (fun p earlier => !p.isAmong (own ++ earlier)) shared).filter
        Parameter.isPlaced =
      filterByEarlier (fun p earlier => (p.isPlaced && !p.isAmong own) && !p.isAmong earlier)
        shared := by
    simp only [filter_filterByEarlier, Parameter.isAmong_append, Bool.not_or, Bool.and_assoc]
  rw [declaredParameters, foldl_addParameter, List.filter_append, List.filter_append,
    List.filter_filter, hadded, List.append_assoc]
  exact hshared.append_left _

theorem Document.parameters_eq_ok {doc : Document} {own shared parameters : List Parameter} :
    doc.parameters own shared = .ok parameters ↔
      ∃ own' shared', own.mapM doc.deref = .ok own' ∧ shared.mapM doc.deref = .ok shared' ∧
        shared'.foldl addParameter own' = parameters := by
  simp only [Document.parameters, foldlM_eq_map, bind_eq_ok, map_eq_ok, exists_and_left]

/-! ## Kept and dropped properties -/

/-- The elements with one of some keys are those with each of them. -/
theorem perm_flatMap_filter {α β : Type} [DecidableEq β] (key : α → β) {keys : List β}
    (hkeys : keys.Nodup) (as : List α) :
    (as.filter (key · ∈ keys)).Perm (keys.flatMap fun k => as.filter (key · = k)) := by
  induction keys with
  | nil => simp
  | cons k keys ih =>
      obtain ⟨hk, hkeys⟩ := List.nodup_cons.mp hkeys
      have hsplit := List.filter_append_perm (key · = k) (as.filter (key · ∈ k :: keys))
      have hfirst : (as.filter (key · ∈ k :: keys)).filter (key · = k) = as.filter (key · = k) := by
        rw [List.filter_filter]
        refine List.filter_congr fun a _ => ?_
        by_cases h : key a = k <;> simp [h]
      have hothers : (as.filter (key · ∈ k :: keys)).filter (fun a => !decide (key a = k)) =
          as.filter (key · ∈ keys) := by
        rw [List.filter_filter]
        refine List.filter_congr fun a _ => ?_
        by_cases h : key a = k <;> simp [h, hk]
      rw [hfirst, hothers] at hsplit
      rw [List.flatMap_cons]
      exact hsplit.symm.trans ((ih hkeys).append_left _)

/-- The properties of parameters are kept, or repeat a name in their part. -/
theorem perm_keptOf_append {ps : List PartProperty} (hparts : ∀ p ∈ ps, p.part ∈ parameterParts) :
    ps.Perm (keptOf ps ++ parameterParts.flatMap (repeatsAt ps)) := by
  have hall : ps.filter (·.part ∈ parameterParts) = ps :=
    List.filter_eq_self.mpr fun p hp => decide_eq_true (hparts p hp)
  have hfilter := perm_flatMap_filter PartProperty.part (by decide : parameterParts.Nodup) ps
  rw [hall] at hfilter
  have hsplit : (parameterParts.flatMap fun part => ps.filter (·.part = part)).Perm
      (parameterParts.flatMap fun part => firstsAt ps part ++ repeatsAt ps part) :=
    List.Perm.flatMap_left _ fun part _ => perm_firsts_append_repeats _ _
  exact (hfilter.trans hsplit).trans (List.flatMap_append_perm _ _ _).symm

/-! ## The account -/

/-- The account of the parameters that an operation has, by name and part: each is a property that
is kept, or is reported, or is a shared one that repeats an earlier shared one. -/
structure Accounted (own shared : List Parameter) (kept : List PartProperty)
    (dropped : List Shadowing) : Prop where
  perm : ((declaredParameters own shared).filterMap Parameter.partName?).Perm
    (kept.map (fun p => (p.part, p.property.name)) ++ dropped.map (fun s => (s.part, s.property)) ++
      (repeatedShared own shared).filterMap Parameter.partName?)
  length_eq_iff : (declaredParameters own shared).length = kept.length + dropped.length ↔
    repeatedShared own shared = []

/-- Every placed parameter has a name in a part. -/
theorem length_filterMap_partName? {ps : List Parameter} (h : ∀ p ∈ ps, p.isPlaced = true) :
    (ps.filterMap Parameter.partName?).length = ps.length := by
  refine List.filterMap_length_eq_length.mpr fun p hp => ?_
  simpa [Parameter.partName?, Parameter.isPlaced] using h p hp

theorem filterMap_partName?_filter (ps : List Parameter) :
    (ps.filter Parameter.isPlaced).filterMap Parameter.partName? =
      ps.filterMap Parameter.partName? := by
  induction ps with
  | nil => rfl
  | cons p ps ih =>
      by_cases hp : p.isPlaced = true
      · rw [List.filter_cons_of_pos hp, List.filterMap_cons, List.filterMap_cons, ih]
      · have hnone : p.partName? = none := by
          simpa [Parameter.partName?, Parameter.isPlaced] using hp
        rw [List.filter_cons_of_neg hp, List.filterMap_cons, hnone, ih]

theorem accounted_of_perm {own shared : List Parameter} {kept : List PartProperty}
    {dropped : List Shadowing}
    (hperm : ((declaredParameters own shared).filterMap Parameter.partName?).Perm
      (kept.map (fun p => (p.part, p.property.name)) ++
        dropped.map (fun s => (s.part, s.property)) ++
        (repeatedShared own shared).filterMap Parameter.partName?)) :
    Accounted own shared kept dropped := by
  refine ⟨hperm, ?_⟩
  have hdeclared : ∀ p ∈ declaredParameters own shared, p.isPlaced = true :=
    fun p hp => (List.mem_filter.mp hp).2
  have hrepeated : ∀ p ∈ repeatedShared own shared, p.isPlaced = true := by
    intro p hp
    obtain ⟨earlier, later, -, h⟩ := mem_filterByEarlier.mp hp
    simp only [Bool.and_eq_true] at h
    exact h.1.1
  have hlength := hperm.length_eq
  rw [length_filterMap_partName? hdeclared, List.length_append, List.length_append,
    length_filterMap_partName? hrepeated, List.length_map, List.length_map] at hlength
  rw [← List.length_eq_zero_iff]
  omega

/-- A request accounts for the parameters of its operation: as many of them are properties or are
reported as there are, unless a shared one repeats an earlier shared one. -/
theorem Document.request_parameters_accounted {doc : Document} (hroot : doc.root.HasDistinctKeys)
    {options : Options} {name : String} {operation : Operation} {shared : List Parameter}
    {request : Option Request} {dropped : List Shadowing}
    (hoperation : operation.HasDistinctNames) (hshared : ∀ p ∈ shared, p.HasDistinctNames)
    (h : doc.request options name operation shared = .ok (request, dropped)) :
    ∃ own shared' parameters ps body,
      (operation.parameters.getD []).mapM doc.deref = .ok own ∧
      shared.mapM doc.deref = .ok shared' ∧
      doc.HasParts options name operation shared parameters ps body ∧
      request = requestOfFirsts name ps body (layoutOf options ps body) ∧
      Accounted own shared' (keptOf ps) dropped := by
  obtain ⟨parameters, ps, body, hparts, hlaid⟩ := request_eq_ok.mp h
  obtain ⟨own, shared', hown, hshared', hparameters⟩ := parameters_eq_ok.mp hparts.parameters_eq
  rw [laidOut_layoutOf (hparts.nodup_names hroot hoperation hshared), droppedOf_eq] at hlaid
  cases hlaid
  refine ⟨own, shared', parameters, ps, body, hown, hshared', hparts, rfl, accounted_of_perm ?_⟩
  have hdeclared := (perm_declaredParameters own shared').filterMap Parameter.partName?
  rw [List.filterMap_append, filterMap_partName?_filter, hparameters,
    ← map_partName_partProperties hparts.properties_eq] at hdeclared
  have hkept := (perm_keptOf_append hparts.part_mem_parameterParts).map
    fun p => (p.part, p.property.name)
  rw [List.map_append] at hkept
  refine hdeclared.trans (List.Perm.append_right _ ?_)
  simpa only [shadowings, List.map_map, Function.comp_def] using hkept

/-- A query parameter given twice, a shared header that is overridden, and a shared header given
twice. -/
theorem Document.request_parameters_accounted_of_override :
    let doc := Document.ofJson (.object [])
    let operation : Operation :=
      { parameters := some
          [{ name := "limit", location := .query, type := some (.one "integer") },
           { name := "limit", location := .query },
           { name := "version", location := .header }] }
    let header (name : String) : Parameter := { name, location := .header }
    let shared := [header "version", header "trace", header "trace"]
    let property (name : String) (type : TypeExpr) : Property TypeExpr :=
      { name, type, optional := true }
    let request : Request :=
      { declaration := .interface "GetRequest"
          { properties :=
              [property "limit" .number, property "version" .string, property "trace" .string] }
        optional := true
        layout := .flat }
    let dropped : List Shadowing := [{ operation := "Get", property := "limit", part := .query }]
    doc.root.HasDistinctKeys ∧ operation.HasDistinctNames ∧
      (∀ p ∈ shared, p.HasDistinctNames) ∧
      doc.request {} "Get" operation shared = .ok (some request, dropped) ∧
      ∃ own shared' parameters ps body,
        (operation.parameters.getD []).mapM doc.deref = .ok own ∧
        shared.mapM doc.deref = .ok shared' ∧
        doc.HasParts {} "Get" operation shared parameters ps body ∧
        some request = requestOfFirsts "Get" ps body (layoutOf {} ps body) ∧
        Accounted own shared' (keptOf ps) dropped := by
  intro doc operation header shared property request dropped
  have hroot : doc.root.HasDistinctKeys := by decide +kernel
  have hoperation : operation.HasDistinctNames :=
    { parameters := by simp [operation, Parameter.HasDistinctNames]
      requestBody := by simp [operation] }
  have hshared : ∀ p ∈ shared, p.HasDistinctNames := by
    simp [shared, header, Parameter.HasDistinctNames]
  have h : doc.request {} "Get" operation shared = .ok (some request, dropped) := by rfl
  exact ⟨hroot, hoperation, hshared, h, request_parameters_accounted hroot hoperation hshared h⟩

/-- A shared parameter that is given twice is a property once, and nothing is reported. -/
theorem exists_request_parameter_unaccounted :
    let root : Json := .object [("paths", .object [("/pets", .object
      [("parameters", .array
        [.object
          [("name", .text "limit"), ("in", .text "query"),
           ("schema", .object [("type", .text "integer")])],
         .object
          [("name", .text "limit"), ("in", .text "query"),
           ("schema", .object [("type", .text "string")])]]),
       ("get", .object
        [("operationId", .text "listPets"),
         ("responses", .object [("204", .object [])])])])])]
    let limit (type : String) : Parameter :=
      { name := "limit", location := .query, schema := some { type := some (.one type) } }
    let shared := [limit "integer", limit "string"]
    let operation : Operation :=
      { operationId := some "listPets", responses := some [("204", {})] }
    let r : Request :=
      { declaration := .interface "ListPetsRequest"
          { properties := [{ name := "limit", type := .number, optional := true }] }
        optional := true
        layout := .flat }
    let dropped : List Shadowing := []
    Description.read root =
        .ok { paths := [("/pets", { get := some operation, parameters := some shared })] } ∧
      (Document.ofJson root).request {} "ListPets" operation shared = .ok (some r, dropped) ∧
      shared.mapM (Document.ofJson root).deref = .ok shared ∧
      ∃ parameters ps body,
        (Document.ofJson root).HasParts {} "ListPets" operation shared parameters ps body ∧
        some r = requestOfFirsts "ListPets" ps body .flat ∧
        (declaredParameters [] shared).length ≠ (keptOf ps).length + dropped.length := by
  intro root limit shared operation r dropped
  let q : PartProperty :=
    { part := .query, property := { name := "limit", type := .number, optional := true } }
  have hparts : (Document.ofJson root).HasParts {} "ListPets" operation shared [limit "integer"]
      [q] none :=
    { parameters_eq := rfl, properties_eq := rfl, body_eq := rfl }
  exact ⟨rfl, rfl, rfl, _, _, _, hparts, rfl, by decide⟩

end ApiTypings.OpenApi
