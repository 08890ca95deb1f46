import Mathlib.Data.List.Perm.Basic
import ApiTypings.Proofs.OpenApi.Names

/-! # Distinct names

Of the declarations of a module only the aliases for responses can share a name with others: with
each other, with the envelope and with a request.
-/

namespace ApiTypings.OpenApi

open TypeScript Text Outcome

/-! ## Endings of names -/

/-- Two texts end differently: neither is the end of the other. -/
def EndApart (cs ds : List Char) : Prop :=
  ¬cs <:+ ds ∧ ¬ds <:+ cs

instance (cs ds : List Char) : Decidable (EndApart cs ds) :=
  inferInstanceAs (Decidable (_ ∧ _))

theorem EndApart.ne {cs ds : List Char} {s t : String} (h : EndApart cs ds)
    (hs : cs <:+ s.toList) (ht : ds <:+ t.toList) : s ≠ t := by
  rintro rfl
  rcases List.suffix_or_suffix_of_suffix hs ht with hcs | hds
  · exact h.1 hcs
  · exact h.2 hds

/-- What the names of responses end with. -/
def responseEndings : List (List Char) :=
  "Response".toList :: Http.reasonPhrases.map fun (_, phrase) =>
    "Response".toList ++ guardDigit ((pascalWords phrase).flatMap (mapFirst upperChar))

theorem exists_ending_of_responseName (operation : String) (status : Http.Status) :
    ∃ ending ∈ responseEndings, ending <:+ (status.responseName operation).toList := by
  have hresponse (front : String) :
      ∃ ending ∈ responseEndings, ending <:+ (front ++ "Response").toList := by
    refine ⟨_, List.mem_cons_self, ?_⟩
    rw [String.toList_append]
    exact List.suffix_append _ _
  cases status with
  | exact code =>
      rw [Http.Status.responseName]
      cases h : Http.reasonPhrase? code with
      | none => exact hresponse _
      | some phrase =>
          obtain ⟨before, after, hphrases, -⟩ := List.lookup_eq_some_iff.mp h
          have hmem : (code, phrase) ∈ Http.reasonPhrases := by simp [hphrases]
          refine ⟨_, List.mem_cons_of_mem _ (List.mem_map_of_mem hmem), ?_⟩
          simp only [String.append_assoc, pascalCase_eq, String.toList_append,
            String.toList_ofList]
          exact List.suffix_append _ _
  | range leading =>
      have happend : operation ++ toString leading ++ "XXResponse" =
          operation ++ toString leading ++ "XX" ++ "Response" := by
        simp only [String.append_assoc]
        rfl
      rw [Http.Status.responseName, happend]
      exact hresponse _
  | default =>
      have happend : operation ++ "DefaultResponse" = operation ++ "Default" ++ "Response" := by
        simp only [String.append_assoc]
        rfl
      rw [Http.Status.responseName, happend]
      exact hresponse _
  | other key => exact hresponse _

/-- No response is named like a union of responses or like the status ranges. -/
theorem endApart_of_mem_responseEndings : ∀ ending ∈ responseEndings,
    EndApart ending "Responses".toList ∧ EndApart ending statusRangeName.toList := by
  decide +kernel

theorem requestName_suffix (operation : String) :
    "Request".toList <:+ (requestName operation).toList := by
  rw [requestName, String.toList_append]
  exact List.suffix_append _ _

theorem unionName_suffix (operation : String) :
    "Responses".toList <:+ (unionName operation).toList := by
  rw [unionName, String.toList_append]
  exact List.suffix_append _ _

theorem responseName_ne_unionName (operation other : String) (status : Http.Status) :
    status.responseName operation ≠ unionName other := by
  obtain ⟨ending, hmem, hending⟩ := exists_ending_of_responseName operation status
  exact (endApart_of_mem_responseEndings ending hmem).1.ne hending (unionName_suffix other)

theorem responseName_ne_statusRangeName (operation : String) (status : Http.Status) :
    status.responseName operation ≠ statusRangeName := by
  obtain ⟨ending, hmem, hending⟩ := exists_ending_of_responseName operation status
  exact (endApart_of_mem_responseEndings ending hmem).2.ne hending (List.suffix_refl _)

theorem requestName_ne_unionName (operation other : String) :
    requestName operation ≠ unionName other :=
  EndApart.ne (by decide) (requestName_suffix operation) (unionName_suffix other)

theorem requestName_injective : Function.Injective requestName := fun _ _ h =>
  (String.append_left_inj _).mp h

theorem unionName_injective : Function.Injective unionName := fun _ _ h =>
  (String.append_left_inj _).mp h

/-! ## Names in the module -/

/-- The names of the requests of operations. -/
def requestNames (operations : List TypedOperation) : List String :=
  operations.flatMap fun o => (o.request.map fun request => request.declaration.name).toList

/-- The names of the aliases for the responses of operations. -/
def aliasNames (operations : List TypedOperation) : List String :=
  operations.flatMap fun o => o.responses.aliases.map Declaration.name

theorem perm_map_name_declarations (operations : List TypedOperation) :
    ((operations.flatMap TypedOperation.declarations).map Declaration.name).Perm
      (requestNames operations ++ aliasNames operations ++
        operations.map (·.responses.union.name)) := by
  rw [List.map_flatMap]
  simp only [TypedOperation.map_name_declarations]
  refine (List.flatMap_append_perm _ _ _).symm.trans ?_
  rw [← List.map_eq_flatMap]
  exact (List.flatMap_append_perm _ _ _).symm.append_right _

theorem requestNames_sublist {named : List NamedOperation} {operations : List TypedOperation}
    (h : List.Forall₂ NamedOperation.Declared named operations) :
    (requestNames operations).Sublist (named.map fun n => requestName n.name) := by
  induction h with
  | nil => exact .slnil
  | @cons n o _ _ hd _ ih =>
      rw [requestNames, List.flatMap_cons, List.map_cons]
      cases hr : o.request with
      | none => exact ih.cons _
      | some r =>
          rw [Option.map_some, Option.toList_some, List.singleton_append, hd.name_request r hr]
          exact ih.cons_cons _

namespace Shows

variable {root : Json} {options : Options} {output : Output} {description : Description}
  {named : List NamedOperation} {operations : List TypedOperation}
  (h : Shows root options output description named operations)
include h

theorem aliasNames_eq : aliasNames operations = named.flatMap NamedOperation.responseNames := by
  have hmap : named.map NamedOperation.responseNames =
      operations.map fun o => o.responses.aliases.map Declaration.name :=
    map_eq_map_of_forall₂ h.declared fun _ _ hd => hd.name_aliases.symm
  rw [aliasNames, List.flatMap_def, ← hmap, List.flatMap_def]

theorem map_name_unions :
    operations.map (·.responses.union.name) = named.map fun n => unionName n.name :=
  (map_eq_map_of_forall₂ h.declared fun _ _ hd => hd.name_union.symm).symm

theorem exists_of_mem_aliasNames {name : String} (hname : name ∈ aliasNames operations) :
    ∃ operation status, name = Http.Status.responseName operation status := by
  rw [h.aliasNames_eq] at hname
  obtain ⟨n, -, hname⟩ := List.mem_flatMap.mp hname
  obtain ⟨entry, -, rfl⟩ := List.mem_map.mp hname
  exact ⟨_, _, rfl⟩

theorem exists_of_mem_requestNames {name : String} (hname : name ∈ requestNames operations) :
    ∃ operation, name = requestName operation := by
  obtain ⟨n, -, rfl⟩ := List.mem_map.mp ((requestNames_sublist h.declared).subset hname)
  exact ⟨_, rfl⟩

theorem exists_of_mem_unions {name : String}
    (hname : name ∈ operations.map (·.responses.union.name)) :
    ∃ operation, name = unionName operation := by
  rw [h.map_name_unions] at hname
  obtain ⟨n, -, rfl⟩ := List.mem_map.mp hname
  exact ⟨_, rfl⟩

theorem nodup_requestNames : (requestNames operations).Nodup := by
  refine (requestNames_sublist h.declared).nodup ?_
  have hnodup := h.nodup_names.map requestName_injective
  rwa [List.map_map] at hnodup

theorem nodup_unions : (operations.map (·.responses.union.name)).Nodup := by
  have hnodup := h.nodup_names.map unionName_injective
  rw [List.map_map] at hnodup
  rwa [h.map_name_unions]

/-- The union of an operation has no name of another kind. -/
theorem apart_of_mem_unions : ∀ name ∈ operations.map (·.responses.union.name),
    name ≠ envelopeName ∧ name ≠ statusRangeName ∧ name ∉ requestNames operations ∧
      name ∉ aliasNames operations := by
  intro name hname
  obtain ⟨operation, rfl⟩ := h.exists_of_mem_unions hname
  have hsuffix := unionName_suffix operation
  refine ⟨EndApart.ne (by decide) hsuffix (List.suffix_refl _),
    EndApart.ne (by decide) hsuffix (List.suffix_refl _), fun hrequest => ?_, fun halias => ?_⟩
  · obtain ⟨other, heq⟩ := h.exists_of_mem_requestNames hrequest
    exact requestName_ne_unionName _ _ heq.symm
  · obtain ⟨other, status, heq⟩ := h.exists_of_mem_aliasNames halias
    exact responseName_ne_unionName _ _ _ heq.symm

theorem apart_of_mem_requestNames : ∀ name ∈ requestNames operations,
    name ≠ envelopeName ∧ name ≠ statusRangeName := by
  intro name hname
  obtain ⟨operation, rfl⟩ := h.exists_of_mem_requestNames hname
  have hsuffix := requestName_suffix operation
  exact ⟨EndApart.ne (by decide) hsuffix (List.suffix_refl _),
    EndApart.ne (by decide) hsuffix (List.suffix_refl _)⟩

theorem ne_statusRangeName_of_mem_aliasNames : ∀ name ∈ aliasNames operations,
    name ≠ statusRangeName := by
  intro name hname
  obtain ⟨operation, status, rfl⟩ := h.exists_of_mem_aliasNames hname
  exact responseName_ne_statusRangeName _ _

/-- Names of declarations clash if and only if those of responses do, with each other, with the
envelope or with a request. -/
theorem nodup_map_name_iff :
    ((apiModule operations).map Declaration.name).Nodup ↔
      (aliasNames operations).Nodup ∧ envelopeName ∉ aliasNames operations ∧
        ∀ name ∈ requestNames operations, name ∉ aliasNames operations := by
  let marker := if operations.any (·.responses.usesRange) then [statusRangeDeclaration] else []
  have hmarker : ∀ name ∈ marker.map Declaration.name, name = statusRangeName := by
    intro name hname
    simp only [marker] at hname
    split at hname
    · exact List.mem_singleton.mp hname
    · cases hname
  have hmarker_nodup : (marker.map Declaration.name).Nodup := by
    simp only [marker]
    split <;> simp
  have hperm : ((apiModule operations).map Declaration.name).Perm
      (envelopeName :: (marker.map Declaration.name ++ (requestNames operations ++
        aliasNames operations ++ operations.map (·.responses.union.name)))) := by
    rw [apiModule, List.cons_append, List.map_cons, List.map_append]
    exact ((perm_map_name_declarations operations).append_left _).cons _
  -- All pairs of kinds but those with an alias are apart, or distinct among themselves.
  have hne : envelopeName ≠ statusRangeName := by decide
  have hunions := h.apart_of_mem_unions
  have hrequests := h.apart_of_mem_requestNames
  have haliases := h.ne_statusRangeName_of_mem_aliasNames
  have hrequests_nodup := h.nodup_requestNames
  have hunions_nodup := h.nodup_unions
  rw [hperm.nodup_iff, List.nodup_cons, List.nodup_append, List.nodup_append, List.nodup_append]
  grind

end Shows

/-- The names of what is generated are distinct if and only if no two responses share one, and no
response shares one with the envelope or with a request. -/
theorem generate_nodup_names_iff (root : Json) (options : Options) (output : Output)
    (h : generate root options = .ok output) :
    ∃ description named operations, Shows root options output description named operations ∧
      (((apiModule operations).map Declaration.name).Nodup ↔
        (named.flatMap NamedOperation.responseNames).Nodup ∧
          envelopeName ∉ named.flatMap NamedOperation.responseNames ∧
          ∀ name ∈ requestNames operations, name ∉ named.flatMap NamedOperation.responseNames) := by
  obtain ⟨description, named, operations, hshows⟩ := generate_eq_ok.mp h
  refine ⟨description, named, operations, hshows, ?_⟩
  rw [← hshows.aliasNames_eq]
  exact hshows.nodup_map_name_iff

/-- A registered status and one without a phrase. -/
theorem generate_nodup_names_iff_of_statuses :
    let root : Json := .object [("paths", .object [("/", .object
      [("get", .object [("responses", .object [("204", .object []), ("299", .object [])])])])])]
    let output : Output :=
      { declarations := envelopeDeclaration.render ++
          "\nexport type GetResponseNoContent = FullResponse<undefined, 204>;\n\n" ++
          "export type Get299Response = FullResponse<unknown, 299>;\n\n" ++
          "export type GetResponses = GetResponseNoContent\n| Get299Response;\n"
        client :=
          "export interface ApiClient \x7b\n  get(): Promise<GetResponses>;\n\x7d\n" }
    generate root {} = .ok output ∧
      ∃ description named operations, Shows root {} output description named operations ∧
        (((apiModule operations).map Declaration.name).Nodup ↔
          (named.flatMap NamedOperation.responseNames).Nodup ∧
            envelopeName ∉ named.flatMap NamedOperation.responseNames ∧
            ∀ name ∈ requestNames operations,
              name ∉ named.flatMap NamedOperation.responseNames) := by
  intro root output
  have h : generate root {} = .ok output := by decide +kernel
  exact ⟨h, generate_nodup_names_iff root {} output h⟩

/-- Operations with distinct names are not enough: the response of one operation to a bad request
may have the name of the request of another one. -/
theorem exists_generate_names_not_nodup :
    let root : Json := .object [("paths", .object
      [("/pets", .object [("get", .object [("operationId", .text "getPet"),
          ("responses", .object [("400", .object [("description", .text "Bad request")])])])]),
       ("/reports", .object [("post", .object [("operationId", .text "getPetResponseBad"),
          ("requestBody", .object [("content", .object [("multipart/form-data", .object [])])]),
          ("responses", .object [("204", .object [("description", .text "Taken")])])])])])]
    ∃ output description named operations, generate root {} = .ok output ∧
      Shows root {} output description named operations ∧
      (apiModule operations).map Declaration.name =
        ["FullResponse", "GetPetResponseBadRequest", "GetPetResponses", "GetPetResponseBadRequest",
          "GetPetResponseBadResponseNoContent", "GetPetResponseBadResponses"] ∧
      ¬((apiModule operations).map Declaration.name).Nodup := by
  intro root
  have hnames : ((Document.ofJson root).operations {}).map
      (fun operations => (apiModule operations).map Declaration.name) =
        .ok ["FullResponse", "GetPetResponseBadRequest", "GetPetResponses",
          "GetPetResponseBadRequest", "GetPetResponseBadResponseNoContent",
          "GetPetResponseBadResponses"] := by
    decide +kernel
  obtain ⟨operations, hoperations, heq⟩ := map_eq_ok.mp hnames
  obtain ⟨description, named, hread, hnamed, htyped⟩ := Document.operations_eq_ok.mp hoperations
  have hshows : Shows root {}
      { declarations := renderModule (apiModule operations)
        client := (apiClient defaultClientName operations).render
        diagnostics := operations.flatMap (·.diagnostics) } description named operations :=
    ⟨hread, hnamed, htyped, rfl, rfl, rfl⟩
  refine ⟨_, description, named, operations, generate_eq_ok.mpr ⟨_, _, _, hshows⟩, hshows, heq, ?_⟩
  rw [heq]
  decide

end ApiTypings.OpenApi
