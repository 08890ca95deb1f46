import ApiTypings.Proofs.OpenApi.Distinct
import ApiTypings.Proofs.OpenApi.Typed

/-! # No open names

Every name that a generated type refers to is a type parameter, a type of the language or declared
beside it, and the status ranges are declared where they are referred to.
-/

namespace ApiTypings.OpenApi

open TypeScript Outcome

/-! ## Names that types refer to -/

/-- The types of the language that are referred to by name. -/
def builtIns : List String :=
  ["Array", "Record", "Promise", "Date", "FormData", "Blob"]

/-- The name that a type refers to by itself, if it does, is one of a list. -/
def OwnNameIn (names : List String) (t : TypeExpr) : Prop :=
  ∀ name, t.ownName = some name → name ∈ names

/-- A type refers only to the names in a list. -/
def RefersWithin (names : List String) (t : TypeExpr) : Prop :=
  t.Throughout (OwnNameIn names)

theorem RefersWithin.mem {names : List String} {t : TypeExpr} (h : RefersWithin names t)
    {name : String} (ht : t.RefersTo name) : name ∈ names :=
  ht.of_throughout h

section

variable {names : List String}

theorem ownNameIn_of_eq_none {t : TypeExpr} (h : t.ownName = none) : OwnNameIn names t := by
  intro name hname
  rw [h] at hname
  cases hname

theorem ownNameIn_of_mem {t : TypeExpr} {name : String} (h : t.ownName = some name)
    (hname : name ∈ names) : OwnNameIn names t := by
  rintro name' hname'
  rw [h] at hname'
  cases hname'
  exact hname

theorem refersWithin_named {name : String} (h : name ∈ names) :
    RefersWithin names (.named name) :=
  TypeExpr.throughout_named (ownNameIn_of_mem rfl h)

theorem refersWithin_generic {name : String} {ts : List TypeExpr} (h : name ∈ names)
    (hts : ∀ t ∈ ts, RefersWithin names t) : RefersWithin names (.generic name ts) :=
  TypeExpr.throughout_generic (ownNameIn_of_mem rfl h) hts

theorem refersWithin_primitive (p : Primitive) : RefersWithin names (.primitive p) :=
  TypeExpr.throughout_primitive (ownNameIn_of_eq_none rfl)

/-- Types of schemas refer to arrays, records and dates, and those of requests to forms as well. -/
theorem requestBuilding_ownNameIn (h : builtIns ⊆ names) :
    RequestBuilding (fun _ => True) (OwnNameIn names) where
  child _ _ := trivial
  primitive _ := ownNameIn_of_eq_none rfl
  literal _ := ownNameIn_of_eq_none rfl
  date := ownNameIn_of_mem rfl (h (by decide))
  array _ := ownNameIn_of_mem rfl (h (by decide))
  record _ := ownNameIn_of_mem rfl (h (by decide))
  union _ _ := ownNameIn_of_eq_none rfl
  intersection _ _ := ownNameIn_of_eq_none rfl
  object _ _ _ _ _ _ := ownNameIn_of_eq_none rfl
  pinField field value t ht := by
    unfold OwnNameIn
    rwa [TypeExpr.ownName_pinField]
  form := ownNameIn_of_mem rfl (h (by decide))
  shape _ _ := ownNameIn_of_eq_none rfl

theorem covers_true (root : Json) : Covers root fun _ => True :=
  ⟨fun _ _ => trivial, fun _ _ => trivial⟩

/-! ## Declarations of an operation -/

/-- The declarations of an operation refer to nothing but the built-in types, the envelope, its own
aliases, and the status ranges if it says so. -/
theorem declarationBuilding_ownNameIn {responses : Responses} (hbuiltIns : builtIns ⊆ names)
    (henvelope : envelopeName ∈ names)
    (hrange : responses.usesRange = true → statusRangeName ∈ names)
    (haliases : responses.aliases.map Declaration.name ⊆ names) :
    DeclarationBuilding (fun _ => True) (OwnNameIn names) responses where
  toRequestBuilding := requestBuilding_ownNameIn hbuiltIns
  blob := ownNameIn_of_mem rfl (hbuiltIns (by decide))
  envelope _ _ := ownNameIn_of_mem rfl henvelope
  range h _ := ownNameIn_of_mem rfl (hrange h)
  member _ ha := ownNameIn_of_mem rfl (haliases (List.mem_map_of_mem ha))

end

/-! ## The module -/

/-- The names in the scope of a module: those of the language and the declared ones. -/
def scope (operations : List TypedOperation) : List String :=
  builtIns ++ (apiModule operations).map Declaration.name

/-- Names resolve: each type parameter, type of the language or declared type that a declaration or
a method refers to is in scope, the members of a union of responses are aliases for the same
operation, and the status ranges are declared if and only if a declaration refers to them. -/
structure Resolves (clientName : String) (operations : List TypedOperation) : Prop where
  declarations : ∀ d ∈ apiModule operations, ∀ name, d.RefersTo name →
    name ∈ d.parameterNames ∨ name ∈ scope operations
  client : ∀ name, (apiClient clientName operations).RefersTo name → name ∈ scope operations
  members : ∀ o ∈ operations, ∀ names, o.responses.union.definition = .union names →
    ∀ name ∈ names, ∃ a ∈ o.responses.aliases, a.name = name
  ranges : statusRangeName ∈ (apiModule operations).map Declaration.name ↔
    ∃ d ∈ apiModule operations, d.RefersTo statusRangeName

theorem refersWithin_envelopeDeclaration : ∀ t ∈ envelopeDeclaration.definition.types,
    RefersWithin (envelopeDeclaration.parameterNames ++ builtIns) t := by
  intro t ht
  rw [List.mem_singleton.mp ht]
  refine TypeExpr.throughout_object (ownNameIn_of_eq_none rfl) ?_ (by simp)
  simp only [List.forall_mem_cons, List.not_mem_nil, false_implies, implies_true, and_true]
  exact ⟨refersWithin_named (by decide),
    TypeExpr.throughout_record (ownNameIn_of_mem rfl (by decide)) (refersWithin_primitive .string),
    refersWithin_named (by decide)⟩

theorem refersWithin_statusRangeDeclaration : ∀ t ∈ statusRangeDeclaration.definition.types,
    RefersWithin (statusRangeDeclaration.parameterNames ++ builtIns) t := by
  intro t ht
  rw [List.mem_singleton.mp ht]
  refine (requestBuilding_ownNameIn (List.subset_append_right _ _)).throughout_intersection_pair
    (refersWithin_primitive .number) ?_
  refine TypeExpr.throughout_object (ownNameIn_of_eq_none rfl) ?_ (by simp)
  exact List.forall_mem_singleton.mpr (refersWithin_named (by decide))

section Scope

variable {operations : List TypedOperation} {o : TypedOperation} (ho : o ∈ operations)

theorem builtIns_subset_scope (operations : List TypedOperation) : builtIns ⊆ scope operations :=
  List.subset_append_left _ _

theorem envelopeName_mem_scope (operations : List TypedOperation) :
    envelopeName ∈ scope operations :=
  List.mem_append_right _ List.mem_cons_self

include ho

theorem mem_scope_of_mem_declarations {d : Declaration} (hd : d ∈ o.declarations) :
    d.name ∈ scope operations := by
  refine List.mem_append_right _ (List.mem_map_of_mem ?_)
  exact List.mem_append_right _ (List.mem_flatMap.mpr ⟨o, ho, hd⟩)

theorem statusRangeName_mem_scope (h : o.responses.usesRange = true) :
    statusRangeName ∈ (apiModule operations).map Declaration.name := by
  have hany : operations.any (·.responses.usesRange) = true := List.any_eq_true.mpr ⟨o, ho, h⟩
  have hmem : statusRangeDeclaration ∈ apiModule operations := by simp [apiModule, hany]
  exact List.mem_map_of_mem hmem

theorem aliases_subset_scope :
    o.responses.aliases.map Declaration.name ⊆ scope operations := by
  intro name hname
  obtain ⟨d, hd, rfl⟩ := List.mem_map.mp hname
  exact mem_scope_of_mem_declarations ho (List.mem_append_left _ (List.mem_append_right _ hd))

theorem refersWithin_method :
    ∀ t ∈ o.method.arguments.map (·.type) ++ [o.method.result],
      RefersWithin (scope operations) t := by
  intro t ht
  rcases List.mem_append.mp ht with ht | ht
  · cases hr : o.request with
    | none => simp [TypedOperation.method, hr] at ht
    | some r =>
        have hmem : r.declaration ∈ o.declarations := by simp [TypedOperation.declarations, hr]
        simp only [TypedOperation.method, hr, Option.map_some, Option.toList_some, List.map_cons,
          List.map_nil, List.mem_singleton] at ht
        rw [ht]
        exact refersWithin_named (mem_scope_of_mem_declarations ho hmem)
  · have hmem : o.responses.union ∈ o.declarations := by simp [TypedOperation.declarations]
    rw [List.mem_singleton.mp ht]
    refine refersWithin_generic (builtIns_subset_scope _ (by decide)) ?_
    exact List.forall_mem_singleton.mpr
      (refersWithin_named (mem_scope_of_mem_declarations ho hmem))

end Scope

theorem refersWithin_apiClient (clientName : String) (operations : List TypedOperation) :
    ∀ t ∈ (apiClient clientName operations).definition.types,
      RefersWithin (scope operations) t := by
  intro t ht
  rcases List.mem_cons.mp ht with rfl | ht
  · exact TypeExpr.throughout_object (ownNameIn_of_eq_none rfl) (by simp) (by simp)
  · obtain ⟨m, hm, ht⟩ := List.mem_flatMap.mp ht
    obtain ⟨o, ho, rfl⟩ := List.mem_map.mp hm
    exact refersWithin_method ho t ht

namespace Shows

variable {root : Json} {options : Options} {output : Output} {description : Description}
  {named : List NamedOperation} {operations : List TypedOperation}
  (h : Shows root options output description named operations)
include h

theorem refersWithin_declarations {o : TypedOperation} (ho : o ∈ operations) :
    ∀ d ∈ o.declarations, ∀ t ∈ d.definition.types, RefersWithin (scope operations) t := by
  obtain ⟨n, hn, htyped⟩ := exists_mem_left h.typed ho
  have hparts := foundParts_of_namedOperations h.read_eq h.named_eq n hn
  refine DeclarationBuilding.declarations_throughout (covers_true root) hparts htyped ?_
  exact declarationBuilding_ownNameIn (builtIns_subset_scope operations)
    (envelopeName_mem_scope operations)
    (fun hrange => List.mem_append_right _ (statusRangeName_mem_scope ho hrange))
    (aliases_subset_scope ho)

/-- A name that is not in scope is a type parameter of the envelope or of the status ranges. -/
theorem mem_of_refersTo {d : Declaration} (hd : d ∈ apiModule operations) {name : String}
    (hname : d.RefersTo name) :
    (d = envelopeDeclaration ∨ d = statusRangeDeclaration) ∧ name ∈ d.parameterNames ∨
      name ∈ scope operations := by
  obtain ⟨t, ht, hname⟩ := hname
  have hsubset := builtIns_subset_scope operations
  rcases mem_apiModule hd with rfl | rfl | ⟨o, ho, hd⟩
  · have hmem := (refersWithin_envelopeDeclaration t ht).mem hname
    exact (List.mem_append.mp hmem).imp (⟨.inl rfl, ·⟩) fun hmem => hsubset hmem
  · have hmem := (refersWithin_statusRangeDeclaration t ht).mem hname
    exact (List.mem_append.mp hmem).imp (⟨.inr rfl, ·⟩) fun hmem => hsubset hmem
  · exact .inr ((h.refersWithin_declarations ho d hd t ht).mem hname)

/-- Only the declaration of the status ranges has their name. -/
theorem exists_usesRange (hname : statusRangeName ∈ (apiModule operations).map Declaration.name) :
    ∃ o ∈ operations, o.responses.usesRange = true := by
  obtain ⟨d, hd, hname⟩ := List.mem_map.mp hname
  unfold apiModule at hd
  rcases List.mem_append.mp hd with hd | hd
  · rcases List.mem_cons.mp hd with rfl | hd
    · exact absurd hname (by decide)
    · split at hd
      · next hany => exact List.any_eq_true.mp hany
      · cases hd
  · -- Names of requests, aliases and unions end otherwise.
    have hmem := (perm_map_name_declarations operations).mem_iff.mp (List.mem_map_of_mem hd)
    rw [hname] at hmem
    rcases List.mem_append.mp hmem with hmem | hmem
    · rcases List.mem_append.mp hmem with hmem | hmem
      · exact absurd rfl (h.apart_of_mem_requestNames _ hmem).2
      · exact absurd rfl (h.ne_statusRangeName_of_mem_aliasNames _ hmem)
    · exact absurd rfl (h.apart_of_mem_unions _ hmem).2.1

/-- An operation that uses the status ranges has an alias that refers to them. -/
theorem exists_refersTo_statusRangeName {o : TypedOperation} (ho : o ∈ operations)
    (hrange : o.responses.usesRange = true) :
    ∃ d ∈ apiModule operations, d.RefersTo statusRangeName := by
  obtain ⟨typed, heq⟩ := h.exists_ofTyped ho
  have huses := hrange
  simp only [heq, Responses.ofTyped, Bool.and_eq_true, List.any_eq_true] at huses
  obtain ⟨henveloped, r, hr, hstatus⟩ := huses
  have halias : r.declaration o.name true ∈ o.responses.aliases := by
    rw [heq]
    simp only [Responses.ofTyped, henveloped]
    exact List.mem_map_of_mem hr
  refine ⟨r.declaration o.name true, ?_, envelope r.body (statusType r.status),
    List.mem_singleton.mpr rfl, ?_⟩
  · refine List.mem_append_right _ (List.mem_flatMap.mpr ⟨o, ho, ?_⟩)
    exact List.mem_append_left _ (List.mem_append_right _ halias)
  · refine .inside (.argument (List.mem_cons_of_mem _ List.mem_cons_self)) (.here ?_)
    cases hs : r.status with
    | range leading => rfl
    | _ =>
        rw [hs] at hstatus
        cases hstatus

theorem members_eq {o : TypedOperation} (ho : o ∈ operations) {names : List String}
    (hunion : o.responses.union.definition = .union names) :
    names = o.responses.aliases.map Declaration.name := by
  obtain ⟨typed, heq⟩ := h.exists_ofTyped ho
  rw [heq] at hunion ⊢
  simp only [Responses.ofTyped] at hunion ⊢
  split at hunion <;> cases hunion
  rfl

end Shows

/-- Whatever is generated resolves. -/
theorem generate_resolves (root : Json) (options : Options) (output : Output)
    (h : generate root options = .ok output) :
    ∃ description named operations, Shows root options output description named operations ∧
      Resolves (options.clientName.getD defaultClientName) operations := by
  obtain ⟨description, named, operations, hshows⟩ := generate_eq_ok.mp h
  refine ⟨description, named, operations, hshows, ?_, ?_, ?_, ?_, ?_⟩
  · intro d hd name hname
    exact (hshows.mem_of_refersTo hd hname).imp_left And.right
  · rintro name ⟨t, ht, hname⟩
    exact (refersWithin_apiClient _ operations t ht).mem hname
  · intro o ho names hunion name hname
    rw [hshows.members_eq ho hunion] at hname
    exact List.mem_map.mp hname
  · intro hname
    obtain ⟨o, ho, hrange⟩ := hshows.exists_usesRange hname
    exact hshows.exists_refersTo_statusRangeName ho hrange
  · rintro ⟨d, hd, hname⟩
    rcases hshows.mem_of_refersTo hd hname with ⟨rfl | rfl, hparameter⟩ | hmem
    · exact absurd hparameter (by decide)
    · exact absurd hparameter (by decide)
    · exact (List.mem_append.mp hmem).resolve_left (by decide)

/-- Two operations, of which only one has an envelope for a range of status codes. -/
theorem generate_resolves_of_range :
    let root : Json := .object [("paths", .object [("/dates", .object
      [("get", .object [("responses", .object [("2XX", .object [])])]),
       ("put", .object
         [("requestBody", .object [("content", .object [("application/json", .object
            [("schema", .object [("type", .text "array"), ("items", .object
              [("type", .text "string"), ("format", .text "date")])])])])]),
          ("responses", .object [("4XX", .object [("content", .object
            [("image/png", .object [])])])])])])])]
    let output : Output :=
      { declarations := envelopeDeclaration.render ++ "\n" ++ statusRangeDeclaration.render ++
          "\nexport type GetDates2XXResponse = FullResponse<unknown, StatusRange<2>>;\n\n" ++
          "export type GetDatesResponses = GetDates2XXResponse;\n\n" ++
          "export type PutDatesRequest = Array<string | Date>;\n\n" ++
          "export type PutDates4XXResponse = Blob;\n\n" ++
          "export type PutDatesResponses = PutDates4XXResponse;\n"
        client :=
          "export interface ApiClient \x7b\n  getDates(): Promise<GetDatesResponses>;\n" ++
          "  putDates(request?: PutDatesRequest): Promise<PutDatesResponses>;\n\x7d\n" }
    generate root {} = .ok output ∧
      ∃ description named operations, Shows root {} output description named operations ∧
        Resolves "ApiClient" operations := by
  intro root output
  have h : generate root {} = .ok output := by decide +kernel
  exact ⟨h, generate_resolves root {} output h⟩

end ApiTypings.OpenApi
