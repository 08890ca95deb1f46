import ApiTypings.OpenApi.Client
import ApiTypings.Proofs.OpenApi.Room

/-! # Termination

Every reference that is open while a document is worked through is a reference of the document,
and no two open ones are the same. So the recursion ends before it comes to its bound.
-/

namespace ApiTypings.OpenApi

open Relation Reader Outcome

/-! ## The bound does not matter -/

theorem Parameter.isWithin_valueSchema {root : Json} {p : Parameter}
    (h : FoundIn Parameter.read root p) : p.valueSchema.IsWithin root := by
  obtain ⟨-, hschema, hitems⟩ := found_of_found h
  rintro pointer ⟨t, ht, hp⟩
  unfold valueSchema at ht
  split at ht
  · next s hs =>
      rcases ht.cases_head with rfl | ⟨u, hu, ht⟩
      · contradiction
      · cases hu with
        | wrapped hu =>
            cases hu
            exact Schema.isWithin_of_found (hschema s hs) pointer ⟨t, ht, hp⟩
        | _ => contradiction
  · rcases ht.cases_head with rfl | ⟨u, hu, ht⟩
    · contradiction
    · cases hu with
      | item hu => exact Schema.isWithin_of_found (hitems u hu) pointer ⟨t, ht, hp⟩
      | _ => contradiction

/-- What all nodes of the document have and the given parameters too, the parameters of an operation
have as well. -/
theorem Document.parameters_preserves {doc : Document} {P : Parameter → Prop}
    (hfound : ∀ p, FoundIn Parameter.read doc.root p → P p) {own shared ps : List Parameter}
    (h : doc.parameters own shared = .ok ps) (hown : ∀ p ∈ own, P p) (hshared : ∀ p ∈ shared, P p) :
    ∀ p ∈ ps, P p := by
  obtain ⟨own', hown', h⟩ := bind_eq_ok.mp h
  refine foldlM_preserves (P := fun ps => ∀ p ∈ ps, P p) h ?_ ?_
  · intro p hp
    obtain ⟨q, hq, hderef⟩ := exists_of_mem_mapM hown' hp
    exact deref_preserves hfound hderef (hown q hq)
  · intro p hp qs qs' hqs hadd
    obtain ⟨target, htarget, hadd⟩ := bind_eq_ok.mp hadd
    cases hadd
    have htarget := deref_preserves hfound htarget (hshared p hp)
    unfold addParameter
    split
    · exact hqs
    · intro q hq
      rcases List.mem_append.mp hq with hq | hq
      · exact hqs q hq
      · rw [List.mem_singleton.mp hq]
        exact htarget

/-- Schemas and parameters of a document are the same in another one. -/
structure SameTypes (doc doc' : Document) : Prop where
  typeOf_eq : ∀ {direction : Direction} {s : Schema}, s.IsWithin doc.root →
    doc.typeOf direction s = doc'.typeOf direction s
  deref_schema_eq : ∀ {s : Schema}, FoundIn Schema.read doc.root s → doc.deref s = doc'.deref s
  deref_parameter_eq : ∀ {p : Parameter}, FoundIn Parameter.read doc.root p →
    doc.deref p = doc'.deref p

/-- The body with the content of a request body that is no reference. -/
def Document.contentBody (doc : Document) (operation : String) (body : RequestBody) :
    Except GenerationError (Option Body) :=
  match body.content with
  | none => .ok none
  | some content =>
      if (content.lookup "multipart/form-data").isSome then
        .ok (some (.form body.required))
      else
        match (content.lookup "application/json").bind MediaType.schema with
        | some s => some <$> doc.jsonBody operation s body.required
        | none => .ok none

theorem Document.body?_some (doc : Document) (operation : String) (body : RequestBody)
    (parameter : Option Parameter) :
    doc.body? operation (some body) parameter = doc.deref body >>= doc.contentBody operation := by
  refine bind_congr_of_ok rfl fun target _ => ?_
  unfold contentBody
  cases target.content with
  | none => rfl
  | some content =>
      simp only [bind_pure_comp]
      rfl

theorem Document.parameters_found {doc : Document} {own shared ps : List Parameter}
    (hown : ∀ p ∈ own, FoundIn Parameter.read doc.root p)
    (hshared : ∀ p ∈ shared, FoundIn Parameter.read doc.root p)
    (hps : doc.parameters own shared = .ok ps) : ∀ p ∈ ps, FoundIn Parameter.read doc.root p :=
  parameters_preserves (fun _ hp => hp) hps hown hshared

namespace SameTypes

variable {doc doc' : Document} (h : SameTypes doc doc')
include h

theorem parameters_eq {own shared : List Parameter}
    (hown : ∀ p ∈ own, FoundIn Parameter.read doc.root p)
    (hshared : ∀ p ∈ shared, FoundIn Parameter.read doc.root p) :
    doc.parameters own shared = doc'.parameters own shared := by
  refine bind_congr_of_ok (mapM_congr fun p hp => h.deref_parameter_eq (hown p hp)) fun _ _ => ?_
  refine foldlM_congr fun p hp parameters => ?_
  rw [h.deref_parameter_eq (hshared p hp)]

theorem partProperties_eq {options : Options} {ps : List Parameter}
    (hps : ∀ p ∈ ps, FoundIn Parameter.read doc.root p) :
    doc.partProperties options ps = doc'.partProperties options ps := by
  refine filterMapM_congr fun p hp => ?_
  unfold Document.partProperty?
  rw [h.typeOf_eq (Parameter.isWithin_valueSchema (hps p hp))]

theorem jsonBody_eq {operation : String} {s : Schema} {required : Bool}
    (hs : FoundIn Schema.read doc.root s) :
    doc.jsonBody operation s required = doc'.jsonBody operation s required := by
  unfold Document.jsonBody
  rw [h.deref_schema_eq hs, h.typeOf_eq (Schema.isWithin_of_found hs)]

theorem contentBody_eq {operation : String} {body : RequestBody}
    (hbody : FoundIn RequestBody.read doc.root body) :
    doc.contentBody operation body = doc'.contentBody operation body := by
  unfold Document.contentBody
  cases hcontent : body.content with
  | none => rfl
  | some content =>
      simp only
      split
      · rfl
      · cases hs : (content.lookup "application/json").bind MediaType.schema with
        | none => rfl
        | some s =>
            obtain ⟨m, hm, hs⟩ := Option.bind_eq_some_iff.mp hs
            obtain ⟨l₁, l₂, hm, -⟩ := List.lookup_eq_some_iff.mp hm
            have hmem := (RequestBody.found_of_found hbody).2 content hcontent
              ("application/json", m) (by simp [hm])
            simp only
            rw [h.jsonBody_eq (MediaType.found_of_found hmem hs)]

theorem body?_none_eq {operation : String} {parameter : Option Parameter}
    (hparameter : ∀ p, parameter = some p → FoundIn Parameter.read doc.root p) :
    doc.body? operation none parameter = doc'.body? operation none parameter := by
  unfold Document.body?
  cases parameter with
  | none => rfl
  | some p =>
      simp only
      cases hs : p.schema with
      | none => rfl
      | some s =>
          have hs := (Parameter.found_of_found (hparameter p rfl)).2.1 s hs
          simp only
          rw [h.jsonBody_eq hs]

/-- Operations with the same parameters have the same request if they have the same body. -/
theorem request_eq {options : Options} {name : String} {operation operation' : Operation}
    {shared : List Parameter} (ho : operation.FoundParts doc.root)
    (hshared : ∀ p ∈ shared, FoundIn Parameter.read doc.root p)
    (hparameters : operation.parameters = operation'.parameters)
    (hbody : ∀ parameter, (∀ p, parameter = some p → FoundIn Parameter.read doc.root p) →
      doc.body? name operation.requestBody parameter =
        doc'.body? name operation'.requestBody parameter) :
    doc.request options name operation shared = doc'.request options name operation' shared := by
  have hown : ∀ p ∈ operation.parameters.getD [], FoundIn Parameter.read doc.root p := by
    cases hps : operation.parameters with
    | none => simp
    | some ps => exact ho.1 ps hps
  unfold Document.request
  rw [← hparameters]
  refine bind_congr_of_ok (h.parameters_eq hown hshared) fun ps hps => ?_
  have hfound := Document.parameters_found hown hshared hps
  refine bind_congr_of_ok (h.partProperties_eq hfound) fun properties _ => ?_
  rw [hbody _ fun p hp => hfound p (List.mem_of_find?_eq_some hp)]

theorem typedResponse_eq {status : Http.Status} {response : Response}
    (hresponse : FoundIn Response.read doc.root response) :
    doc.typedResponse status response = doc'.typedResponse status response := by
  unfold Document.typedResponse
  cases hm : (response.content.getD []).head? with
  | none => rfl
  | some m =>
      have hm : ∀ s, m.2.schema = some s → FoundIn Schema.read doc.root s := by
        cases hcontent : response.content with
        | none =>
            rw [hcontent] at hm
            cases hm
        | some content =>
            rw [hcontent] at hm
            have hmem := (Response.found_of_found hresponse).2 content hcontent m
              (List.mem_of_head? hm)
            exact fun s hs => MediaType.found_of_found hmem hs
      cases hs : m.2.schema with
      | none => simp only [hs]
      | some s => simp only [hs, h.typeOf_eq (Schema.isWithin_of_found (hm s hs))]

end SameTypes

/-- Two documents with one root that both have room for its references. -/
structure Alike (doc doc' : Document) : Prop where
  root_eq : doc.root = doc'.root
  length_le : (references doc.root).length ≤ doc.room
  length_le' : (references doc.root).length ≤ doc'.room

namespace Alike

variable {doc doc' : Document} (h : Alike doc doc')
include h

theorem deref_eq {α : Type} [Referable α] [Described α] {item : α}
    (hitem : FoundIn Referable.read doc.root item) : doc.deref item = doc'.deref item :=
  Document.deref_congr h.root_eq h.length_le h.length_le' hitem

theorem sameTypes : SameTypes doc doc' where
  typeOf_eq hs := Document.typeOf_congr h.root_eq h.length_le h.length_le' hs
  deref_schema_eq hs := h.deref_eq hs
  deref_parameter_eq hp := h.deref_eq hp

theorem body?_eq {operation : String} {body : Option RequestBody} {parameter : Option Parameter}
    (hbody : ∀ b, body = some b → FoundIn RequestBody.read doc.root b)
    (hparameter : ∀ p, parameter = some p → FoundIn Parameter.read doc.root p) :
    doc.body? operation body parameter = doc'.body? operation body parameter := by
  cases body with
  | some b =>
      rw [Document.body?_some, Document.body?_some]
      refine bind_congr_of_ok (h.deref_eq (hbody b rfl)) fun target htarget => ?_
      exact h.sameTypes.contentBody_eq (Document.found_of_deref htarget (hbody b rfl))
  | none => exact h.sameTypes.body?_none_eq hparameter

theorem request_eq {options : Options} {name : String} {operation : Operation}
    {shared : List Parameter} (ho : operation.FoundParts doc.root)
    (hshared : ∀ p ∈ shared, FoundIn Parameter.read doc.root p) :
    doc.request options name operation shared = doc'.request options name operation shared :=
  h.sameTypes.request_eq ho hshared rfl fun _ hparameter => h.body?_eq ho.2.1 hparameter

theorem responses_eq {options : Options} {name : String} {responses : List (String × Response)}
    (hresponses : ∀ r ∈ responses, FoundIn Response.read doc.root r.2) :
    doc.responses options name responses = doc'.responses options name responses := by
  refine bind_congr_of_ok (mapM_congr fun r hr => ?_) fun _ _ => rfl
  refine bind_congr_of_ok (h.deref_eq (hresponses r hr)) fun target htarget => ?_
  exact h.sameTypes.typedResponse_eq (Document.found_of_deref htarget (hresponses r hr))

end Alike

/-- The parts of a named operation are read in its document. -/
def NamedOperation.FoundParts (root : Json) (o : NamedOperation) : Prop :=
  o.operation.FoundParts root ∧ (∀ r ∈ o.responses, FoundIn Response.read root r.2) ∧
    ∀ p ∈ o.shared, FoundIn Parameter.read root p

theorem foundParts_of_namedOperations {root : Json} {d : Description}
    (hd : Description.read root = .ok d) {named : List NamedOperation}
    (h : d.namedOperations = .ok named) : ∀ o ∈ named, o.FoundParts root := by
  refine foldlM_preserves (P := fun named => ∀ o ∈ named, o.FoundParts root) h (by simp) ?_
  rintro ⟨path, method, operation, shared⟩ hmem named named' hnamed hadd
  obtain ⟨⟨path, item⟩, hitem, hmem⟩ := List.mem_flatMap.mp hmem
  obtain ⟨⟨method, operation⟩, hoperation, hmem⟩ := List.mem_map.mp hmem
  cases hmem
  obtain ⟨hslots, hshared⟩ := PathItem.found_of_found (Description.found_of_read hd _ hitem)
  have ho := Operation.foundParts_of_found (hslots _ (PathItem.some_mem_slots hoperation))
  simp only [addOperation] at hadd
  cases hresponses : operation.responses with
  | none =>
      simp only [hresponses] at hadd
      cases hadd
  | some responses =>
      simp only [hresponses] at hadd
      split at hadd
      · cases hadd
      · cases hadd
        intro o hmem
        rcases List.mem_append.mp hmem with hmem | hmem
        · exact hnamed o hmem
        · rw [List.mem_singleton.mp hmem]
          refine ⟨ho, ho.2.2 responses hresponses, ?_⟩
          cases hps : item.parameters with
          | none => simp
          | some ps => exact hshared ps hps

/-- With room for the references of a document, the declarations for it do not depend on the
bound. -/
theorem Document.generate_congr {doc doc' : Document} (h : Alike doc doc') (options : Options) :
    doc.generate options = doc'.generate options := by
  refine bind_congr_of_ok ?_ fun _ _ => rfl
  unfold operations
  rw [← h.root_eq]
  cases hd : Description.read doc.root with
  | error cause =>
      -- Both sides are computed: comparing them as they stand unfolds all of the typing.
      exact Eq.trans (b := .error (.unreadable cause)) rfl rfl
  | ok d =>
      simp only [pure_bind]
      refine bind_congr_of_ok rfl fun named hnamed => mapM_congr fun o ho => ?_
      obtain ⟨hoperation, hresponses, hshared⟩ := foundParts_of_namedOperations hd hnamed o ho
      unfold typedOperation
      refine bind_congr_of_ok (h.request_eq hoperation hshared) fun request _ => ?_
      rw [h.responses_eq hresponses]

/-! ## The recursion of typing -/

/-- The number of references of a document that are not open. -/
def unopened (root : Json) (opened : List String) : Nat :=
  ((references root).filter fun pointer => pointer ∉ opened).length

theorem unopened_cons_lt {root : Json} {opened : List String} {pointer : String}
    (hmem : pointer ∈ references root) (hp : pointer ∉ opened) :
    unopened root (pointer :: opened) < unopened root opened := by
  unfold unopened
  have hfilter : (references root).filter (fun q => q ∉ pointer :: opened) =
      ((references root).filter fun q => q ∉ opened).filter (· ≠ pointer) := by
    rw [List.filter_filter]
    refine List.filter_congr fun q _ => ?_
    simp
  rw [hfilter]
  refine List.length_filter_lt_length_iff_exists.mpr ⟨pointer, ?_, by simp⟩
  exact List.mem_filter.mpr ⟨hmem, by simpa using hp⟩

namespace Document

/-- What typing a schema calls for, beside some active references: typing a part of it, or the
schema behind its reference, which is active then. -/
inductive Calls (doc : Document) : List String × Schema → List String × Schema → Prop
  | part {active : List String} {s t : Schema} (ht : t ∈ s.parts) :
      Calls doc (active, s) (active, t)
  | expand {active : List String} {s target : Schema} {pointer : String}
      (hp : s.reference = some pointer) (ht : doc.resolve Schema.read pointer = .ok target)
      (hactive : pointer ∉ active) : Calls doc (active, s) (pointer :: active, target)

variable {doc : Document}

/-- Either fewer references are left to open, or the same ones and the schema is smaller. -/
theorem acc_calls_of_isWithin (active : List String) (s : Schema) (hs : s.IsWithin doc.root) :
    Acc (fun call caller => doc.Calls caller call) (active, s) := by
  refine ⟨_, fun call h => ?_⟩
  cases h with
  | part ht => exact acc_calls_of_isWithin active _ (hs.of_part ht)
  | @expand _ _ target pointer hp ht hactive =>
      have hmem := hs pointer ⟨s, .refl, hp⟩
      exact acc_calls_of_isWithin (pointer :: active) target
        (Schema.isWithin_of_found (found_of_resolve ht))
termination_by (unopened doc.root active, sizeOf s)
decreasing_by
  · exact .right _ (Schema.sizeOf_lt_of_mem_parts ht)
  · exact .left _ _ (unopened_cons_lt hmem hactive)

/-- Typing any schema ends: behind its first reference everything is within the document. -/
theorem acc_calls (active : List String) (s : Schema) :
    Acc (fun call caller => doc.Calls caller call) (active, s) := by
  refine ⟨_, fun call h => ?_⟩
  cases h with
  | part ht => exact acc_calls active _
  | expand hp ht hactive =>
      exact acc_calls_of_isWithin _ _ (Schema.isWithin_of_found (found_of_resolve ht))
termination_by sizeOf s
decreasing_by exact Schema.sizeOf_lt_of_mem_parts ht

/-- The active references are distinct references of the document. -/
theorem calls_invariant {s t : Schema} {active : List String} (hs : s.IsWithin doc.root)
    (h : ReflTransGen doc.Calls ([], s) (active, t)) :
    t.IsWithin doc.root ∧ active.Nodup ∧ active ⊆ references doc.root := by
  generalize hcall : (active, t) = call at h
  induction h generalizing active t with
  | refl =>
      cases hcall
      exact ⟨hs, List.nodup_nil, List.nil_subset _⟩
  | tail _ hstep ih =>
      subst hcall
      cases hstep with
      | part ht =>
          obtain ⟨hwithin, hactive⟩ := ih rfl
          exact ⟨hwithin.of_part ht, hactive⟩
      | @expand _ s' _ pointer hp ht hnot =>
          obtain ⟨hwithin, hnodup, hsubset⟩ := ih rfl
          exact ⟨Schema.isWithin_of_found (found_of_resolve ht),
            List.nodup_cons.mpr ⟨hnot, hnodup⟩,
            List.cons_subset.mpr ⟨hwithin pointer ⟨s', .refl, hp⟩, hsubset⟩⟩

/-! ## The loop behind references -/

section Following

variable {α : Type} [Referable α]

/-- A step from a reference to the node behind it, beside the references followed before. -/
inductive Hops (doc : Document) : List String × α → List String × α → Prop
  | follow {followed : List String} {item target : α} {pointer : String}
      (hp : Referable.reference? item = some pointer) (hfollowed : pointer ∉ followed)
      (ht : doc.resolve Referable.read pointer = .ok target) :
      Hops doc (followed, item) (pointer :: followed, target)

theorem hops_of_follow_eq_ok {room : Nat} {followed : List String} {item target : α}
    (h : doc.follow room followed item = .ok target) :
    ∃ followed', ReflTransGen doc.Hops (followed, item) (followed', target) := by
  induction room generalizing followed item with
  | zero =>
      unfold follow at h
      split at h
      · cases h
        exact ⟨followed, .refl⟩
      · split at h <;> cases h
  | succ room ih =>
      unfold follow at h
      split at h
      · cases h
        exact ⟨followed, .refl⟩
      · next pointer hp =>
          split at h
          · cases h
          · next hfollowed =>
              obtain ⟨next, hnext, h⟩ := bind_eq_ok.mp h
              obtain ⟨followed', hhops⟩ := ih h
              exact ⟨followed', .head (.follow hp hfollowed hnext) hhops⟩

variable [Described α]

theorem acc_hops (followed : List String) (item : α)
    (hitem : FoundIn Referable.read doc.root item) :
    Acc (fun next item => doc.Hops item next) (followed, item) := by
  refine ⟨_, fun next h => ?_⟩
  cases h with
  | @follow _ _ target pointer hp hfollowed ht =>
      have hmem := reference_mem_references hitem hp
      exact acc_hops (pointer :: followed) target (found_of_resolve ht)
termination_by unopened doc.root followed
decreasing_by exact unopened_cons_lt hmem hfollowed

/-- The followed references are distinct references of the document. -/
theorem hops_invariant {item target : α} {followed : List String}
    (hitem : FoundIn Referable.read doc.root item)
    (h : ReflTransGen doc.Hops ([], item) (followed, target)) :
    FoundIn Referable.read doc.root target ∧ followed.Nodup ∧
      followed ⊆ references doc.root := by
  generalize hnext : (followed, target) = next at h
  induction h generalizing followed target with
  | refl =>
      cases hnext
      exact ⟨hitem, List.nodup_nil, List.nil_subset _⟩
  | tail _ hstep ih =>
      subst hnext
      cases hstep with
      | follow hp hfollowed ht =>
          obtain ⟨hfound, hnodup, hsubset⟩ := ih rfl
          exact ⟨found_of_resolve ht, List.nodup_cons.mpr ⟨hfollowed, hnodup⟩,
            List.cons_subset.mpr ⟨reference_mem_references hfound hp, hsubset⟩⟩

end Following

/-- Following references from anything of a kind that is read in a document ends. On the way the
followed references are distinct ones of the document, and at the end there is no reference. -/
def DerefEnds (root : Json) (α : Type) [Referable α] : Prop :=
  ∀ item : α, FoundIn Referable.read root item →
    Acc (fun next item => (ofJson root).Hops item next) ([], item) ∧
    (∀ followed target, ReflTransGen (ofJson root).Hops ([], item) (followed, target) →
      followed.Nodup ∧ followed ⊆ references root) ∧
    ∀ target, (ofJson root).deref item = .ok target →
      Referable.reference? target = none ∧
        ∃ followed, ReflTransGen (ofJson root).Hops ([], item) (followed, target)

theorem derefEnds (root : Json) (α : Type) [Referable α] [Described α] : DerefEnds root α := by
  intro item hitem
  refine ⟨acc_hops [] item hitem, ?_, ?_⟩
  · intro followed target h
    obtain ⟨-, hfollowed⟩ := @hops_invariant (ofJson root) _ _ _ _ _ _ hitem h
    exact hfollowed
  · intro target h
    exact ⟨(follow_eq_ok (fun _ ha => ha) h hitem).2, hops_of_follow_eq_ok h⟩

end Document

/-- Generating declarations ends on every document: whatever the bound on the open references and
whatever happened beyond it, the result is the same as soon as there is room for the references of
the document. For typing only finitely many references are ever open, which are distinct ones of
the document, and between two of them the schemas get smaller; and every loop behind references
ends, with a node that is none. -/
theorem generate_terminates (root : Json) (options : Options) :
    (∀ doc : Document, doc.root = root → (references root).length ≤ doc.room →
      doc.generate options = generate root options) ∧
    (∀ active s, Acc (fun call caller => (Document.ofJson root).Calls caller call) (active, s)) ∧
    (∀ s, FoundIn Schema.read root s → s.IsWithin root) ∧
    (∀ p, FoundIn Parameter.read root p → p.valueSchema.IsWithin root) ∧
    (∀ s : Schema, s.IsWithin root → ∀ active t,
      ReflTransGen (Document.ofJson root).Calls ([], s) (active, t) →
        active.Nodup ∧ active ⊆ references root ∧ active.length ≤ (references root).length ∧
          ∀ u ∈ t.parts, sizeOf u < sizeOf t) ∧
    Document.DerefEnds root Schema ∧ Document.DerefEnds root Parameter ∧
      Document.DerefEnds root RequestBody ∧ Document.DerefEnds root Response := by
  have hroom := Nat.le_of_lt (length_references_lt_room root)
  refine ⟨?_, Document.acc_calls, fun _ => Schema.isWithin_of_found,
    fun _ => Parameter.isWithin_valueSchema, ?_, Document.derefEnds root Schema,
    Document.derefEnds root Parameter, Document.derefEnds root RequestBody,
    Document.derefEnds root Response⟩
  · rintro doc rfl hdoc
    have halike : Alike doc (Document.ofJson doc.root) :=
      { root_eq := rfl
        length_le := hdoc
        length_le' := hroom }
    exact Document.generate_congr halike options
  · intro s hs active t h
    obtain ⟨-, hnodup, hsubset⟩ := Document.calls_invariant hs h
    exact ⟨hnodup, hsubset, (hnodup.subperm hsubset).length_le,
      fun u hu => Schema.sizeOf_lt_of_mem_parts hu⟩

end ApiTypings.OpenApi
