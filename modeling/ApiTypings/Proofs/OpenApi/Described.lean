import ApiTypings.OpenApi.Reference
import ApiTypings.Proofs.OpenApi.Parts
import ApiTypings.Proofs.Reading
import Mathlib.Data.List.Dedup
import Mathlib.Data.List.Perm.Subperm

/-! # What a document describes

The schemas, parameters, bodies and responses that are read in a document refer to nothing but
the references written in it.
-/

namespace ApiTypings.OpenApi

open Reader Outcome

variable {root : Json}

/-! ## Schemas read in a document -/

namespace Schema

/-- The keywords as fields with readers of their own. -/
def fields : List (Reader.Field Schema) :=
  [field "type" (optional TypeKeyword.read) fun type s => { s with type },
   field "$ref" (optional text) fun reference s => { s with reference },
   field "schema" (optional read) fun wrapped s => { s with wrapped },
   field "properties" (optional (entries read)) fun properties s => { s with properties },
   field "required" (optional (list text)) fun required s => { s with required },
   field "items" (optional read) fun items s => { s with items },
   field "enum" (optional (list .ok)) fun enum s => { s with enum },
   field "anyOf" (optional (list read)) fun anyOf s => { s with anyOf },
   field "oneOf" (optional (list read)) fun oneOf s => { s with oneOf },
   field "allOf" (optional (list read)) fun allOf s => { s with allOf },
   field "additionalProperties" (optional (AdditionalProperties.read read))
     fun additionalProperties s => { s with additionalProperties },
   field "discriminator" (optional Discriminator.read) fun discriminator s =>
     { s with discriminator },
   field "format" (optional text) fun format s => { s with format },
   field "const" raw fun const s => { s with const },
   field "nullable" (optional boolean) fun nullable s => { s with nullable }]

theorem optional_const {α : Type} (read : Reader α) (value : Json) :
    optional (fun _ => read value) value = optional read value := by
  cases value <;> rfl

theorem additionalProperties_read_const (value : Json) :
    optional (AdditionalProperties.read fun _ => read value) value =
      optional (AdditionalProperties.read read) value := by
  cases value <;> rfl

theorem map_field_eq_fields : Keyword.all.map Keyword.field = fields := by
  simp only [Keyword.all, fields, List.map_cons, List.map_nil, Keyword.field, Keyword.key, field,
    List.cons.injEq, Field.mk.injEq, true_and, and_true]
  refine ⟨?_, ?_, ?_, ?_, ?_, ?_, ?_, ?_, ?_, ?_, ?_, ?_, ?_, ?_, ?_⟩ <;>
    funext value s <;> simp only [Keyword.set, optional_const, additionalProperties_read_const]

theorem found_of_additionalProperties {s : Schema}
    (h : FoundIn (AdditionalProperties.read read) root (.values s)) : FoundIn read root s := by
  obtain ⟨node, hnode, h⟩ := h
  refine ⟨node, hnode, ?_⟩
  unfold AdditionalProperties.read at h
  grind

end Schema

/-- The texts and schemas that a schema is made of are read in the document too. -/
theorem Schema.found_of_found {s : Schema} (h : FoundIn Schema.read root s) :
    (∀ pointer, s.reference = some pointer → FoundIn text root pointer) ∧
      ∀ t, Child s t → FoundIn Schema.read root t := by
  rw [funext Schema.read_eq_record, map_field_eq_fields] at h
  refine h.record_induction (P := fun s =>
    (∀ pointer, s.reference = some pointer → FoundIn text root pointer) ∧
      ∀ t, Child s t → FoundIn Schema.read root t) ?_ ?_
  · refine ⟨by simp, ?_⟩
    intro t ht
    cases ht <;> contradiction
  have hlist {x : Option (List Schema)} (hx : FoundIn (optional (list Schema.read)) root x)
      (ts : List Schema) (hts : x = some ts) : ∀ t ∈ ts, FoundIn Schema.read root t :=
    fun t ht => (hx.of_optional_eq_some ts hts).of_list ht
  simp only [fields, List.forall_mem_cons, List.not_mem_nil, false_implies, implies_true, and_true]
  refine ⟨keeps_field ?type, keeps_field ?ref, keeps_field ?schema, keeps_field ?properties,
    keeps_field ?required, keeps_field ?items, keeps_field ?enum, keeps_field ?anyOf,
    keeps_field ?oneOf, keeps_field ?allOf, keeps_field ?additionalProperties,
    keeps_field ?discriminator, keeps_field ?format, keeps_field ?const, keeps_field ?nullable⟩
  -- A field changes what is claimed only if it holds the reference or schemas.
  all_goals
    intro x hx a ha
    obtain ⟨hpointer, hchild⟩ := ha
    refine ⟨?_, ?_⟩
  case ref.refine_1 => exact hx.of_optional_eq_some
  case schema.refine_2 | items.refine_2 =>
    have hnew := hx.of_optional_eq_some
    grind [Child]
  case anyOf.refine_2 | oneOf.refine_2 | allOf.refine_2 => grind [Child]
  case properties.refine_2 =>
    have hnew (ps : List (String × Schema)) (hps : x = some ps) :
        ∀ p ∈ ps, FoundIn Schema.read root p.2 :=
      fun p hp => (hx.of_optional_eq_some ps hps).of_entries hp
    grind [Child]
  case additionalProperties.refine_2 =>
    have hnew (t : Schema) (ht : x = some (.values t)) : FoundIn Schema.read root t :=
      found_of_additionalProperties (hx.of_optional_eq_some _ ht)
    grind [Child]
  all_goals first | exact hpointer | grind [Child]

namespace Schema

/-- A schema mentions a reference if it is one or a schema below it is. -/
def Mentions (s : Schema) (pointer : String) : Prop :=
  ∃ t, Relation.ReflTransGen Child s t ∧ t.reference = some pointer

/-- The references that a schema follows are among those it mentions. -/
theorem Follows.mentions {s : Schema} {pointer : String} (h : s.Follows pointer) :
    s.Mentions pointer := by
  induction h with
  | here h => exact ⟨_, .refl, h⟩
  | part ht _ ih =>
      obtain ⟨u, hu, h⟩ := ih
      exact ⟨u, (child_of_mem_parts ht).to_reflTransGen.trans hu, h⟩

theorem found_of_reflTransGen {s t : Schema} (h : FoundIn Schema.read root s)
    (ht : Relation.ReflTransGen Child s t) : FoundIn Schema.read root t := by
  induction ht with
  | refl => exact h
  | tail _ hc ih => exact (found_of_found ih).2 _ hc

end Schema

/-! ## Other parts of a description -/

theorem Parameter.found_of_found {p : Parameter} (h : FoundIn Parameter.read root p) :
    (∀ pointer, p.reference = some pointer → FoundIn text root pointer) ∧
      (∀ s, p.schema = some s → FoundIn Schema.read root s) ∧
      ∀ s, p.items = some s → FoundIn Schema.read root s := by
  refine h.record_induction (P := fun p =>
    (∀ pointer, p.reference = some pointer → FoundIn text root pointer) ∧
      (∀ s, p.schema = some s → FoundIn Schema.read root s) ∧
      ∀ s, p.items = some s → FoundIn Schema.read root s) (by simp) ?_
  simp only [List.forall_mem_cons, List.not_mem_nil, false_implies, implies_true, and_true]
  refine ⟨keeps_field ?ref, keeps_trailingField ?name, keeps_trailingField ?location,
    keeps_trailingField ?required, keeps_field ?schema, keeps_field ?type, keeps_field ?format,
    keeps_field ?items, keeps_field ?enum⟩
  case ref =>
    intro x hx p hp
    exact ⟨hx.of_optional_eq_some, hp.2⟩
  case schema =>
    intro x hx p hp
    exact ⟨hp.1, hx.of_optional_eq_some, hp.2.2⟩
  case items =>
    intro x hx p hp
    exact ⟨hp.1, hp.2.1, hx.of_optional_eq_some⟩
  all_goals exact fun _ _ _ hp => hp

theorem MediaType.found_of_found {m : MediaType} (h : FoundIn MediaType.read root m) {s : Schema}
    (hs : m.schema = some s) : FoundIn Schema.read root s := by
  refine h.record_induction (P := fun m => ∀ s, m.schema = some s → FoundIn Schema.read root s)
    (by simp) ?_ s hs
  simp only [List.forall_mem_cons, List.not_mem_nil, false_implies, implies_true, and_true]
  refine keeps_field ?_
  intro x hx m _
  exact hx.of_optional_eq_some

theorem RequestBody.found_of_found {b : RequestBody} (h : FoundIn RequestBody.read root b) :
    (∀ pointer, b.reference = some pointer → FoundIn text root pointer) ∧
      ∀ content, b.content = some content → ∀ m ∈ content, FoundIn MediaType.read root m.2 := by
  refine h.record_induction (P := fun b =>
    (∀ pointer, b.reference = some pointer → FoundIn text root pointer) ∧
      ∀ content, b.content = some content → ∀ m ∈ content, FoundIn MediaType.read root m.2)
    (by simp) ?_
  simp only [List.forall_mem_cons, List.not_mem_nil, false_implies, implies_true, and_true]
  refine ⟨keeps_field ?ref, keeps_trailingField ?required, keeps_field ?content⟩
  case ref =>
    intro x hx b hb
    exact ⟨hx.of_optional_eq_some, hb.2⟩
  case required => exact fun _ _ _ hb => hb
  case content =>
    intro x hx b hb
    refine ⟨hb.1, ?_⟩
    intro content hcontent m hm
    exact (hx.of_optional_eq_some content hcontent).of_entries hm

theorem Response.found_of_found {r : Response} (h : FoundIn Response.read root r) :
    (∀ pointer, r.reference = some pointer → FoundIn text root pointer) ∧
      ∀ content, r.content = some content → ∀ m ∈ content, FoundIn MediaType.read root m.2 := by
  refine h.record_induction (P := fun r =>
    (∀ pointer, r.reference = some pointer → FoundIn text root pointer) ∧
      ∀ content, r.content = some content → ∀ m ∈ content, FoundIn MediaType.read root m.2)
    (by simp) ?_
  simp only [List.forall_mem_cons, List.not_mem_nil, false_implies, implies_true, and_true]
  refine ⟨keeps_field ?ref, keeps_field ?content⟩
  case ref =>
    intro x hx r hr
    exact ⟨hx.of_optional_eq_some, hr.2⟩
  case content =>
    intro x hx r hr
    refine ⟨hr.1, ?_⟩
    intro content hcontent m hm
    exact (hx.of_optional_eq_some content hcontent).of_entries hm

/-- The parts of an operation are read in its document. -/
def Operation.FoundParts (root : Json) (o : Operation) : Prop :=
  (∀ ps, o.parameters = some ps → ∀ p ∈ ps, FoundIn Parameter.read root p) ∧
    (∀ b, o.requestBody = some b → FoundIn RequestBody.read root b) ∧
    ∀ rs, o.responses = some rs → ∀ r ∈ rs, FoundIn Response.read root r.2

theorem Operation.foundParts_of_found {o : Operation} (h : FoundIn Operation.read root o) :
    o.FoundParts root := by
  refine h.record_induction (P := Operation.FoundParts root) (by simp [FoundParts]) ?_
  simp only [List.forall_mem_cons, List.not_mem_nil, false_implies, implies_true, and_true]
  refine ⟨keeps_field ?operationId, keeps_field ?parameters, keeps_field ?requestBody,
    keeps_trailingField ?responses⟩
  case operationId => exact fun _ _ _ ho => ho
  case parameters =>
    intro x hx o ho
    refine ⟨?_, ho.2⟩
    intro ps hps p hp
    exact (hx.of_optional_eq_some ps hps).of_list hp
  case requestBody =>
    intro x hx o ho
    exact ⟨ho.1, hx.of_optional_eq_some, ho.2.2⟩
  case responses =>
    intro x hx o ho
    refine ⟨ho.1, ho.2.1, ?_⟩
    intro rs hrs r hr
    exact (hx.of_optional_eq_some rs hrs).of_plainEntries hr

/-- The operations on a path, and none for the methods without one. -/
def PathItem.slots (i : PathItem) : List (Option Operation) :=
  [i.get, i.put, i.post, i.delete, i.options, i.head, i.patch, i.trace]

theorem PathItem.some_mem_slots {i : PathItem} {o : String × Operation} (h : o ∈ i.operations) :
    some o.2 ∈ i.slots := by
  obtain ⟨⟨method, slot⟩, hslot, h⟩ := List.mem_filterMap.mp h
  obtain ⟨o, rfl, rfl⟩ := Option.map_eq_some_iff.mp h
  have := List.mem_map_of_mem (f := Prod.snd) hslot
  exact this

theorem PathItem.found_of_found {i : PathItem} (h : FoundIn PathItem.read root i) :
    (∀ o, some o ∈ i.slots → FoundIn Operation.read root o) ∧
      ∀ ps, i.parameters = some ps → ∀ p ∈ ps, FoundIn Parameter.read root p := by
  refine h.record_induction (P := fun i =>
    (∀ o, some o ∈ i.slots → FoundIn Operation.read root o) ∧
      ∀ ps, i.parameters = some ps → ∀ p ∈ ps, FoundIn Parameter.read root p)
    (by simp [slots]) ?_
  simp only [List.forall_mem_cons, List.not_mem_nil, false_implies, implies_true, and_true]
  refine ⟨keeps_field ?get, keeps_field ?put, keeps_field ?post, keeps_field ?delete,
    keeps_field ?options, keeps_field ?head, keeps_field ?patch, keeps_field ?trace,
    keeps_field ?parameters⟩
  case parameters =>
    intro x hx i hi
    refine ⟨hi.1, ?_⟩
    intro ps hps p hp
    exact (hx.of_optional_eq_some ps hps).of_list hp
  all_goals
    intro x hx i hi
    obtain ⟨ho, hp⟩ := hi
    refine ⟨?_, hp⟩
    have hnew := hx.of_optional_eq_some
    simp only [slots, List.mem_cons, List.not_mem_nil, or_false] at ho ⊢
    grind

theorem Description.found_of_read {d : Description} (h : Description.read root = .ok d) :
    ∀ path ∈ d.paths, FoundIn PathItem.read root path.2 := by
  have hd : FoundIn Description.read root d := ⟨root, Json.self_mem_nodes root, h⟩
  refine hd.record_induction (P := fun d => ∀ path ∈ d.paths, FoundIn PathItem.read root path.2)
    (by simp) ?_
  simp only [List.forall_mem_cons, List.not_mem_nil, false_implies, implies_true, and_true]
  refine keeps_trailingField ?_
  intro x hx d _ path hp
  exact hx.of_plainEntries hp

/-! ## The references of a document -/

/-- The pointer that a node holds where it is read as something that a reference may stand for. -/
def Referable.pointerAt (α : Type) [Referable α] (node : Json) : Option String :=
  match (Referable.read node : Except ReadError α) with
  | .ok a => Referable.reference? a
  | .error _ => none

/-- The pointers that a node holds, read as each thing that a reference may stand for. -/
def pointersAt (node : Json) : List String :=
  (Referable.pointerAt Schema node).toList ++ (Referable.pointerAt Parameter node).toList ++
    (Referable.pointerAt RequestBody node).toList ++ (Referable.pointerAt Response node).toList

/-- The distinct references of a document. -/
def references (root : Json) : List String :=
  (root.nodes.flatMap pointersAt).dedup

theorem nodup_references (root : Json) : (references root).Nodup :=
  List.nodup_dedup _

theorem mem_references_iff {pointer : String} :
    pointer ∈ references root ↔ ∃ node ∈ root.nodes, pointer ∈ pointersAt node := by
  rw [references, List.mem_dedup, List.mem_flatMap]

theorem pointerAt_eq_some_iff {α : Type} [Referable α] {node : Json} {pointer : String} :
    Referable.pointerAt α node = some pointer ↔
      ∃ a : α, Referable.read node = .ok a ∧ Referable.reference? a = some pointer := by
  unfold Referable.pointerAt
  cases (Referable.read node : Except ReadError α) <;> simp

/-- What may stand behind a reference holds a pointer only if its node does, as a text. -/
class Described (α : Type) [Referable α] : Prop where
  mem_pointersAt : ∀ {node pointer}, Referable.pointerAt α node = some pointer →
    pointer ∈ pointersAt node
  found_text : ∀ {root : Json} {a : α} {pointer : String}, FoundIn Referable.read root a →
    Referable.reference? a = some pointer → FoundIn text root pointer

instance : Described Schema where
  mem_pointersAt h := by simp [pointersAt, h]
  found_text h := (Schema.found_of_found h).1 _

instance : Described Parameter where
  mem_pointersAt h := by simp [pointersAt, h]
  found_text h := (Parameter.found_of_found h).1 _

instance : Described RequestBody where
  mem_pointersAt h := by simp [pointersAt, h]
  found_text h := (RequestBody.found_of_found h).1 _

instance : Described Response where
  mem_pointersAt h := by simp [pointersAt, h]
  found_text h := (Response.found_of_found h).1 _

theorem reference_mem_references {α : Type} [Referable α] [Described α] {a : α} {pointer : String}
    (h : FoundIn Referable.read root a) (hp : Referable.reference? a = some pointer) :
    pointer ∈ references root := by
  obtain ⟨node, hnode, h⟩ := h
  exact mem_references_iff.mpr
    ⟨node, hnode, Described.mem_pointersAt (pointerAt_eq_some_iff.mpr ⟨a, h, hp⟩)⟩

theorem references_subset_texts (root : Json) : references root ⊆ root.texts := by
  intro pointer hp
  obtain ⟨node, hnode, hp⟩ := mem_references_iff.mp hp
  simp only [pointersAt, List.mem_append, Option.mem_toList, pointerAt_eq_some_iff] at hp
  rcases hp with ((⟨a, ha, hp⟩ | ⟨a, ha, hp⟩) | ⟨a, ha, hp⟩) | ⟨a, ha, hp⟩ <;>
    exact (Described.found_text ⟨node, hnode, ha⟩ hp).mem_texts

/-- A document has room for one more reference than are in it. -/
theorem length_references_lt_room (root : Json) :
    (references root).length < (Document.ofJson root).room :=
  Nat.lt_succ_of_le
    ((nodup_references root).subperm (references_subset_texts root)).length_le

/-- A schema that is read in a document mentions references of the document only. -/
theorem Schema.Mentions.mem_references {s : Schema} {pointer : String}
    (hp : s.Mentions pointer) (h : FoundIn Schema.read root s) : pointer ∈ references root := by
  obtain ⟨t, ht, hp⟩ := hp
  exact reference_mem_references (found_of_reflTransGen h ht) hp

/-- What a reference designates is read in the document. -/
theorem Document.found_of_resolve {α : Type} {read : Reader α} {doc : Document} {pointer : String}
    {a : α} (h : doc.resolve read pointer = .ok a) : FoundIn read doc.root a := by
  obtain ⟨node, hnode, h⟩ := bind_eq_ok.mp h
  refine ⟨node, ?_, by grind⟩
  unfold Document.node at hnode
  simp only at hnode
  split at hnode
  · next found hfound =>
      cases hnode
      split at hfound
      · exact Json.mem_nodes_of_pointer? hfound
      · cases hfound
  · cases hnode

end ApiTypings.OpenApi
