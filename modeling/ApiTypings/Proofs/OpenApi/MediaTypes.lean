import ApiTypings.Proofs.OpenApi.Generated
import ApiTypings.Proofs.OpenApi.Termination
import ApiTypings.Proofs.Text.Identifier
import Mathlib.Data.List.TakeDrop

/-! # Spellings of media types

The letter case of a media type and the parameters behind it say nothing about the kind of the
content. Responses are typed accordingly, but the content of a request body is looked up by the
exact names of two media types.
-/

namespace ApiTypings.Http

/-! ## Media types -/

/-- The second media type is the first one with its letters, which are those of ASCII, in another
case, or with parameters. -/
inductive Respelling : String → String → Prop
  | case {m m' : String} (h : Text.equalIgnoringAsciiCase m m' = true) : Respelling m m'
  | parameters (m parameters : String) : Respelling m (m ++ ";" ++ parameters)
  | trans {m m' m'' : String} (h : Respelling m m') (h' : Respelling m' m'') : Respelling m m''

/-- What treats a capital letter like the small one treats every character like its lower case. -/
theorem apply_toLower {α : Type} {f : Char → α}
    (h : ∀ c : Char, c.isUpper = true → f c.toLower = f c) (c : Char) : f c.toLower = f c := by
  by_cases hc : c.isUpper = true
  · exact h c hc
  · have hlower : c.toLower = c := dif_neg fun hrange => hc (decide_eq_true hrange)
    rw [hlower]

theorem isBlank_toLower (c : Char) : Text.isBlank c.toLower = Text.isBlank c :=
  apply_toLower (fun c hc =>
    Text.of_isAlphanum (P := fun c => Text.isBlank c.toLower = Text.isBlank c) (by decide +kernel)
      (Text.isAlphanum_of_isUpper hc)) c

theorem toLower_ne_semicolon (c : Char) : decide (c.toLower ≠ ';') = decide (c ≠ ';') :=
  apply_toLower (f := fun c => decide (c ≠ ';')) (fun c hc =>
    Text.of_isAlphanum (P := fun c => decide (c.toLower ≠ ';') = decide (c ≠ ';'))
      (by decide +kernel) (Text.isAlphanum_of_isUpper hc)) c

theorem map_toLower_trim (cs : List Char) :
    (Text.trim cs).map Char.toLower = Text.trim (cs.map Char.toLower) := by
  have hblank : Text.isBlank ∘ Char.toLower = Text.isBlank := funext isBlank_toLower
  unfold Text.trim
  rw [List.dropWhile_map, ← List.map_reverse, List.dropWhile_map, ← List.map_reverse, hblank]

theorem essence_eq (m : String) :
    essence m = Text.trim ((m.toList.map Char.toLower).takeWhile (· ≠ ';')) := by
  have hsemicolon : (fun c : Char => decide (c ≠ ';')) ∘ Char.toLower =
      fun c : Char => decide (c ≠ ';') := funext toLower_ne_semicolon
  unfold essence
  rw [List.span_eq_takeWhile_dropWhile, List.takeWhile_map, hsemicolon]
  exact map_toLower_trim _

theorem takeWhile_ne_append_cons (c : Char) (cs ds : List Char) :
    (cs ++ c :: ds).takeWhile (· ≠ c) = cs.takeWhile (· ≠ c) := by
  rw [List.takeWhile_append]
  split
  · next h =>
      rw [List.takeWhile_cons_of_neg (by simp), List.append_nil]
      exact ((List.takeWhile_prefix _).eq_of_length h).symm
  · rfl

namespace Respelling

variable {m m' : String}

theorem refl (m : String) : Respelling m m :=
  .case (by simp [Text.equalIgnoringAsciiCase])

theorem essence_eq (h : Respelling m m') : essence m = essence m' := by
  induction h with
  | case h =>
      have hlower := String.ofList_injective (eq_of_beq h)
      rw [Http.essence_eq, Http.essence_eq, hlower]
  | parameters m parameters =>
      have hessence : (m ++ ";" ++ parameters).toList.takeWhile (· ≠ ';') =
          m.toList.takeWhile (· ≠ ';') := by
        rw [String.toList_append, String.toList_append, List.append_assoc]
        exact takeWhile_ne_append_cons ';' m.toList parameters.toList
      unfold essence
      simp only [List.span_eq_takeWhile_dropWhile, hessence]
  | trans _ _ ih ih' => exact ih.trans ih'

/-- However a media type is spelled, a client decodes its content in the same way. -/
theorem ofMediaType_eq (h : Respelling m m') : Content.ofMediaType m = Content.ofMediaType m' := by
  unfold Content.ofMediaType
  rw [h.essence_eq]

end Respelling

end ApiTypings.Http

namespace ApiTypings.OpenApi

open Http Outcome Reader

/-! ## Content under other keys -/

/-- The media types by which the content of a request body is looked up. -/
def bodyMediaTypes : List String :=
  ["multipart/form-data", "application/json"]

/-- Content is looked up under one of two keys exactly where it is under the other one. -/
def SameLookups (key key' : String) : Prop :=
  ∀ name ∈ bodyMediaTypes, key = name ↔ key' = name

instance (key key' : String) : Decidable (SameLookups key key') :=
  inferInstanceAs (Decidable (∀ name ∈ bodyMediaTypes, key = name ↔ key' = name))

/-- The same content in the same order, under related keys. -/
def Rekeyed (keys : String → String → Prop) (content content' : List (String × MediaType)) : Prop :=
  List.Forall₂ (fun m m' => keys m.1 m'.1 ∧ m.2 = m'.2) content content'

/-- Request bodies that differ in the keys of their content only. -/
structure RequestBody.Rekeyed (keys : String → String → Prop) (b b' : RequestBody) : Prop where
  required_eq : b.required = b'.required
  content : Option.Rel (OpenApi.Rekeyed keys) b.content b'.content

/-- Responses that differ in the spelling of the keys of their content only. -/
def Response.Respelled (r r' : Response) : Prop :=
  Option.Rel (Rekeyed Respelling) r.content r'.content

theorem Rekeyed.lookup_eq {keys : String → String → Prop}
    (hkeys : ∀ key key', keys key key' → SameLookups key key')
    {content content' : List (String × MediaType)} (h : Rekeyed keys content content')
    {name : String} (hname : name ∈ bodyMediaTypes) :
    content.lookup name = content'.lookup name := by
  induction h with
  | nil => rfl
  | @cons m m' content content' hm _ ih =>
      obtain ⟨hkey, hm⟩ := hm
      have hbeq : (name == m.1) = (name == m'.1) := by
        rw [Bool.eq_iff_iff, beq_iff_eq, beq_iff_eq, eq_comm, hkeys _ _ hkey name hname, eq_comm]
      rw [List.lookup_cons, List.lookup_cons, hbeq, hm, ih]

namespace Document

variable (doc : Document)

theorem contentBody_rekeyed {keys : String → String → Prop}
    (hkeys : ∀ key key', keys key key' → SameLookups key key') {b b' : RequestBody}
    (h : b.Rekeyed keys b') (operation : String) :
    doc.contentBody operation b = doc.contentBody operation b' := by
  obtain ⟨hrequired, hcontent⟩ := h
  unfold contentBody
  rw [hrequired]
  generalize b.content = content, b'.content = content' at hcontent ⊢
  cases hcontent with
  | none => rfl
  | @some content content' hcontent =>
      have hform : content.lookup "multipart/form-data" = content'.lookup "multipart/form-data" :=
        hcontent.lookup_eq hkeys (by simp [bodyMediaTypes])
      have hjson : content.lookup "application/json" = content'.lookup "application/json" :=
        hcontent.lookup_eq hkeys (by simp [bodyMediaTypes])
      simp only [hform, hjson]

theorem typedResponse_respelled {r r' : Response} (h : r.Respelled r') (status : Status) :
    doc.typedResponse status r = doc.typedResponse status r' := by
  unfold Response.Respelled at h
  unfold typedResponse
  generalize r.content = content, r'.content = content' at h ⊢
  cases h with
  | none => rfl
  | some hcontent =>
      cases hcontent with
      | nil => rfl
      | cons hm _ =>
          obtain ⟨hkey, hm⟩ := hm
          simp only [Option.getD_some, List.head?_cons, hkey.ofMediaType_eq, hm]

end Document

/-! ## Documents under other keys -/

/-- The references of a document designate the same schemas and parameters in another one, which
has the same texts. -/
structure SameTargets (root root' : Json) : Prop where
  texts_eq : root.texts = root'.texts
  schema_eq : ∀ pointer ∈ references root,
    (Document.ofJson root).resolve Schema.read pointer =
      (Document.ofJson root').resolve Schema.read pointer
  parameter_eq : ∀ pointer ∈ references root,
    (Document.ofJson root).resolve Parameter.read pointer =
      (Document.ofJson root').resolve Parameter.read pointer

theorem SameTargets.sameTypes {root root' : Json} (h : SameTargets root root') :
    SameTypes (.ofJson root) (.ofJson root') := by
  have hroom := Nat.le_of_lt (length_references_lt_room root)
  have hroom' : (references root).length ≤ (Document.ofJson root').room := by
    simpa only [Document.ofJson, h.texts_eq] using hroom
  exact
    { typeOf_eq := Document.typeOf_congr_of_resolve h.schema_eq hroom hroom'
      deref_schema_eq := Document.deref_congr_of_resolve h.schema_eq hroom hroom'
      deref_parameter_eq := Document.deref_congr_of_resolve h.parameter_eq hroom hroom' }

/-- An operation of a document is the same in another one, but for the keys of content. Behind any
references, request bodies have related keys and responses have respelled ones. -/
structure NamedOperation.Rekeyed (bodyKeys : String → String → Prop) (root root' : Json)
    (n n' : NamedOperation) : Prop where
  found : n.FoundParts root
  targets : SameTargets root root'
  name_eq : n.name = n'.name
  shared_eq : n.shared = n'.shared
  parameters_eq : n.operation.parameters = n'.operation.parameters
  requestBody : Option.Rel
    (fun b b' => InStep (RequestBody.Rekeyed bodyKeys) ((Document.ofJson root).deref b)
      ((Document.ofJson root').deref b'))
    n.operation.requestBody n'.operation.requestBody
  responses : List.Forall₂
    (fun r r' => r.1 = r'.1 ∧ InStep Response.Respelled ((Document.ofJson root).deref r.2)
      ((Document.ofJson root').deref r'.2))
    n.responses n'.responses

namespace NamedOperation.Rekeyed

variable {bodyKeys : String → String → Prop} {root root' : Json} {n n' : NamedOperation}
  (h : n.Rekeyed bodyKeys root root' n')
include h

theorem responses_eq (options : Options) :
    (Document.ofJson root).responses options n.name n.responses =
      (Document.ofJson root').responses options n'.name n'.responses := by
  have hresponses := (List.forall₂_and_left _ _).mpr ⟨h.found.2.1, h.responses⟩
  unfold Document.responses
  rw [h.name_eq]
  refine bind_congr_of_ok (mapM_congr_of_forall₂ hresponses ?_) fun _ _ => rfl
  rintro ⟨key, r⟩ ⟨key', r'⟩ ⟨hfound, hkey, hderef⟩
  obtain rfl : key = key' := hkey
  refine (hderef.bind fun target target' htarget _ hrespelled => ?_).eq
  rw [h.targets.sameTypes.typedResponse_eq (Document.found_of_deref htarget hfound),
    Document.typedResponse_respelled _ hrespelled]
  exact .refl fun _ _ => rfl

/-- The content that is looked up is the same. -/
theorem body?_eq (hkeys : ∀ key key', bodyKeys key key' → SameLookups key key')
    {parameter : Option Parameter}
    (hparameter : ∀ p, parameter = some p → FoundIn Parameter.read root p) :
    (Document.ofJson root).body? n.name n.operation.requestBody parameter =
      (Document.ofJson root').body? n.name n'.operation.requestBody parameter := by
  have htypes := h.targets.sameTypes
  have hfound := h.found.1.2.1
  have hbodies := h.requestBody
  generalize n.operation.requestBody = body, n'.operation.requestBody = body' at hfound hbodies ⊢
  cases hbodies with
  | none => exact htypes.body?_none_eq hparameter
  | @some b b' hderef =>
      rw [Document.body?_some, Document.body?_some]
      refine (hderef.bind fun target target' htarget _ hrekeyed => ?_).eq
      rw [htypes.contentBody_eq (Document.found_of_deref htarget (hfound b rfl)),
        Document.contentBody_rekeyed _ hkeys hrekeyed]
      exact .refl fun _ _ => rfl

theorem request_eq (hkeys : ∀ key key', bodyKeys key key' → SameLookups key key')
    (options : Options) :
    (Document.ofJson root).request options n.name n.operation n.shared =
      (Document.ofJson root').request options n'.name n'.operation n'.shared := by
  rw [← h.name_eq, ← h.shared_eq]
  exact h.targets.sameTypes.request_eq h.found.1 h.found.2.2 h.parameters_eq
    fun _ hparameter => h.body?_eq hkeys hparameter

end NamedOperation.Rekeyed

/-! ## Bodies of one media type -/

/-- An operation whose body has content of one media type, of which nothing is known. -/
def operationUnder (key : String) : NamedOperation where
  name := "AddPet"
  operation := { requestBody := some { content := some [(key, { schema := some {} })] } }
  responses := []
  shared := []

/-- The document with the body of that operation. -/
def documentUnder (key : String) : Json :=
  .object [("content", .object [(key, .object [("schema", .object [])])])]

theorem not_mem_references_documentUnder (key pointer : String) :
    pointer ∉ references (documentUnder key) := by
  intro hp
  have htexts : (documentUnder key).texts = [] := by rfl
  have := references_subset_texts _ hp
  rw [htexts] at this
  cases this

theorem rekeyed_operationUnder {bodyKeys : String → String → Prop} {key key' : String}
    (h : bodyKeys key key') : (operationUnder key).Rekeyed bodyKeys (documentUnder key)
      (documentUnder key') (operationUnder key') where
  found := by
    refine ⟨⟨by simp [operationUnder], ?_, by simp [operationUnder]⟩, by simp [operationUnder],
      by simp [operationUnder]⟩
    intro b hb
    cases hb
    exact ⟨documentUnder key, Json.self_mem_nodes _, rfl⟩
  targets := by
    -- Without texts in the documents there is no reference that could designate something else.
    refine ⟨rfl, fun pointer hp => ?_, fun pointer hp => ?_⟩ <;>
      exact absurd hp (not_mem_references_documentUnder key pointer)
  name_eq := rfl
  shared_eq := rfl
  parameters_eq := rfl
  requestBody := .some (.ok ⟨rfl, .some (.cons ⟨h, rfl⟩ .nil)⟩)
  responses := .nil

/-- The request of that operation. -/
def requestUnder (key : String) : Except GenerationError (Option Request × List Shadowing) :=
  (Document.ofJson (documentUnder key)).request {} "AddPet" (operationUnder key).operation []

theorem requestUnder_form : requestUnder "multipart/form-data" = .ok
    (some { declaration := .interface "AddPetRequest"
              { properties := [{ name := "body", type := formType, optional := true }] }
            optional := true
            layout := .flat }, []) := by
  rfl

theorem requestUnder_json : requestUnder "application/json" = .ok
    (some { declaration := .typeAlias "AddPetRequest" .unknown
            optional := true
            layout := .flat }, []) := by
  rfl

theorem requestUnder_of_not_mem {key : String} (hkey : key ∉ bodyMediaTypes) :
    requestUnder key = .ok (none, []) := by
  have hlookup : ∀ name ∈ bodyMediaTypes,
      List.lookup name [(key, ({ schema := some {} } : MediaType))] = none := by
    intro name hname
    have hne : (name == key) = false := beq_false_of_ne fun h => hkey (h ▸ hname)
    rw [List.lookup_cons, hne]
    rfl
  have hbody : (Document.ofJson (documentUnder key)).body? "AddPet"
      (operationUnder key).operation.requestBody none = .ok none := by
    refine (Document.body?_some ..).trans ?_
    rw [Document.deref_of_reference_eq_none rfl]
    simp only [bind, Except.bind, Document.contentBody, hlookup _ List.mem_cons_self,
      hlookup _ (List.mem_cons_of_mem _ List.mem_cons_self)]
    rfl
  exact Document.request_eq_ok.mpr ⟨[], [], none, ⟨rfl, rfl, hbody⟩, rfl⟩

/-- The request tells under which of the two media types the content is, if it is under one. -/
theorem eq_of_requestUnder_eq {key name : String} (hname : name ∈ bodyMediaTypes)
    (h : requestUnder key = requestUnder name) : key = name := by
  by_cases hkey : key ∈ bodyMediaTypes
  · simp only [bodyMediaTypes, List.mem_cons, List.not_mem_nil, or_false] at hkey hname
    rcases hkey with rfl | rfl <;> rcases hname with rfl | rfl
    · rfl
    · rw [requestUnder_form, requestUnder_json] at h
      cases h
    · rw [requestUnder_form, requestUnder_json] at h
      cases h
    · rfl
  · simp only [bodyMediaTypes, List.mem_cons, List.not_mem_nil, or_false] at hname
    rw [requestUnder_of_not_mem hkey] at h
    rcases hname with rfl | rfl
    · rw [requestUnder_form] at h
      cases h
    · rw [requestUnder_json] at h
      cases h

theorem sameLookups_of_requestUnder_eq {key key' : String}
    (h : requestUnder key = requestUnder key') : SameLookups key key' := by
  intro name hname
  constructor
  · rintro rfl
    exact eq_of_requestUnder_eq hname h.symm
  · rintro rfl
    exact eq_of_requestUnder_eq hname h

/-! ## Requests and responses under other keys -/

/-- However the keys of content are spelled, an operation has the same responses. It has the same
request too, whatever operation it is, exactly if the keys of request bodies change in such a way
that content is looked up where it was before. -/
theorem request_responses_of_rekeyed (bodyKeys : String → String → Prop) :
    (∀ root root' n n', NamedOperation.Rekeyed bodyKeys root root' n n' → ∀ options,
      (Document.ofJson root).responses options n.name n.responses =
        (Document.ofJson root').responses options n'.name n'.responses) ∧
    ((∀ root root' n n', NamedOperation.Rekeyed bodyKeys root root' n n' → ∀ options,
      (Document.ofJson root).request options n.name n.operation n.shared =
        (Document.ofJson root').request options n'.name n'.operation n'.shared) ↔
      ∀ key key', bodyKeys key key' → SameLookups key key') := by
  refine ⟨fun _ _ _ _ h => h.responses_eq, fun h key key' hkey => ?_,
    fun hkeys _ _ _ _ h => h.request_eq hkeys⟩
  exact sameLookups_of_requestUnder_eq (h _ _ _ _ (rekeyed_operationUnder hkey) {})

/-- A body and a response behind references, under keys in another case and with parameters. -/
theorem request_responses_of_respelled_components :
    let root : Json := .object
      [("requestBody", .object [("$ref", .text "#/note")]),
       ("responses", .object [("200", .object [("$ref", .text "#/pet")])]),
       ("note", .object [("content", .object
         [("text/plain", .object []),
          ("application/json", .object [("schema", .object [("type", .text "string")])])])]),
       ("pet", .object [("content", .object
         [("application/json", .object [("schema", .object [("type", .text "string")])])])])]
    let root' : Json := .object
      [("requestBody", .object [("$ref", .text "#/note")]),
       ("responses", .object [("200", .object [("$ref", .text "#/pet")])]),
       ("note", .object [("content", .object
         [("Text/Plain; charset=utf-8", .object []),
          ("application/json", .object [("schema", .object [("type", .text "string")])])])]),
       ("pet", .object [("content", .object
         [("Application/JSON; charset=utf-8", .object
           [("schema", .object [("type", .text "string")])])])])]
    let responses : List (String × Response) := [("200", { reference := some "#/pet" })]
    let operation : Operation :=
      { requestBody := some { reference := some "#/note" }
        responses := some responses }
    (Document.ofJson root).responses {} "AddPet" responses =
        (Document.ofJson root').responses {} "AddPet" responses ∧
      (Document.ofJson root).request {} "AddPet" operation [] =
        (Document.ofJson root').request {} "AddPet" operation [] ∧
      (Document.ofJson root').request {} "AddPet" operation [] = .ok
        (some { declaration := .typeAlias "AddPetRequest" .string
                optional := true
                layout := .flat }, []) := by
  intro root root' responses operation
  let bodyKeys (key key' : String) : Prop := Respelling key key' ∧ SameLookups key key'
  have htext : Respelling "text/plain" "Text/Plain; charset=utf-8" := by
    have hcase : Respelling "text/plain" "Text/Plain" := .case (by decide)
    exact hcase.trans (.parameters "Text/Plain" " charset=utf-8")
  have hjson : Respelling "application/json" "Application/JSON; charset=utf-8" := by
    have hcase : Respelling "application/json" "Application/JSON" := .case (by decide)
    exact hcase.trans (.parameters "Application/JSON" " charset=utf-8")
  let n : NamedOperation := { name := "AddPet", operation, responses, shared := [] }
  have hfound : operation.FoundParts root :=
    Operation.foundParts_of_found ⟨root, Json.self_mem_nodes root, by rfl⟩
  have htargets : ∀ pointer ∈ references root,
      (Document.ofJson root).resolve Schema.read pointer =
          (Document.ofJson root').resolve Schema.read pointer ∧
        (Document.ofJson root).resolve Parameter.read pointer =
          (Document.ofJson root').resolve Parameter.read pointer := by
    intro pointer hp
    have hp : pointer ∈ ["#/note", "#/pet", "string", "string"] := references_subset_texts root hp
    simp only [List.mem_cons, List.not_mem_nil, or_false] at hp
    rcases hp with rfl | rfl | rfl | rfl <;> exact ⟨rfl, rfl⟩
  have hrekeyed : n.Rekeyed bodyKeys root root' n :=
    { found := ⟨hfound, hfound.2.2 responses rfl, by simp [n]⟩
      targets := ⟨rfl, fun p hp => (htargets p hp).1, fun p hp => (htargets p hp).2⟩
      name_eq := rfl
      shared_eq := rfl
      parameters_eq := rfl
      requestBody := .some (.ok ⟨rfl, .some
        (.cons ⟨⟨htext, by decide⟩, rfl⟩ (.cons ⟨⟨.refl _, fun _ _ => .rfl⟩, rfl⟩ .nil))⟩)
      responses := .cons ⟨rfl, .ok (.some (.cons ⟨hjson, rfl⟩ .nil))⟩ .nil }
  obtain ⟨hresponses, hrequest⟩ := request_responses_of_rekeyed bodyKeys
  exact ⟨hresponses root root' n n hrekeyed {},
    hrequest.mpr (fun _ _ h => h.2) root root' n n hrekeyed {}, by rfl⟩

/-- A request body is passed over as soon as its media type has a parameter, or letters in another
case. -/
theorem exists_respelled_without_request :
    let key := "application/json"
    let key' := "application/json; charset=utf-8"
    (operationUnder key).Rekeyed Respelling (documentUnder key) (documentUnder key')
        (operationUnder key') ∧
      requestUnder key = .ok
        (some { declaration := .typeAlias "AddPetRequest" .unknown
                optional := true
                layout := .flat }, []) ∧
      requestUnder key' = .ok (none, []) ∧
      Respelling key "Application/JSON" ∧ requestUnder "Application/JSON" = .ok (none, []) := by
  intro key key'
  have hparameters : Respelling key key' := .parameters key " charset=utf-8"
  exact ⟨rekeyed_operationUnder hparameters, requestUnder_json,
    requestUnder_of_not_mem (by decide), .case (by decide), requestUnder_of_not_mem (by decide)⟩

end ApiTypings.OpenApi
