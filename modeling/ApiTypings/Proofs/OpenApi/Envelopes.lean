import ApiTypings.Proofs.OpenApi.Built
import ApiTypings.Proofs.OpenApi.Generated

/-! # Envelopes

The aliases for the responses of an operation are all envelopes or all bodies. Which of them they
are is decided by the responses together, and each alias is otherwise that of its response alone.
-/

namespace ApiTypings.OpenApi

open TypeScript Http Outcome

/-! ## Bodies -/

/-- The first media type of a response with its content, if there is any. -/
def Response.firstContent (response : Response) : Option (String × MediaType) :=
  (response.content.getD []).head?

/-- Nothing is said of the body of a response, or its first media type is not recognised. -/
def Response.IsUnclear (status : Status) (response : Response) : Prop :=
  (response.firstContent = none ∧ status ≠ .exact 204) ∨
    ∃ mediaType content, response.firstContent = some (mediaType, content) ∧
      Content.ofMediaType mediaType = .unknown

/-- The type of the body of a response: by its first media type, if it has one. -/
inductive Document.HasBody (doc : Document) (status : Status) (response : Response) :
    TypeExpr → Prop
  | nothing (h : response.firstContent = none) (hs : status = .exact 204) :
      HasBody doc status response (.primitive .undefined)
  | anything (h : response.firstContent = none) (hs : status ≠ .exact 204) :
      HasBody doc status response .unknown
  | json {mediaType : String} {content : MediaType} {s : Schema} {type : TypeExpr}
      (h : response.firstContent = some (mediaType, content))
      (hm : Content.ofMediaType mediaType = .json) (hs : content.schema = some s)
      (ht : doc.typeOf .response s = .ok type) : HasBody doc status response type
  | jsonOfAnything {mediaType : String} {content : MediaType}
      (h : response.firstContent = some (mediaType, content))
      (hm : Content.ofMediaType mediaType = .json) (hs : content.schema = none) :
      HasBody doc status response .unknown
  | text {mediaType : String} {content : MediaType}
      (h : response.firstContent = some (mediaType, content))
      (hm : Content.ofMediaType mediaType = .text) : HasBody doc status response .string
  | binary {mediaType : String} {content : MediaType}
      (h : response.firstContent = some (mediaType, content))
      (hm : Content.ofMediaType mediaType = .binary) :
      HasBody doc status response (.named "Blob")
  | unrecognised {mediaType : String} {content : MediaType}
      (h : response.firstContent = some (mediaType, content))
      (hm : Content.ofMediaType mediaType = .unknown) : HasBody doc status response .string

/-- No type of a schema has arguments. -/
theorem building_ne_generic :
    Building (fun _ => True) fun t => ∀ name arguments, t ≠ .generic name arguments where
  child _ _ := trivial
  primitive := by simp
  literal := by simp
  date := by simp
  array := by simp
  record := by simp
  union := by simp
  intersection := by simp
  object := by simp
  pinField field value t ht := by
    cases t with
    | generic name arguments => exact absurd rfl (ht name arguments)
    | _ => simp [TypeExpr.pinField]

namespace Document

variable {doc : Document} {status : Status} {response : Response}

theorem HasBody.ne_envelope {type : TypeExpr} (h : doc.HasBody status response type)
    (body status' : TypeExpr) : type ≠ envelope body status' := by
  cases h with
  | json _ _ _ ht =>
      have hthroughout := typeOf_throughout building_ne_generic (fun _ _ => trivial) trivial ht
      exact hthroughout _ .refl _ _
  | _ => simp [envelope, TypeExpr.unknown, TypeExpr.string]

theorem typedResponse_eq_ok {r : TypedResponse} (h : doc.typedResponse status response = .ok r) :
    doc.HasBody status response r.body ∧
      (r.needsEnvelope = true ↔ response.IsUnclear status) := by
  unfold typedResponse at h
  unfold Response.IsUnclear
  split at h
  · next hfirst =>
      split at h <;> cases h
      · next hs => exact ⟨.nothing hfirst hs, by simp [Response.firstContent, hfirst, hs]⟩
      · next hs => exact ⟨.anything hfirst hs, by simp [Response.firstContent, hfirst, hs]⟩
  · next mediaType content hfirst =>
      have hunclear : response.firstContent = some (mediaType, content) := hfirst
      split at h
      · next hm =>
          split at h
          · next s hs =>
              obtain ⟨type, ht, h⟩ := bind_eq_ok.mp h
              cases h
              exact ⟨.json hfirst hm hs ht, by simp [hunclear, hm]⟩
          · next hs =>
              cases h
              exact ⟨.jsonOfAnything hfirst hm hs, by simp [hunclear, hm]⟩
      · next hm =>
          cases h
          exact ⟨.text hfirst hm, by simp [hunclear, hm]⟩
      · next hm =>
          cases h
          exact ⟨.binary hfirst hm, by simp [hunclear, hm]⟩
      · next hm =>
          cases h
          exact ⟨.unrecognised hfirst hm, by simp [hunclear, hm]⟩

end Document

/-! ## Aliases -/

/-- The alias for a response under a key, given its body. -/
def aliasOf (operation : String) (enveloped : Bool) (body : String × Response → TypeExpr)
    (entry : String × Response) : Declaration :=
  .typeAlias ((Status.ofKey entry.1).responseName operation)
    (if enveloped then envelope (body entry) (statusType (.ofKey entry.1)) else body entry)

/-- What the declarations for the responses of an operation are. -/
structure Document.Declares (doc : Document) (fullResponse : Bool) (operation : String)
    (entries : List (String × Response)) (body : String × Response → TypeExpr)
    (responses : Responses) : Prop where
  /-- The body of a response is its own, whatever else there is. -/
  hasBody : ∀ e ∈ entries, ∃ response, doc.deref e.2 = .ok response ∧
    doc.HasBody (.ofKey e.1) response (body e)
  /-- No body looks like an envelope. -/
  ne_envelope : ∀ e ∈ entries, ∀ body' status, body e ≠ envelope body' status
  enveloped_iff : responses.enveloped = true ↔
    fullResponse = true ∨
    1 < entries.countP (fun e => (Status.ofKey e.1).isSuccess) ∨
    ∃ e ∈ entries, ∃ response, doc.deref e.2 = .ok response ∧ response.IsUnclear (.ofKey e.1)
  aliases_eq : responses.aliases = entries.map (aliasOf operation responses.enveloped body)
  union_eq : entries ≠ [] →
    responses.union = .union (unionName operation) (responses.aliases.map Declaration.name)

theorem needsEnvelopes_eq_true_iff {fullResponse : Bool} {typed : List TypedResponse} :
    needsEnvelopes fullResponse typed = true ↔
      fullResponse = true ∨ 1 < typed.countP (·.status.isSuccess) ∨
        ∃ r ∈ typed, r.needsEnvelope = true := by
  simp only [needsEnvelopes, Bool.or_eq_true, List.any_eq_true, decide_eq_true_eq,
    List.countP_eq_length_filter]
  rw [or_assoc]
  exact or_congr_right or_comm

theorem needsEnvelopes_eq_of_perm {typed typed' : List TypedResponse} (h : typed.Perm typed')
    (fullResponse : Bool) :
    needsEnvelopes fullResponse typed = needsEnvelopes fullResponse typed' := by
  rw [Bool.eq_iff_iff, needsEnvelopes_eq_true_iff, needsEnvelopes_eq_true_iff, h.countP_eq]
  simp only [h.mem_iff]

/-- The declarations rest on the option for full responses only as far as the decision does. -/
theorem ofTyped_eq_of_needsEnvelopes {fullResponse fullResponse' : Bool}
    {typed : List TypedResponse}
    (h : needsEnvelopes fullResponse typed = needsEnvelopes fullResponse' typed)
    (operation : String) :
    Responses.ofTyped operation fullResponse typed =
      Responses.ofTyped operation fullResponse' typed := by
  unfold Responses.ofTyped
  rw [h]

section Typed

variable {doc : Document} {entries : List (String × Response)}
  {typed : String × Response → TypedResponse}
  (htyped : ∀ e ∈ entries, (do doc.typedResponse (.ofKey e.1) (← doc.deref e.2)) = .ok (typed e))
include htyped

theorem Document.responses_eq_ofTyped (options : Options) (operation : String) :
    doc.responses options operation entries =
      .ok (.ofTyped operation options.fullResponse (entries.map typed)) := by
  unfold responses
  rw [mapM_eq_map htyped]
  rfl

theorem Document.declares_ofTyped (fullResponse : Bool) (operation : String) :
    doc.Declares fullResponse operation entries (fun e => (typed e).body)
      (.ofTyped operation fullResponse (entries.map typed)) := by
  have hbehind : ∀ e ∈ entries, ∃ response, doc.deref e.2 = .ok response ∧
      doc.typedResponse (.ofKey e.1) response = .ok (typed e) :=
    fun e he => bind_eq_ok.mp (htyped e he)
  have hstatus : ∀ e ∈ entries, (typed e).status = .ofKey e.1 := by
    intro e he
    obtain ⟨response, -, h⟩ := hbehind e he
    exact status_of_typedResponse h
  refine ⟨?_, ?_, ?_, ?_, ?_⟩
  · intro e he
    obtain ⟨response, hresponse, h⟩ := hbehind e he
    exact ⟨response, hresponse, (typedResponse_eq_ok h).1⟩
  · intro e he
    obtain ⟨response, -, h⟩ := hbehind e he
    exact (typedResponse_eq_ok h).1.ne_envelope
  · have hsuccesses : (entries.map typed).countP (·.status.isSuccess) =
        entries.countP fun e => (Status.ofKey e.1).isSuccess := by
      rw [List.countP_map]
      exact List.countP_congr fun e he => by simp [hstatus e he]
    simp only [Responses.ofTyped]
    rw [needsEnvelopes_eq_true_iff, hsuccesses]
    simp only [List.mem_map, exists_exists_and_eq_and]
    refine or_congr_right (or_congr_right (exists_congr fun e => and_congr_right fun he => ?_))
    obtain ⟨response, hresponse, h⟩ := hbehind e he
    rw [(typedResponse_eq_ok h).2]
    simp [hresponse]
  · simp only [Responses.ofTyped, List.map_map]
    refine List.map_congr_left fun e he => ?_
    simp only [Function.comp_apply, TypedResponse.declaration, aliasOf, hstatus e he]
  · intro hne
    simp only [Responses.ofTyped]
    rw [if_neg (by simpa using hne)]
    rfl

end Typed

/-- The aliases for the responses of an operation are all envelopes or all bodies, as the responses
decide together. In another order the responses have the same aliases in that order; and where full
responses are asked for, either nothing changes or all bodies are put into envelopes. -/
theorem Document.declares_of_responses (doc : Document) (options : Options) (operation : String)
    (entries : List (String × Response)) (responses : Responses)
    (h : doc.responses options operation entries = .ok responses) :
    ∃ body, doc.Declares options.fullResponse operation entries body responses ∧
      (∀ entries', entries.Perm entries' → ∃ responses',
        doc.responses options operation entries' = .ok responses' ∧
        doc.Declares options.fullResponse operation entries' body responses' ∧
        responses'.aliases = entries'.map (aliasOf operation responses.enveloped body)) ∧
      ∃ responses',
        doc.responses { options with fullResponse := true } operation entries = .ok responses' ∧
        doc.Declares true operation entries body responses' ∧
        (responses' = responses ∨
          responses.aliases = entries.map (aliasOf operation false body) ∧
          responses'.aliases = entries.map (aliasOf operation true body)) := by
  have : Nonempty TypedResponse := ⟨{ status := .default, body := .unknown }⟩
  obtain ⟨typed', hmapM, -⟩ := bind_eq_ok.mp h
  obtain ⟨typed, htyped, -⟩ := exists_map_of_mapM hmapM
  have hresponses := responses_eq_ofTyped htyped
  obtain rfl : responses = .ofTyped operation options.fullResponse (entries.map typed) :=
    Except.ok.inj (h.symm.trans (hresponses options operation))
  have hdeclares := declares_ofTyped htyped
  refine ⟨fun e => (typed e).body, hdeclares _ _, fun entries' hperm => ?_, _,
    hresponses { options with fullResponse := true } operation, hdeclares _ _, ?_⟩
  · have htyped' := fun e he => htyped e (hperm.mem_iff.mpr he)
    have hdeclares' := declares_ofTyped htyped' options.fullResponse operation
    refine ⟨_, responses_eq_ofTyped htyped' options operation, hdeclares', ?_⟩
    rw [hdeclares'.aliases_eq]
    simp only [Responses.ofTyped, needsEnvelopes_eq_of_perm (hperm.map typed)]
  · have hfull : needsEnvelopes true (entries.map typed) = true := by simp [needsEnvelopes]
    cases henveloped : needsEnvelopes options.fullResponse (entries.map typed) with
    | true => exact .inl (ofTyped_eq_of_needsEnvelopes (hfull.trans henveloped.symm) operation)
    | false =>
        right
        refine ⟨?_, ?_⟩
        · rw [(hdeclares _ _).aliases_eq]
          simp only [Responses.ofTyped, henveloped]
        · rw [(hdeclares _ _).aliases_eq]
          simp only [Responses.ofTyped, hfull]

/-- A response of its own and one behind a reference, which need no envelopes. -/
theorem Document.declares_of_responses_of_reference :
    let doc := ofJson (.object
      [("Problem", .object [("content", .object [("text/plain", .object [])])])])
    let entries : List (String × Response) :=
      [("200", { content := some [("application/json",
          { schema := some { type := some (.one "boolean") } })] }),
       ("4XX", { reference := some "#/Problem" })]
    let responses : Responses :=
      { aliases :=
          [.typeAlias "GetResponseOK" (.primitive .boolean), .typeAlias "Get4XXResponse" .string]
        union := .union "GetResponses" ["GetResponseOK", "Get4XXResponse"]
        enveloped := false
        usesRange := false }
    doc.responses {} "Get" entries = .ok responses ∧
      ∃ body, doc.Declares false "Get" entries body responses ∧
        (∀ entries', entries.Perm entries' → ∃ responses',
          doc.responses {} "Get" entries' = .ok responses' ∧
          doc.Declares false "Get" entries' body responses' ∧
          responses'.aliases = entries'.map (aliasOf "Get" false body)) ∧
        ∃ responses', doc.responses { fullResponse := true } "Get" entries = .ok responses' ∧
          doc.Declares true "Get" entries body responses' ∧
          (responses' = responses ∨
            responses.aliases = entries.map (aliasOf "Get" false body) ∧
            responses'.aliases = entries.map (aliasOf "Get" true body)) := by
  intro doc entries responses
  have h : doc.responses {} "Get" entries = .ok responses := by rfl
  exact ⟨h, declares_of_responses doc {} "Get" entries responses h⟩

end ApiTypings.OpenApi
