import ApiTypings.Proofs.OpenApi.Generated
import ApiTypings.Proofs.OpenApi.Room

/-! # Two spellings of parameters

The values of a parameter are described by keywords of the parameter itself or by a schema, and the
body of an operation by one of its parameters or by a request body. Which spelling a description
uses makes no difference to the request.
-/

namespace ApiTypings.OpenApi

open TypeScript Outcome Reader

/-! ## Parameters -/

namespace Parameter

/-- The parameter with a schema for its type, format, items and enumerated values, if it has a type
and no schema. A parameter for the body is described by its schema alone. -/
def withSchema? (p : Parameter) : Option Parameter :=
  match p.schema, p.type with
  | none, some type =>
      if p.location = .body then none
      else
        some { name := p.name
               location := p.location
               required := p.required
               schema := some
                 { type := some type, format := p.format, items := p.items, enum := p.enum } }
  | _, _ => none

/-- The parameter with a schema, or as it is if there is nothing to make a schema of. -/
def respelled (p : Parameter) : Parameter :=
  p.withSchema?.getD p

theorem withSchema?_eq_some {p q : Parameter} (h : p.withSchema? = some q) :
    p.location ≠ .body ∧ ∃ type, p.schema = none ∧ p.type = some type ∧
      q = { name := p.name
            location := p.location
            required := p.required
            schema := some
              { type := some type, format := p.format, items := p.items, enum := p.enum } } := by
  unfold withSchema? at h
  split at h
  · next type hschema htype =>
      split at h
      · cases h
      · next hbody =>
          cases h
          exact ⟨hbody, type, hschema, htype, rfl⟩
  · cases h

/-- A parameter is left as it is, or has its name, place and flag with a schema. -/
theorem respelled_cases (p : Parameter) :
    p.respelled = p ∨ p.location ≠ .body ∧ ∃ type, p.schema = none ∧ p.type = some type ∧
      p.respelled =
        { name := p.name
          location := p.location
          required := p.required
          schema := some
            { type := some type, format := p.format, items := p.items, enum := p.enum } } := by
  unfold respelled
  cases hwith : p.withSchema? with
  | none => exact .inl rfl
  | some q => exact .inr (withSchema?_eq_some hwith)

@[simp] theorem name_respelled (p : Parameter) : p.respelled.name = p.name := by
  rcases p.respelled_cases with h | ⟨-, type, -, -, h⟩ <;> rw [h]

@[simp] theorem location_respelled (p : Parameter) : p.respelled.location = p.location := by
  rcases p.respelled_cases with h | ⟨-, type, -, -, h⟩ <;> rw [h]

@[simp] theorem required_respelled (p : Parameter) : p.respelled.required = p.required := by
  rcases p.respelled_cases with h | ⟨-, type, -, -, h⟩ <;> rw [h]

theorem respelled_of_body {p : Parameter} (hbody : p.location = .body) : p.respelled = p :=
  p.respelled_cases.resolve_right fun h => h.1 hbody

/-- The schema is wrapped, and a schema that wraps another one has the type of that. -/
theorem typeWith_valueSchema_respelled (direction : Direction)
    (expand : String → Except GenerationError TypeExpr) (p : Parameter) :
    p.respelled.valueSchema.typeWith direction expand =
      p.valueSchema.typeWith direction expand := by
  rcases p.respelled_cases with h | ⟨-, type, hschema, htype, h⟩
  · rw [h]
  · rw [h]
    simp only [valueSchema, hschema, htype]
    rw [Schema.typeWith]
    rfl

end Parameter

namespace Document

variable {doc : Document} {options : Options}

theorem partProperty?_respelled (p : Parameter) :
    doc.partProperty? options p.respelled = doc.partProperty? options p := by
  have htype : doc.typeOf .request p.respelled.valueSchema = doc.typeOf .request p.valueSchema :=
    p.typeWith_valueSchema_respelled _ _
  simp only [partProperty?, htype, Parameter.isOptional, Parameter.name_respelled,
    Parameter.location_respelled, Parameter.required_respelled]

/-- The parameter behind any references with a schema, or the parameter as it is. -/
def respelled (doc : Document) (p : Parameter) : Parameter :=
  match doc.deref p with
  | .ok q => q.withSchema?.getD p
  | .error _ => p

theorem deref_respelled (p : Parameter) :
    doc.deref (doc.respelled p) = Parameter.respelled <$> doc.deref p := by
  unfold respelled
  cases hq : doc.deref p with
  | error e => exact hq
  | ok q =>
      refine Eq.trans ?_ (map_eq_ok.mpr ⟨q, rfl, rfl⟩).symm
      cases hwith : q.withSchema? with
      | none =>
          simp only [Option.getD_none, hq, Parameter.respelled, hwith]
      | some r =>
          obtain ⟨-, type, -, -, rfl⟩ := Parameter.withSchema?_eq_some hwith
          simp only [Option.getD_some, Parameter.respelled, hwith]
          exact deref_of_reference_eq_none rfl

/-! ## Lists of parameters -/

section Lists

variable (keep : Location → Bool)

/-- The second list has the parameters of the first one at certain locations, respelled. -/
def RespelledAt (parameters parameters' : List Parameter) : Prop :=
  parameters'.filter (keep ·.location) =
    (parameters.filter (keep ·.location)).map Parameter.respelled

/-- Respelled parameters have the same names and locations, so the same ones are there already. -/
theorem any_eq_of_respelledAt {ps ps' : List Parameter} (h : RespelledAt keep ps ps')
    {q : Parameter} (hq : keep q.location = true) :
    (ps'.any fun p => p.name = q.name ∧ p.location = q.location) =
      ps.any fun p => p.name = q.name ∧ p.location = q.location := by
  have hany (ps : List Parameter) : (ps.any fun p => p.name = q.name ∧ p.location = q.location) =
      (ps.filter (keep ·.location)).any fun p => p.name = q.name ∧ p.location = q.location := by
    rw [List.any_filter]
    refine List.any_congr rfl fun p => ?_
    by_cases hlocation : p.location = q.location <;> simp [hlocation, hq]
  rw [hany ps, hany ps', h, List.any_map]
  refine List.any_congr rfl fun p => ?_
  simp

theorem respelledAt_addParameter {ps ps' : List Parameter} (h : RespelledAt keep ps ps')
    (q : Parameter) :
    RespelledAt keep (addParameter ps q) (addParameter ps' q.respelled) := by
  by_cases hq : keep q.location = true
  · unfold addParameter
    simp only [Parameter.name_respelled, Parameter.location_respelled,
      any_eq_of_respelledAt keep h hq]
    split
    · exact h
    · unfold RespelledAt at h ⊢
      simp [h, hq]
  · have hadd (ps : List Parameter) (p : Parameter) (hp : keep p.location = false) :
        (addParameter ps p).filter (keep ·.location) = ps.filter (keep ·.location) := by
      unfold addParameter
      split
      · rfl
      · simp [hp]
    rw [Bool.not_eq_true] at hq
    rw [RespelledAt, hadd ps q hq, hadd ps' q.respelled (by simpa using hq), h]

theorem foldlM_addParameter_inStep (shared : List Parameter) {ps ps' : List Parameter}
    (h : RespelledAt keep ps ps') :
    InStep (RespelledAt keep)
      (shared.foldlM (fun ps p => do return addParameter ps (← doc.deref p)) ps)
      ((shared.map doc.respelled).foldlM (fun ps p => do return addParameter ps (← doc.deref p))
        ps') := by
  induction shared generalizing ps ps' with
  | nil => exact .ok h
  | cons p shared ih =>
      rw [List.map_cons, List.foldlM_cons, List.foldlM_cons, deref_respelled]
      cases doc.deref p with
      | error e => exact .error e
      | ok q => exact ih (respelledAt_addParameter keep h q)

/-- Whether a parameter is at one of the locations, behind any references. One that is nowhere stays
where it is. -/
def isAt (doc : Document) (p : Parameter) : Bool :=
  match doc.deref p with
  | .ok q => keep q.location
  | .error _ => true

theorem mapM_deref_inStep (own : List Parameter) :
    InStep (RespelledAt keep) (own.mapM doc.deref)
      (((own.filter (doc.isAt keep)).map doc.respelled).mapM doc.deref) := by
  induction own with
  | nil => exact .ok rfl
  | cons p own ih =>
      rw [List.filter_cons, List.mapM_cons, isAt]
      cases hq : doc.deref p with
      | error e =>
          simp only [if_true, List.map_cons, List.mapM_cons, deref_respelled, hq]
          exact .error e
      | ok q =>
          by_cases hkeep : keep q.location = true
          · simp only [hkeep, if_true, List.map_cons, List.mapM_cons, deref_respelled, hq]
            refine ih.map (f := (q :: ·)) (g := (q.respelled :: ·)) fun ps ps' h => ?_
            unfold RespelledAt at h ⊢
            simp [h, hkeep]
          · have hdropped := ih.map (f := (q :: ·)) (g := id) (S := RespelledAt keep)
              fun ps ps' h => by
                unfold RespelledAt at h ⊢
                simp [h, hkeep]
            rw [id_map] at hdropped
            simp only [hkeep]
            exact hdropped

/-- With the parameters at some locations respelled and the others left out, an operation has the
parameters at these locations, respelled. -/
theorem parameters_inStep (own shared : List Parameter) :
    InStep (RespelledAt keep) (doc.parameters own shared)
      (doc.parameters ((own.filter (doc.isAt keep)).map doc.respelled)
        (shared.map doc.respelled)) :=
  (mapM_deref_inStep keep own).bind fun _ _ _ _ h => foldlM_addParameter_inStep keep shared h

end Lists

/-! ## Properties and bodies -/

theorem partProperties_map_respelled (ps : List Parameter) :
    doc.partProperties options (ps.map Parameter.respelled) = doc.partProperties options ps := by
  induction ps with
  | nil => rfl
  | cons p ps ih =>
      unfold partProperties at ih ⊢
      rw [List.map_cons, List.filterMapM_cons, List.filterMapM_cons, partProperty?_respelled, ih]

/-- Parameters for the body have no properties. -/
theorem partProperties_filter (ps : List Parameter) :
    doc.partProperties options (ps.filter (·.location ≠ .body)) =
      doc.partProperties options ps := by
  induction ps with
  | nil => rfl
  | cons p ps ih =>
      unfold partProperties at ih ⊢
      by_cases hbody : p.location = .body
      · have hnone : doc.partProperty? options p = .ok none := by
          unfold partProperty?
          rw [hbody]
          rfl
        rw [List.filter_cons_of_neg (by simp [hbody]), List.filterMapM_cons, hnone, ih]
        rfl
      · rw [List.filter_cons_of_pos (by simp [hbody]), List.filterMapM_cons,
          List.filterMapM_cons, ih]

theorem partProperties_of_respelledAt {ps ps' : List Parameter}
    (h : RespelledAt (· ≠ .body) ps ps') :
    doc.partProperties options ps' = doc.partProperties options ps := by
  rw [← partProperties_filter ps', h, partProperties_map_respelled, partProperties_filter]

end Document

/-- The request body for a parameter for the body. -/
def Parameter.asBody? (p : Parameter) : Option RequestBody :=
  if p.location = .body then
    some { required := p.required
           content := some [("application/json", { schema := p.schema })] }
  else
    none

namespace Document

variable {doc : Document} {options : Options}

/-- The request body for the parameter behind any references, if that is for the body. -/
def bodyBehind? (doc : Document) (p : Parameter) : Option RequestBody :=
  match doc.deref p with
  | .ok q => q.asBody?
  | .error _ => none

theorem body?_of_asBody? {operation : String} {p : Parameter} {body : RequestBody}
    (h : p.asBody? = some body) (parameter : Option Parameter) :
    doc.body? operation (some body) parameter = doc.body? operation none (some p) := by
  unfold Parameter.asBody? at h
  split at h <;> cases h
  unfold body?
  simp only
  rw [deref_of_reference_eq_none rfl]
  cases p.schema <;> rfl

theorem isAt_ne_body (p : Parameter) :
    doc.isAt (· ≠ .body) p = (doc.bodyBehind? p).isNone := by
  unfold isAt bodyBehind?
  cases doc.deref p with
  | error e => rfl
  | ok q => by_cases hbody : q.location = .body <;> simp [Parameter.asBody?, hbody]

theorem find?_body_of_findSome? {own own' : List Parameter} {body : RequestBody}
    (h : List.Forall₂ (fun p q => doc.deref p = .ok q) own own')
    (hbody : own.findSome? doc.bodyBehind? = some body) :
    ∃ p, own'.find? (·.location = .body) = some p ∧ p.asBody? = some body := by
  induction h with
  | nil => cases hbody
  | @cons p q own own' hq _ ih =>
      rw [List.findSome?_cons, bodyBehind?, hq] at hbody
      by_cases hlocation : q.location = .body
      · rw [List.find?_cons_of_pos (by simpa using hlocation)]
        exact ⟨q, rfl, by simpa [Parameter.asBody?, hlocation] using hbody⟩
      · rw [List.find?_cons_of_neg (by simpa using hlocation)]
        exact ih (by simpa [Parameter.asBody?, hlocation] using hbody)

/-- Of its own and the shared parameters for the body, an operation has its own first one. -/
theorem find?_body_of_parameters {own shared ps : List Parameter} {body : RequestBody}
    (h : doc.parameters own shared = .ok ps) (hbody : own.findSome? doc.bodyBehind? = some body) :
    ∃ p, ps.find? (·.location = .body) = some p ∧ p.asBody? = some body := by
  obtain ⟨own', hown', hshared⟩ := bind_eq_ok.mp h
  refine foldlM_preserves (P := fun ps =>
    ∃ p, ps.find? (·.location = .body) = some p ∧ p.asBody? = some body) hshared
    (find?_body_of_findSome? (mapM_eq_ok.mp hown') hbody) ?_
  rintro p - ps ps' ⟨q, hfind, hq⟩ hadd
  obtain ⟨r, -, hadd⟩ := bind_eq_ok.mp hadd
  cases hadd
  refine ⟨q, ?_, hq⟩
  unfold addParameter
  split
  · exact hfind
  · rw [List.find?_append, hfind]
    rfl

theorem find?_body_map_respelled (ps : List Parameter) :
    (ps.map Parameter.respelled).find? (·.location = .body) = ps.find? (·.location = .body) := by
  induction ps with
  | nil => rfl
  | cons p ps ih =>
      by_cases hbody : p.location = .body
      · simp [hbody, Parameter.respelled_of_body]
      · simpa [hbody] using ih

/-! ## Operations -/

/-- The operation with schemas for the values of its parameters, and with a request body in place of
a parameter for the body. -/
def respelledOperation (doc : Document) (o : Operation) : Operation :=
  { o with
    parameters := o.parameters.map fun ps =>
      (ps.filter fun p => (doc.bodyBehind? p).isNone).map doc.respelled
    requestBody := o.requestBody.or ((o.parameters.getD []).findSome? doc.bodyBehind?) }

/-- The parameters are respelled where they have properties, and with the body that is taken from
them the request has the same body. -/
theorem parameters_respelled (name : String) (requestBody : Option RequestBody)
    (own shared : List Parameter) :
    InStep (fun ps ps' => RespelledAt (· ≠ .body) ps ps' ∧
        doc.body? name (requestBody.or (own.findSome? doc.bodyBehind?))
            (ps'.find? (·.location = .body)) =
          doc.body? name requestBody (ps.find? (·.location = .body)))
      (doc.parameters own shared)
      (doc.parameters ((own.filter (doc.isAt (· ≠ .body))).map doc.respelled)
        (shared.map doc.respelled)) := by
  cases hbody : own.findSome? doc.bodyBehind? with
  | none =>
      -- No parameter is left out, so those for the body are the same as well.
      have hown : own.filter (doc.isAt (· ≠ .body)) = own.filter (doc.isAt fun _ => true) := by
        refine List.filter_congr fun p hp => ?_
        have hnone : doc.bodyBehind? p = none := List.findSome?_eq_none_iff.mp hbody p hp
        rw [isAt_ne_body, hnone, isAt]
        cases doc.deref p <;> rfl
      rw [hown, Option.or_none]
      refine (parameters_inStep (fun _ => true) own shared).imp fun ps ps' h => ?_
      obtain rfl : ps' = ps.map Parameter.respelled := by simpa [RespelledAt] using h
      exact ⟨by simp [RespelledAt, List.filter_map, Function.comp_def],
        by rw [find?_body_map_respelled]⟩
  | some body =>
      refine (parameters_inStep (· ≠ .body) own shared).and_ok.imp fun ps ps' h => ?_
      obtain ⟨hps, hrespelled⟩ := h
      refine ⟨hrespelled, ?_⟩
      cases requestBody with
      | some requestBody => rfl
      | none =>
          obtain ⟨p, hfind, hp⟩ := find?_body_of_parameters hps hbody
          rw [hfind, Option.none_or, body?_of_asBody? hp]

/-- Both spellings lead to the same request or to the same error: for any operation, giving schemas
to the values of its own and the shared parameters and a request body to its parameter for the body
leaves the request as it is. -/
theorem request_respelled (doc : Document) (options : Options) (name : String) (o : Operation)
    (shared : List Parameter) :
    doc.request options name (doc.respelledOperation o) (shared.map doc.respelled) =
      doc.request options name o shared := by
  have hown : (doc.respelledOperation o).parameters.getD [] =
      ((o.parameters.getD []).filter (doc.isAt (· ≠ .body))).map doc.respelled := by
    rw [funext isAt_ne_body, respelledOperation]
    cases o.parameters <;> rfl
  rw [request_eq, request_eq, hown]
  refine (InStep.eq ((parameters_respelled name o.requestBody (o.parameters.getD []) shared).bind
    fun ps ps' _ _ h => ?_)).symm
  obtain ⟨hrespelled, hbody⟩ := h
  simp only [partProperties_of_respelledAt hrespelled, respelledOperation, hbody]
  exact .refl fun _ _ => rfl

example :
    let pet : Schema := { properties := some [("name", { type := some (.one "string") })] }
    (Document.ofJson .null).respelledOperation
        { parameters := some
            [{ name := "tags", location := .query, type := some (.one "array")
               items := some { type := some (.one "string") } },
             { name := "pet", location := .body, required := true, schema := some pet }] } =
      { parameters := some
          [{ name := "tags"
             location := .query
             schema := some { type := some (.one "array")
                              items := some { type := some (.one "string") } } }]
        requestBody := some
          { required := true
            content := some [("application/json", { schema := some pet })] } } := rfl

end Document

end ApiTypings.OpenApi
