import ApiTypings.OpenApi.Client
import ApiTypings.Proofs.Outcome

/-! # What a generation succeeds with

The declarations for a document are those of its operations, in document order, and each of them
is typed on its own.
-/

namespace ApiTypings.OpenApi

open TypeScript Outcome

/-! ## Named operations -/

/-- A named operation is one of the description, with the name and the parts that it has there. -/
def NamedOperation.Names (n : NamedOperation) :
    String × String × Operation × List Parameter → Prop
  | (path, method, operation, shared) =>
      n.name = operationName path method operation ∧ n.operation = operation ∧
        operation.responses = some n.responses ∧ n.shared = shared

theorem addOperation_eq_ok {before named : List NamedOperation}
    {entry : String × String × Operation × List Parameter}
    (h : addOperation before entry = .ok named) :
    ∃ n : NamedOperation, n.Names entry ∧ n.name ∉ before.map (·.name) ∧ named = before ++ [n] := by
  obtain ⟨path, method, operation, shared⟩ := entry
  simp only [addOperation] at h
  cases hresponses : operation.responses with
  | none =>
      simp only [hresponses] at h
      cases h
  | some responses =>
      simp only [hresponses] at h
      split at h
      · cases h
      · next hnot =>
          cases h
          exact ⟨_, ⟨rfl, rfl, hresponses, rfl⟩, by simpa using hnot, rfl⟩

/-- One after the other, the operations are appended, and their names stay distinct. -/
theorem foldlM_addOperation_eq_ok {entries : List (String × String × Operation × List Parameter)}
    {before named : List NamedOperation} (h : entries.foldlM addOperation before = .ok named)
    (hbefore : (before.map (·.name)).Nodup) :
    (named.map (·.name)).Nodup ∧
      ∃ added, named = before ++ added ∧ List.Forall₂ NamedOperation.Names added entries := by
  induction entries generalizing before with
  | nil =>
      cases h
      exact ⟨hbefore, [], (List.append_nil _).symm, .nil⟩
  | cons entry entries ih =>
      rw [List.foldlM_cons] at h
      obtain ⟨next, hnext, h⟩ := bind_eq_ok.mp h
      obtain ⟨n, hn, hnew, rfl⟩ := addOperation_eq_ok hnext
      -- The names so far stay distinct, since each step checks the new one against them.
      have hnodup : ((before ++ [n]).map (·.name)).Nodup := by
        rw [List.map_append, List.map_singleton, List.nodup_append]
        exact ⟨hbefore, List.nodup_cons.mpr ⟨List.not_mem_nil, List.nodup_nil⟩, by grind⟩
      obtain ⟨hnamed, added, rfl, hadded⟩ := ih h hnodup
      exact ⟨hnamed, n :: added, by simp, .cons hn hadded⟩

/-- The operations of a description in document order, with distinct names. -/
theorem namedOperations_eq_ok {d : Description} {named : List NamedOperation}
    (h : d.namedOperations = .ok named) :
    (named.map (·.name)).Nodup ∧ List.Forall₂ NamedOperation.Names named d.operations := by
  obtain ⟨hnodup, added, hadded, hnames⟩ := foldlM_addOperation_eq_ok h List.nodup_nil
  rw [hadded, List.nil_append]
  exact ⟨by simpa [hadded] using hnodup, hnames⟩

/-- An operation has one name and one set of parts. -/
theorem NamedOperation.Names.eq {n n' : NamedOperation}
    {entry : String × String × Operation × List Parameter} (h : n.Names entry)
    (h' : n'.Names entry) : n = n' := by
  obtain ⟨path, method, operation, shared⟩ := entry
  obtain ⟨name, operation, responses, shared⟩ := n
  obtain ⟨name', operation', responses', shared'⟩ := n'
  obtain ⟨hname, hoperation, hresponses, hshared⟩ := h
  obtain ⟨hname', hoperation', hresponses', hshared'⟩ := h'
  grind

theorem addOperation_of_names {before : List NamedOperation} {n : NamedOperation}
    {entry : String × String × Operation × List Parameter} (h : n.Names entry)
    (hnew : n.name ∉ before.map (·.name)) : addOperation before entry = .ok (before ++ [n]) := by
  obtain ⟨path, method, operation, shared⟩ := entry
  have hresponses : operation.responses = some n.responses := h.2.2.1
  have hn : NamedOperation.mk (operationName path method operation) operation n.responses shared =
      n :=
    NamedOperation.Names.eq ⟨rfl, rfl, hresponses, rfl⟩ h
  rw [← hn] at hnew
  simp only [addOperation, hresponses]
  rw [if_neg (by simpa using hnew)]
  exact congrArg (fun m => Except.ok (before ++ [m])) hn

theorem foldlM_addOperation_of_names {added : List NamedOperation}
    {entries : List (String × String × Operation × List Parameter)}
    (h : List.Forall₂ NamedOperation.Names added entries) (before : List NamedOperation)
    (hnodup : ((before ++ added).map (·.name)).Nodup) :
    entries.foldlM addOperation before = .ok (before ++ added) := by
  induction h generalizing before with
  | nil => rw [List.append_nil]; rfl
  | @cons n entry added entries hn _ ih =>
      have hnew : n.name ∉ before.map (·.name) := by
        rw [List.map_append, List.nodup_append] at hnodup
        grind
      have hrest := ih (before ++ [n]) (by simpa using hnodup)
      rw [List.append_assoc] at hrest
      rw [List.foldlM_cons, addOperation_of_names hn hnew]
      exact hrest

/-- Operations with distinct names and with responses are named. -/
theorem namedOperations_of_names {d : Description} {named : List NamedOperation}
    (h : List.Forall₂ NamedOperation.Names named d.operations)
    (hnodup : (named.map (·.name)).Nodup) : d.namedOperations = .ok named :=
  foldlM_addOperation_of_names h [] hnodup

/-! ## Responses -/

namespace Document

variable {doc : Document} {options : Options}

theorem status_of_typedResponse {status : Http.Status} {response : Response} {r : TypedResponse}
    (h : doc.typedResponse status response = .ok r) : r.status = status := by
  unfold typedResponse at h
  split at h
  · split at h <;> cases h <;> rfl
  · split at h
    · split at h
      · obtain ⟨body, -, h⟩ := bind_eq_ok.mp h
        cases h
        rfl
      · cases h
        rfl
    all_goals
      cases h
      rfl

/-- Each response is typed under its key, behind its references. -/
theorem responses_eq_ok {operation : String} {entries : List (String × Response)}
    {responses : Responses} (h : doc.responses options operation entries = .ok responses) :
    ∃ typed, responses = .ofTyped operation options.fullResponse typed ∧
      List.Forall₂ (fun entry r => ∃ response, doc.deref entry.2 = .ok response ∧
        doc.typedResponse (.ofKey entry.1) response = .ok r) entries typed := by
  obtain ⟨typed, htyped, h⟩ := bind_eq_ok.mp h
  cases h
  exact ⟨typed, rfl, (mapM_eq_ok.mp htyped).imp fun _ _ hr => bind_eq_ok.mp hr⟩

end Document

theorem map_name_aliases (operation : String) (fullResponse : Bool) (typed : List TypedResponse) :
    (Responses.ofTyped operation fullResponse typed).aliases.map Declaration.name =
      typed.map (·.status.responseName operation) := by
  simp only [Responses.ofTyped, List.map_map]
  rfl

theorem name_union (operation : String) (fullResponse : Bool) (typed : List TypedResponse) :
    (Responses.ofTyped operation fullResponse typed).union.name = operation ++ "Responses" := by
  simp only [Responses.ofTyped]
  split <;> rfl

/-! ## Requests -/

theorem name_flatRequest {operation : String} {ps : List PartProperty} {body : Option Body}
    {r : Request} (h : (flatRequest operation ps body).1 = some r) :
    r.declaration.name = requestName operation := by
  simp only [flatRequest] at h
  split at h
  all_goals
    split at h <;> cases h <;> rfl

theorem name_dividedRequest {operation : String} {ps : List PartProperty} {body : Option Body}
    {r : Request} (h : (dividedRequest operation ps body).1 = some r) :
    r.declaration.name = requestName operation := by
  simp only [dividedRequest] at h
  split at h <;> cases h
  rfl

/-- The request of an operation in a layout. -/
def laidOut (layout : Layout) (operation : String) (ps : List PartProperty) (body : Option Body) :
    Option Request × List Shadowing :=
  match layout with
  | .flat => flatRequest operation ps body
  | .divided => dividedRequest operation ps body

theorem name_laidOut {layout : Layout} {operation : String} {ps : List PartProperty}
    {body : Option Body} {r : Request} (h : (laidOut layout operation ps body).1 = some r) :
    r.declaration.name = requestName operation := by
  cases layout with
  | flat => exact name_flatRequest h
  | divided => exact name_dividedRequest h

namespace Document

variable {doc : Document} {options : Options}

/-- A request is laid out from the properties of the parameters and from the body. -/
theorem request_eq (doc : Document) (options : Options) (name : String) (operation : Operation)
    (shared : List Parameter) :
    doc.request options name operation shared = do
      let parameters ← doc.parameters (operation.parameters.getD []) shared
      let ps ← doc.partProperties options parameters
      let body ← doc.body? name operation.requestBody (parameters.find? (·.location = .body))
      return laidOut (layoutOf options ps body) name ps body := by
  unfold request
  congr 1
  funext parameters
  congr 1
  funext ps
  congr 1
  funext body
  cases layoutOf options ps body <;> rfl

/-- What a request is laid out from: the parameters of the operation, their properties, and the
body. -/
structure HasParts (doc : Document) (options : Options) (name : String) (operation : Operation)
    (shared parameters : List Parameter) (ps : List PartProperty) (body : Option Body) : Prop where
  parameters_eq : doc.parameters (operation.parameters.getD []) shared = .ok parameters
  properties_eq : doc.partProperties options parameters = .ok ps
  body_eq :
    doc.body? name operation.requestBody (parameters.find? (·.location = .body)) = .ok body

theorem request_eq_ok {name : String} {operation : Operation} {shared : List Parameter}
    {result : Option Request × List Shadowing} :
    doc.request options name operation shared = .ok result ↔
      ∃ parameters ps body, doc.HasParts options name operation shared parameters ps body ∧
        result = laidOut (layoutOf options ps body) name ps body := by
  rw [request_eq]
  constructor
  · intro h
    obtain ⟨parameters, hparameters, h⟩ := bind_eq_ok.mp h
    obtain ⟨ps, hps, h⟩ := bind_eq_ok.mp h
    obtain ⟨body, hbody, h⟩ := bind_eq_ok.mp h
    cases h
    exact ⟨parameters, ps, body, ⟨hparameters, hps, hbody⟩, rfl⟩
  · rintro ⟨parameters, ps, body, ⟨hparameters, hps, hbody⟩, rfl⟩
    exact bind_eq_ok.mpr ⟨_, hparameters, bind_eq_ok.mpr ⟨_, hps, bind_eq_ok.mpr ⟨_, hbody, rfl⟩⟩⟩

/-! ## Typed operations -/

theorem typedOperation_eq_ok {n : NamedOperation} {o : TypedOperation} :
    doc.typedOperation options n = .ok o ↔
      o.name = n.name ∧
        doc.request options n.name n.operation n.shared = .ok (o.request, o.diagnostics) ∧
        doc.responses options n.name n.responses = .ok o.responses := by
  unfold typedOperation
  constructor
  · intro h
    obtain ⟨⟨request, diagnostics⟩, hrequest, h⟩ := bind_eq_ok.mp h
    obtain ⟨responses, hresponses, h⟩ := bind_eq_ok.mp h
    cases h
    exact ⟨rfl, hrequest, hresponses⟩
  · rintro ⟨hname, hrequest, hresponses⟩
    rw [hrequest, hresponses]
    obtain ⟨name, request, responses, diagnostics⟩ := o
    cases hname
    rfl

end Document

/-- The names of the aliases for the responses of an operation. -/
def NamedOperation.responseNames (n : NamedOperation) : List String :=
  n.responses.map fun entry => (Http.Status.ofKey entry.1).responseName n.name

/-- The name of the union of the responses of an operation. -/
def unionName (operation : String) : String :=
  operation ++ "Responses"

theorem TypedOperation.map_name_declarations (o : TypedOperation) :
    o.declarations.map Declaration.name =
      (o.request.map fun request => request.declaration.name).toList ++
        o.responses.aliases.map Declaration.name ++ [o.responses.union.name] := by
  unfold TypedOperation.declarations
  cases o.request <;> simp

/-- What the declarations for an operation are called. -/
structure NamedOperation.Declared (n : NamedOperation) (o : TypedOperation) : Prop where
  name_eq : o.name = n.name
  name_request : ∀ r, o.request = some r → r.declaration.name = requestName n.name
  name_aliases : o.responses.aliases.map Declaration.name = n.responseNames
  name_union : o.responses.union.name = unionName n.name

theorem NamedOperation.declared_of_typedOperation {doc : Document} {options : Options}
    {n : NamedOperation} {o : TypedOperation} (h : doc.typedOperation options n = .ok o) :
    n.Declared o := by
  obtain ⟨hname, hrequest, hresponses⟩ := Document.typedOperation_eq_ok.mp h
  obtain ⟨typed, htyped, hall⟩ := Document.responses_eq_ok hresponses
  refine ⟨hname, ?_, ?_, ?_⟩
  · intro r hr
    obtain ⟨-, ps, body, -, hlaid⟩ := Document.request_eq_ok.mp hrequest
    rw [hr] at hlaid
    exact name_laidOut (congrArg Prod.fst hlaid).symm
  · rw [htyped, map_name_aliases, responseNames]
    refine (map_eq_map_of_forall₂ hall ?_).symm
    rintro entry r ⟨response, -, hr⟩
    rw [Document.status_of_typedResponse hr]
  · rw [htyped]
    exact name_union _ _ _

/-- By unfolding the method alone: comparing the names as they stand unfolds both of them. -/
theorem TypedOperation.name_method (o : TypedOperation) : o.method.name = methodName o.name := by
  simp only [method]

/-! ## The output -/

/-- An output shows the operations of a description, in document order, each typed on its own. -/
structure Shows (root : Json) (options : Options) (output : Output) (description : Description)
    (named : List NamedOperation) (operations : List TypedOperation) : Prop where
  read_eq : Description.read root = .ok description
  named_eq : description.namedOperations = .ok named
  typed : List.Forall₂ (fun n o => (Document.ofJson root).typedOperation options n = .ok o)
    named operations
  declarations_eq : output.declarations = renderModule (apiModule operations)
  client_eq : output.client =
    (apiClient (options.clientName.getD defaultClientName) operations).render
  diagnostics_eq : output.diagnostics = operations.flatMap (·.diagnostics)

theorem Document.operations_eq_ok {doc : Document} {options : Options}
    {operations : List TypedOperation} :
    doc.operations options = .ok operations ↔
      ∃ description named, Description.read doc.root = .ok description ∧
        description.namedOperations = .ok named ∧
        List.Forall₂ (fun n o => doc.typedOperation options n = .ok o) named operations := by
  unfold Document.operations
  cases hd : Description.read doc.root with
  | error cause =>
      constructor
      · intro h
        cases h
      · rintro ⟨description, named, h, -⟩
        cases h
  | ok description =>
      simp only [pure_bind, bind_eq_ok, mapM_eq_ok, Except.ok.injEq, exists_and_left,
        exists_eq_left']

/-- A generation succeeds with what shows the operations of the description. -/
theorem generate_eq_ok {root : Json} {options : Options} {output : Output} :
    generate root options = .ok output ↔
      ∃ description named operations, Shows root options output description named operations := by
  unfold generate Document.generate
  rw [bind_eq_ok]
  constructor
  · rintro ⟨operations, h, houtput⟩
    obtain ⟨description, named, hread, hnamed, htyped⟩ := Document.operations_eq_ok.mp h
    cases houtput
    exact ⟨description, named, operations, hread, hnamed, htyped, rfl, rfl, rfl⟩
  · rintro ⟨description, named, operations, hread, hnamed, htyped, hdeclarations, hclient,
      hdiagnostics⟩
    refine ⟨operations, Document.operations_eq_ok.mpr ⟨_, _, hread, hnamed, htyped⟩, ?_⟩
    obtain ⟨declarations, client, diagnostics⟩ := output
    cases hdeclarations
    cases hclient
    cases hdiagnostics
    rfl

namespace Shows

variable {root : Json} {options : Options} {output : Output} {description : Description}
  {named : List NamedOperation} {operations : List TypedOperation}
  (h : Shows root options output description named operations)
include h

theorem operations_eq : (Document.ofJson root).operations options = .ok operations :=
  Document.operations_eq_ok.mpr ⟨description, named, h.read_eq, h.named_eq, h.typed⟩

theorem declared : List.Forall₂ NamedOperation.Declared named operations :=
  h.typed.imp fun _ _ => NamedOperation.declared_of_typedOperation

theorem exists_ofTyped {o : TypedOperation} (ho : o ∈ operations) :
    ∃ typed, o.responses = .ofTyped o.name options.fullResponse typed := by
  obtain ⟨n, -, htyped⟩ := exists_mem_left h.typed ho
  obtain ⟨hname, -, hresponses⟩ := Document.typedOperation_eq_ok.mp htyped
  obtain ⟨typed, heq, -⟩ := Document.responses_eq_ok hresponses
  exact ⟨typed, hname ▸ heq⟩

theorem map_name : operations.map (·.name) = named.map (·.name) :=
  (map_eq_map_of_forall₂ h.declared fun _ _ hd => hd.name_eq.symm).symm

theorem nodup_names : (named.map (·.name)).Nodup :=
  (namedOperations_eq_ok h.named_eq).1

theorem names : List.Forall₂ NamedOperation.Names named description.operations :=
  (namedOperations_eq_ok h.named_eq).2

end Shows

end ApiTypings.OpenApi
