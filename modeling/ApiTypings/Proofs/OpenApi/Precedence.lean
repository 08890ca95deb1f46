import ApiTypings.Proofs.OpenApi.OperationOrder

/-! # The error that is reported

A document may be at fault in many places. The first operation without responses or with the name
of another one is reported before any types are looked at, and after that the first operation that
cannot be typed.
-/

namespace ApiTypings.OpenApi

open Outcome

/-! ## Operations that are refused -/

namespace OperationEntry

def operation (e : OperationEntry) : Operation :=
  e.2.2.1

/-- The name of an operation, from its path, its method and its identifier. -/
def name (e : OperationEntry) : String :=
  operationName e.1 e.2.1 e.operation

/-- Why an operation is refused after operations of given names: it has no responses, or else one
of the names. -/
inductive Refused (names : List String) (e : OperationEntry) : GenerationError → Prop
  | missing (h : e.operation.responses = none) : Refused names e (.missingResponses e.name)
  | duplicate (h : e.operation.responses ≠ none) (hname : e.name ∈ names) :
      Refused names e (.duplicateOperation e.name)

end OperationEntry

/-- All operations have responses, and names of their own. -/
structure AreAccepted (entries : List OperationEntry) : Prop where
  responses : ∀ e ∈ entries, e.operation.responses ≠ none
  nodup : (entries.map OperationEntry.name).Nodup

/-- An error is that of the first operation that is refused. -/
def IsFirstRefusal (entries : List OperationEntry) (cause : GenerationError) : Prop :=
  ∃ before e after, entries = before ++ e :: after ∧ AreAccepted before ∧
    e.Refused (before.map OperationEntry.name) cause

theorem NamedOperation.Names.name_eq {n : NamedOperation} {e : OperationEntry} (h : n.Names e) :
    n.name = e.name :=
  h.1

theorem addOperation_eq_error {before : List NamedOperation} {e : OperationEntry}
    {cause : GenerationError} :
    addOperation before e = .error cause ↔ e.Refused (before.map (·.name)) cause := by
  obtain ⟨path, method, operation, shared⟩ := e
  simp only [addOperation]
  cases hresponses : operation.responses with
  | none =>
      constructor
      · intro h
        cases h
        exact .missing hresponses
      · rintro (_ | ⟨hne, -⟩)
        · rfl
        · exact absurd hresponses hne
  | some responses =>
      have hany : (before.any fun m => m.name = operationName path method operation) = true ↔
          OperationEntry.name (path, method, operation, shared) ∈ before.map (·.name) := by
        simp [OperationEntry.name, OperationEntry.operation]
      dsimp only
      split
      · next hdup =>
          constructor
          · intro h
            cases h
            exact .duplicate (by simp [OperationEntry.operation, hresponses]) (hany.mp hdup)
          · rintro (hnone | -)
            · cases hnone.symm.trans hresponses
            · rfl
      · next hdup =>
          constructor
          · intro h
            cases h
          · rintro (hnone | ⟨-, hmem⟩)
            · cases hnone.symm.trans hresponses
            · exact absurd (hany.mpr hmem) hdup

theorem map_name_of_names {named : List NamedOperation} {entries : List OperationEntry}
    (h : List.Forall₂ NamedOperation.Names named entries) :
    named.map (·.name) = entries.map OperationEntry.name :=
  map_eq_map_of_forall₂ h fun _ _ hn => hn.name_eq

theorem names_of_foldlM {entries : List OperationEntry} {named : List NamedOperation}
    (h : entries.foldlM addOperation [] = .ok named) :
    List.Forall₂ NamedOperation.Names named entries := by
  obtain ⟨-, added, rfl, hnames⟩ := foldlM_addOperation_eq_ok h List.nodup_nil
  exact hnames

/-- Operations are named one after the other exactly if all of them are accepted. -/
theorem exists_foldlM_addOperation_eq_ok_iff {entries : List OperationEntry} :
    (∃ named, entries.foldlM addOperation [] = .ok named) ↔ AreAccepted entries := by
  constructor
  · rintro ⟨named, h⟩
    have hnames := names_of_foldlM h
    obtain ⟨hnodup, -⟩ := foldlM_addOperation_eq_ok h List.nodup_nil
    refine ⟨fun e he => ?_, ?_⟩
    · obtain ⟨n, -, hn⟩ := exists_mem_left hnames he
      rw [OperationEntry.operation, hn.2.2.1]
      simp
    · rwa [← map_name_of_names hnames]
  · intro h
    have hexists : ∀ e ∈ entries, ∃ n : NamedOperation, n.Names e := by
      intro e he
      obtain ⟨responses, hresponses⟩ := Option.ne_none_iff_exists'.mp (h.responses e he)
      exact ⟨⟨e.name, e.operation, responses, e.2.2.2⟩, rfl, rfl, hresponses, rfl⟩
    have : Nonempty NamedOperation := ⟨⟨"", {}, [], []⟩⟩
    choose! naming hnaming using hexists
    have hnames : List.Forall₂ NamedOperation.Names (entries.map naming) entries := by
      rw [List.forall₂_map_left_iff, List.forall₂_same]
      exact hnaming
    refine ⟨entries.map naming, foldlM_addOperation_of_names hnames [] ?_⟩
    rw [List.nil_append, map_name_of_names hnames]
    exact h.nodup

theorem namedOperations_eq_error_iff {d : Description} {cause : GenerationError} :
    d.namedOperations = .error cause ↔ IsFirstRefusal d.operations cause := by
  unfold Description.namedOperations IsFirstRefusal
  rw [foldlM_eq_error]
  constructor
  · rintro ⟨before, e, after, named, hentries, hnamed, h⟩
    have hnames := names_of_foldlM hnamed
    rw [addOperation_eq_error, map_name_of_names hnames] at h
    exact ⟨before, e, after, hentries,
      exists_foldlM_addOperation_eq_ok_iff.mp ⟨named, hnamed⟩, h⟩
  · rintro ⟨before, e, after, hentries, hbefore, h⟩
    obtain ⟨named, hnamed⟩ := exists_foldlM_addOperation_eq_ok_iff.mpr hbefore
    refine ⟨before, e, after, named, hentries, hnamed, ?_⟩
    rwa [addOperation_eq_error, map_name_of_names (names_of_foldlM hnamed)]

/-! ## Operations that cannot be typed -/

namespace Document

variable {doc : Document} {options : Options}

/-- Why an operation cannot be typed: its request cannot, or else its responses cannot. -/
inductive Fails (doc : Document) (options : Options) (n : NamedOperation) (cause : GenerationError) :
    Prop
  | request (h : doc.request options n.name n.operation n.shared = .error cause)
  | responses {result : Option Request × List Shadowing}
      (hrequest : doc.request options n.name n.operation n.shared = .ok result)
      (h : doc.responses options n.name n.responses = .error cause)

/-- An error is that of the first operation that cannot be typed. -/
def IsFirstFailure (doc : Document) (options : Options) (named : List NamedOperation)
    (cause : GenerationError) : Prop :=
  ∃ before n after, named = before ++ n :: after ∧
    (∀ m ∈ before, ∀ other, ¬doc.Fails options m other) ∧ doc.Fails options n cause

theorem typedOperation_eq_error_iff {n : NamedOperation} {cause : GenerationError} :
    doc.typedOperation options n = .error cause ↔ doc.Fails options n cause := by
  unfold typedOperation
  rw [bind_eq_error]
  constructor
  · rintro (h | ⟨⟨request, diagnostics⟩, hrequest, h⟩)
    · exact .request h
    · rcases bind_eq_error.mp h with h | ⟨responses, -, h⟩
      · exact .responses hrequest h
      · cases h
  · rintro (h | ⟨hrequest, h⟩)
    · exact .inl h
    · exact .inr ⟨_, hrequest, bind_eq_error.mpr (.inl h)⟩

theorem exists_typedOperation_eq_ok_iff {n : NamedOperation} :
    (∃ o, doc.typedOperation options n = .ok o) ↔ ∀ cause, ¬doc.Fails options n cause := by
  simp only [← typedOperation_eq_error_iff]
  cases doc.typedOperation options n <;> simp

theorem mapM_typedOperation_eq_error_iff {named : List NamedOperation} {cause : GenerationError} :
    named.mapM (doc.typedOperation options) = .error cause ↔
      doc.IsFirstFailure options named cause := by
  simp only [mapM_eq_error, exists_typedOperation_eq_ok_iff, typedOperation_eq_error_iff,
    IsFirstFailure]

end Document

/-! ## Precedence -/

variable {root : Json} {options : Options} {d : Description}

theorem generate_eq_error_iff (hread : Description.read root = .ok d) {cause : GenerationError} :
    generate root options = .error cause ↔ IsFirstRefusal d.operations cause ∨
      ∃ named, d.namedOperations = .ok named ∧
        (Document.ofJson root).IsFirstFailure options named cause := by
  have hread : Description.read (Document.ofJson root).root = .ok d := hread
  unfold generate Document.generate Document.operations
  simp only [hread, pure_bind, bind_eq_error, namedOperations_eq_error_iff,
    Document.mapM_typedOperation_eq_error_iff]
  refine or_iff_left ?_
  rintro ⟨operations, -, h⟩
  cases h

theorem areAccepted_iff : AreAccepted d.operations ↔ ∃ named, d.namedOperations = .ok named :=
  exists_foldlM_addOperation_eq_ok_iff.symm

/-- One of several errors is reported: that of the first operation without responses or with a
repeated name, whatever the types are; without such an operation, that of the first one that cannot
be typed, of its request before its responses; and without errors every operation is shown, once and
in document order. -/
theorem generate_precedence (root : Json) (options : Options) (d : Description)
    (hread : Description.read root = .ok d) :
    (¬AreAccepted d.operations → ∃ cause, IsFirstRefusal d.operations cause) ∧
      (∀ cause, IsFirstRefusal d.operations cause → generate root options = .error cause) ∧
      (AreAccepted d.operations →
        ∃ named, List.Forall₂ NamedOperation.Names named d.operations ∧
          ((∃ n ∈ named, ∃ cause, (Document.ofJson root).Fails options n cause) →
            ∃ cause, (Document.ofJson root).IsFirstFailure options named cause) ∧
          (∀ cause, (Document.ofJson root).IsFirstFailure options named cause →
            generate root options = .error cause) ∧
          ((∀ n ∈ named, ∀ cause, ¬(Document.ofJson root).Fails options n cause) →
            ∃ output operations, generate root options = .ok output ∧
              Shows root options output d named operations)) := by
  refine ⟨fun h => ?_, fun cause h => (generate_eq_error_iff hread).mpr (.inl h), fun h => ?_⟩
  · cases hnamed : d.namedOperations with
    | error cause => exact ⟨cause, namedOperations_eq_error_iff.mp hnamed⟩
    | ok named => exact absurd (areAccepted_iff.mpr ⟨named, hnamed⟩) h
  · obtain ⟨named, hnamed⟩ := areAccepted_iff.mp h
    refine ⟨named, (namedOperations_eq_ok hnamed).2, ?_, fun cause h => ?_, fun h => ?_⟩
    · rintro ⟨n, hn, cause, hfails⟩
      cases hmapM : named.mapM ((Document.ofJson root).typedOperation options) with
      | error cause => exact ⟨cause, Document.mapM_typedOperation_eq_error_iff.mp hmapM⟩
      | ok operations =>
          obtain ⟨o, -, ho⟩ := exists_mem_of_mapM hmapM hn
          exact absurd hfails (Document.exists_typedOperation_eq_ok_iff.mp ⟨o, ho⟩ cause)
    · exact (generate_eq_error_iff hread).mpr (.inr ⟨named, hnamed, h⟩)
    · cases hgenerate : generate root options with
      | ok output =>
          obtain ⟨d', named', operations, hshows⟩ := generate_eq_ok.mp hgenerate
          obtain rfl := Except.ok.inj (hread.symm.trans hshows.read_eq)
          obtain rfl := Except.ok.inj (hnamed.symm.trans hshows.named_eq)
          exact ⟨output, operations, rfl, hshows⟩
      | error cause =>
          rcases (generate_eq_error_iff hread).mp hgenerate with hrefusal | ⟨named', hnamed', hfailure⟩
          · rw [← namedOperations_eq_error_iff, hnamed] at hrefusal
            cases hrefusal
          · obtain rfl := Except.ok.inj (hnamed.symm.trans hnamed')
            obtain ⟨before, n, after, rfl, -, hfails⟩ := hfailure
            exact absurd hfails (h n (by simp) cause)

/-- Two operations that cannot be typed: as long as the second one has no responses, that comes
first, and then the request of the first one before its responses. -/
theorem generate_precedence_of_unresolved :
    let missing : Json := .object [("paths", .object
      [("/pets", .object [("post", .object
        [("requestBody", .object [("$ref", .text "#/nowhere")]),
         ("responses", .object [("200", .object [("$ref", .text "#/gone")])])])]),
       ("/ants", .object [("get", .object [])])])]
    let failing : Json := .object [("paths", .object
      [("/pets", .object [("post", .object
        [("requestBody", .object [("$ref", .text "#/nowhere")]),
         ("responses", .object [("200", .object [("$ref", .text "#/gone")])])])]),
       ("/ants", .object [("get", .object
        [("responses", .object [("200", .object [("$ref", .text "#/lost")])])])])])]
    let post : Operation :=
      { requestBody := some { reference := some "#/nowhere" }
        responses := some [("200", { reference := some "#/gone" })] }
    let get : Operation := { responses := some [("200", { reference := some "#/lost" })] }
    let description (get : Operation) : Description :=
      { paths := [("/pets", { post := some post }), ("/ants", { get := some get })] }
    Description.read missing = .ok (description {}) ∧
      ¬AreAccepted (description {}).operations ∧
      generate missing {} = .error (.missingResponses "GetAnts") ∧
      Description.read failing = .ok (description get) ∧
      AreAccepted (description get).operations ∧
      generate failing {} = .error (.unresolvedReference "#/nowhere") := by
  intro missing failing post get description
  have hmissing : Description.read missing = .ok (description {}) := by rfl
  have hfailing : Description.read failing = .ok (description get) := by rfl
  have hbefore : AreAccepted [("/pets", "post", post, [])] :=
    ⟨by simp [OperationEntry.operation, post], by simp⟩
  have hrefusal : IsFirstRefusal (description {}).operations (.missingResponses "GetAnts") :=
    ⟨[("/pets", "post", post, [])], ("/ants", "get", {}, []), [], rfl, hbefore,
      .missing rfl⟩
  have haccepted : AreAccepted (description get).operations := by
    have hoperations : (description get).operations =
        [("/pets", "post", post, []), ("/ants", "get", get, [])] := rfl
    rw [hoperations]
    exact ⟨by simp [OperationEntry.operation, post, get], by decide⟩
  obtain ⟨-, hrefused, -⟩ := generate_precedence missing {} _ hmissing
  obtain ⟨-, -, hnamed⟩ := generate_precedence failing {} _ hfailing
  obtain ⟨named, hnames, -, hfailed, -⟩ := hnamed haccepted
  have hnot : ¬AreAccepted (description {}).operations := fun h =>
    h.responses ("/ants", "get", {}, []) (List.mem_cons_of_mem _ List.mem_cons_self) rfl
  refine ⟨hmissing, hnot, hrefused _ hrefusal, hfailing, haccepted, hfailed _ ?_⟩
  obtain ⟨n, named, hn, -, rfl⟩ := List.forall₂_cons_right_iff.mp hnames
  refine ⟨[], n, named, rfl, by simp, .request ?_⟩
  rw [hn.2.1, hn.2.2.2]
  rfl

end ApiTypings.OpenApi
