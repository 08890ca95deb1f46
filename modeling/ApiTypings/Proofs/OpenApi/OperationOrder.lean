import ApiTypings.Proofs.OpenApi.Generated
import ApiTypings.Proofs.OpenApi.Reordered

/-! # The order of operations

An operation is typed without regard to the operations around it: in a document with reordered
paths each operation has the declarations that it had, at its new place.
-/

namespace ApiTypings.OpenApi

open TypeScript Outcome Reader

/-! ## Types in reordered documents -/

/-- A schema with a type has all references expanded that it follows. -/
theorem Schema.typeWith_eq_ok_of_agrees {direction : Direction}
    {expand expand' : String → Except GenerationError TypeExpr} {s : Schema} {type : TypeExpr}
    (htype : s.typeWith direction expand = .ok type)
    (h : ∀ pointer, Agrees (expand pointer) (expand' pointer)) :
    s.typeWith direction expand' = .ok type := by
  rw [← htype]
  refine typeWith_congr s fun pointer hp => ?_
  obtain ⟨target, htarget⟩ := hp.exists_expand_eq_ok htype
  rw [htarget]
  exact (h pointer target).mp htarget

theorem Schema.typeWith_agrees {direction : Direction}
    {expand expand' : String → Except GenerationError TypeExpr}
    (h : ∀ pointer, Agrees (expand pointer) (expand' pointer)) (s : Schema) :
    Agrees (s.typeWith direction expand) (s.typeWith direction expand') :=
  fun _ => ⟨fun htype => typeWith_eq_ok_of_agrees htype h,
    fun htype => typeWith_eq_ok_of_agrees htype fun pointer => (h pointer).symm⟩

/-- Two documents differ in the order of their paths only. -/
structure Document.Reordered (doc doc' : Document) : Prop where
  root : Json.Reordered doc.root doc'.root
  room_eq : doc.room = doc'.room

namespace Document.Reordered

variable {doc doc' : Document} (h : doc.Reordered doc')
include h

theorem node_inStep (pointer : String) :
    InStep Json.Reordered (doc.node pointer) (doc'.node pointer) := by
  unfold node
  split
  · next path _ =>
      have hnode := h.root.pointer? path
      generalize doc.root.pointer? path = x at hnode ⊢
      generalize doc'.root.pointer? path = y at hnode ⊢
      cases hnode with
      | none => exact .error _
      | some hnode => exact .ok hnode
  · exact .error _

section Referring

variable {α : Type} [Referable α] [Unordered α]

theorem resolve_agrees (pointer : String) :
    Agrees (doc.resolve (Referable.read : Reader α) pointer)
      (doc'.resolve Referable.read pointer) := by
  have hnode := h.node_inStep pointer
  unfold resolve
  generalize doc.node pointer = x at hnode ⊢
  generalize doc'.node pointer = y at hnode ⊢
  cases hnode with
  | error e => exact .refl _
  | @ok node node' hnode =>
      have hread := Unordered.read_agrees (α := α) hnode
      simp only [bind, Except.bind]
      cases hx : (Referable.read node : Except ReadError α) with
      | ok a =>
          simp only [(hread a).mp hx]
          exact .refl _
      | error cause =>
          cases hy : (Referable.read node' : Except ReadError α) with
          | ok a => exact absurd ((hread a).mpr hy) (by simp [hx])
          | error cause' => exact .error _ _

theorem follow_agrees (room : Nat) (followed : List String) (item : α) :
    Agrees (doc.follow room followed item) (doc'.follow room followed item) := by
  induction room generalizing followed item with
  | zero =>
      unfold follow
      split
      · exact .refl _
      · split
        · exact .refl _
        · exact .error _ _
  | succ room ih =>
      unfold follow
      split
      · exact .refl _
      · split
        · exact .refl _
        · exact (h.resolve_agrees _).bind fun target _ => ih _ _

theorem deref_agrees (item : α) : Agrees (doc.deref item) (doc'.deref item) := by
  unfold deref
  rw [h.room_eq]
  exact h.follow_agrees _ _ _

end Referring

theorem expand_agrees (direction : Direction) (room : Nat) (active : List String)
    (pointer : String) :
    Agrees (doc.expand direction room active pointer)
      (doc'.expand direction room active pointer) := by
  induction room generalizing active pointer with
  | zero =>
      unfold expand
      refine (h.resolve_agrees (α := Schema) pointer).bind fun target _ => ?_
      split
      · exact .refl _
      · exact .error _ _
  | succ room ih =>
      unfold expand
      refine (h.resolve_agrees (α := Schema) pointer).bind fun target _ => ?_
      split
      · exact .refl _
      · exact Schema.typeWith_agrees (fun q => ih _ _) target

theorem typeOf_agrees (direction : Direction) (s : Schema) :
    Agrees (doc.typeOf direction s) (doc'.typeOf direction s) := by
  unfold typeOf
  rw [h.room_eq]
  exact Schema.typeWith_agrees (fun pointer => h.expand_agrees _ _ _ _) s

/-! ## Operations in reordered documents -/

theorem parameters_agrees (own shared : List Parameter) :
    Agrees (doc.parameters own shared) (doc'.parameters own shared) := by
  refine Agrees.bind (.mapM (List.forall₂_same.mpr fun p _ => h.deref_agrees p)) fun own _ => ?_
  exact Agrees.foldlM (fun p _ parameters => (h.deref_agrees p).bind fun target _ => .refl _) own

theorem partProperties_agrees (options : Options) (ps : List Parameter) :
    Agrees (doc.partProperties options ps) (doc'.partProperties options ps) := by
  refine Agrees.filterMapM fun p _ => ?_
  unfold partProperty?
  split
  · exact .refl _
  · exact (h.typeOf_agrees _ _).bind fun type _ => .refl _

theorem jsonBody_agrees (operation : String) (s : Schema) (required : Bool) :
    Agrees (doc.jsonBody operation s required) (doc'.jsonBody operation s required) := by
  refine (h.deref_agrees s).bind fun target _ => (Agrees.refl _).bind fun kind _ => ?_
  exact (h.typeOf_agrees _ s).bind fun type _ => .refl _

theorem body?_agrees (operation : String) (body : Option RequestBody)
    (parameter : Option Parameter) :
    Agrees (doc.body? operation body parameter) (doc'.body? operation body parameter) := by
  unfold body?
  cases body with
  | some b =>
      refine (h.deref_agrees b).bind fun target _ => ?_
      split
      · exact .refl _
      · split
        · exact .refl _
        · split
          · exact (h.jsonBody_agrees _ _ _).bind fun json _ => .refl _
          · exact .refl _
  | none =>
      cases parameter with
      | none => exact .refl _
      | some p =>
          simp only
          split
          · exact (h.jsonBody_agrees _ _ _).bind fun json _ => .refl _
          · exact .refl _

theorem request_agrees (options : Options) (name : String) (operation : Operation)
    (shared : List Parameter) :
    Agrees (doc.request options name operation shared)
      (doc'.request options name operation shared) := by
  rw [request_eq, request_eq]
  refine (h.parameters_agrees _ _).bind fun parameters _ => ?_
  refine (h.partProperties_agrees _ _).bind fun ps _ => ?_
  exact (h.body?_agrees _ _ _).bind fun body _ => .refl _

theorem typedResponse_agrees (status : Http.Status) (response : Response) :
    Agrees (doc.typedResponse status response) (doc'.typedResponse status response) := by
  unfold typedResponse
  split
  · exact .refl _
  · split
    · split
      · exact (h.typeOf_agrees _ _).bind fun type _ => .refl _
      · exact .refl _
    all_goals exact .refl _

theorem responses_agrees (options : Options) (name : String)
    (responses : List (String × Response)) :
    Agrees (doc.responses options name responses) (doc'.responses options name responses) := by
  refine Agrees.bind (.mapM (List.forall₂_same.mpr fun r _ => ?_)) fun typed _ => .refl _
  exact (h.deref_agrees r.2).bind fun response _ => h.typedResponse_agrees _ _

/-- An operation is typed alike in reordered documents. -/
theorem typedOperation_agrees (options : Options) (n : NamedOperation) :
    Agrees (doc.typedOperation options n) (doc'.typedOperation options n) := by
  refine (h.request_agrees options n.name n.operation n.shared).bind fun request _ => ?_
  exact (h.responses_agrees options n.name n.responses).bind fun responses _ => .refl _

end Document.Reordered

theorem Document.reordered_ofJson {root root' : Json} (h : Json.PathsReordered root root')
    (hkeys : root.HasDistinctKeys) : (ofJson root).Reordered (ofJson root') where
  root := .root h hkeys
  room_eq := congrArg (· + 1) h.perm_texts.length_eq

/-! ## Reordered descriptions -/

theorem plainEntries_perm {α : Type} [Nonempty α] {read : Reader α}
    {es es' : List (String × Json)} (h : es.Perm es') {as : List (String × α)}
    (hread : plainEntries read (.object es) = .ok as) :
    ∃ as', plainEntries read (.object es') = .ok as' ∧ as.Perm as' :=
  mapM_perm hread (h.filter _)

/-- The paths are all that is read of a document. -/
theorem Description.read_object {before after : List (String × Json)} {paths : Json}
    (hkeys : ((before ++ ("paths", paths) :: after).map Prod.fst).Nodup) :
    Description.read (.object (before ++ ("paths", paths) :: after)) =
      Description.mk <$> plainEntries PathItem.read paths := by
  rw [List.map_append, List.map_cons, List.nodup_middle, List.nodup_cons, ← List.map_append]
    at hkeys
  refine (setEntries_append_cons (fun e he f hf hkey => ?_) _ _).trans rfl
  rw [List.mem_singleton.mp hf] at hkey
  exact hkeys.1 (List.mem_map.mpr ⟨e, he, hkey.symm⟩)

theorem Description.read_array (paths : Json) :
    Description.read (.array [paths]) = Description.mk <$> plainEntries PathItem.read paths := by
  unfold Description.read record
  simp only [setItems, trailingField, field]
  cases plainEntries PathItem.read paths <;> rfl

/-- In a document with reordered paths the same paths are read, in the new order. -/
theorem Description.read_reordered {root root' : Json} (h : Json.PathsReordered root root')
    (hkeys : root.HasDistinctKeys) {d : Description} (hd : Description.read root = .ok d) :
    ∃ d', Description.read root' = .ok d' ∧ d.paths.Perm d'.paths := by
  cases h with
  | @object before after es es' h =>
      have hnodup := (Json.hasDistinctKeys_iff.mp hkeys).1
      have hnodup' : ((before ++ ("paths", .object es') :: after).map Prod.fst).Nodup := by
        simpa [Json.keys] using hnodup
      rw [read_object hnodup] at hd
      obtain ⟨paths, hpaths, rfl⟩ := map_eq_ok.mp hd
      obtain ⟨paths', hpaths', hperm⟩ := plainEntries_perm h hpaths
      rw [read_object hnodup', hpaths']
      exact ⟨⟨paths'⟩, rfl, hperm⟩
  | array rest h =>
      cases rest with
      | nil =>
          rw [read_array] at hd
          obtain ⟨paths, hpaths, rfl⟩ := map_eq_ok.mp hd
          obtain ⟨paths', hpaths', hperm⟩ := plainEntries_perm h hpaths
          rw [read_array, hpaths']
          exact ⟨⟨paths'⟩, rfl, hperm⟩
      | cons value rest =>
          obtain ⟨_, -, hsurplus⟩ := bind_eq_ok.mp hd
          cases hsurplus

/-! ## Reordered outputs -/

/-- An operation of a description with its path, its method and the parameters of its path. -/
abbrev OperationEntry : Type :=
  String × String × Operation × List Parameter

/-- Names and types for the operations of a description, each by its entry alone. -/
structure Typing (root : Json) (options : Options) (description : Description)
    (naming : OperationEntry → NamedOperation) (typing : OperationEntry → TypedOperation) :
    Prop where
  names : ∀ e ∈ description.operations, (naming e).Names e
  typed : ∀ e ∈ description.operations,
    (Document.ofJson root).typedOperation options (naming e) = .ok (typing e)

/-- The operations on a path, each typed by its entry. -/
def operationsOn (typing : OperationEntry → TypedOperation) (path : String × PathItem) :
    List TypedOperation :=
  path.2.operations.map fun e => typing (path.1, e.1, e.2, path.2.parameters.getD [])

theorem Description.map_operations (d : Description) (typing : OperationEntry → TypedOperation) :
    d.operations.map typing = d.paths.flatMap (operationsOn typing) := by
  unfold Description.operations
  rw [List.map_flatMap]
  simp only [List.map_map]
  rfl

section Typed

variable {root : Json} {options : Options} {output : Output} {description : Description}
  {naming : OperationEntry → NamedOperation} {typing : OperationEntry → TypedOperation}

/-- What is shown of an operation depends on its entry alone. -/
theorem Shows.exists_typing {named : List NamedOperation} {operations : List TypedOperation}
    (h : Shows root options output description named operations) :
    ∃ naming typing, Typing root options description naming typing ∧
      named = description.operations.map naming ∧
      operations = description.operations.map typing := by
  have : Nonempty NamedOperation := ⟨⟨"", {}, [], []⟩⟩
  have : Nonempty TypedOperation := ⟨⟨"", none, .ofTyped "" false [], []⟩⟩
  obtain ⟨naming, hnaming, rfl⟩ := exists_map_of_forall₂ h.names.flip
    fun _ _ _ hn hn' => NamedOperation.Names.eq hn hn'
  obtain ⟨typing, htyping, rfl⟩ := exists_map_of_forall₂ h.typed
    fun _ _ _ ho ho' => Except.ok.inj (ho.symm.trans ho')
  refine ⟨naming, fun e => typing (naming e), ⟨hnaming, fun e he => ?_⟩, rfl, ?_⟩
  · exact htyping _ (List.mem_map_of_mem he)
  · rw [List.map_map]
    rfl

/-- Operations with types and with distinct names are shown. -/
theorem Typing.exists_shows (h : Typing root options description naming typing)
    (hread : Description.read root = .ok description)
    (hnodup : ((description.operations.map naming).map (·.name)).Nodup) :
    ∃ output, Shows root options output description (description.operations.map naming)
      (description.operations.map typing) := by
  have hnames : List.Forall₂ NamedOperation.Names (description.operations.map naming)
      description.operations := by
    rw [List.forall₂_map_left_iff, List.forall₂_same]
    exact h.names
  have htyped : List.Forall₂ (fun n o => (Document.ofJson root).typedOperation options n = .ok o)
      (description.operations.map naming) (description.operations.map typing) := by
    rw [List.forall₂_map_left_iff, List.forall₂_map_right_iff, List.forall₂_same]
    exact h.typed
  exact ⟨⟨_, _, _⟩, hread, namedOperations_of_names hnames hnodup, htyped, rfl, rfl, rfl⟩

theorem Typing.forall₂_operationsOn (h : Typing root options description naming typing)
    {path : String × PathItem} (hpath : path ∈ description.paths) :
    List.Forall₂ (fun e o => o.name = operationName path.1 e.1 e.2) path.2.operations
      (operationsOn typing path) := by
  unfold operationsOn
  rw [List.forall₂_map_right_iff, List.forall₂_same]
  intro e he
  have hentry : (path.1, e.1, e.2, path.2.parameters.getD []) ∈ description.operations :=
    List.mem_flatMap.mpr ⟨path, hpath, List.mem_map_of_mem he⟩
  exact (Document.typedOperation_eq_ok.mp (h.typed _ hentry)).1.trans (h.names _ hentry).1

/-- In a document with reordered paths the operations have the same names and types. -/
theorem Typing.reordered {root' : Json} {description' : Description}
    (h : Typing root options description naming typing) (hkeys : root.HasDistinctKeys)
    (hreordered : Json.PathsReordered root root')
    (hperm : description.operations.Perm description'.operations) :
    Typing root' options description' naming typing where
  names e he := h.names e (hperm.mem_iff.mpr he)
  typed e he := by
    have hagrees := (Document.reordered_ofJson hreordered hkeys).typedOperation_agrees options
      (naming e)
    exact (hagrees _).mp (h.typed e (hperm.mem_iff.mpr he))

end Typed

/-- Two outputs show the operations of the same paths, but in two orders of the paths: a path has
the same operations in both, with all that is generated for them, and what is declared before the
operations is the same. -/
def ShowReordered (root root' : Json) (options : Options) (output output' : Output) : Prop :=
  ∃ description description' named named' group marker,
    Shows root options output description named (description.paths.flatMap group) ∧
    Shows root' options output' description' named' (description'.paths.flatMap group) ∧
    description.paths.Perm description'.paths ∧
    (∀ path ∈ description.paths,
      List.Forall₂ (fun e o => o.name = operationName path.1 e.1 e.2) path.2.operations
        (group path)) ∧
    apiModule (description.paths.flatMap group) =
      envelopeDeclaration :: marker ++
        (description.paths.flatMap group).flatMap TypedOperation.declarations ∧
    apiModule (description'.paths.flatMap group) =
      envelopeDeclaration :: marker ++
        (description'.paths.flatMap group).flatMap TypedOperation.declarations

/-- In a document with reordered paths every operation has the declarations, the method and the
dropped properties that it had, and these come in the new order of the paths. -/
theorem generate_reordered (root root' : Json) (options : Options) (output : Output)
    (hkeys : root.HasDistinctKeys) (hreordered : Json.PathsReordered root root')
    (h : generate root options = .ok output) :
    ∃ output', generate root' options = .ok output' ∧
      ShowReordered root root' options output output' := by
  obtain ⟨description, named, operations, hshows⟩ := generate_eq_ok.mp h
  obtain ⟨description', hread', hpaths⟩ := Description.read_reordered hreordered hkeys
    hshows.read_eq
  obtain ⟨naming, typing, htyping, rfl, rfl⟩ := hshows.exists_typing
  have hperm : description.operations.Perm description'.operations := hpaths.flatMap_right _
  have htyping' := htyping.reordered hkeys hreordered hperm
  -- Names are checked against those before, but whether all are distinct does not rest on order.
  have hnodup' := ((hperm.map naming).map (·.name)).nodup_iff.mp hshows.nodup_names
  obtain ⟨output', hshows'⟩ := htyping'.exists_shows hread' hnodup'
  have hmarker := (hperm.map typing).any_eq (f := (·.responses.usesRange))
  rw [description.map_operations, description'.map_operations] at hmarker
  rw [description.map_operations] at hshows
  rw [description'.map_operations] at hshows'
  refine ⟨output', generate_eq_ok.mpr ⟨_, _, _, hshows'⟩, description, description', _, _,
    operationsOn typing, _, hshows, hshows', hpaths, fun path => htyping.forall₂_operationsOn,
    rfl, ?_⟩
  unfold apiModule
  rw [hmarker]

/-- Two paths in the other order, where a response on one refers to the other by its path. -/
theorem generate_reordered_of_reference :
    let a : Json := .object [("get", .object [("responses", .object
      [("2XX", .object [("$ref", .text "#/paths/~1b/get/responses/204")])])])]
    let b : Json := .object [("get", .object [("responses", .object [("204", .object [])])])]
    let root : Json := .object [("paths", .object [("/a", a), ("/b", b)])]
    let root' : Json := .object [("paths", .object [("/b", b), ("/a", a)])]
    let output : Output :=
      { declarations := envelopeDeclaration.render ++ "\n" ++ statusRangeDeclaration.render ++
          "\nexport type GetA2XXResponse = FullResponse<unknown, StatusRange<2>>;\n\n" ++
          "export type GetAResponses = GetA2XXResponse;\n\n" ++
          "export type GetBResponseNoContent = undefined;\n\n" ++
          "export type GetBResponses = GetBResponseNoContent;\n"
        client :=
          "export interface ApiClient \x7b\n" ++
          "  getA(): Promise<GetAResponses>;\n  getB(): Promise<GetBResponses>;\n\x7d\n" }
    root.HasDistinctKeys ∧ Json.PathsReordered root root' ∧ generate root {} = .ok output ∧
      ∃ output', generate root' {} = .ok output' ∧
        ShowReordered root root' {} output output' := by
  intro a b root root' output
  have hkeys : root.HasDistinctKeys := by decide +kernel
  have hreordered : Json.PathsReordered root root' := .object [] [] (.swap _ _ _)
  have h : generate root {} = .ok output := by decide +kernel
  exact ⟨hkeys, hreordered, h, generate_reordered root root' {} output hkeys hreordered h⟩

end ApiTypings.OpenApi
