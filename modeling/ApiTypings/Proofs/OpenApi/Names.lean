import Mathlib.Data.List.Nodup
import ApiTypings.Proofs.OpenApi.Generated
import ApiTypings.Proofs.Text.Idempotent

/-! # Names

The names of operations are in Pascal case, so the names of types that begin with them and the
names of methods that are made from them are legal, and no two methods have one name.
-/

namespace ApiTypings.OpenApi

open TypeScript Text Outcome

/-! ## Names of operations -/

/-- The methods that a path may have operations for. -/
def PathItem.methods : List String :=
  ["get", "put", "post", "delete", "options", "head", "patch", "trace"]

theorem PathItem.mem_methods {i : PathItem} {o : String × Operation} (h : o ∈ i.operations) :
    o.1 ∈ methods := by
  obtain ⟨⟨method, slot⟩, hslot, h⟩ := List.mem_filterMap.mp h
  obtain ⟨o, rfl, rfl⟩ := Option.map_eq_some_iff.mp h
  have := List.mem_map_of_mem (f := Prod.fst) hslot
  exact this

/-- Where the identifier or the path leaves nothing to name, the method does. -/
theorem isPascal_operationName (path : String) {method : String} (operation : Operation)
    (hmethod : method ∈ PathItem.methods) :
    IsPascal (operationName path method operation).toList := by
  have hall : ∀ method ∈ PathItem.methods, pascalCase method ≠ "" := by decide +kernel
  have hpascal (s : String) :
      IsPascal (if (pascalCase s).isEmpty then pascalCase method else pascalCase s).toList := by
    split
    · exact isPascal_pascalCase (hall method hmethod)
    · next h => exact isPascal_pascalCase (by simpa using h)
  unfold operationName
  cases operation.operationId with
  | some id => exact hpascal id
  | none => exact hpascal _

theorem isPascal_of_mem_operations {d : Description} {n : NamedOperation}
    {entry : String × String × Operation × List Parameter} (hentry : entry ∈ d.operations)
    (hn : n.Names entry) : IsPascal n.name.toList := by
  obtain ⟨path, hpath, hentry⟩ := List.mem_flatMap.mp hentry
  obtain ⟨o, ho, rfl⟩ := List.mem_map.mp hentry
  rw [hn.1]
  exact isPascal_operationName path.1 o.2 (PathItem.mem_methods ho)

/-! ## Names of types -/

/-- Letters, digits and underscores of ASCII, of which the first is no digit. -/
def IsTypeName (cs : List Char) : Prop :=
  cs ≠ [] ∧ IsWord cs ∧ ∀ c ∈ cs.head?, c.isDigit = false

/-- An operation's name stays a legal name with letters, digits and underscores behind it. -/
theorem isTypeName_append {cs suffix : List Char} (h : IsPascal cs) (hsuffix : IsWord suffix) :
    IsTypeName (cs ++ suffix) := by
  refine ⟨?_, isWord_append h.isWord hsuffix, ?_⟩
  · cases h <;> simp
  · cases h with
    | letter hc => simpa using not_isDigit_of_isUpper hc
    | digit => simp

/-- The name of a response is the name of its operation with a part that depends on the status
alone. -/
theorem responseName_eq (operation : String) (status : Http.Status) :
    status.responseName operation = operation ++ status.responseName "" := by
  unfold Http.Status.responseName
  split
  · split <;> simp [String.append_assoc]
  all_goals simp [String.append_assoc]

theorem isWord_toString (n : Nat) : IsWord (toString n).toList := by
  rw [Nat.toString_eq_repr, Nat.repr_eq_ofList_toDigits, String.toList_ofList]
  intro c hc
  exact .inl (isAlphanum_of_isDigit (Nat.isDigit_of_mem_toDigits (by decide) (by decide) hc))

theorem isWord_responseName (status : Http.Status) : IsWord (status.responseName "").toList := by
  have hresponse : IsWord "Response".toList := by decide
  have hdefault : IsWord "DefaultResponse".toList := by decide
  unfold Http.Status.responseName
  split
  · split
    · simp only [String.toList_append]
      exact isWord_append (isWord_append (by decide) hresponse) (isWord_pascalCase _)
    · simp only [String.toList_append]
      exact isWord_append (isWord_append (by decide) (isWord_toString _)) hresponse
  · simp only [String.toList_append]
    exact isWord_append (isWord_append (by decide) (isWord_toString _)) (by decide)
  · rwa [String.empty_append]
  · simp only [String.toList_append]
    exact isWord_append (isWord_append (by decide) (isWord_pascalCase _)) hresponse

/-! ## Names of methods -/

theorem isIdentifier_of_isWord {s : String} {c : Char} {rest : List Char}
    (hs : s.toList = c :: rest) (h : IsWord s.toList) (hc : c.isDigit = false) :
    IsIdentifier s.toList := by
  refine ⟨by simp [hs], fun d hd => ?_, by simpa [hs] using hc⟩
  exact isIdentifierChar_iff.mpr ((h d hd).imp_right .inl)

theorem toLower_of_isUpper {c : Char} (hc : c.isUpper = true) :
    c.toLower.isAlphanum = true ∧ c.toLower.isDigit = false ∧ c.toLower.toUpper = c :=
  of_isAlphanum (P := fun c => c.isUpper = true →
    c.toLower.isAlphanum = true ∧ c.toLower.isDigit = false ∧ c.toLower.toUpper = c)
    (by decide +kernel) (isAlphanum_of_isUpper hc) hc

/-- The method for an operation whose name starts with a letter starts with the small letter,
perhaps behind an underscore. -/
theorem methodName_of_isUpper {name : String} {c : Char} {rest : List Char}
    (hname : name.toList = c :: rest) (hc : c.isUpper = true)
    (hrest : ∀ d ∈ rest, d.isAlphanum = true) :
    methodName name = String.ofList (guardReserved (c.toLower :: rest)) := by
  obtain ⟨halphanum, hdigit, -⟩ := toLower_of_isUpper hc
  have hlower : (lowercaseFirst name).toList = c.toLower :: rest := by
    rw [lowercaseFirst, hname, String.toList_ofList, mapFirst,
      lowerChar_of_ascii (toNat_lt_of_isAlphanum (isAlphanum_of_isUpper hc)),
      List.singleton_append]
  have hword : IsWord (lowercaseFirst name).toList := by
    rw [hlower]
    exact List.forall_mem_cons.mpr ⟨.inl halphanum, fun d hd => .inl (hrest d hd)⟩
  rw [methodName, sanitizeIdentifier_of_isIdentifier (isIdentifier_of_isWord hlower hword hdigit),
    hlower]

/-- The method for an operation whose name starts with an underscore has the same name. -/
theorem methodName_of_underscore {name : String} {rest : List Char}
    (hname : name.toList = '_' :: rest) (h : IsWord name.toList) : methodName name = name := by
  have hlower : lowercaseFirst name = name := by
    have hunderscore : lowerChar '_' = ['_'] := by decide
    rw [lowercaseFirst, hname, mapFirst, hunderscore, List.singleton_append, ← hname,
      String.ofList_toList]
  have hunreserved : name ∉ reservedWords := fun hmem =>
    head?_ne_underscore_of_mem_reservedWords hmem (by simp [hname])
  rw [methodName, hlower, sanitizeIdentifier_eq_self_iff, isFreeIdentifier_iff]
  exact ⟨isIdentifier_of_isWord hname h (by decide), hunreserved⟩

/-- The name of the operation that a method is for. -/
def operationOfMethod (method : List Char) : List Char :=
  match method with
  | '_' :: c :: rest => if c.isDigit then '_' :: c :: rest else c.toUpper :: rest
  | c :: rest => c.toUpper :: rest
  | [] => []

theorem operationOfMethod_methodName {name : String} (h : IsPascal name.toList) :
    operationOfMethod (methodName name).toList = name.toList := by
  generalize hname : name.toList = cs at h
  cases h with
  | @letter c rest hc hrest =>
      rw [methodName_of_isUpper hname hc hrest, String.toList_ofList]
      obtain ⟨halphanum, hdigit, hupper⟩ := toLower_of_isUpper hc
      unfold guardReserved
      split
      · -- The underscore stands before a letter here, so it does not belong to the operation.
        simp [operationOfMethod, hdigit, hupper]
      · unfold operationOfMethod
        split
        · next heq =>
            obtain ⟨h, -⟩ := List.cons.inj heq
            rw [h] at halphanum
            contradiction
        · next heq =>
            obtain ⟨rfl, rfl⟩ := List.cons.inj heq
            rw [hupper]
        · next heq => cases heq
  | @digit c rest hc hrest =>
      have hword : IsWord name.toList := by
        rw [hname]
        exact (IsPascal.digit hc hrest).isWord
      rw [methodName_of_underscore hname hword, hname]
      simp [operationOfMethod, hc]

theorem methodName_injective {name name' : String} (h : IsPascal name.toList)
    (h' : IsPascal name'.toList) (heq : methodName name = methodName name') : name = name' := by
  have hlist := congrArg (operationOfMethod ·.toList) heq
  simp only [operationOfMethod_methodName h, operationOfMethod_methodName h'] at hlist
  exact String.toList_injective hlist

/-! ## Names in the module -/

/-- The names declared for an operation. -/
def NamedOperation.declaredNames (n : NamedOperation) (o : TypedOperation) : List String :=
  (o.request.map fun _ => requestName n.name).toList ++ n.responseNames ++ [unionName n.name]

theorem NamedOperation.Declared.map_name_declarations {n : NamedOperation} {o : TypedOperation}
    (h : n.Declared o) : o.declarations.map Declaration.name = n.declaredNames o := by
  rw [o.map_name_declarations, declaredNames, h.name_aliases, h.name_union]
  cases hr : o.request with
  | none => rfl
  | some r => simp [h.name_request r hr]

theorem isTypeName_of_mem_declaredNames {n : NamedOperation} {o : TypedOperation}
    (hn : IsPascal n.name.toList) {name : String} (h : name ∈ n.declaredNames o) :
    IsTypeName name.toList := by
  have hsuffix {suffix : String} (hsuffix : IsWord suffix.toList) :
      IsTypeName (n.name ++ suffix).toList := by
    rw [String.toList_append]
    exact isTypeName_append hn hsuffix
  unfold NamedOperation.declaredNames at h
  rcases List.mem_append.mp h with h | h
  · rcases List.mem_append.mp h with h | h
    · obtain ⟨_, -, rfl⟩ := Option.map_eq_some_iff.mp (Option.mem_toList.mp h)
      exact hsuffix (by decide)
    · obtain ⟨entry, -, rfl⟩ := List.mem_map.mp h
      rw [responseName_eq]
      exact hsuffix (isWord_responseName _)
  · rw [List.mem_singleton.mp h]
    exact hsuffix (by decide)

/-- The declarations of the module: the envelope, the status ranges and those of operations. -/
theorem mem_apiModule {operations : List TypedOperation} {d : Declaration}
    (h : d ∈ apiModule operations) :
    d = envelopeDeclaration ∨ d = statusRangeDeclaration ∨
      ∃ o ∈ operations, d ∈ o.declarations := by
  unfold apiModule at h
  rcases List.mem_append.mp h with h | h
  · rcases List.mem_cons.mp h with rfl | h
    · exact .inl rfl
    · split at h
      · exact .inr (.inl (List.mem_singleton.mp h))
      · cases h
  · exact .inr (.inr (List.mem_flatMap.mp h))

namespace Shows

variable {root : Json} {options : Options} {output : Output} {description : Description}
  {named : List NamedOperation} {operations : List TypedOperation}
  (h : Shows root options output description named operations)
include h

theorem isPascal : ∀ n ∈ named, IsPascal n.name.toList := by
  intro n hn
  obtain ⟨entry, hentry, hnames⟩ := exists_mem_right h.names hn
  exact isPascal_of_mem_operations hentry hnames

theorem isTypeName : ∀ d ∈ apiModule operations, IsTypeName d.name.toList := by
  intro d hd
  rcases mem_apiModule hd with rfl | rfl | ⟨o, ho, hd⟩
  · exact ⟨by decide, by decide, by simp [envelopeDeclaration, envelopeName]⟩
  · exact ⟨by decide, by decide, by simp [statusRangeDeclaration, statusRangeName]⟩
  · obtain ⟨n, hn, hdeclared⟩ := exists_mem_left h.declared ho
    refine isTypeName_of_mem_declaredNames (n := n) (o := o) (h.isPascal n hn) ?_
    rw [← hdeclared.map_name_declarations]
    exact List.mem_map_of_mem hd

end Shows

/-! ## The client -/

/-- A method of the client serves an operation: its name is an identifier that is not reserved, and
it refers to the request of the operation, if there is one, and to the union of its responses. -/
structure TypedOperation.Serves (o : TypedOperation) (m : Method) : Prop where
  legal : IsIdentifier m.name.toList
  not_reserved : m.name ∉ reservedWords
  arguments_eq : m.arguments.map (·.type) =
    (o.request.map fun request => .named request.declaration.name).toList
  result_eq : m.result = .generic "Promise" [.named o.responses.union.name]
  name_request : ∀ r, o.request = some r → r.declaration.name = requestName o.name
  name_union : o.responses.union.name = unionName o.name

theorem NamedOperation.Declared.serves {n : NamedOperation} {o : TypedOperation}
    (h : n.Declared o) : o.Serves o.method where
  legal := by
    rw [o.name_method]
    exact isIdentifier_sanitizeIdentifier _
  not_reserved := by
    rw [o.name_method]
    exact sanitizeIdentifier_not_mem_reservedWords _
  arguments_eq := by cases hr : o.request <;> simp [TypedOperation.method, hr]
  result_eq := rfl
  name_request := by
    rw [h.name_eq]
    exact h.name_request
  name_union := by rw [h.name_union, h.name_eq]

/-- The methods of distinct operations have distinct names. -/
theorem nodup_methodNames {names : List String} (hnodup : names.Nodup)
    (hnames : ∀ name ∈ names, IsPascal name.toList) : (names.map methodName).Nodup :=
  List.Nodup.map_on (fun _ hm _ hn h => methodName_injective (hnames _ hm) (hnames _ hn) h) hnodup

/-- Legal names for the operations of a description: operations are named in Pascal case, in
document order; the names of types are letters, digits and underscores and do not start with a
digit; and the client has one method for each operation, in the same order, with distinct names. -/
structure LegallyNamed (description : Description) (clientName : String)
    (operations : List TypedOperation) : Prop where
  names_eq : operations.map (·.name) =
    description.operations.map fun (path, method, operation, _) =>
      operationName path method operation
  pascal : ∀ o ∈ operations, IsPascal o.name.toList
  types : ∀ d ∈ apiModule operations, IsTypeName d.name.toList
  methods : ∃ methods, (apiClient clientName operations).definition = .interface {} methods ∧
    List.Forall₂ TypedOperation.Serves operations methods ∧ (methods.map Method.name).Nodup

/-- Whatever is generated is legally named. -/
theorem generate_legallyNamed (root : Json) (options : Options) (output : Output)
    (h : generate root options = .ok output) :
    ∃ description named operations, Shows root options output description named operations ∧
      LegallyNamed description (options.clientName.getD defaultClientName) operations := by
  obtain ⟨description, named, operations, hshows⟩ := generate_eq_ok.mp h
  have hnames : named.map (·.name) = description.operations.map fun (path, method, operation, _) =>
      operationName path method operation :=
    map_eq_map_of_forall₂ hshows.names fun _ _ hn => hn.1
  refine ⟨description, named, operations, hshows, hshows.map_name.trans hnames, ?_,
    hshows.isTypeName, operations.map TypedOperation.method, rfl, ?_, ?_⟩
  · intro o ho
    obtain ⟨n, hn, hdeclared⟩ := exists_mem_left hshows.declared ho
    rw [hdeclared.name_eq]
    exact hshows.isPascal n hn
  · rw [List.forall₂_map_right_iff, List.forall₂_same]
    intro o ho
    obtain ⟨n, -, hdeclared⟩ := exists_mem_left hshows.declared ho
    exact hdeclared.serves
  · have hnodup := nodup_methodNames hshows.nodup_names fun name hname => by
      obtain ⟨n, hn, rfl⟩ := List.mem_map.mp hname
      exact hshows.isPascal n hn
    have hmethods : (operations.map TypedOperation.method).map Method.name =
        (operations.map (·.name)).map methodName := by
      simp only [List.map_map, Function.comp_def, TypedOperation.name_method]
    rwa [hmethods, hshows.map_name]

/-- An operation whose name starts with a digit, and one whose method has a reserved name. -/
theorem generate_legallyNamed_of_reserved :
    let root : Json := .object [("paths", .object [("/codes", .object
      [("get", .object [("operationId", .text "2fa"),
          ("responses", .object [("5xx", .object [])])]),
       ("delete", .object [("operationId", .text "delete"),
          ("requestBody", .object [("content", .object [("multipart/form-data", .object [])])]),
          ("responses", .object [("204", .object [])])])])])]
    let output : Output :=
      { declarations := envelopeDeclaration.render ++ "\n" ++ statusRangeDeclaration.render ++
          "\nexport type _2fa5XXResponse = FullResponse<unknown, StatusRange<5>>;\n\n" ++
          "export type _2faResponses = _2fa5XXResponse;\n\n" ++
          "export interface DeleteRequest \x7b\n  'body'?: FormData;\n\x7d\n\n" ++
          "export type DeleteResponseNoContent = undefined;\n\n" ++
          "export type DeleteResponses = DeleteResponseNoContent;\n"
        client :=
          "export interface ApiClient \x7b\n  _2fa(): Promise<_2faResponses>;\n" ++
          "  _delete(request?: DeleteRequest): Promise<DeleteResponses>;\n\x7d\n" }
    generate root {} = .ok output ∧
      ∃ description named operations, Shows root {} output description named operations ∧
        LegallyNamed description "ApiClient" operations := by
  intro root output
  have h : generate root {} = .ok output := by decide +kernel
  exact ⟨h, generate_legallyNamed root {} output h⟩

end ApiTypings.OpenApi
