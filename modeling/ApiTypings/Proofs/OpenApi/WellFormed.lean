import ApiTypings.Proofs.OpenApi.Names
import ApiTypings.Proofs.OpenApi.PropertyNames
import ApiTypings.Proofs.TypeScript.Token

/-! # Well-formed types

No object type that is generated has a property twice, and no union or intersection has fewer than
two members, so every type inside a declaration is written with some text.
-/

namespace ApiTypings.TypeScript

namespace TypeExpr

/-- No property of an object type has the name of another one, unions and intersections have at
least two members, and the names of types are not empty. -/
def IsWellFormed : TypeExpr → Prop
  | .object shape => (shape.properties.map Property.name).Nodup
  | .union members | .intersection members => 2 ≤ members.length
  | .named name => name ≠ ""
  | .primitive _ | .literal _ | .array _ | .record _ | .generic _ _ => True

instance : DecidablePred IsWellFormed
  | .object shape => inferInstanceAs (Decidable (shape.properties.map Property.name).Nodup)
  | .union members | .intersection members => inferInstanceAs (Decidable (2 ≤ members.length))
  | .named name => inferInstanceAs (Decidable (name ≠ ""))
  | .primitive _ | .literal _ | .array _ | .record _ | .generic _ _ =>
      inferInstanceAs (Decidable True)

theorem IsWellFormed.pinField {t : TypeExpr} (h : t.IsWellFormed) (field value : String) :
    (t.pinField field value).1.IsWellFormed := by
  cases t with
  | object shape =>
      simpa [IsWellFormed, TypeExpr.pinField, name_pinProperty, Function.comp_def] using h
  | union members => simpa [IsWellFormed, TypeExpr.pinField, fst_pinFields] using h
  | intersection members => simpa [IsWellFormed, TypeExpr.pinField, fst_pinFields] using h
  | _ => exact h

/-! ## Text -/

/-- Between two or more texts there is a separator. -/
theorem intercalate_ne_empty {separator : String} (hseparator : separator ≠ "")
    {texts : List String} (h : 2 ≤ texts.length) : separator.intercalate texts ≠ "" := by
  match texts with
  | [] | [_] => simp at h
  | first :: second :: rest => simp [String.intercalate_cons_cons, hseparator]

theorem literal_render_ne_empty (l : Literal) : l.render ≠ "" := by
  cases l with
  | string s => simp [Literal.render, Text.quote]
  | number d =>
      intro h
      exact (Token.isNumeral_render d).ne_empty (congrArg String.toList h)
  | integer i =>
      intro h
      exact (Token.isNumeral_toString i).ne_empty (congrArg String.toList h)
  | boolean b => cases b <;> decide
  | null => decide

/-- A well-formed type has a text. -/
theorem IsWellFormed.render_ne_empty {t : TypeExpr} (h : t.IsWellFormed) : t.render ≠ "" := by
  cases t with
  | primitive p => cases p <;> decide
  | literal l => exact literal_render_ne_empty l
  | array item => simp [render]
  | union members =>
      rw [render, renderAll_eq_map]
      exact intercalate_ne_empty (by decide) (by simpa [IsWellFormed] using h)
  | intersection members =>
      rw [render, renderOperands_eq_map]
      exact intercalate_ne_empty (by decide) (by simpa [IsWellFormed] using h)
  | object shape =>
      rw [render]
      split <;> simp
  | record value => simp [render]
  | named name => exact h
  | generic name arguments => simp [render]

end TypeExpr

end ApiTypings.TypeScript

namespace ApiTypings.OpenApi

open TypeScript Outcome Reader

/-! ## Types of operations -/

theorem requestBuilding_isWellFormed :
    RequestBuilding Schema.HasDistinctNames TypeExpr.IsWellFormed where
  child hs hc t ht := hs t (ht.head hc)
  primitive _ := trivial
  literal _ := trivial
  date := by decide
  array _ := trivial
  record _ := trivial
  union _ h := h
  intersection _ h := h
  object s properties shape hs hproperties hnames := by
    rw [TypeExpr.IsWellFormed, hnames]
    exact hs s .refl properties hproperties
  pinField field value _ ht := ht.pinField field value
  form := by decide
  shape _ h := h

theorem declarationBuilding_isWellFormed {responses : Responses}
    (h : ∀ a ∈ responses.aliases, a.name ≠ "") :
    DeclarationBuilding Schema.HasDistinctNames TypeExpr.IsWellFormed responses where
  toRequestBuilding := requestBuilding_isWellFormed
  blob := by decide
  envelope _ _ := trivial
  range _ _ := trivial
  member := h

/-! ## The module -/

/-- The types that a declaration is made of, and all types inside them, are well formed and have a
text. -/
def IsWellFormed (d : Declaration) : Prop :=
  ∀ t ∈ d.definition.types, t.Throughout fun u => u.IsWellFormed ∧ u.render ≠ ""

theorem isWellFormed_of_throughout {d : Declaration}
    (h : ∀ t ∈ d.definition.types, t.Throughout TypeExpr.IsWellFormed) : IsWellFormed d :=
  fun t ht u hu => ⟨h t ht u hu, (h t ht u hu).render_ne_empty⟩

theorem isWellFormed_envelopeDeclaration : IsWellFormed envelopeDeclaration := by
  refine isWellFormed_of_throughout fun t ht => ?_
  rw [List.mem_singleton.mp ht]
  refine TypeExpr.throughout_object (by decide) ?_ (by simp)
  simp only [List.forall_mem_cons, List.not_mem_nil, false_implies, implies_true, and_true]
  exact ⟨TypeExpr.throughout_named (by decide),
    TypeExpr.throughout_record trivial (TypeExpr.throughout_primitive trivial),
    TypeExpr.throughout_named (by decide)⟩

theorem isWellFormed_statusRangeDeclaration : IsWellFormed statusRangeDeclaration := by
  refine isWellFormed_of_throughout fun t ht => ?_
  rw [List.mem_singleton.mp ht]
  refine requestBuilding_isWellFormed.throughout_intersection_pair
    (TypeExpr.throughout_primitive trivial) ?_
  refine TypeExpr.throughout_object (by decide) ?_ (by simp)
  exact List.forall_mem_singleton.mpr (TypeExpr.throughout_named (by decide))

namespace Shows

variable {root : Json} {options : Options} {output : Output} {description : Description}
  {named : List NamedOperation} {operations : List TypedOperation}
  (h : Shows root options output description named operations)
include h

theorem name_ne_empty {o : TypedOperation} (ho : o ∈ operations) {d : Declaration}
    (hd : d ∈ o.declarations) : d.name ≠ "" := by
  have hmem : d ∈ apiModule operations :=
    List.mem_append_right _ (List.mem_flatMap.mpr ⟨o, ho, hd⟩)
  intro heq
  exact (h.isTypeName d hmem).1 (by simp [heq])

/-- The declarations of an operation are well formed, since every alias has a name. -/
theorem isWellFormed_declarations (hroot : root.HasDistinctKeys) {o : TypedOperation}
    (ho : o ∈ operations) : ∀ d ∈ o.declarations, IsWellFormed d := by
  obtain ⟨n, hn, htyped⟩ := exists_mem_left h.typed ho
  have hparts := foundParts_of_namedOperations h.read_eq h.named_eq n hn
  have hQ : DeclarationBuilding Schema.HasDistinctNames TypeExpr.IsWellFormed o.responses :=
    declarationBuilding_isWellFormed fun a ha =>
      h.name_ne_empty ho (List.mem_append_left _ (List.mem_append_right _ ha))
  have hthroughout := hQ.declarations_throughout (covers_hasDistinctNames hroot) hparts htyped
  exact fun d hd => isWellFormed_of_throughout (hthroughout d hd)

/-- The union of the responses of an operation is an envelope if it has no members. -/
theorem members_ne_nil {o : TypedOperation} (ho : o ∈ operations) {members : List String}
    (hunion : o.responses.union.definition = .union members) : members ≠ [] := by
  obtain ⟨typed, heq⟩ := h.exists_ofTyped ho
  rw [heq] at hunion
  simp only [Responses.ofTyped] at hunion
  split at hunion <;> cases hunion
  simp_all

theorem isWellFormed_apiClient (clientName : String) :
    IsWellFormed (apiClient clientName operations) := by
  refine isWellFormed_of_throughout fun t ht => ?_
  rcases List.mem_cons.mp ht with rfl | ht
  · exact TypeExpr.throughout_object List.nodup_nil (by simp) (by simp)
  · obtain ⟨m, hm, ht⟩ := List.mem_flatMap.mp ht
    obtain ⟨o, ho, rfl⟩ := List.mem_map.mp hm
    rcases List.mem_append.mp ht with ht | ht
    · obtain ⟨r, hr, rfl⟩ : ∃ r, o.request = some r ∧ .named r.declaration.name = t := by
        simpa [TypedOperation.method] using ht
      have hmem : r.declaration ∈ o.declarations := by simp [TypedOperation.declarations, hr]
      exact TypeExpr.throughout_named (h.name_ne_empty ho hmem)
    · rw [List.mem_singleton.mp ht]
      refine TypeExpr.throughout_generic trivial (List.forall_mem_singleton.mpr ?_)
      exact TypeExpr.throughout_named (h.name_ne_empty ho (List.mem_append_right _ (by simp)))

end Shows

/-- Whatever is generated from a document without repeated keys is well formed. The union of the
responses of an operation is no type but a list of declared names: it has one for each response. -/
theorem generate_wellFormed (root : Json) (options : Options) (output : Output)
    (hroot : root.HasDistinctKeys) (h : generate root options = .ok output) :
    ∃ description named operations, Shows root options output description named operations ∧
      (∀ d ∈ apiModule operations, IsWellFormed d) ∧
      IsWellFormed (apiClient (options.clientName.getD defaultClientName) operations) ∧
      ∀ o ∈ operations, ∀ members, o.responses.union.definition = .union members →
        members ≠ [] := by
  obtain ⟨description, named, operations, hshows⟩ := generate_eq_ok.mp h
  refine ⟨description, named, operations, hshows, ?_, hshows.isWellFormed_apiClient _,
    fun o ho members hunion => hshows.members_ne_nil ho hunion⟩
  intro d hd
  rcases mem_apiModule hd with rfl | rfl | ⟨o, ho, hd⟩
  · exact isWellFormed_envelopeDeclaration
  · exact isWellFormed_statusRangeDeclaration
  · exact hshows.isWellFormed_declarations hroot ho d hd

/-- A flat request that drops the second of two parameters with one name, and has fields of a union
with null and of a union of two object types with pinned properties. -/
theorem generate_wellFormed_of_discriminator :
    let pet : Json :=
      .object [("properties", .object [("kind", .object [("type", .text "string")])])]
    let root : Json := .object
      [("paths", .object [("/pets", .object [("put", .object
        [("parameters", .array
          [.object [("name", .text "tag"), ("in", .text "query")],
           .object [("name", .text "tag"), ("in", .text "query")]]),
         ("requestBody", .object [("content", .object [("application/json", .object
          [("schema", .object [("properties", .object
            [("owner", .object [("type", .array [.text "string", .text "null"])]),
             ("pet", .object
              [("oneOf", .array
                [.object [("$ref", .text "#/Cat")], .object [("$ref", .text "#/Dog")]]),
               ("discriminator", .object [("propertyName", .text "kind")])])])])])])]),
         ("responses", .object [("204", .object [])])])])]),
       ("Cat", pet), ("Dog", pet)]
    let output : Output :=
      { declarations := envelopeDeclaration.render ++
          "\nexport interface PutPetsRequest \x7b\n" ++
          "  'tag'?: string;\n  'owner'?: string | null;\n" ++
          "  'pet'?: \x7b 'kind': 'Cat' \x7d | \x7b 'kind': 'Dog' \x7d;\n\x7d\n\n" ++
          "export type PutPetsResponseNoContent = undefined;\n\n" ++
          "export type PutPetsResponses = PutPetsResponseNoContent;\n"
        client :=
          "export interface ApiClient \x7b\n" ++
          "  putPets(request?: PutPetsRequest): Promise<PutPetsResponses>;\n\x7d\n"
        diagnostics := [{ operation := "PutPets", property := "tag", part := .query }] }
    root.HasDistinctKeys ∧ generate root {} = .ok output ∧
      ∃ description named operations, Shows root {} output description named operations ∧
        (∀ d ∈ apiModule operations, IsWellFormed d) ∧
        IsWellFormed (apiClient "ApiClient" operations) ∧
        ∀ o ∈ operations, ∀ members, o.responses.union.definition = .union members →
          members ≠ [] := by
  intro pet root output
  have hroot : root.HasDistinctKeys := by decide +kernel
  have h : generate root {} = .ok output := by decide +kernel
  exact ⟨hroot, h, generate_wellFormed root {} output hroot h⟩

end ApiTypings.OpenApi
