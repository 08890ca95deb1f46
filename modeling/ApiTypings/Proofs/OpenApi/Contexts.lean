import ApiTypings.Proofs.OpenApi.Parts

/-! # Schemas in contexts

Whether two schemas have the same type does not depend on where they stand: what has the same type
by itself has it inside any other schema, but for the few places where more than the type counts.
-/

namespace ApiTypings.OpenApi.Schema

open TypeScript Outcome

/-! ## Similar schemas -/

/-- Two properties have the same name and related schemas. -/
def SameName (R : Schema → Schema → Prop) (p q : String × Schema) : Prop :=
  p.1 = q.1 ∧ R p.2 q.2

/-- Additional properties of related schemas. More of these counts than their types: whether they
are objects, whether they say anything, and their own properties. -/
inductive SimilarValues (R : Schema → Schema → Prop) :
    AdditionalProperties Schema → AdditionalProperties Schema → Prop
  | flag (allowed : Bool) : SimilarValues R (.flag allowed) (.flag allowed)
  | values {u v : Schema} (h : R u v) (hprimary : u.primaryType = v.primaryType)
      (hinformative : u.isInformative = v.isInformative)
      (hproperties : Option.Rel (List.Forall₂ (SameName R)) u.properties v.properties)
      (hrequired : u.required = v.required) : SimilarValues R (.values u) (.values v)

/-- Two schemas have the same keywords, with related schemas inside. -/
structure Similar (R : Schema → Schema → Prop) (s t : Schema) : Prop where
  type_eq : s.type = t.type
  reference_eq : s.reference = t.reference
  wrapped : Option.Rel R s.wrapped t.wrapped
  properties : Option.Rel (List.Forall₂ (SameName R)) s.properties t.properties
  required_eq : s.required = t.required
  items : Option.Rel R s.items t.items
  enum_eq : s.enum = t.enum
  anyOf : Option.Rel (List.Forall₂ R) s.anyOf t.anyOf
  oneOf : Option.Rel (List.Forall₂ R) s.oneOf t.oneOf
  allOf : Option.Rel (List.Forall₂ R) s.allOf t.allOf
  additionalProperties :
    Option.Rel (SimilarValues R) s.additionalProperties t.additionalProperties
  discriminator_eq : s.discriminator = t.discriminator
  /-- A discriminator tells members by their references. -/
  references_eq : s.discriminator ≠ none →
    (s.oneOf.getD []).map reference = (t.oneOf.getD []).map reference
  format_eq : s.format = t.format
  const_eq : s.const = t.const
  nullable_eq : s.nullable = t.nullable

/-- The same keyword decides, with related schemas inside. -/
inductive Decision.Similar (R : Schema → Schema → Prop) : Decision → Decision → Prop
  | reference (pointer : String) : Similar R (.reference pointer) (.reference pointer)
  | wrapped {u v : Schema} (h : R u v) : Similar R (.wrapped u) (.wrapped v)
  | anyOf {us vs : List Schema} (h : List.Forall₂ R us vs) : Similar R (.anyOf us) (.anyOf vs)
  | oneOf {us vs : List Schema} (h : List.Forall₂ R us vs) : Similar R (.oneOf us) (.oneOf vs)
  | allOf {us vs : List Schema} (h : List.Forall₂ R us vs) : Similar R (.allOf us) (.allOf vs)
  | const (literal : Literal) : Similar R (.const literal) (.const literal)
  | declared : Similar R .declared .declared

theorem Similar.refl {R : Schema → Schema → Prop} (hR : ∀ s, R s s) (s : Schema) :
    Similar R s s := by
  have hmembers (members : List Schema) : List.Forall₂ R members members :=
    List.forall₂_same.mpr fun t _ => hR t
  have hproperties (properties : List (String × Schema)) :
      List.Forall₂ (SameName R) properties properties :=
    List.forall₂_same.mpr fun p _ => ⟨rfl, hR p.2⟩
  exact
    { type_eq := rfl
      reference_eq := rfl
      wrapped := rel_refl hR _
      properties := rel_refl hproperties _
      required_eq := rfl
      items := rel_refl hR _
      enum_eq := rfl
      anyOf := rel_refl hmembers _
      oneOf := rel_refl hmembers _
      allOf := rel_refl hmembers _
      additionalProperties := by
        refine rel_refl (fun values => ?_) _
        cases values with
        | flag allowed => exact .flag allowed
        | values u => exact .values (hR u) rfl rfl (rel_refl hproperties _) rfl
      discriminator_eq := rfl
      references_eq := fun _ => rfl
      format_eq := rfl
      const_eq := rfl
      nullable_eq := rfl }

namespace Similar

variable {R : Schema → Schema → Prop} {s t : Schema} (h : Similar R s t)
include h

theorem declaredTypes_eq : s.declaredTypes = t.declaredTypes := by
  unfold declaredTypes
  rw [h.type_eq]

theorem primaryType_eq : s.primaryType = t.primaryType := by
  unfold primaryType
  rw [h.declaredTypes_eq, isSome_eq_of_rel h.properties,
    isSome_eq_of_rel h.additionalProperties, isSome_eq_of_rel h.items]

theorem isNullable_eq : s.isNullable = t.isNullable := by
  unfold isNullable
  rw [h.nullable_eq, h.type_eq]

theorem isInformative_eq : s.isInformative = t.isInformative := by
  unfold isInformative isComposition
  rw [h.primaryType_eq, h.reference_eq, isSome_eq_of_rel h.anyOf, isSome_eq_of_rel h.oneOf,
    isSome_eq_of_rel h.allOf]

theorem propertySource :
    Option.Rel (fun source source' => List.Forall₂ (SameName R) source.1 source'.1 ∧
      source.2 = source'.2) s.propertySource t.propertySource := by
  have hproperties := h.properties
  have hadditional := h.additionalProperties
  unfold Schema.propertySource additionalSchema
  rw [h.required_eq]
  generalize s.properties = x at hproperties ⊢
  generalize t.properties = y at hproperties ⊢
  generalize s.additionalProperties = x' at hadditional ⊢
  generalize t.additionalProperties = y' at hadditional ⊢
  cases hproperties with
  | some hall => exact .some ⟨hall, rfl⟩
  | none =>
      cases hadditional with
      | none => exact .none
      | some hvalues =>
          cases hvalues with
          | flag allowed => exact .none
          | @values u v _ _ _ hproperties hrequired =>
              simp only [Option.bind_some]
              rw [hrequired]
              generalize u.properties = x at hproperties ⊢
              generalize v.properties = y at hproperties ⊢
              cases hproperties with
              | some hall => exact .some ⟨hall, rfl⟩
              | none => exact .none

theorem decision : s.decision.Similar R t.decision := by
  have hwrapped := h.wrapped
  have hanyOf := h.anyOf
  have honeOf := h.oneOf
  have hallOf := h.allOf
  unfold Schema.decision
  rw [h.reference_eq, h.const_eq]
  generalize s.wrapped = w at hwrapped ⊢
  generalize t.wrapped = w' at hwrapped ⊢
  generalize s.anyOf = x at hanyOf ⊢
  generalize t.anyOf = x' at hanyOf ⊢
  generalize s.oneOf = y at honeOf ⊢
  generalize t.oneOf = y' at honeOf ⊢
  generalize s.allOf = z at hallOf ⊢
  generalize t.allOf = z' at hallOf ⊢
  cases t.reference with
  | some pointer => exact .reference pointer
  | none =>
    cases hwrapped with
    | some huv => exact .wrapped huv
    | none =>
      cases hanyOf with
      | some hmembers => exact .anyOf hmembers
      | none =>
        cases honeOf with
        | some hmembers => exact .oneOf hmembers
        | none =>
          cases hallOf with
          | some hmembers => exact .allOf hmembers
          | none =>
            cases t.const.bind Literal.ofJson? with
            | some literal => exact .const literal
            | none => exact .declared

theorem similarValues (hR : R s t) : SimilarValues R (.values s) (.values t) :=
  .values hR h.primaryType_eq h.isInformative_eq h.properties h.required_eq

end Similar

/-! ## Types of similar schemas -/

variable {direction : Direction} {expand : String → Except GenerationError TypeExpr}

/-- Two schemas have the same type, if any. -/
def SameType (direction : Direction) (expand : String → Except GenerationError TypeExpr)
    (s t : Schema) : Prop :=
  Agrees (s.typeWith direction expand) (t.typeWith direction expand)

theorem SameType.refl (s : Schema) : SameType direction expand s s :=
  Agrees.refl _

theorem zipWith_congr_left {α β γ δ : Type} {f : α → β → γ} {r : α → δ}
    (hf : ∀ a a' b, r a = r a' → f a b = f a' b) {as as' : List α} (h : as.map r = as'.map r)
    (bs : List β) : List.zipWith f as bs = List.zipWith f as' bs := by
  induction as generalizing as' bs with
  | nil =>
      rw [List.map_nil] at h
      rw [List.map_eq_nil_iff.mp h.symm]
  | cons a as ih =>
      obtain ⟨a', as', rfl, ha, has⟩ := List.map_eq_cons_iff.mp h.symm
      cases bs with
      | nil => rfl
      | cons b bs =>
          rw [List.zipWith_cons_cons, List.zipWith_cons_cons, hf a a' b ha.symm, ih has.symm]

/-- Members are pinned by their references alone. -/
theorem pinMembers_congr {discriminator : Option Discriminator} {members members' : List Schema}
    (h : discriminator ≠ none → members.map reference = members'.map reference)
    (types : List TypeExpr) :
    pinMembers discriminator members types = pinMembers discriminator members' types := by
  cases discriminator with
  | none => rfl
  | some d =>
      have hreferences := h (by simp)
      have hall : members.all (·.reference.isSome) = members'.all (·.reference.isSome) := by
        have hsome := congrArg (·.all Option.isSome) hreferences
        simp only [List.all_map] at hsome
        exact hsome
      unfold pinMembers
      simp only [hall]
      split
      · exact zipWith_congr_left (fun u v type huv => by rw [huv]) hreferences types
      · rfl

theorem propertiesWith_agrees {required : List String}
    {properties properties' : List (String × Schema)}
    (h : List.Forall₂ (SameName (SameType direction expand)) properties properties') :
    Agrees (propertiesWith direction expand required properties)
      (propertiesWith direction expand required properties') := by
  rw [propertiesWith_eq_mapM, propertiesWith_eq_mapM]
  refine .mapM (h.imp ?_)
  rintro ⟨name, u⟩ ⟨name', v⟩ ⟨rfl, huv⟩
  exact huv.bind fun type _ => .refl _

theorem withValues_agrees {u v : Schema} (h : SameType direction expand u v)
    (hprimary : u.primaryType = v.primaryType) (shape : Shape TypeExpr) :
    Agrees (u.withValues shape fun _ => u.typeWith direction expand)
      (v.withValues shape fun _ => v.typeWith direction expand) := by
  unfold withValues
  rw [hprimary]
  split
  · exact .refl _
  · exact h.bind fun type _ => .refl _

/-- Of the keywords of a schema that its declared types decide, few count besides the types of its
items and as an object. -/
theorem typeNamed_agrees {s t : Schema}
    {item item' object object' : Except GenerationError TypeExpr}
    (henum : s.enum = t.enum) (hformat : s.format = t.format) (hitem : Agrees item item')
    (hobject : Agrees object object') (name : Option String) :
    Agrees (s.typeNamed direction (fun _ => item) (fun _ => object) name)
      (t.typeNamed direction (fun _ => item') (fun _ => object') name) := by
  unfold typeNamed
  rw [henum, hformat]
  split
  · exact hitem.bind fun type _ => .refl _
  · split
    · exact .refl _
    · split <;> first | exact hobject | exact .refl _

theorem declaredType_agrees {s t : Schema}
    {item item' object object' : Except GenerationError TypeExpr}
    (hdeclared : s.declaredTypes = t.declaredTypes) (hprimary : s.primaryType = t.primaryType)
    (henum : s.enum = t.enum) (hformat : s.format = t.format) (hitem : Agrees item item')
    (hobject : Agrees object object') :
    Agrees (s.declaredType direction (fun _ => item) (fun _ => object))
      (t.declaredType direction (fun _ => item') (fun _ => object')) := by
  have hname := @typeNamed_agrees direction _ _ _ _ _ _ henum hformat hitem hobject
  unfold declaredType
  rw [hdeclared, hprimary, henum]
  by_cases hlength : t.declaredTypes.length < 2
  · simp only [if_pos hlength]
    exact hname _
  · simp only [if_neg hlength]
    split
    · exact .refl _
    · refine Agrees.bind (.mapM ?_) fun types _ => .refl _
      exact List.forall₂_same.mpr fun name _ => hname (some name)

namespace Similar

variable {s t : Schema} (h : Similar (SameType direction expand) s t)
include h

theorem itemTypeWith_agrees :
    Agrees (s.itemTypeWith direction expand) (t.itemTypeWith direction expand) := by
  have hitems := h.items
  unfold itemTypeWith
  generalize s.items = x at hitems ⊢
  generalize t.items = y at hitems ⊢
  cases hitems with
  | none => exact .refl _
  | some huv => exact huv

theorem objectTypeWith_agrees :
    Agrees (s.objectTypeWith direction expand) (t.objectTypeWith direction expand) := by
  have hsource := h.propertySource
  have hadditional := h.additionalProperties
  unfold objectTypeWith additionalSchema
  generalize s.propertySource = x at hsource ⊢
  generalize t.propertySource = y at hsource ⊢
  generalize s.additionalProperties = x' at hadditional ⊢
  generalize t.additionalProperties = y' at hadditional ⊢
  cases hsource with
  | @some source source' hsource =>
      obtain ⟨properties, required⟩ := source
      obtain ⟨properties', required'⟩ := source'
      obtain ⟨hproperties, hrequired⟩ := hsource
      cases hrequired
      refine (propertiesWith_agrees hproperties).bind fun shape _ => ?_
      cases hadditional with
      | none => exact .refl _
      | some hvalues =>
          cases hvalues with
          | flag allowed => exact .refl _
          | values huv hprimary => exact withValues_agrees huv hprimary _
  | none =>
      cases hadditional with
      | none => exact .refl _
      | some hvalues =>
          cases hvalues with
          | flag allowed => exact .refl _
          | @values u v huv _ hinformative =>
              simp only [hinformative]
              split
              · exact huv.map _
              · exact .refl _

theorem declaredType_agrees :
    Agrees
      (s.declaredType direction (fun _ => s.itemTypeWith direction expand)
        (fun _ => s.objectTypeWith direction expand))
      (t.declaredType direction (fun _ => t.itemTypeWith direction expand)
        (fun _ => t.objectTypeWith direction expand)) :=
  Schema.declaredType_agrees h.declaredTypes_eq h.primaryType_eq h.enum_eq h.format_eq
    h.itemTypeWith_agrees h.objectTypeWith_agrees

/-- Similar schemas around schemas of the same type have the same type. -/
theorem sameType : SameType direction expand s t := by
  unfold SameType
  rw [typeWith_eq, typeWith_eq]
  have hdecision := h.decision
  generalize hs : s.decision = d at hdecision ⊢
  generalize ht : t.decision = d' at hdecision ⊢
  cases hdecision with
  | reference pointer => exact .refl _
  | wrapped huv => exact huv
  | anyOf hmembers => exact (Agrees.mapM hmembers).map _
  | @oneOf members members' hmembers =>
      have hreferences : s.discriminator ≠ none →
          members.map reference = members'.map reference := by
        have hall := h.references_eq
        rwa [(decides_of_decision hs).2.2, (decides_of_decision ht).2.2] at hall
      simp only [← h.discriminator_eq, pinMembers_congr hreferences]
      exact (Agrees.mapM hmembers).map _
  | allOf hmembers => exact (Agrees.mapM hmembers).map _
  | const literal => exact .refl _
  | declared =>
      rw [h.isNullable_eq]
      exact h.declaredType_agrees.map _

end Similar

/-! ## Contexts -/

/-- A schema with a hole in place of one of the schemas inside. -/
inductive Context where
  | hole
  | wrapped (s : Schema) (inner : Context)
  | property (s : Schema) (before : List (String × Schema)) (name : String) (inner : Context)
      (after : List (String × Schema))
  | item (s : Schema) (inner : Context)
  | anyOf (s : Schema) (before : List Schema) (inner : Context) (after : List Schema)
  | oneOf (s : Schema) (before : List Schema) (inner : Context) (after : List Schema)
  | allOf (s : Schema) (before : List Schema) (inner : Context) (after : List Schema)
  | values (s : Schema) (inner : Context)

namespace Context

/-- The context with a schema in its hole. -/
def fill : Context → Schema → Schema
  | hole, u => u
  | wrapped s inner, u => { s with wrapped := some (inner.fill u) }
  | property s before name inner after, u =>
      { s with properties := some (before ++ (name, inner.fill u) :: after) }
  | item s inner, u => { s with items := some (inner.fill u) }
  | anyOf s before inner after, u => { s with anyOf := some (before ++ inner.fill u :: after) }
  | oneOf s before inner after, u => { s with oneOf := some (before ++ inner.fill u :: after) }
  | allOf s before inner after, u => { s with allOf := some (before ++ inner.fill u :: after) }
  | values s inner, u => { s with additionalProperties := some (.values (inner.fill u)) }

/-- A reference may stand in the hole: the hole is not the schema of additional properties, nor a
member that a discriminator tells by its reference. -/
def AdmitsReference : Context → Prop
  | hole => True
  | wrapped _ inner | property _ _ _ inner _ | item _ inner | anyOf _ _ inner _
  | allOf _ _ inner _ => inner.AdmitsReference
  | oneOf s _ inner _ => (inner = hole → s.discriminator = none) ∧ inner.AdmitsReference
  | values _ inner => inner ≠ hole ∧ inner.AdmitsReference

theorem forall₂_append_cons {α : Type} {R : α → α → Prop} (hR : ∀ a, R a a) {a b : α}
    (h : R a b) (before after : List α) :
    List.Forall₂ R (before ++ a :: after) (before ++ b :: after) :=
  List.rel_append (List.forall₂_same.mpr fun c _ => hR c)
    (.cons h (List.forall₂_same.mpr fun c _ => hR c))

variable {u v : Schema}

theorem sameType_of_similar {c : Context} (h : SameType direction expand u v)
    (hsimilar : c ≠ hole → Similar (SameType direction expand) (c.fill u) (c.fill v)) :
    SameType direction expand (c.fill u) (c.fill v) := by
  by_cases hc : c = hole
  · subst hc
    exact h
  · exact (hsimilar hc).sameType

/-- Two schemas are alike if they have the same type and nothing else that counts around them
differs. -/
structure Alike (direction : Direction) (expand : String → Except GenerationError TypeExpr)
    (u v : Schema) : Prop where
  reference_eq : u.reference = v.reference
  similarValues : SimilarValues (SameType direction expand) (.values u) (.values v)

theorem Alike.sameType (h : Alike direction expand u v) : SameType direction expand u v := by
  cases h.similarValues
  assumption

/-- Around the hole everything is the same, whatever is in it. -/
theorem similar_fill {c : Context} (hc : c.AdmitsReference ∨ Alike direction expand u v)
    (hne : c ≠ hole) (h : SameType direction expand u v) :
    Similar (SameType direction expand) (c.fill u) (c.fill v) := by
  have hrefl := Similar.refl (R := SameType direction expand) SameType.refl
  induction c with
  | hole => exact absurd rfl hne
  | wrapped s inner ih =>
      have hinner := sameType_of_similar h (ih hc)
      exact { hrefl s with wrapped := .some hinner }
  | property s before name inner after ih =>
      have hinner := sameType_of_similar h (ih hc)
      have hall := forall₂_append_cons (R := SameName (SameType direction expand))
        (a := (name, inner.fill u)) (b := (name, inner.fill v)) (fun p => ⟨rfl, .refl p.2⟩)
        ⟨rfl, hinner⟩ before after
      exact { hrefl s with properties := .some hall }
  | item s inner ih =>
      have hinner := sameType_of_similar h (ih hc)
      exact { hrefl s with items := .some hinner }
  | anyOf s before inner after ih =>
      have hinner := sameType_of_similar h (ih hc)
      exact { hrefl s with anyOf := .some (forall₂_append_cons SameType.refl hinner before after) }
  | oneOf s before inner after ih =>
      have hinside := ih (hc.imp_left And.right)
      refine
        { hrefl s with
          oneOf := .some
            (forall₂_append_cons SameType.refl (sameType_of_similar h hinside) before after)
          references_eq := fun hdiscriminator => ?_ }
      have hreference : (inner.fill u).reference = (inner.fill v).reference := by
        by_cases hhole : inner = hole
        · -- Members are told apart, so only schemas with the same reference may stand there.
          subst hhole
          exact (hc.resolve_left fun hc => hdiscriminator (hc.1 rfl)).reference_eq
        · exact (hinside hhole).reference_eq
      simp [fill, hreference]
  | allOf s before inner after ih =>
      have hinner := sameType_of_similar h (ih hc)
      exact { hrefl s with allOf := .some (forall₂_append_cons SameType.refl hinner before after) }
  | values s inner ih =>
      have hvalues : SimilarValues (SameType direction expand)
          (.values (inner.fill u)) (.values (inner.fill v)) := by
        by_cases hhole : inner = hole
        · subst hhole
          exact (hc.resolve_left fun hc => hc.1 rfl).similarValues
        · have hsimilar := ih (hc.imp_left And.right) hhole
          exact hsimilar.similarValues hsimilar.sameType
      exact { hrefl s with additionalProperties := .some hvalues }

/-- A schema in a context may be replaced by another one of the same type. -/
theorem sameType_fill {c : Context} (hc : c.AdmitsReference) (h : SameType direction expand u v) :
    SameType direction expand (c.fill u) (c.fill v) :=
  sameType_of_similar h fun hne => similar_fill (.inl hc) hne h

/-- A schema may be replaced by one that is alike in any context. -/
theorem Alike.sameType_fill (h : Alike direction expand u v) (c : Context) :
    SameType direction expand (c.fill u) (c.fill v) :=
  sameType_of_similar h.sameType fun hne => similar_fill (.inr h) hne h.sameType

end Context

end ApiTypings.OpenApi.Schema
