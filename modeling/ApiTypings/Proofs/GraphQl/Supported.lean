import ApiTypings.Proofs.GraphQl.Resolution

/-! # Fields that can be projected

Which types a field can have is said apart from their translation, and so is what is reported of the
others. A projection succeeds exactly if every field of every projected type can be projected; else
it reports the first one that cannot.
-/

namespace ApiTypings.GraphQl

open TypeScript Outcome

/-! ## Types of fields -/

/-- The scalars that are texts. -/
def textScalars : List String :=
  ["String", "ID", "Date", "DateTime"]

/-- The scalars that are numbers. -/
def numberScalars : List String :=
  ["Int", "Float"]

/-- The type that a field of a type has. -/
inductive TypeRef.Typed (t : TypeRef) : TypeExpr → Prop
  | text {name : String} (hkind : t.kind = .scalar) (hname : t.name = some name)
      (hscalar : name ∈ textScalars) : t.Typed .string
  | number {name : String} (hkind : t.kind = .scalar) (hname : t.name = some name)
      (hscalar : name ∈ numberScalars) : t.Typed .number
  | list {item : TypeRef} {name : String} (hkind : t.kind = .list) (hitem : t.ofType = some item)
      (hname : item.name = some name) : t.Typed (.array (.named (Text.capitalizeFirst name)))
  | object {name : String} (hkind : t.kind = .object) (hname : t.name = some name) :
      t.Typed (.named (Text.capitalizeFirst name))

/-- Whether a field can have a type: a scalar of the table, a list whose items are named, or a named
object. -/
def TypeRef.IsSupported (t : TypeRef) : Prop :=
  (t.kind = .scalar ∧ ∃ name ∈ textScalars ++ numberScalars, t.name = some name) ∨
    (t.kind = .list ∧ ∃ item name, t.ofType = some item ∧ item.name = some name) ∨
    (t.kind = .object ∧ ∃ name, t.name = some name)

/-- The name that is reported of a type that no field can have. -/
inductive TypeRef.Reported (t : TypeRef) : String → Prop
  | scalar {name : String} (hkind : t.kind = .scalar) (hname : t.name = some name)
      (hscalar : name ∉ textScalars ++ numberScalars) : t.Reported name
  | unnamed (hkind : t.kind = .scalar ∨ t.kind = .object) (hname : t.name = none) :
      t.Reported t.kind.name
  | listOfNothing (hkind : t.kind = .list) (hitem : t.ofType = none) : t.Reported Kind.list.name
  | listOfUnnamed {item : TypeRef} (hkind : t.kind = .list) (hitem : t.ofType = some item)
      (hname : item.name = none) : t.Reported item.kind.name
  | kind (hkind : t.kind ∉ [.scalar, .list, .object]) : t.Reported t.kind.name

theorem isSupported_iff {t : TypeRef} : t.IsSupported ↔ ∃ type, t.Typed type := by
  constructor
  · rintro (⟨hkind, name, hscalar, hname⟩ | ⟨hkind, item, name, hitem, hname⟩ |
      ⟨hkind, name, hname⟩)
    · rcases List.mem_append.mp hscalar with hscalar | hscalar
      · exact ⟨_, .text hkind hname hscalar⟩
      · exact ⟨_, .number hkind hname hscalar⟩
    · exact ⟨_, .list hkind hitem hname⟩
    · exact ⟨_, .object hkind hname⟩
  · rintro ⟨type, h⟩
    cases h with
    | text hkind hname hscalar => exact .inl ⟨hkind, _, List.mem_append_left _ hscalar, hname⟩
    | number hkind hname hscalar => exact .inl ⟨hkind, _, List.mem_append_right _ hscalar, hname⟩
    | list hkind hitem hname => exact .inr (.inl ⟨hkind, _, _, hitem, hname⟩)
    | object hkind hname => exact .inr (.inr ⟨hkind, _, hname⟩)

theorem exists_typed_or_reported (t : TypeRef) :
    (∃ type, t.Typed type) ∨ ∃ name, t.Reported name := by
  cases hkind : t.kind with
  | scalar =>
      cases hname : t.name with
      | none => exact .inr ⟨_, .unnamed (.inl hkind) hname⟩
      | some name =>
          by_cases hscalar : name ∈ textScalars ++ numberScalars
          · exact .inl (isSupported_iff.mp (.inl ⟨hkind, name, hscalar, hname⟩))
          · exact .inr ⟨name, .scalar hkind hname hscalar⟩
  | object =>
      cases hname : t.name with
      | none => exact .inr ⟨_, .unnamed (.inr hkind) hname⟩
      | some name => exact .inl ⟨_, .object hkind hname⟩
  | list =>
      cases hitem : t.ofType with
      | none => exact .inr ⟨_, .listOfNothing hkind hitem⟩
      | some item =>
          cases hname : item.name with
          | none => exact .inr ⟨_, .listOfUnnamed hkind hitem hname⟩
          | some name => exact .inl ⟨_, .list hkind hitem hname⟩
  | _ => exact .inr ⟨_, .kind (by rw [hkind]; decide)⟩

/-! ## The type of a field -/

theorem requireName_of_name_eq_some {t : TypeRef} {name : String} (h : t.name = some name) :
    t.requireName = .ok name := by
  rw [TypeRef.requireName, h]
  rfl

theorem requireName_of_name_eq_none {t : TypeRef} (h : t.name = none) :
    t.requireName = .error (.unknownType t.kind.name) := by
  rw [TypeRef.requireName, h]
  rfl

theorem fieldType_of_typed {t : TypeRef} {type : TypeExpr} (h : t.Typed type) :
    fieldType t = .ok type := by
  cases h with
  | text hkind hname hscalar =>
      rw [fieldType, hkind, requireName_of_name_eq_some hname]
      exact if_pos hscalar
  | @number name hkind hname hscalar =>
      have htext : ∀ name ∈ numberScalars, name ∉ textScalars := by decide
      rw [fieldType, hkind, requireName_of_name_eq_some hname]
      exact (if_neg (htext name hscalar)).trans (if_pos hscalar)
  | list hkind hitem hname =>
      rw [fieldType, hkind, hitem]
      simp only [requireName_of_name_eq_some hname]
      rfl
  | object hkind hname =>
      rw [fieldType, hkind, requireName_of_name_eq_some hname]
      rfl

theorem fieldType_of_reported {t : TypeRef} {name : String} (h : t.Reported name) :
    fieldType t = .error (.unknownType name) := by
  cases h with
  | scalar hkind hname hscalar =>
      rw [List.mem_append, not_or] at hscalar
      rw [fieldType, hkind, requireName_of_name_eq_some hname]
      exact (if_neg hscalar.1).trans (if_neg hscalar.2)
  | unnamed hkind hname =>
      rcases hkind with hkind | hkind <;>
      · rw [fieldType, hkind, requireName_of_name_eq_none hname, hkind]
        rfl
  | listOfNothing hkind hitem =>
      rw [fieldType, hkind, hitem]
      rfl
  | listOfUnnamed hkind hitem hname =>
      rw [fieldType, hkind, hitem]
      simp only [requireName_of_name_eq_none hname]
      rfl
  | kind hkind =>
      unfold fieldType
      split
      case h_4 => rfl
      all_goals simp_all

theorem fieldType_eq_ok {t : TypeRef} {type : TypeExpr} :
    fieldType t = .ok type ↔ t.Typed type := by
  refine ⟨fun h => ?_, fieldType_of_typed⟩
  rcases exists_typed_or_reported t with ⟨type', htyped⟩ | ⟨name, hreported⟩
  · rw [fieldType_of_typed htyped] at h
    cases h
    exact htyped
  · rw [fieldType_of_reported hreported] at h
    cases h

theorem fieldType_eq_error {t : TypeRef} {e : GenerationError} :
    fieldType t = .error e ↔ ∃ name, t.Reported name ∧ e = .unknownType name := by
  constructor
  · intro h
    rcases exists_typed_or_reported t with ⟨type, htyped⟩ | ⟨name, hreported⟩
    · rw [fieldType_of_typed htyped] at h
      cases h
    · rw [fieldType_of_reported hreported] at h
      cases h
      exact ⟨name, hreported, rfl⟩
  · rintro ⟨name, hreported, rfl⟩
    exact fieldType_of_reported hreported

/-! ## The properties of an interface -/

/-- The property for a field. -/
structure Field.HasProperty (f : Field) (p : Property TypeExpr) : Prop where
  name : p.name = f.name
  optional : p.optional = true
  typed : f.type.Typed p.type

theorem property_eq_ok_iff {f : Field} {p : Property TypeExpr} :
    f.property = .ok p ↔ f.HasProperty p := by
  refine bind_eq_ok.trans ?_
  simp only [fieldType_eq_ok]
  constructor
  · rintro ⟨type, htyped, h⟩
    cases h
    exact ⟨rfl, rfl, htyped⟩
  · rintro ⟨hname, hoptional, htyped⟩
    exact ⟨p.type, htyped, by rw [← hname, ← hoptional]; rfl⟩

theorem exists_property_eq_ok_iff {f : Field} :
    (∃ p, f.property = .ok p) ↔ f.type.IsSupported := by
  rw [isSupported_iff]
  simp only [property_eq_ok_iff]
  constructor
  · rintro ⟨p, hp⟩
    exact ⟨p.type, hp.typed⟩
  · rintro ⟨type, htyped⟩
    exact ⟨{ name := f.name, type, optional := true }, rfl, rfl, htyped⟩

theorem property_eq_error_iff {f : Field} {e : GenerationError} :
    f.property = .error e ↔ ∃ name, f.type.Reported name ∧ e = .unknownType name := by
  rw [← fieldType_eq_error]
  refine bind_eq_error.trans (or_iff_left ?_)
  rintro ⟨type, -, h⟩
  cases h

/-- The interface for a type under a name has an optional property for each field, in the order of
the fields. -/
def HasInterface (entry : String × FullType) (d : Declaration) : Prop :=
  ∃ properties, List.Forall₂ Field.HasProperty (entry.2.fields.getD []) properties ∧
    .interface (Text.capitalizeFirst entry.1) { properties } = d

theorem interface_eq_ok_iff {entry : String × FullType} {d : Declaration} :
    entry.2.interface entry.1 = .ok d ↔ HasInterface entry d := by
  rw [interface_eq_ok]
  simp only [mapM_eq_ok, property_eq_ok_iff]
  rfl

theorem interface_eq_error_iff {entry : String × FullType} {e : GenerationError} :
    entry.2.interface entry.1 = .error e ↔
      (entry.2.fields.getD []).mapM Field.property = .error e := by
  refine bind_eq_error.trans (or_iff_left ?_)
  rintro ⟨properties, -, h⟩
  cases h

/-! ## Projections -/

/-- The fields of the projected types, in reported order. -/
def IntrospectionSchema.projectedFields (skip : List String) (schema : IntrospectionSchema) :
    List Field :=
  (schema.projected skip).flatMap fun entry => entry.2.fields.getD []

theorem project_eq_ok_iff {skip : List String} {schema : IntrospectionSchema}
    {interfaces : List Declaration} :
    project skip schema = .ok interfaces ↔
      List.Forall₂ HasInterface (schema.projected skip) interfaces := by
  rw [project_eq, mapM_eq_ok]
  simp only [interface_eq_ok_iff]

/-- A projection fails as reading the fields of the projected types one after the other does. -/
theorem project_eq_error_iff_mapM {skip : List String} {schema : IntrospectionSchema}
    {e : GenerationError} :
    project skip schema = .error e ↔
      (schema.projectedFields skip).mapM Field.property = .error e := by
  rw [project_eq]
  exact mapM_eq_error_iff_flatMap fun entry e => interface_eq_error_iff

theorem exists_project_eq_ok_iff {skip : List String} {schema : IntrospectionSchema} :
    (∃ interfaces, project skip schema = .ok interfaces) ↔
      ∀ f ∈ schema.projectedFields skip, f.type.IsSupported := by
  rw [exists_eq_ok_iff]
  simp only [ne_eq, project_eq_error_iff_mapM, ← exists_property_eq_ok_iff]
  rw [← exists_mapM_eq_ok_iff, exists_eq_ok_iff]

theorem project_eq_error_iff {skip : List String} {schema : IntrospectionSchema}
    {e : GenerationError} :
    project skip schema = .error e ↔ ∃ before f after name,
      schema.projectedFields skip = before ++ f :: after ∧
        (∀ g ∈ before, g.type.IsSupported) ∧ f.type.Reported name ∧ e = .unknownType name := by
  rw [project_eq_error_iff_mapM, mapM_eq_error]
  simp only [exists_property_eq_ok_iff, property_eq_error_iff, exists_and_left]

theorem projectedName?_eq_some_iff {skip : List String} {t : FullType} {name : String} :
    t.projectedName? skip = some name ↔
      t.kind = .object ∧ t.name = some name ∧ name ∉ skip ∧ ¬"__".toList <+: name.toList := by
  unfold FullType.projectedName? isReserved
  rw [← List.isPrefixOf_iff_prefix, Bool.not_eq_true]
  cases t.name with
  | none => simp
  | some own =>
      simp only [Option.ite_none_right_eq_some, Option.some.injEq]
      constructor
      · rintro ⟨⟨hkind, hreserved, hskip⟩, rfl⟩
        exact ⟨hkind, rfl, hskip, hreserved⟩
      · rintro ⟨hkind, rfl, hskip, hreserved⟩
        exact ⟨⟨hkind, hreserved, hskip⟩, rfl⟩

theorem project_append (skip : List String) (types types' : List FullType) :
    project skip { types := types ++ types' } = do
      let interfaces ← project skip { types }
      let interfaces' ← project skip { types := types' }
      return interfaces ++ interfaces' := by
  simp only [project_eq, IntrospectionSchema.projected, List.filterMap_append, List.mapM_append]

/-- Two types have the same part in a projection: they agree in kind and name, and in their fields
if they are projected. -/
structure FullType.SameProjected (skip : List String) (t t' : FullType) : Prop where
  kind : t.kind = t'.kind
  name : t.name = t'.name
  fields : (t.projectedName? skip).isSome → t.fields = t'.fields

theorem FullType.SameProjected.eq_of_projectedName? {skip : List String} {t t' : FullType}
    {name : String} (h : t.SameProjected skip t') (hname : t.projectedName? skip = some name) :
    t = t' := by
  have hfields := h.fields (by rw [hname]; rfl)
  cases t
  cases t'
  rw [FullType.mk.injEq]
  exact ⟨h.kind, h.name, hfields⟩

theorem projected_eq_of_sameProjected {skip : List String} {schema schema' : IntrospectionSchema}
    (h : List.Forall₂ (FullType.SameProjected skip) schema.types schema'.types) :
    schema.projected skip = schema'.projected skip := by
  obtain ⟨types⟩ := schema
  obtain ⟨types'⟩ := schema'
  unfold IntrospectionSchema.projected
  dsimp only at h ⊢
  induction h with
  | nil => rfl
  | @cons t t' types types' ht _ ih =>
      have hname : t.projectedName? skip = t'.projectedName? skip := by
        unfold FullType.projectedName?
        rw [ht.kind, ht.name]
      rw [List.filterMap_cons, List.filterMap_cons, ih, ← hname]
      cases hprojected : t.projectedName? skip with
      | none => rfl
      | some name =>
          rw [ht.eq_of_projectedName? hprojected]

/-- What a projection succeeds with and what it fails with: it succeeds exactly if the fields of all
projected types are supported, with an interface for each projected type in reported order; else it
reports the first field that is not. Types are projected one after the other, and the fields of
those that are not projected do not matter. -/
theorem project_exact (skip : List String) (schema : IntrospectionSchema) :
    (∀ (t : FullType) name, t.projectedName? skip = some name ↔
        t.kind = .object ∧ t.name = some name ∧ name ∉ skip ∧ ¬"__".toList <+: name.toList) ∧
      ((∃ interfaces, project skip schema = .ok interfaces) ↔
        ∀ f ∈ schema.projectedFields skip, f.type.IsSupported) ∧
      (∀ interfaces, project skip schema = .ok interfaces ↔
        List.Forall₂ HasInterface (schema.projected skip) interfaces) ∧
      (∀ e, project skip schema = .error e ↔ ∃ before f after name,
        schema.projectedFields skip = before ++ f :: after ∧
          (∀ g ∈ before, g.type.IsSupported) ∧ f.type.Reported name ∧ e = .unknownType name) ∧
      (∀ schema', project skip { types := schema.types ++ schema'.types } = do
        let interfaces ← project skip schema
        let interfaces' ← project skip schema'
        return interfaces ++ interfaces') ∧
      ∀ schema', List.Forall₂ (FullType.SameProjected skip) schema.types schema'.types →
        project skip schema = project skip schema' := by
  refine ⟨fun t name => projectedName?_eq_some_iff, exists_project_eq_ok_iff,
    fun interfaces => project_eq_ok_iff, fun e => project_eq_error_iff, fun schema' => ?_,
    fun schema' h => ?_⟩
  · exact project_append skip schema.types schema'.types
  · rw [project_eq, project_eq, projected_eq_of_sameProjected h]

/-- A skipped type with a field that no interface can have, and a type whose second field is wrapped
or is not. -/
theorem project_exact_of_skipped :
    let wrapped : TypeRef :=
      { kind := .nonNull, ofType := some { kind := .scalar, name := some "ID" } }
    let owners : TypeRef :=
      { kind := .list, ofType := some { kind := .object, name := some "owner" } }
    let root (fields : Option (List Field)) : FullType :=
      { kind := .object, name := some "Root", fields }
    let pet (owners : TypeRef) : FullType :=
      { kind := .object
        name := some "pet"
        fields := some
          [{ name := "id", type := { kind := .scalar, name := some "ID" } },
           { name := "owners", type := owners }] }
    let interface : Declaration := .interface "Pet" { properties :=
      [{ name := "id", type := .string, optional := true },
       { name := "owners", type := .array (.named "Owner"), optional := true }] }
    project ["Root"] { types := [root none, pet owners] } = .ok [interface] ∧
      project ["Root"] { types := [root (some [{ name := "me", type := wrapped }]), pet owners] } =
        .ok [interface] ∧
      project ["Root"] { types := [root none, pet wrapped] } = .error (.unknownType "NON_NULL") ∧
      project ["Root"] { types := [pet owners] ++ [root none, pet owners] } =
        .ok [interface, interface] := by
  intro wrapped owners root pet interface
  obtain ⟨-, -, hok, -, happend, hsame⟩ :=
    project_exact ["Root"] { types := [root none, pet owners] }
  obtain ⟨-, -, hok', -, happend', -⟩ := project_exact ["Root"] { types := [pet owners] }
  obtain ⟨-, -, -, herror, -⟩ := project_exact ["Root"] { types := [root none, pet wrapped] }
  have hid : Field.HasProperty { name := "id", type := { kind := .scalar, name := some "ID" } }
      { name := "id", type := .string, optional := true } :=
    ⟨rfl, rfl, .text rfl rfl (by decide : "ID" ∈ textScalars)⟩
  have hcapital : Text.capitalizeFirst "pet" = "Pet" ∧ Text.capitalizeFirst "owner" = "Owner" := by
    decide +kernel
  have howners : Field.HasProperty { name := "owners", type := owners }
      { name := "owners", type := .array (.named "Owner"), optional := true } :=
    ⟨rfl, rfl, hcapital.2 ▸ .list rfl rfl rfl⟩
  have hinterface : HasInterface ("pet", pet owners) interface :=
    ⟨_, .cons hid (.cons howners .nil), by rw [hcapital.1]⟩
  have hproject := (hok [interface]).mpr (.cons hinterface .nil)
  have hproject' := (hok' [interface]).mpr (.cons hinterface .nil)
  refine ⟨hproject, ?_, (herror _).mpr ?_, ?_⟩
  · refine (hsame _ (.cons ⟨rfl, rfl, ?_⟩ (.cons ⟨rfl, rfl, fun _ => rfl⟩ .nil))).symm.trans
      hproject
    intro hprojected
    exact absurd hprojected (by decide)
  · exact ⟨[{ name := "id", type := { kind := .scalar, name := some "ID" } }],
      { name := "owners", type := wrapped }, [], _, rfl,
      List.forall_mem_singleton.mpr (.inl ⟨rfl, "ID", by decide, rfl⟩), .kind (by decide), rfl⟩
  · rw [happend' { types := [root none, pet owners] }, hproject, hproject']
    rfl

end ApiTypings.GraphQl
