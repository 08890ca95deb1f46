import ApiTypings.OpenApi.Request.Basic
import ApiTypings.Proofs.OpenApi.Contexts
import ApiTypings.Proofs.OpenApi.Room
import ApiTypings.TypeScript.Render

/-! # Keywords that say the same

A constant is a single enumerated value, and a list of one declared type is that type. Null is the
exception to both: as a constant it is passed over, and in a list it is no type by itself.
-/

namespace ApiTypings.OpenApi

open TypeScript Outcome

/-! ## Constants -/

/-- The type of a single value: its literal, if it has one. -/
def typeOfValue (v : Json) : TypeExpr :=
  match Literal.ofJson? v with
  | some literal => .literal literal
  | none => .unknown

theorem ofEnumerated_singleton (v : Json) : TypeExpr.ofEnumerated false [v] = typeOfValue v := by
  simp only [TypeExpr.ofEnumerated, List.map_singleton, TypeExpr.unionOf, Literal.ofEnumerated?,
    typeOfValue]
  cases Literal.ofJson? v <;> rfl

namespace Schema

variable {direction : Direction} {expand : String → Except GenerationError TypeExpr}

/-- A constant without a literal is passed over, and nothing else is known then. -/
theorem typeWith_const (v : Json) :
    ({ const := some v } : Schema).typeWith direction expand = .ok (typeOfValue v) := by
  rw [typeWith_eq, decision, typeOfValue]
  simp only [Option.bind_some]
  cases Literal.ofJson? v <;> rfl

theorem typeWith_enum_singleton (v : Json) :
    ({ enum := some [v] } : Schema).typeWith direction expand = .ok (typeOfValue v) := by
  rw [← ofEnumerated_singleton, typeWith_eq]
  rfl

/-- Around a constant and a single enumerated value nothing else than their type counts. -/
theorem alike_const_enum (v : Json) :
    Context.Alike direction expand { const := some v } { enum := some [v] } where
  reference_eq := rfl
  similarValues := by
    refine .values ?_ rfl rfl .none rfl
    unfold SameType
    rw [typeWith_const, typeWith_enum_singleton]
    exact .refl _

theorem read_const {v : Json} (hv : v ≠ .null) :
    read (.object [("const", v)]) = .ok { const := some v } := by
  cases v with
  | null => contradiction
  | _ => rfl

end Schema

namespace Document

/-- A constant and a single enumerated value are typed, and with the same text wherever they stand
exactly if the value is not null. -/
theorem typeOf_constant (doc : Document) (v : Json) :
    ∃ s t : Schema, Schema.read (.object [("const", v)]) = .ok s ∧
      Schema.read (.object [("enum", .array [v])]) = .ok t ∧
      (∀ direction, ∃ type, doc.typeOf direction s = .ok type) ∧
      (∀ direction, doc.typeOf direction t = .ok (typeOfValue v)) ∧
      ((∀ direction (c : Schema.Context),
        Agrees (TypeExpr.render <$> doc.typeOf direction (c.fill s))
          (TypeExpr.render <$> doc.typeOf direction (c.fill t))) ↔ v ≠ .null) := by
  have henum (direction : Direction) :
      doc.typeOf direction { enum := some [v] } = .ok (typeOfValue v) :=
    Schema.typeWith_enum_singleton v
  by_cases hv : v = .null
  · subst hv
    have hconst (direction : Direction) : doc.typeOf direction {} = .ok .unknown := by rfl
    refine ⟨{}, { enum := some [.null] }, rfl, rfl, fun direction => ⟨_, hconst direction⟩, henum,
      ⟨fun h => ?_, fun h => absurd rfl h⟩⟩
    -- Without any context, one is `unknown` and the other one is `null`.
    have htext := (h .response .hole "unknown").mp (map_eq_ok.mpr ⟨_, hconst .response, rfl⟩)
    obtain ⟨type, htype, htext⟩ := map_eq_ok.mp htext
    obtain rfl : type = typeOfValue .null :=
      Except.ok.inj (htype.symm.trans (henum .response))
    exact absurd htext (by decide)
  · refine ⟨{ const := some v }, { enum := some [v] }, Schema.read_const hv, rfl,
      fun direction => ⟨_, Schema.typeWith_const v⟩, henum, ⟨fun _ => hv, fun _ direction c => ?_⟩⟩
    exact Agrees.map ((Schema.alike_const_enum v).sameType_fill c) TypeExpr.render

/-- Null as a constant admits everything, but not so as an enumerated value. -/
theorem exists_constant_ne_enumerated :
    let constant : Json := .object [("const", .null)]
    let enumerated : Json := .object [("enum", .array [.null])]
    Schema.read constant = .ok {} ∧ Schema.read enumerated = .ok { enum := some [.null] } ∧
      TypeExpr.render <$> (ofJson constant).typeOf .response {} = .ok "unknown" ∧
      TypeExpr.render <$> (ofJson enumerated).typeOf .response { enum := some [.null] } =
        .ok "null" := by
  exact ⟨by rfl, by rfl, by rfl, by rfl⟩

end Document

/-! ## Lists of one type -/

/-- Two schemas can stand for each other: they have the same type or the same error, and make the
same bodies or fail alike to do so. -/
def Document.Interchangeable (doc : Document) (s t : Schema) : Prop :=
  (∀ direction, doc.typeOf direction s = doc.typeOf direction t) ∧
    ∀ operation required, doc.jsonBody operation s required = doc.jsonBody operation t required

namespace Schema

/-- The schema with other keywords for the types that it declares. -/
def declaring (s : Schema) (type : Option TypeKeyword) (nullable : Option Bool) : Schema :=
  { s with type, nullable }

section

variable {s : Schema} {type type' : Option TypeKeyword} {nullable nullable' : Option Bool}
  (hdeclared : (s.declaring type nullable).declaredTypes =
    (s.declaring type' nullable').declaredTypes)
include hdeclared

theorem primaryType_declaring_eq :
    (s.declaring type nullable).primaryType = (s.declaring type' nullable').primaryType := by
  unfold primaryType
  rw [hdeclared]
  rfl

theorem bodyKind_declaring_eq (operation : String) :
    bodyKind operation (s.declaring type nullable) =
      bodyKind operation (s.declaring type' nullable') := by
  unfold bodyKind
  rw [primaryType_declaring_eq hdeclared]
  rfl

variable (hnullable : (s.declaring type nullable).isNullable =
    (s.declaring type' nullable').isNullable)
include hnullable

theorem typeWith_declaring_eq (direction : Direction)
    (expand : String → Except GenerationError TypeExpr) :
    (s.declaring type nullable).typeWith direction expand =
      (s.declaring type' nullable').typeWith direction expand := by
  have hprimary := primaryType_declaring_eq hdeclared
  rw [typeWith_eq, typeWith_eq, hnullable]
  simp only [declaredType, hdeclared, hprimary]
  rfl

/-- Of the keywords for types only the declared types count, and whether null is admitted. -/
theorem interchangeable_declaring (doc : Document) :
    doc.Interchangeable (s.declaring type nullable) (s.declaring type' nullable') := by
  have htype (direction : Direction) : doc.typeOf direction (s.declaring type nullable) =
      doc.typeOf direction (s.declaring type' nullable') :=
    typeWith_declaring_eq hdeclared hnullable direction _
  refine ⟨htype, fun operation required => ?_⟩
  unfold Document.jsonBody
  rw [htype]
  cases hreference : s.reference with
  | none =>
      have hderef (type : Option TypeKeyword) (nullable : Option Bool) :
          doc.deref (s.declaring type nullable) = .ok (s.declaring type nullable) :=
        Document.deref_of_reference_eq_none hreference
      rw [hderef, hderef]
      simp only [bind, Except.bind, bodyKind_declaring_eq hdeclared]
  | some pointer =>
      -- The kind is that of the schema behind the reference.
      have hderef : doc.deref (s.declaring type nullable) =
          doc.deref (s.declaring type' nullable') :=
        Document.deref_eq_deref hreference hreference
      rw [hderef]

end

theorem interchangeable_many (doc : Document) (s : Schema) {name : String} (hname : name ≠ "null") :
    doc.Interchangeable { s with type := some (.many [name]) }
      { s with type := some (.one name) } := by
  have hdeclared : (s.declaring (some (.many [name])) s.nullable).declaredTypes =
      (s.declaring (some (.one name)) s.nullable).declaredTypes := by
    simp [declaredTypes, declaring, hname]
  have hnullable : (s.declaring (some (.many [name])) s.nullable).isNullable =
      (s.declaring (some (.one name)) s.nullable).isNullable := by
    simp [isNullable, declaring, hname.symm]
  exact interchangeable_declaring hdeclared hnullable doc

theorem interchangeable_many_null (doc : Document) (s : Schema) :
    doc.Interchangeable { s with type := some (.many ["null"]) }
      { s with type := none, nullable := some true } := by
  have hdeclared : (s.declaring (some (.many ["null"])) s.nullable).declaredTypes =
      (s.declaring none (some true)).declaredTypes := rfl
  have hnullable : (s.declaring (some (.many ["null"])) s.nullable).isNullable =
      (s.declaring none (some true)).isNullable := by
    simp [isNullable, declaring]
  exact interchangeable_declaring hdeclared hnullable doc

end Schema

namespace Document

/-- A list of one type can stand for the type, whatever the other keywords are, exactly if the type
is not null: a list of null alone declares no type, and admits null besides what the other keywords
say. -/
theorem interchangeable_singleton (doc : Document) (name : String) :
    ((∀ s : Schema, doc.Interchangeable { s with type := some (.many [name]) }
      { s with type := some (.one name) }) ↔ name ≠ "null") ∧
    ∀ s : Schema, doc.Interchangeable { s with type := some (.many ["null"]) }
      { s with type := none, nullable := some true } := by
  refine ⟨⟨?_, fun hname s => s.interchangeable_many doc hname⟩, Schema.interchangeable_many_null doc⟩
  rintro h rfl
  -- Without other keywords, one is `unknown | null` and the other one is `null`.
  have htype := (h {}).1 .response
  cases htype

/-- The type `null` is null and no body, but in a list it admits everything. -/
theorem exists_singleton_not_interchangeable :
    let root : Json := .object
      [("Name", .object [("type", .text "null")]),
       ("List", .object [("type", .array [.text "null"])])]
    let doc := ofJson root
    let s : Schema := { type := some (.one "null") }
    let t : Schema := { type := some (.many ["null"]) }
    let type : TypeExpr := .union [.unknown, .null]
    doc.resolve Schema.read "#/Name" = .ok s ∧ doc.resolve Schema.read "#/List" = .ok t ∧
      doc.typeOf .response s = .ok .null ∧ doc.typeOf .response t = .ok type ∧
      doc.jsonBody "AddPet" s true = .error (.unsupportedBody "AddPet" "null") ∧
      doc.jsonBody "AddPet" t true = .ok (.json type .value true) ∧
      ¬doc.Interchangeable s t := by
  intro root doc s t type
  refine ⟨by rfl, by rfl, by rfl, by rfl, by rfl, by rfl, fun h => ?_⟩
  have htype := h.1 .response
  cases htype

end Document

end ApiTypings.OpenApi
