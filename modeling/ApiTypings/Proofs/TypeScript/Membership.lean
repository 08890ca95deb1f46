import ApiTypings.Proofs.Json.Same
import ApiTypings.TypeScript.Value

/-! # The JSON values of a type

Membership is structural: an object may have more properties than an object type names, and a
property that may be missing is one that is not required.
-/

namespace ApiTypings.TypeScript

/-! ## Membership -/

def Literal.toJson : Literal → Json
  | .string s => .text s
  | .number d => .number (.double d)
  | .integer i => .number (.integer i)
  | .boolean b => .boolean b
  | .null => .null

/-- The JSON values of a predefined type. None is undefined. -/
def Primitive.Admits (p : Primitive) (v : Json) : Prop :=
  match p with
  | .string => ∃ s, v = .text s
  | .number => ∃ n, v = .number n
  | .boolean => ∃ b, v = .boolean b
  | .null => v = .null
  | .undefined => False
  | .unknown => True
  | .object => ∃ entries, v = .object entries

/-- The JSON values of a type. A type that is only named, such as that of dates, has none. -/
inductive TypeExpr.Admits : TypeExpr → Json → Prop
  | primitive {p : Primitive} {v : Json} (h : p.Admits v) : Admits (.primitive p) v
  | literal {l : Literal} {v : Json} (h : v.Same l.toJson) : Admits (.literal l) v
  | array {item : TypeExpr} {vs : List Json} (h : ∀ v ∈ vs, Admits item v) :
      Admits (.array item) (.array vs)
  | union {members : List TypeExpr} {t : TypeExpr} {v : Json} (ht : t ∈ members)
      (h : Admits t v) : Admits (.union members) v
  | intersection {members : List TypeExpr} {v : Json} (h : ∀ t ∈ members, Admits t v) :
      Admits (.intersection members) v
  | object {shape : Shape TypeExpr} {entries : List (String × Json)}
      (typed : ∀ p ∈ shape.properties, ∀ v, Json.get? p.name entries = some v → Admits p.type v)
      (present : ∀ p ∈ shape.properties, p.optional = false →
        (Json.get? p.name entries).isSome)
      (index : ∀ t, shape.index = some t → ∀ key v, Json.get? key entries = some v →
        key ∉ shape.properties.map Property.name → Admits t v) :
      Admits (.object shape) (.object entries)
  | record {value : TypeExpr} {entries : List (String × Json)}
      (h : ∀ key v, Json.get? key entries = some v → Admits value v) :
      Admits (.record value) (.object entries)

namespace TypeExpr

variable {t : TypeExpr} {ts : List TypeExpr} {v : Json}

/-! ## Unions, intersections and null -/

theorem admits_unknown (v : Json) : unknown.Admits v :=
  .primitive trivial

theorem admits_unionOf (ht : t ∈ ts) (h : t.Admits v) : (unionOf ts).Admits v := by
  match ts with
  | [] => cases ht
  | [u] =>
      rw [List.mem_singleton.mp ht] at h
      exact h
  | _ :: _ :: _ => exact .union ht h

theorem admits_intersectionOf (h : ∀ t ∈ ts, t.Admits v) : (intersectionOf ts).Admits v := by
  match ts with
  | [] => exact admits_unknown v
  | [u] => exact h u List.mem_cons_self
  | _ :: _ :: _ => exact .intersection h

theorem admits_orNullIf {nullable : Bool} (h : t.Admits v) : (orNullIf nullable t).Admits v := by
  cases nullable with
  | false => exact h
  | true => exact .union List.mem_cons_self h

theorem orNullIf_true_admits_null (t : TypeExpr) : (orNullIf true t).Admits .null :=
  .union (List.mem_cons_of_mem t List.mem_cons_self) (.primitive rfl)

/-! ## Literals -/

theorem Literal.same_toJson_of_ofNumber? {n : Json.Number} {m : Json.Number} {l : Literal}
    (hl : Literal.ofNumber? n = some l) (h : m.Same n) : (Json.number m).Same l.toJson := by
  cases n with
  | double d =>
      cases hl
      exact .number h
  | integer i =>
      simp only [Literal.ofNumber?] at hl
      split at hl
      · cases hl
        exact .number h
      · -- Beyond 64 bits with a sign, the literal is the double that the integer denotes.
        obtain ⟨d, hd, rfl⟩ := Option.map_eq_some_iff.mp hl
        have hi : (Json.Number.integer i).double? = some (if i < 0 then d.neg else d) := by
          rw [Json.Number.double?, hd]
          rfl
        refine .number (.inr ?_)
        rcases h with rfl | ⟨d', e', hm, hn, hsame⟩
        · exact ⟨_, _, hi, rfl, .inl rfl⟩
        · rw [hi] at hn
          cases hn
          exact ⟨d', _, hm, rfl, hsame⟩

theorem admits_literal_string_iff {text : String} :
    (literal (.string text)).Admits v ↔ v = .text text := by
  constructor
  · intro h
    cases h with
    | literal h =>
        cases h
        rfl
  · rintro rfl
    exact .literal (.text text)

/-- A value that equals a scalar belongs to the type of its literal. -/
theorem admits_literal_of_ofJson? {value : Json} {l : Literal} (hl : Literal.ofJson? value = some l)
    (h : v.Same value) : (literal l).Admits v := by
  cases h with
  | number h => exact .literal (Literal.same_toJson_of_ofNumber? hl h)
  | array | object => cases hl
  | null | boolean | text =>
      cases hl
      exact .literal (by constructor)

theorem admits_literal_asString {value : Json} {l : Literal} (hl : Literal.ofJson? value = some l)
    (h : v.Same value) (hv : v = .null ∨ ∃ s, v = .text s) : (literal l.asString).Admits v := by
  rcases hv with rfl | ⟨s, rfl⟩
  · cases h
    cases hl
    exact .literal .null
  · cases h
    cases hl
    exact .literal (.text s)

/-- An enumerated value belongs to the union of the literals. -/
theorem admits_ofEnumerated {asText : Bool} {values : List Json} {value : Json}
    (hvalue : value ∈ values) (h : v.Same value)
    (htext : asText = true → v = .null ∨ ∃ s, v = .text s) :
    (ofEnumerated asText values).Admits v := by
  refine admits_unionOf (List.mem_map_of_mem hvalue) ?_
  unfold Literal.ofEnumerated?
  cases hl : Literal.ofJson? value with
  | none => exact admits_unknown v
  | some l =>
      cases asText with
      | false => exact admits_literal_of_ofJson? hl h
      | true => exact admits_literal_asString hl h (htext rfl)

/-! ## Pinned fields -/

theorem pinProperty_of_target {field : String} {p : Property TypeExpr} (hname : p.name = field)
    (htype : p.type = .string) (value : String) :
    pinProperty field value p =
      ({ p with type := .literal (.string value), optional := false }, true) := by
  have hstring : p.type = .primitive .string := htype
  simp [pinProperty, hstring, hname]

/-- Whether a property is pinned depends on its name and its type. -/
theorem pinProperty_eq (field value : String) (p : Property TypeExpr) :
    (p.name = field ∧ p.type = .string ∧
      pinProperty field value p =
        ({ p with type := .literal (.string value), optional := false }, true)) ∨
    (¬(p.name = field ∧ p.type = .string) ∧ pinProperty field value p = (p, false)) := by
  by_cases htarget : p.name = field ∧ p.type = .string
  · exact .inl ⟨htarget.1, htarget.2, pinProperty_of_target htarget.1 htarget.2 value⟩
  · refine .inr ⟨htarget, ?_⟩
    unfold pinProperty
    split
    · next htype => exact if_neg fun hname => htarget ⟨hname, htype⟩
    · rfl

theorem name_pinProperty (field value : String) (p : Property TypeExpr) :
    (pinProperty field value p).1.name = p.name := by
  rcases pinProperty_eq field value p with ⟨-, -, h⟩ | ⟨-, h⟩ <;> rw [h]

/-- A member whose field has the value stays a member when the field is pinned to it. -/
theorem Admits.pinField {field value : String} (h : t.Admits v)
    (hv : ∀ entries, v = .object entries → Json.get? field entries = some (.text value)) :
    (t.pinField field value).1.Admits v := by
  induction h with
  | primitive h => exact .primitive h
  | literal h => exact .literal h
  | array h => exact .array h
  | record h => exact .record h
  | @union members t v ht _ ih =>
      refine .union ?_ (ih hv)
      rw [fst_pinFields]
      exact List.mem_map_of_mem ht
  | intersection _ ih =>
      refine .intersection fun u hu => ?_
      rw [fst_pinFields] at hu
      obtain ⟨t, ht, rfl⟩ := List.mem_map.mp hu
      exact ih t ht hv
  | @object shape entries typed present index =>
      have hfield := hv entries rfl
      refine .object ?_ ?_ ?_
      · intro q hq w hw
        simp only [List.map_map, List.mem_map, Function.comp_apply] at hq
        obtain ⟨p, hp, rfl⟩ := hq
        rw [name_pinProperty] at hw
        rcases pinProperty_eq field value p with ⟨hname, -, h⟩ | ⟨-, h⟩ <;> rw [h]
        · rw [hname, hfield] at hw
          cases hw
          exact .literal (.text value)
        · exact typed p hp w hw
      · intro q hq hrequired
        simp only [List.map_map, List.mem_map, Function.comp_apply] at hq
        obtain ⟨p, hp, rfl⟩ := hq
        rw [name_pinProperty]
        rcases pinProperty_eq field value p with ⟨hname, -, -⟩ | ⟨-, h⟩
        · rw [hname, hfield]
          rfl
        · rw [h] at hrequired
          exact present p hp hrequired
      · intro u hu key w hw hkey
        refine index u hu key w hw ?_
        simpa [name_pinProperty, Function.comp_def] using hkey

end TypeExpr

end ApiTypings.TypeScript
