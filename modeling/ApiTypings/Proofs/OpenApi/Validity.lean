import ApiTypings.OpenApi.Schema.Typing
import ApiTypings.Proofs.Json.Same
import ApiTypings.Proofs.OpenApi.Parts

/-! # The values that are valid against a schema

Every keyword of a schema is a condition on the values, and a value is valid if it satisfies all
of them. References are left to an interpretation of their pointers.
-/

namespace ApiTypings

namespace Json

/-- Whether a number has no fraction. -/
def Number.IsIntegral : Number → Prop
  | .integer _ => True
  | .double d => ∃ n : Nat, d.units = n <<< 1074

/-- Whether a value is of a named type. A name that is unknown admits any value. -/
def HasType (v : Json) (name : String) : Prop :=
  match name with
  | "string" => ∃ s, v = .text s
  | "number" => ∃ n, v = .number n
  | "integer" => ∃ n, v = .number n ∧ n.IsIntegral
  | "boolean" => ∃ b, v = .boolean b
  | "null" => v = .null
  | "array" => ∃ items, v = .array items
  | "object" => ∃ entries, v = .object entries
  | _ => True

end Json

namespace OpenApi.Schema

/-- How `properties`, `required` and `additionalProperties` go together where an object has
properties and its additional properties have a schema. -/
inductive ObjectReading where
  /-- The schema is for the values under the keys that are no properties. -/
  | separate
  /-- All keys are alike. A schema of objects says that each value is an object that has the
  properties; any other schema is one for each value. -/
  | uniform

variable (reading : ObjectReading) (valid : Schema → Json → Prop)

/-- An object has the required keys, and its values under the keys of properties are valid. -/
structure HasProperties (properties : List (String × Schema)) (required : List String)
    (entries : List (String × Json)) : Prop where
  valid : ∀ p ∈ properties, ∀ v, Json.get? p.1 entries = some v → valid p.2 v
  present : ∀ key ∈ required, (Json.get? key entries).isSome

/-- The keywords for objects, each on its own. -/
structure SeparateObject (s : Schema) (entries : List (String × Json)) : Prop where
  properties : HasProperties valid (s.properties.getD []) (s.required.getD []) entries
  closed : s.additionalProperties = some (.flag false) →
    ∀ key v, Json.get? key entries = some v → key ∈ (s.properties.getD []).map Prod.fst
  values : ∀ values, s.additionalSchema = some values →
    ∀ key v, Json.get? key entries = some v → key ∉ (s.properties.getD []).map Prod.fst →
      valid values v

/-- The keywords for objects where all keys are alike. -/
def UniformObject (properties : List (String × Schema)) (required : List String)
    (values : Schema) (entries : List (String × Json)) : Prop :=
  if values.primaryType = some "object" then
    ∀ key v, Json.get? key entries = some v →
      ∃ inner, v = .object inner ∧ HasProperties valid properties required inner
  else
    HasProperties valid properties required entries ∧
      ∀ key v, Json.get? key entries = some v → valid values v

/-- The keywords for objects. -/
def ObjectKeywords (s : Schema) (entries : List (String × Json)) : Prop :=
  match reading, s.propertySource, s.additionalSchema with
  | .uniform, some (properties, required), some values =>
      UniformObject valid properties required values entries
  | _, _, _ => SeparateObject valid s entries

/-- Whether a value is marked as of a member, in a `oneOf` whose members the discriminator tells
apart. -/
def MarkedAs (s : Schema) (members : List Schema) (member : Schema) (v : Json) : Prop :=
  ∀ d pointer, s.discriminator = some d → d.propertyName ≠ "" →
    members.all (·.reference.isSome) → member.reference = some pointer →
      ∀ entries, v = .object entries →
        Json.get? d.propertyName entries = some (.text (d.valueOf pointer))

/-- The conditions of the keywords of a schema that is no reference and wraps no other one. -/
structure Keywords (s : Schema) (v : Json) : Prop where
  type : (s.isNullable = true ∧ v = .null) ∨ (∃ name ∈ s.declaredTypes, v.HasType name) ∨
    (s.declaredTypes = [] ∧ ∀ name, s.primaryType = some name → v.HasType name)
  enum : ∀ values, s.enum = some values → ∃ value ∈ values, v.Same value
  const : ∀ value, s.const = some value → (∀ items, value ≠ .array items) →
    (∀ entries, value ≠ .object entries) → v.Same value
  anyOf : ∀ members, s.anyOf = some members → ∃ t ∈ members, valid t v
  oneOf : ∀ members, s.oneOf = some members → ∃ (i : Nat) (t : Schema), members[i]? = some t ∧
    valid t v ∧ (∀ (j : Nat) (u : Schema), members[j]? = some u → valid u v → j = i) ∧
    s.MarkedAs members t v
  allOf : ∀ members, s.allOf = some members → ∀ t ∈ members, valid t v
  items : ∀ item, s.items = some item → ∀ vs, v = .array vs → ∀ w ∈ vs, valid item w
  object : ∀ entries, v = .object entries → s.ObjectKeywords reading valid entries

/-- The values that are valid against a schema, given those behind pointers. A reference stands for
what is behind it, and a schema that wraps another one for that one. -/
def ValidWith (behind : String → Json → Prop) (s : Schema) (v : Json) : Prop :=
  match s.reference with
  | some pointer => behind pointer v
  | none =>
      match _h : s.wrapped with
      | some inner => inner.ValidWith behind v
      | none =>
          -- The bound is for the recursion only: all that the keywords mention is smaller.
          s.Keywords reading (fun t w => ∃ _ : sizeOf t < sizeOf s, t.ValidWith behind w) v
termination_by sizeOf s
decreasing_by
  · exact (Child.wrapped _h).sizeOf_lt
  · assumption

/-! ## Unfolding -/

variable {reading} {valid} {valid' : Schema → Json → Prop} {behind : String → Json → Prop}
  {s : Schema} {v : Json}

theorem HasProperties.mono {properties : List (String × Schema)} {required : List String}
    {entries : List (String × Json)} (h : HasProperties valid properties required entries)
    (hvalid : ∀ t ∈ properties.map Prod.snd, ∀ w, valid t w → valid' t w) :
    HasProperties valid' properties required entries where
  valid p hp w hw := hvalid p.2 (List.mem_map_of_mem hp) w (h.valid p hp w hw)
  present := h.present

theorem UniformObject.mono {properties : List (String × Schema)} {required : List String}
    {values : Schema} {entries : List (String × Json)}
    (h : UniformObject valid properties required values entries)
    (hproperties : ∀ t ∈ properties.map Prod.snd, ∀ w, valid t w → valid' t w)
    (hvalues : ∀ w, valid values w → valid' values w) :
    UniformObject valid' properties required values entries := by
  unfold UniformObject at h ⊢
  by_cases hobject : values.primaryType = some "object"
  · rw [if_pos hobject] at h ⊢
    intro key w hw
    obtain ⟨inner, hinner, h⟩ := h key w hw
    exact ⟨inner, hinner, h.mono hproperties⟩
  · rw [if_neg hobject] at h ⊢
    exact ⟨h.1.mono hproperties, fun key w hw => hvalues w (h.2 key w hw)⟩

/-- The keywords of a schema depend on the validity of what is below it only. -/
theorem ObjectKeywords.mono {entries : List (String × Json)}
    (h : s.ObjectKeywords reading valid entries)
    (hvalid : ∀ t, Relation.TransGen Child s t → ∀ w, valid t w → valid' t w) :
    s.ObjectKeywords reading valid' entries := by
  have hvalues {values : Schema} (ha : s.additionalSchema = some values) (w : Json)
      (hw : valid values w) : valid' values w :=
    hvalid values (.single (.values (additionalSchema_eq_some_iff.mp ha))) w hw
  unfold ObjectKeywords at h ⊢
  split at h
  · next hs ha =>
      exact UniformObject.mono h (fun t ht => hvalid t (child_of_propertySource hs ht)) (hvalues ha)
  · refine ⟨h.properties.mono fun t ht => hvalid t ?_, h.closed, fun values ha key w hw hkey =>
      hvalues ha w (h.values values ha key w hw hkey)⟩
    cases hp : s.properties with
    | none =>
        rw [hp] at ht
        cases ht
    | some properties =>
        rw [hp] at ht
        exact .single (.property hp ht)

theorem Keywords.congr (h : s.Keywords reading valid v)
    (hvalid : ∀ t, Relation.TransGen Child s t → ∀ w, valid t w ↔ valid' t w) :
    s.Keywords reading valid' v where
  type := h.type
  enum := h.enum
  const := h.const
  anyOf := by
    intro members hm
    obtain ⟨t, ht, hv⟩ := h.anyOf members hm
    exact ⟨t, ht, (hvalid t (.single (.anyOf hm ht)) v).mp hv⟩
  oneOf := by
    intro members hm
    have hmember {i : Nat} {t : Schema} (ht : members[i]? = some t) :=
      hvalid t (.single (.oneOf hm (List.mem_of_getElem? ht))) v
    obtain ⟨i, t, ht, hv, hunique, hmarked⟩ := h.oneOf members hm
    exact ⟨i, t, ht, (hmember ht).mp hv,
      fun j u hu hv => hunique j u hu ((hmember hu).mpr hv), hmarked⟩
  allOf := by
    intro members hm t ht
    exact (hvalid t (.single (.allOf hm ht)) v).mp (h.allOf members hm t ht)
  items := by
    intro item hi vs hvs w hw
    exact (hvalid item (.single (.item hi)) w).mp (h.items item hi vs hvs w hw)
  object := by
    intro entries he
    exact (h.object entries he).mono fun t ht w => (hvalid t ht w).mp

theorem validWith_of_reference {pointer : String} (h : s.reference = some pointer) :
    s.ValidWith reading behind v ↔ behind pointer v := by
  rw [ValidWith, h]

theorem validWith_of_wrapped {inner : Schema} (h : s.reference = none)
    (hw : s.wrapped = some inner) :
    s.ValidWith reading behind v ↔ inner.ValidWith reading behind v := by
  rw [ValidWith, h]
  simp only
  split
  · next inner' h' =>
      rw [hw] at h'
      cases h'
      rfl
  · next h' =>
      rw [hw] at h'
      cases h'

/-- Any other schema: a value is valid if it satisfies all keywords. -/
theorem validWith_iff_keywords (h : s.reference = none) (hw : s.wrapped = none) :
    s.ValidWith reading behind v ↔ s.Keywords reading (ValidWith reading behind) v := by
  have hbelow (t : Schema) (ht : Relation.TransGen Child s t) (w : Json) :
      (∃ _ : sizeOf t < sizeOf s, t.ValidWith reading behind w) ↔
        t.ValidWith reading behind w := by
    simp [sizeOf_lt_of_transGen ht]
  rw [ValidWith, h]
  simp only
  split
  · next h' =>
      rw [hw] at h'
      cases h'
  · constructor
    · exact fun hk => hk.congr hbelow
    · exact fun hk => hk.congr fun t ht w => (hbelow t ht w).symm

theorem validWith_string (reading : ObjectReading) (behind : String → Json → Prop)
    (text : String) :
    ValidWith reading behind { type := some (.one "string") } (.text text) := by
  rw [validWith_iff_keywords rfl rfl]
  constructor <;> simp [declaredTypes, Json.HasType]

/-- A schema with keywords for objects only is valid for the objects that satisfy them. -/
theorem validWith_object {properties : List (String × Schema)} {required : Option (List String)}
    {additionalProperties : Option (AdditionalProperties Schema)}
    {entries : List (String × Json)}
    (h : ObjectKeywords reading (ValidWith reading behind)
      { properties := some properties, required, additionalProperties } entries) :
    ValidWith reading behind { properties := some properties, required, additionalProperties }
      (.object entries) := by
  rw [validWith_iff_keywords rfl rfl]
  constructor
  case type =>
    right
    right
    refine ⟨rfl, fun name hname => ?_⟩
    cases hname
    exact ⟨entries, rfl⟩
  case object =>
    intro entries' he
    cases he
    exact h
  all_goals simp

end OpenApi.Schema

end ApiTypings
