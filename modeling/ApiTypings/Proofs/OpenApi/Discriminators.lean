import ApiTypings.Proofs.OpenApi.Parts
import ApiTypings.Proofs.TypeScript.Membership
import ApiTypings.Proofs.TypeScript.Pinning

/-! # Discriminated members

The property that tells the members of a `oneOf` apart is pinned to one value in each of them: of
several keys that the mapping has for a member, only the first one is admitted.
-/

namespace ApiTypings.OpenApi

open TypeScript Outcome

/-! ## Keys of the mapping -/

namespace Discriminator

/-- A key of the mapping stands for a reference. -/
def Maps (d : Discriminator) (key pointer : String) : Prop :=
  (key, pointer) ∈ d.mapping.getD []

/-- A key is the first one in the mapping that stands for a reference. -/
def MapsFirst (d : Discriminator) (key pointer : String) : Prop :=
  ∃ before after, d.mapping.getD [] = before ++ (key, pointer) :: after ∧
    ∀ entry ∈ before, entry.2 ≠ pointer

variable {d : Discriminator} {key pointer : String}

theorem MapsFirst.maps (h : d.MapsFirst key pointer) : d.Maps key pointer := by
  obtain ⟨before, after, hmapping, -⟩ := h
  rw [Maps, hmapping]
  exact List.mem_append_right before List.mem_cons_self

theorem find?_mapping_eq_some_iff :
    (d.mapping.getD []).find? (·.2 = pointer) = some (key, pointer) ↔ d.MapsFirst key pointer := by
  simp [List.find?_eq_some_iff_append, MapsFirst]

/-- The first key for a reference is the value that marks the member behind it. -/
theorem MapsFirst.valueOf_eq (h : d.MapsFirst key pointer) : d.valueOf pointer = key := by
  rw [valueOf, find?_mapping_eq_some_iff.mpr h]

/-- Where there is a key for a reference, there is a first one. -/
theorem Maps.mapsFirst_valueOf (h : d.Maps key pointer) :
    d.MapsFirst (d.valueOf pointer) pointer := by
  cases hfind : (d.mapping.getD []).find? (·.2 = pointer) with
  | none =>
      have hne := List.find?_eq_none.mp hfind _ h
      simp at hne
  | some entry =>
      obtain ⟨key', pointer'⟩ := entry
      obtain rfl : pointer' = pointer := by simpa using List.find?_some hfind
      have hfirst := find?_mapping_eq_some_iff.mp hfind
      rwa [hfirst.valueOf_eq]

theorem Maps.eq_valueOf_iff (h : d.Maps key pointer) :
    key = d.valueOf pointer ↔ d.MapsFirst key pointer := by
  constructor
  · rintro rfl
    exact h.mapsFirst_valueOf
  · exact fun hfirst => hfirst.valueOf_eq.symm

end Discriminator

/-! ## Members -/

namespace Schema

variable {direction : Direction} {expand : String → Except GenerationError TypeExpr}
  {s : Schema} {members : List Schema} {d : Discriminator} {type : TypeExpr}

/-- The type of a `oneOf` whose members are told apart has the types behind the references, each
with the property pinned. -/
theorem exists_pinned_types (hmembers : s.decision = .oneOf members)
    (hd : s.discriminator = some d) (hname : d.propertyName ≠ "")
    (hall : members.all (·.reference.isSome)) (h : s.typeWith direction expand = .ok type) :
    ∃ types, type = .unionOf types ∧ types.length = members.length ∧
      ∀ (i : Nat) t pointer target, members[i]? = some t → t.reference = some pointer →
        expand pointer = .ok target →
        types[i]? = some (target.pinField d.propertyName (d.valueOf pointer)).1 := by
  rw [typeWith_eq, hmembers] at h
  obtain ⟨types, htypes, rfl⟩ := map_eq_ok.mp h
  rw [hd]
  have hlength : members.length = types.length := (mapM_eq_ok.mp htypes).length_eq
  refine ⟨_, rfl, ?_, fun i t pointer target ht hp htarget => ?_⟩
  · simp [pinMembers, hname, hall, hlength]
  · obtain ⟨target', htarget', htype⟩ := exists_getElem?_of_mapM htypes ht
    rw [typeWith_of_reference direction expand hp, htarget] at htype
    cases htype
    exact getElem?_pinMembers hname hall ht hp htarget'

end Schema

namespace Document

/-- The property that tells the members of a `oneOf` apart is required in them, and has a single
value there. Of the keys that the mapping has for a member only the first is admitted, and so all
of them are if there is one only. -/
theorem typeOf_discriminated (doc : Document) (direction : Direction) (room : Nat)
    (active : List String) (s : Schema) (members : List Schema) (d : Discriminator)
    (type : TypeExpr) (hmembers : s.decision = .oneOf members) (hd : s.discriminator = some d)
    (hname : d.propertyName ≠ "") (hall : ∀ t ∈ members, t.reference.isSome = true)
    (h : s.typeWith direction (doc.expand direction room active) = .ok type) :
    ∃ types, type = .unionOf types ∧ types.length = members.length ∧
      ∀ (i j : Nat) t pointer shape p, members[i]? = some t → t.reference = some pointer →
        doc.expand direction room active pointer = .ok (.object shape) →
        shape.properties[j]? = some p → p.name = d.propertyName → p.type = .string →
        ∃ pinned q, types[i]? = some (.object pinned) ∧ pinned.properties[j]? = some q ∧
          q.name = d.propertyName ∧ q.optional = false ∧
          (∃ value, ∀ v, q.type.Admits v ↔ v = .text value) ∧
          (∀ key, d.Maps key pointer →
            (q.type.Admits (.text key) ↔ d.MapsFirst key pointer)) ∧
          ((∀ key, d.Maps key pointer → q.type.Admits (.text key)) ↔
            ∀ key key', d.Maps key pointer → d.Maps key' pointer → key = key') := by
  obtain ⟨types, htype, hlength, htypes⟩ :=
    Schema.exists_pinned_types hmembers hd hname (List.all_eq_true.mpr hall) h
  refine ⟨types, htype, hlength, fun i j t pointer shape p ht hp hshape hj hpname hptype => ?_⟩
  obtain ⟨pinned, hpinned, hq⟩ :=
    TypeExpr.exists_pinField_object hj hpname hptype (d.valueOf pointer)
  have hmember := htypes i t pointer _ ht hp hshape
  rw [hpinned] at hmember
  have hadmits : ∀ key, (TypeExpr.literal (.string (d.valueOf pointer))).Admits (.text key) ↔
      key = d.valueOf pointer := fun key => by simp [TypeExpr.admits_literal_string_iff]
  refine ⟨pinned, _, hmember, hq, rfl, rfl, ?_, ?_, ?_⟩
  · exact ⟨_, fun v => TypeExpr.admits_literal_string_iff⟩
  · exact fun key hkey => (hadmits key).trans hkey.eq_valueOf_iff
  · simp only [hadmits]
    constructor
    · intro heq key key' hkey hkey'
      exact (heq key hkey).trans (heq key' hkey').symm
    · intro heq key hkey
      exact heq key _ hkey hkey.mapsFirst_valueOf.maps

/-- A member with a key of its own beside one without a key. -/
theorem typeOf_discriminated_of_mapped :
    let tagged : Json := .object
      [("required", .array [.text "kind"]),
       ("properties", .object [("kind", .object [("type", .text "string")])])]
    let doc := ofJson (.object [("Dog", tagged), ("Cat", tagged)])
    let members : List Schema := [{ reference := some "#/Cat" }, { reference := some "#/Dog" }]
    let d : Discriminator := { propertyName := "kind", mapping := some [("dog", "#/Dog")] }
    let s : Schema := { oneOf := some members, discriminator := some d }
    let pinned (value : String) : TypeExpr :=
      .object { properties := [{ name := "kind", type := .literal (.string value) }] }
    s.decision = .oneOf members ∧ s.discriminator = some d ∧ d.propertyName ≠ "" ∧
      (∀ t ∈ members, t.reference.isSome = true) ∧
      doc.expand .response doc.room [] "#/Dog" =
        .ok (.object { properties := [{ name := "kind", type := .string }] }) ∧
      s.typeWith .response (doc.expand .response doc.room []) =
        .ok (.union [pinned "Cat", pinned "dog"]) ∧
      d.Maps "dog" "#/Dog" ∧
      ∃ types shape q, .union [pinned "Cat", pinned "dog"] = TypeExpr.unionOf types ∧
        types[1]? = some (.object shape) ∧ shape.properties[0]? = some q ∧
        q.type.Admits (.text "dog") := by
  intro tagged doc members d s pinned
  have hall : ∀ t ∈ members, t.reference.isSome = true := by simp [members]
  have hdog : doc.expand .response doc.room [] "#/Dog" =
      .ok (.object { properties := [{ name := "kind", type := .string }] }) := by rfl
  have h : s.typeWith .response (doc.expand .response doc.room []) =
      .ok (.union [pinned "Cat", pinned "dog"]) := by rfl
  have hmaps : d.Maps "dog" "#/Dog" := List.mem_cons_self
  obtain ⟨types, htype, -, hmembers⟩ := typeOf_discriminated doc .response doc.room []
    s members d _ rfl rfl (by decide) hall h
  obtain ⟨shape, q, hshape, hq, -, -, -, hkey, -⟩ :=
    hmembers 1 0 _ "#/Dog" _ _ rfl rfl hdog rfl rfl rfl
  have hadmits := (hkey "dog" hmaps).mpr ⟨[], [], rfl, by simp⟩
  exact ⟨rfl, rfl, by decide, hall, hdog, h, hmaps, types, shape, q, htype, hshape, hq, hadmits⟩

/-- Of two keys for the same member, the second one is not admitted. -/
theorem exists_mapped_key_not_admitted :
    let dog : Json := .object
      [("required", .array [.text "kind"]),
       ("properties", .object
         [("kind", .object [("type", .text "string")]),
          ("age", .object [("type", .text "integer")])])]
    let root : Json := .object [("Dog", dog)]
    let value : Json := .object
      [("oneOf", .array [.object [("$ref", .text "#/Dog")]]),
       ("discriminator", .object
         [("propertyName", .text "kind"),
          ("mapping", .object [("dog", .text "#/Dog"), ("puppy", .text "#/Dog")])])]
    let d : Discriminator :=
      { propertyName := "kind", mapping := some [("dog", "#/Dog"), ("puppy", "#/Dog")] }
    let s : Schema :=
      { oneOf := some [{ reference := some "#/Dog" }], discriminator := some d }
    let shape (kind : TypeExpr) : Shape TypeExpr :=
      { properties :=
          [{ name := "kind", type := kind },
           { name := "age", type := .number, optional := true }] }
    Schema.read value = .ok s ∧
      (ofJson root).typeOf .response { reference := some "#/Dog" } =
        .ok (.object (shape .string)) ∧
      (ofJson root).typeOf .response s =
        .ok (.object (shape (.literal (.string "dog")))) ∧
      d.Maps "puppy" "#/Dog" ∧
      ¬(TypeExpr.literal (.string "dog")).Admits (.text "puppy") := by
  intro dog root value d s shape
  refine ⟨by rfl, by rfl, by rfl, by simp [Discriminator.Maps, d], fun h => ?_⟩
  have hvalue := TypeExpr.admits_literal_string_iff.mp h
  simp at hvalue

end Document

end ApiTypings.OpenApi
