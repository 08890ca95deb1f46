import ApiTypings.Proofs.OpenApi.Cycles
import ApiTypings.Proofs.OpenApi.Validity
import ApiTypings.Proofs.TypeScript.Membership

/-! # Soundness of typing

Whatever is valid against a schema is a member of its type, where the keywords for objects are
read as the types have them.
-/

namespace ApiTypings.OpenApi

open TypeScript Outcome

namespace Schema

variable {direction : Direction} {s : Schema} {v : Json} {type : TypeExpr}
  {reading : ObjectReading} {valid : Schema → Json → Prop}

/-! ## Declared types -/

theorem stringType_admits (direction : Direction) (format : Option String) (text : String) :
    (stringType direction format).Admits (.text text) := by
  have hstring : TypeExpr.string.Admits (.text text) := .primitive ⟨text, rfl⟩
  unfold stringType
  split
  · exact .union List.mem_cons_self hstring
  · exact hstring

/-- A value of a named type belongs to the type for that name, if arrays and objects do. -/
theorem typeNamed_admits {item object : Unit → Except GenerationError TypeExpr}
    {name : Option String} (h : s.typeNamed direction item object name = .ok type)
    (hv : s.Keywords reading valid v) (hname : ∀ n, name = some n → v.HasType n)
    (hitem : ∀ t, item () = .ok t → ∀ vs, v = .array vs → ∀ w ∈ vs, t.Admits w)
    (hobject : ∀ t, object () = .ok t → ∀ entries, v = .object entries → t.Admits v) :
    type.Admits v := by
  unfold typeNamed at h
  by_cases harray : name = some "array"
  · rw [if_pos harray] at h
    obtain ⟨t, ht, h⟩ := bind_eq_ok.mp h
    cases h
    obtain ⟨vs, rfl⟩ := hname _ harray
    exact .array (hitem t ht vs rfl)
  · rw [if_neg harray] at h
    cases henum : s.enum with
    | some values =>
        rw [henum] at h
        cases h
        obtain ⟨value, hvalue, hsame⟩ := hv.enum values henum
        refine TypeExpr.admits_ofEnumerated hvalue hsame fun hstring => .inr ?_
        exact hname "string" (of_decide_eq_true hstring)
    | none =>
        rw [henum] at h
        simp only at h
        split at h
        · obtain ⟨entries, rfl⟩ := hname _ rfl
          exact hobject type h entries rfl
        · cases h
          obtain ⟨text, rfl⟩ := hname _ rfl
          exact stringType_admits direction s.format text
        · cases h
          obtain ⟨n, rfl, -⟩ := hname _ rfl
          exact .primitive ⟨n, rfl⟩
        · cases h
          exact .primitive (hname _ rfl)
        · cases h
          exact .primitive (hname _ rfl)
        · cases h
          exact .primitive (hname _ rfl)
        · cases h
          exact TypeExpr.admits_unknown v

/-- A valid value other than an admitted null belongs to the type for the declared types. -/
theorem declaredType_admits {item object : Unit → Except GenerationError TypeExpr}
    (h : s.declaredType direction item object = .ok type) (hv : s.Keywords reading valid v)
    (hnull : ¬(s.isNullable = true ∧ v = .null))
    (hitem : ∀ t, item () = .ok t → ∀ vs, v = .array vs → ∀ w ∈ vs, t.Admits w)
    (hobject : ∀ t, object () = .ok t → ∀ entries, v = .object entries → t.Admits v) :
    type.Admits v := by
  have htype := hv.type.resolve_left hnull
  unfold declaredType at h
  by_cases hlength : s.declaredTypes.length < 2
  · simp only [if_pos hlength] at h
    refine typeNamed_admits h hv ?_ hitem hobject
    intro n hn
    rcases htype with ⟨name, hname, hv⟩ | ⟨-, hprimary⟩
    · rw [primaryType_of_mem_declaredTypes hlength hname] at hn
      cases hn
      exact hv
    · exact hprimary n hn
  · simp only [if_neg hlength] at h
    obtain ⟨name, hname, hnamed⟩ : ∃ name ∈ s.declaredTypes, v.HasType name := by
      rcases htype with h | ⟨hnil, -⟩
      · exact h
      · rw [hnil] at hlength
        exact absurd (by decide) hlength
    split at h
    · next values henum _ =>
        cases h
        obtain ⟨value, hvalue, hsame⟩ := hv.enum values henum
        exact TypeExpr.admits_ofEnumerated hvalue hsame (by simp)
    · obtain ⟨types, htypes, h⟩ := bind_eq_ok.mp h
      cases h
      obtain ⟨t, ht, hnametype⟩ := exists_mem_of_mapM htypes hname
      refine .union ht (typeNamed_admits hnametype hv ?_ hitem hobject)
      intro n hn
      cases hn
      exact hnamed

/-! ## Objects -/

variable {expand : String → Except GenerationError TypeExpr}

/-- Whether valid values belong to the types of schemas. -/
def SoundFor (direction : Direction) (expand : String → Except GenerationError TypeExpr)
    (valid : Schema → Json → Prop) (t : Schema) : Prop :=
  ∀ type, t.typeWith direction expand = .ok type → ∀ v, valid t v → type.Admits v

/-- An object with valid properties belongs to every object type that has their types, if what it
says of the other keys is true. -/
theorem shape_admits {properties : List (String × Schema)} {required : List String}
    {shape : List (Property TypeExpr)} {index : Option TypeExpr} {entries : List (String × Json)}
    (hshape : propertiesWith direction expand required properties = .ok shape)
    (hsound : ∀ p ∈ properties, SoundFor direction expand valid p.2)
    (hv : HasProperties valid properties required entries)
    (hindex : ∀ t, index = some t → ∀ v, t.Admits v) :
    (TypeExpr.object { properties := shape, index }).Admits (.object entries) := by
  rw [propertiesWith_eq_mapM] at hshape
  have hproperty : ∀ p ∈ shape, ∃ q ∈ properties, q.1 = p.name ∧
      q.2.typeWith direction expand = .ok p.type ∧ p.optional = !required.contains p.name := by
    intro p hp
    obtain ⟨⟨name, t⟩, hq, h⟩ := exists_of_mem_mapM hshape hp
    obtain ⟨type, htype, h⟩ := bind_eq_ok.mp h
    cases h
    exact ⟨(name, t), hq, rfl, htype, rfl⟩
  refine .object ?_ ?_ ?_
  · intro p hp w hw
    obtain ⟨q, hq, hname, htype, -⟩ := hproperty p hp
    rw [← hname] at hw
    exact hsound q hq p.type htype w (hv.valid q hq w hw)
  · intro p hp hpresent
    obtain ⟨q, hq, -, -, hoptional⟩ := hproperty p hp
    rw [hoptional] at hpresent
    exact hv.present p.name (by simpa using hpresent)
  · intro t ht key w _ _
    exact hindex t ht w

/-- The type for a dictionary with properties has the objects whose keys are all alike. -/
theorem withValues_admits {properties : List (String × Schema)} {required : List String}
    {values : Schema} {shape : List (Property TypeExpr)} {entries : List (String × Json)}
    (hshape : propertiesWith direction expand required properties = .ok shape)
    (h : values.withValues { properties := shape } (fun _ => values.typeWith direction expand) =
      .ok type)
    (hproperties : ∀ p ∈ properties, SoundFor direction expand valid p.2)
    (hvalues : SoundFor direction expand valid values)
    (hv : UniformObject valid properties required values entries) :
    type.Admits (.object entries) := by
  unfold withValues at h
  unfold UniformObject at hv
  by_cases hobject : values.primaryType = some "object"
  · rw [if_pos hobject] at h hv
    cases h
    refine .record fun key w hw => ?_
    obtain ⟨inner, rfl, hinner⟩ := hv key w hw
    exact shape_admits hshape hproperties hinner (by simp)
  · rw [if_neg hobject] at h hv
    obtain ⟨t, ht, h⟩ := bind_eq_ok.mp h
    cases h
    refine .intersection fun u hu => ?_
    simp only [List.mem_cons, List.not_mem_nil, or_false] at hu
    rcases hu with rfl | rfl
    · exact shape_admits hshape hproperties hv.1 (by simp)
    · exact .record fun key w hw => hvalues t ht w (hv.2 key w hw)

theorem properties_of_propertySource {properties : List (String × Schema)} {required : List String}
    (hs : s.propertySource = some (properties, required)) (ha : s.additionalSchema = none) :
    s.properties = some properties ∧ s.required.getD [] = required := by
  unfold propertySource at hs
  rw [ha] at hs
  split at hs
  · next hproperties =>
      cases hs
      exact ⟨hproperties, rfl⟩
  · cases hs

theorem properties_eq_none_of_propertySource (hs : s.propertySource = none) :
    s.properties = none := by
  unfold propertySource at hs
  split at hs
  · cases hs
  · assumption

/-- An object that satisfies the keywords belongs to the object type of the schema. -/
theorem objectTypeWith_admits {entries : List (String × Json)}
    (h : s.objectTypeWith direction expand = .ok type)
    (hsound : ∀ t, Relation.TransGen Child s t → SoundFor direction expand valid t)
    (hv : s.ObjectKeywords .uniform valid entries) : type.Admits (.object entries) := by
  unfold objectTypeWith at h
  cases hs : s.propertySource with
  | some source =>
      obtain ⟨properties, required⟩ := source
      have hproperties : ∀ p ∈ properties, SoundFor direction expand valid p.2 := fun p hp =>
        hsound p.2 (child_of_propertySource hs (List.mem_map_of_mem hp))
      rw [hs] at h
      obtain ⟨shape, hshape, h⟩ := bind_eq_ok.mp h
      cases ha : s.additionalSchema with
      | some values =>
          have hadditional := additionalSchema_eq_some_iff.mp ha
          simp only [ObjectKeywords, hs, ha] at hv
          rw [hadditional] at h
          have hvalues := hsound values (.single (.values hadditional))
          exact withValues_admits hshape h hproperties hvalues hv
      | none =>
          simp only [ObjectKeywords, hs, ha] at hv
          obtain ⟨hproperties', hrequired⟩ := properties_of_propertySource hs ha
          have hobject := hv.properties
          rw [hproperties', hrequired] at hobject
          split at h
          · next values hadditional =>
              rw [additionalSchema_eq_some_iff.mpr hadditional] at ha
              cases ha
          · cases h
            refine shape_admits hshape hproperties hobject ?_
            intro t ht
            cases ht
            exact TypeExpr.admits_unknown
          · cases h
            exact shape_admits hshape hproperties hobject (by simp)
  | none =>
      have hnone := properties_eq_none_of_propertySource hs
      rw [hs] at h
      cases ha : s.additionalSchema with
      | some values =>
          simp only [ha] at h
          simp only [ObjectKeywords, hs, ha] at hv
          split at h
          · obtain ⟨t, ht, h⟩ := map_eq_ok.mp h
            subst h
            have hvalues := hsound values (.single (.values (additionalSchema_eq_some_iff.mp ha)))
            refine .record fun key w hw => ?_
            exact hvalues t ht w (hv.values values ha key w hw (by simp [hnone]))
          · cases h
            exact .primitive ⟨entries, rfl⟩
      | none =>
          simp only [ha] at h
          cases h
          exact .primitive ⟨entries, rfl⟩

/-! ## Items and constants -/

theorem itemTypeWith_admits (h : s.itemTypeWith direction expand = .ok type)
    (hsound : ∀ item, s.items = some item → SoundFor direction expand valid item)
    (hv : s.Keywords reading valid v) : ∀ vs, v = .array vs → ∀ w ∈ vs, type.Admits w := by
  intro vs hvs w hw
  unfold itemTypeWith at h
  cases hi : s.items with
  | some item =>
      rw [hi] at h
      exact hsound item hi type h w (hv.items item hi vs hvs w hw)
  | none =>
      rw [hi] at h
      cases h
      exact TypeExpr.admits_unknown w

theorem const_admits {value : Json} {literal : Literal} (hvalue : s.const = some value)
    (hl : Literal.ofJson? value = some literal) (hv : s.Keywords reading valid v) :
    (TypeExpr.literal literal).Admits v := by
  refine TypeExpr.admits_literal_of_ofJson? hl (hv.const value hvalue ?_ ?_)
  · rintro items rfl
    cases hl
  · rintro entries rfl
    cases hl

/-! ## Combined schemas -/

/-- The members of a `oneOf` as they are, or with the value that marks them. -/
theorem exists_mem_pinMembers {members : List Schema} {types : List TypeExpr} {i : Nat} {t : Schema}
    (ht : members[i]? = some t) (htype : types[i]? = some type) (hv : type.Admits v)
    (hmarked : s.MarkedAs members t v) :
    ∃ pinned ∈ pinMembers s.discriminator members types, pinned.Admits v := by
  cases hd : s.discriminator with
  | none => exact ⟨type, List.mem_of_getElem? htype, hv⟩
  | some d =>
      by_cases happlies : d.propertyName ≠ "" ∧ members.all (·.reference.isSome)
      · have hmem := List.mem_of_getElem? ht
        obtain ⟨pointer, hp⟩ := Option.isSome_iff_exists.mp
          (List.all_eq_true.mp happlies.2 t hmem)
        have hpinned := getElem?_pinMembers happlies.1 happlies.2 ht hp htype
        exact ⟨_, List.mem_of_getElem? hpinned,
          hv.pinField (hmarked d pointer hd happlies.1 happlies.2 hp)⟩
      · simp only [pinMembers, if_neg happlies]
        exact ⟨type, List.mem_of_getElem? htype, hv⟩

/-- If the types behind references have the values behind them, the type of a schema has the
values that are valid against it. -/
theorem typeWith_sound {behind : String → Json → Prop}
    (hexpand : ∀ pointer type, expand pointer = .ok type → ∀ v, behind pointer v → type.Admits v)
    (s : Schema) : SoundFor direction expand (ValidWith .uniform behind) s := by
  intro type h v hv
  rw [typeWith_eq] at h
  cases hd : s.decision with
  | reference pointer =>
      rw [hd] at h
      exact hexpand pointer type h v ((validWith_of_reference (decides_of_decision hd)).mp hv)
  | wrapped inner =>
      obtain ⟨hr, hw⟩ := decides_of_decision hd
      rw [hd] at h
      exact typeWith_sound hexpand inner type h v ((validWith_of_wrapped hr hw).mp hv)
  | anyOf members =>
      obtain ⟨hr, hw, hmembers⟩ := decides_of_decision hd
      rw [hd] at h
      obtain ⟨types, htypes, rfl⟩ := map_eq_ok.mp h
      obtain ⟨t, ht, hv⟩ := ((validWith_iff_keywords hr hw).mp hv).anyOf members hmembers
      obtain ⟨u, hu, htype⟩ := exists_mem_of_mapM htypes ht
      exact TypeExpr.admits_unionOf hu (typeWith_sound hexpand t u htype v hv)
  | oneOf members =>
      obtain ⟨hr, hw, hmembers⟩ := decides_of_decision hd
      rw [hd] at h
      obtain ⟨types, htypes, rfl⟩ := map_eq_ok.mp h
      obtain ⟨i, t, ht, hv, -, hmarked⟩ :=
        ((validWith_iff_keywords hr hw).mp hv).oneOf members hmembers
      obtain ⟨u, hu, htype⟩ := exists_getElem?_of_mapM htypes ht
      obtain ⟨pinned, hpinned, hadmits⟩ :=
        exists_mem_pinMembers ht hu (typeWith_sound hexpand t u htype v hv) hmarked
      exact TypeExpr.admits_unionOf hpinned hadmits
  | allOf members =>
      obtain ⟨hr, hw, hmembers⟩ := decides_of_decision hd
      rw [hd] at h
      obtain ⟨types, htypes, rfl⟩ := map_eq_ok.mp h
      refine TypeExpr.admits_intersectionOf fun u hu => ?_
      obtain ⟨t, ht, htype⟩ := exists_of_mem_mapM htypes hu
      have hvt := ((validWith_iff_keywords hr hw).mp hv).allOf members hmembers t ht
      exact typeWith_sound hexpand t u htype v hvt
  | const literal =>
      obtain ⟨hr, hw, value, hvalue, hl⟩ := decides_of_decision hd
      rw [hd] at h
      cases h
      exact const_admits hvalue hl ((validWith_iff_keywords hr hw).mp hv)
  | declared =>
      obtain ⟨hr, hw⟩ := decides_of_decision hd
      have hk := (validWith_iff_keywords hr hw).mp hv
      rw [hd] at h
      obtain ⟨core, hcore, rfl⟩ := map_eq_ok.mp h
      by_cases hnull : s.isNullable = true ∧ v = .null
      · rw [hnull.1, hnull.2]
        exact TypeExpr.orNullIf_true_admits_null core
      · refine TypeExpr.admits_orNullIf (declaredType_admits hcore hk hnull ?_ ?_)
        · intro t ht
          exact itemTypeWith_admits ht (fun item hi => typeWith_sound hexpand item) hk
        · intro t ht entries he
          rw [he]
          exact objectTypeWith_admits ht (fun u hu => typeWith_sound hexpand u)
            (hk.object entries he)
termination_by sizeOf s
decreasing_by
  · exact (Child.wrapped hw).sizeOf_lt
  · exact (Child.anyOf hmembers ht).sizeOf_lt
  · exact (Child.oneOf hmembers (List.mem_of_getElem? ht)).sizeOf_lt
  · exact (Child.allOf hmembers ht).sizeOf_lt
  · exact (Child.item hi).sizeOf_lt
  · exact sizeOf_lt_of_transGen hu

end Schema

namespace Document

variable {doc : Document} {direction : Direction} {behind : String → Json → Prop}

/-- The type behind a reference has the values behind it. -/
theorem expand_sound
    (hbehind : ∀ pointer v, behind pointer v → ∃ target,
      doc.resolve Schema.read pointer = .ok target ∧ target.ValidWith .uniform behind v)
    {room : Nat} {active : List String} {pointer : String} {type : TypeExpr}
    (h : doc.expand direction room active pointer = .ok type) {v : Json} (hv : behind pointer v) :
    type.Admits v := by
  -- What is valid behind references is given, so only the nesting of expansions is left to count.
  induction room generalizing active pointer type v with
  | zero =>
      obtain ⟨-, _, n, -, hroom, -⟩ := expand_eq_ok h
      contradiction
  | succ room ih =>
      obtain ⟨-, target, n, htarget, hroom, h⟩ := expand_eq_ok h
      cases hroom
      obtain ⟨target', htarget', hv⟩ := hbehind pointer v hv
      rw [htarget] at htarget'
      cases htarget'
      exact Schema.typeWith_sound (fun _ _ hp _ hv => ih hp hv) target type h v hv

/-- Typing is sound: whatever is valid against a schema, with all keys of an object alike where it
has both properties and a schema for its values, is a member of its type. What is behind a
reference is valid against the schema that it designates. -/
theorem typeOf_sound (doc : Document) (behind : String → Json → Prop)
    (hbehind : ∀ pointer v, behind pointer v → ∃ target,
      doc.resolve Schema.read pointer = .ok target ∧ target.ValidWith .uniform behind v)
    (direction : Direction) (s : Schema) (type : TypeExpr)
    (h : doc.typeOf direction s = .ok type) (v : Json) (hv : s.ValidWith .uniform behind v) :
    type.Admits v :=
  Schema.typeWith_sound (fun _ _ hp _ hv => expand_sound hbehind hp hv) s type h v hv

/-- An object with a property that is behind a reference. -/
theorem typeOf_sound_of_reference :
    (∀ pointer v, (pointer = "#/Name" ∧ v = Json.text "x") → ∃ target,
      (ofJson (.object [("Name", .object [("type", .text "string")])])).resolve Schema.read
        pointer = .ok target ∧
      target.ValidWith .uniform (fun pointer v => pointer = "#/Name" ∧ v = .text "x") v) ∧
    (ofJson (.object [("Name", .object [("type", .text "string")])])).typeOf .response
        { properties := some [("name", { reference := some "#/Name" })]
          required := some ["name"] } =
      .ok (.object { properties := [{ name := "name", type := .string }] }) ∧
    Schema.ValidWith .uniform (fun pointer v => pointer = "#/Name" ∧ v = .text "x")
      { properties := some [("name", { reference := some "#/Name" })]
        required := some ["name"] } (.object [("name", .text "x")]) ∧
    (TypeExpr.object { properties := [{ name := "name", type := .string }] }).Admits
      (.object [("name", .text "x")]) := by
  have hbehind : ∀ pointer v, (pointer = "#/Name" ∧ v = Json.text "x") → ∃ target,
      (ofJson (.object [("Name", .object [("type", .text "string")])])).resolve Schema.read
        pointer = .ok target ∧
      target.ValidWith .uniform (fun pointer v => pointer = "#/Name" ∧ v = .text "x") v := by
    rintro pointer v ⟨rfl, rfl⟩
    exact ⟨{ type := some (.one "string") }, by rfl, Schema.validWith_string _ _ "x"⟩
  have htype : (ofJson (.object [("Name", .object [("type", .text "string")])])).typeOf .response
        { properties := some [("name", { reference := some "#/Name" })]
          required := some ["name"] } =
      .ok (.object { properties := [{ name := "name", type := .string }] }) := by
    rfl
  have hvalid : Schema.ValidWith .uniform (fun pointer v => pointer = "#/Name" ∧ v = .text "x")
      { properties := some [("name", { reference := some "#/Name" })]
        required := some ["name"] } (.object [("name", .text "x")]) := by
    refine Schema.validWith_object ?_
    refine Schema.SeparateObject.mk ⟨?_, ?_⟩ (by simp) (by simp [Schema.additionalSchema])
    · simp [Json.get?, Schema.validWith_of_reference]
    · simp [Json.get?]
  exact ⟨hbehind, htype, hvalid, typeOf_sound _ _ hbehind _ _ _ htype _ hvalid⟩

/-- With the keywords for objects each on its own, typing is not sound: where the additional
properties are objects, a property is asked to be one too. -/
theorem typeOf_not_sound_of_separate :
    (ofJson .null).typeOf .response
        { properties := some [("a", { type := some (.one "string") })]
          additionalProperties := some (.values { type := some (.one "object") }) } =
      .ok (.record (.object
        { properties := [{ name := "a", type := .string, optional := true }] })) ∧
    Schema.ValidWith .separate (fun _ _ => False)
      { properties := some [("a", { type := some (.one "string") })]
        additionalProperties := some (.values { type := some (.one "object") }) }
      (.object [("a", .text "x")]) ∧
    ¬(TypeExpr.record (.object
        { properties := [{ name := "a", type := .string, optional := true }] })).Admits
      (.object [("a", .text "x")]) := by
  refine ⟨by rfl, ?_, ?_⟩
  · refine Schema.validWith_object ?_
    refine Schema.SeparateObject.mk ⟨?_, by simp⟩ (by simp) ?_
    · simpa [Json.get?] using Schema.validWith_string .separate (fun _ _ => False) "x"
    · intro values _ key v hv hkey
      have hother : (key == "a") = false := by simpa using hkey
      simp [Json.get?, List.lookup_cons, hother] at hv
  · rintro (_ | _ | _ | _ | _ | _ | h)
    cases h "a" (.text "x") rfl

end Document

end ApiTypings.OpenApi
