import ApiTypings.Proofs.OpenApi.Cycles
import ApiTypings.Proofs.TypeScript.Inside

/-! # What the types of schemas are built from

A property of single types that every way of building them gives is a property throughout the type
of every schema.
-/

namespace ApiTypings.OpenApi

open TypeScript Outcome Reader

/-- A property of types that each way of building one gives. The properties of an object type have
the names that some schema lists, and the schemas are those of a kind. -/
structure Building (kind : Schema → Prop) (Q : TypeExpr → Prop) : Prop where
  child : ∀ {s t}, kind s → Schema.Child s t → kind t
  primitive : ∀ p, Q (.primitive p)
  literal : ∀ l, Q (.literal l)
  date : Q (.named "Date")
  array : ∀ t, Q (.array t)
  record : ∀ t, Q (.record t)
  union : ∀ ts : List TypeExpr, 2 ≤ ts.length → Q (.union ts)
  intersection : ∀ ts : List TypeExpr, 2 ≤ ts.length → Q (.intersection ts)
  object : ∀ s properties (shape : Shape TypeExpr), kind s → s.properties = some properties →
    shape.properties.map Property.name = properties.map Prod.fst → Q (.object shape)
  pinField : ∀ field value t, Q t → Q (t.pinField field value).1

namespace Building

variable {kind : Schema → Prop} {Q : TypeExpr → Prop} (hQ : Building kind Q)
include hQ

theorem of_transGen {s t : Schema} (hs : kind s) (h : Relation.TransGen Schema.Child s t) :
    kind t := by
  induction h with
  | single h => exact hQ.child hs h
  | tail _ h ih => exact hQ.child ih h

/-! ## Unions, intersections and literals -/

theorem throughout_unknown : TypeExpr.unknown.Throughout Q :=
  TypeExpr.throughout_primitive (hQ.primitive .unknown)

theorem throughout_unionOf {ts : List TypeExpr} (h : ∀ t ∈ ts, t.Throughout Q) :
    (TypeExpr.unionOf ts).Throughout Q := by
  match ts with
  | [] => exact hQ.throughout_unknown
  | [t] => exact h t List.mem_cons_self
  | t :: u :: rest => exact TypeExpr.throughout_union (hQ.union _ (by simp)) h

theorem throughout_intersectionOf {ts : List TypeExpr} (h : ∀ t ∈ ts, t.Throughout Q) :
    (TypeExpr.intersectionOf ts).Throughout Q := by
  match ts with
  | [] => exact hQ.throughout_unknown
  | [t] => exact h t List.mem_cons_self
  | t :: u :: rest => exact TypeExpr.throughout_intersection (hQ.intersection _ (by simp)) h

theorem throughout_union_pair {t u : TypeExpr} (ht : t.Throughout Q) (hu : u.Throughout Q) :
    (TypeExpr.union [t, u]).Throughout Q := by
  refine TypeExpr.throughout_union (hQ.union _ (by simp)) ?_
  exact List.forall_mem_cons.mpr ⟨ht, List.forall_mem_singleton.mpr hu⟩

theorem throughout_intersection_pair {t u : TypeExpr} (ht : t.Throughout Q)
    (hu : u.Throughout Q) : (TypeExpr.intersection [t, u]).Throughout Q := by
  refine TypeExpr.throughout_intersection (hQ.intersection _ (by simp)) ?_
  exact List.forall_mem_cons.mpr ⟨ht, List.forall_mem_singleton.mpr hu⟩

theorem throughout_orNullIf {nullable : Bool} {t : TypeExpr} (h : t.Throughout Q) :
    (TypeExpr.orNullIf nullable t).Throughout Q := by
  cases nullable with
  | false => exact h
  | true => exact hQ.throughout_union_pair h (TypeExpr.throughout_primitive (hQ.primitive .null))

theorem throughout_ofEnumerated (asText : Bool) (values : List Json) :
    (TypeExpr.ofEnumerated asText values).Throughout Q := by
  refine hQ.throughout_unionOf fun t ht => ?_
  obtain ⟨value, -, rfl⟩ := List.mem_map.mp ht
  split
  · exact TypeExpr.throughout_literal (hQ.literal _)
  · exact hQ.throughout_unknown

theorem throughout_stringType (direction : Direction) (format : Option String) :
    (Schema.stringType direction format).Throughout Q := by
  have hstring : TypeExpr.string.Throughout Q :=
    TypeExpr.throughout_primitive (hQ.primitive .string)
  unfold Schema.stringType
  split
  · exact hQ.throughout_union_pair hstring (TypeExpr.throughout_named hQ.date)
  · exact hstring

theorem throughout_pinMembers {discriminator : Option Discriminator} {members : List Schema}
    {types : List TypeExpr} (h : ∀ t ∈ types, t.Throughout Q) :
    ∀ t ∈ Schema.pinMembers discriminator members types, t.Throughout Q := by
  unfold Schema.pinMembers
  split
  · exact h
  · split
    · intro t ht
      obtain ⟨i, hi⟩ := List.mem_iff_getElem?.mp ht
      rw [List.getElem?_zipWith] at hi
      split at hi
      · next member type hmember htype =>
          cases hi
          have hthroughout := h type (List.mem_of_getElem? htype)
          split
          · exact hthroughout.pinField (hQ.pinField _ _) fun s => hQ.literal (.string s)
          · exact hthroughout
      · cases hi
    · exact h

/-! ## Declared types -/

variable {direction : Direction} {s : Schema} {type : TypeExpr}

theorem typeNamed_throughout {item object : Unit → Except GenerationError TypeExpr}
    {name : Option String} (h : s.typeNamed direction item object name = .ok type)
    (hitem : ∀ t, item () = .ok t → t.Throughout Q)
    (hobject : ∀ t, object () = .ok t → t.Throughout Q) : type.Throughout Q := by
  unfold Schema.typeNamed at h
  by_cases harray : name = some "array"
  · rw [if_pos harray] at h
    obtain ⟨t, ht, h⟩ := bind_eq_ok.mp h
    cases h
    exact TypeExpr.throughout_array (hQ.array t) (hitem t ht)
  · rw [if_neg harray] at h
    cases henum : s.enum with
    | some values =>
        rw [henum] at h
        cases h
        exact hQ.throughout_ofEnumerated _ values
    | none =>
        rw [henum] at h
        simp only at h
        split at h
        · exact hobject type h
        · cases h
          exact hQ.throughout_stringType direction s.format
        all_goals
          cases h
          exact TypeExpr.throughout_primitive (hQ.primitive _)

theorem declaredType_throughout {item object : Unit → Except GenerationError TypeExpr}
    (h : s.declaredType direction item object = .ok type)
    (hitem : ∀ t, item () = .ok t → t.Throughout Q)
    (hobject : ∀ t, object () = .ok t → t.Throughout Q) : type.Throughout Q := by
  unfold Schema.declaredType at h
  by_cases hlength : s.declaredTypes.length < 2
  · simp only [if_pos hlength] at h
    exact hQ.typeNamed_throughout h hitem hobject
  · simp only [if_neg hlength] at h
    split at h
    · next values henum _ =>
        cases h
        exact hQ.throughout_ofEnumerated false values
    · obtain ⟨types, htypes, h⟩ := bind_eq_ok.mp h
      cases h
      have hlength' : types.length = s.declaredTypes.length :=
        (mapM_eq_ok.mp htypes).length_eq.symm
      refine TypeExpr.throughout_union (hQ.union types (by omega)) fun t ht => ?_
      obtain ⟨name, -, htype⟩ := exists_of_mem_mapM htypes ht
      exact hQ.typeNamed_throughout htype hitem hobject

/-! ## Objects -/

variable {expand : String → Except GenerationError TypeExpr}

omit hQ in
/-- The names of the properties of an object type are those that the schema lists. -/
theorem names_of_propertiesWith {properties : List (String × Schema)} {required : List String}
    {shape : List (Property TypeExpr)}
    (h : Schema.propertiesWith direction expand required properties = .ok shape) :
    shape.map Property.name = properties.map Prod.fst := by
  rw [Schema.propertiesWith_eq_mapM, mapM_eq_ok] at h
  refine (map_eq_map_of_forall₂ h fun p q hp => ?_).symm
  obtain ⟨type, -, hp⟩ := bind_eq_ok.mp hp
  cases hp
  rfl

theorem object_throughout {properties : List (String × Schema)} {required : List String}
    {shape : List (Property TypeExpr)} {index : Option TypeExpr} (hs : kind s)
    (hproperties : s.properties = some properties)
    (hshape : Schema.propertiesWith direction expand required properties = .ok shape)
    (htypes : ∀ p ∈ properties, ∀ t, p.2.typeWith direction expand = .ok t → t.Throughout Q)
    (hindex : ∀ t, index = some t → t.Throughout Q) :
    (TypeExpr.object { properties := shape, index }).Throughout Q := by
  have hnames := names_of_propertiesWith hshape
  refine TypeExpr.throughout_object (hQ.object s properties _ hs hproperties hnames) ?_ hindex
  rw [Schema.propertiesWith_eq_mapM] at hshape
  intro p hp
  obtain ⟨q, hq, h⟩ := exists_of_mem_mapM hshape hp
  obtain ⟨type, htype, h⟩ := bind_eq_ok.mp h
  cases h
  exact htypes q hq type htype

/-- The properties of an object are listed by it or by the schema of its additional properties. -/
theorem exists_of_propertySource {properties : List (String × Schema)} {required : List String}
    (hs : kind s) (h : s.propertySource = some (properties, required)) :
    ∃ u, kind u ∧ u.properties = some properties := by
  unfold Schema.propertySource at h
  split at h
  · next hproperties =>
      cases h
      exact ⟨s, hs, hproperties⟩
  · obtain ⟨values, hvalues, h⟩ := Option.bind_eq_some_iff.mp h
    obtain ⟨ps, hps, h⟩ := Option.map_eq_some_iff.mp h
    cases h
    exact ⟨values, hQ.child hs (.values (Schema.additionalSchema_eq_some_iff.mp hvalues)), hps⟩

theorem withValues_throughout {values : Schema} {shape : Shape TypeExpr}
    (h : values.withValues shape (fun _ => values.typeWith direction expand) = .ok type)
    (hshape : (TypeExpr.object shape).Throughout Q)
    (hvalues : ∀ t, values.typeWith direction expand = .ok t → t.Throughout Q) :
    type.Throughout Q := by
  unfold Schema.withValues at h
  split at h
  · cases h
    exact TypeExpr.throughout_record (hQ.record _) hshape
  · obtain ⟨t, ht, h⟩ := bind_eq_ok.mp h
    cases h
    exact hQ.throughout_intersection_pair hshape
      (TypeExpr.throughout_record (hQ.record t) (hvalues t ht))

theorem objectTypeWith_throughout (hs : kind s)
    (h : s.objectTypeWith direction expand = .ok type)
    (htypes : ∀ u, Relation.TransGen Schema.Child s u → ∀ t, u.typeWith direction expand = .ok t →
      t.Throughout Q) : type.Throughout Q := by
  have hvalues {values : Schema} (ha : s.additionalProperties = some (.values values)) :=
    htypes values (.single (.values ha))
  unfold Schema.objectTypeWith at h
  cases hsource : s.propertySource with
  | some source =>
      obtain ⟨properties, required⟩ := source
      rw [hsource] at h
      obtain ⟨shape, hshape, h⟩ := bind_eq_ok.mp h
      obtain ⟨u, hu, hproperties⟩ := hQ.exists_of_propertySource hs hsource
      have hobject (index : Option TypeExpr) (hindex : ∀ t, index = some t → t.Throughout Q) :
          (TypeExpr.object { properties := shape, index }).Throughout Q :=
        hQ.object_throughout hu hproperties hshape (fun p hp =>
          htypes p.2 (Schema.child_of_propertySource hsource (List.mem_map_of_mem hp))) hindex
      split at h
      · next values ha => exact hQ.withValues_throughout h (hobject none (by simp)) (hvalues ha)
      · cases h
        refine hobject _ ?_
        rintro t ⟨⟩
        exact hQ.throughout_unknown
      · cases h
        exact hobject none (by simp)
  | none =>
      rw [hsource] at h
      cases ha : s.additionalSchema with
      | none =>
          simp only [ha] at h
          cases h
          exact TypeExpr.throughout_primitive (hQ.primitive .object)
      | some values =>
          simp only [ha] at h
          split at h
          · obtain ⟨t, ht, rfl⟩ := map_eq_ok.mp h
            exact TypeExpr.throughout_record (hQ.record t)
              (hvalues (Schema.additionalSchema_eq_some_iff.mp ha) t ht)
          · cases h
            exact TypeExpr.throughout_primitive (hQ.primitive .object)

theorem itemTypeWith_throughout (h : s.itemTypeWith direction expand = .ok type)
    (htypes : ∀ item, s.items = some item → ∀ t, item.typeWith direction expand = .ok t →
      t.Throughout Q) : type.Throughout Q := by
  unfold Schema.itemTypeWith at h
  cases hi : s.items with
  | some item =>
      rw [hi] at h
      exact htypes item hi type h
  | none =>
      rw [hi] at h
      cases h
      exact hQ.throughout_unknown

/-! ## Schemas -/

/-- If the types behind references have the property throughout, so has the type of a schema. -/
theorem typeWith_throughout
    (hexpand : ∀ pointer t, expand pointer = .ok t → t.Throughout Q) (s : Schema) (hs : kind s)
    (type : TypeExpr) (h : s.typeWith direction expand = .ok type) : type.Throughout Q := by
  have hmembers {members : List Schema} {types : List TypeExpr}
      (htypes : members.mapM (Schema.typeWith direction expand) = .ok types)
      (hmember : ∀ m ∈ members, Schema.Child s m) : ∀ t ∈ types, t.Throughout Q := by
    intro t ht
    obtain ⟨m, hm, htype⟩ := exists_of_mem_mapM htypes ht
    have := (hmember m hm).sizeOf_lt
    exact typeWith_throughout hexpand m (hQ.child hs (hmember m hm)) t htype
  rw [Schema.typeWith_eq] at h
  cases hd : s.decision with
  | reference pointer =>
      rw [hd] at h
      exact hexpand pointer type h
  | wrapped inner =>
      have hw := Schema.Child.wrapped (Schema.decides_of_decision hd).2
      rw [hd] at h
      exact typeWith_throughout hexpand inner (hQ.child hs hw) type h
  | anyOf members =>
      rw [hd] at h
      obtain ⟨types, htypes, rfl⟩ := map_eq_ok.mp h
      exact hQ.throughout_unionOf
        (hmembers htypes fun m hm => .anyOf (Schema.decides_of_decision hd).2.2 hm)
  | oneOf members =>
      rw [hd] at h
      obtain ⟨types, htypes, rfl⟩ := map_eq_ok.mp h
      exact hQ.throughout_unionOf (hQ.throughout_pinMembers
        (hmembers htypes fun m hm => .oneOf (Schema.decides_of_decision hd).2.2 hm))
  | allOf members =>
      rw [hd] at h
      obtain ⟨types, htypes, rfl⟩ := map_eq_ok.mp h
      exact hQ.throughout_intersectionOf
        (hmembers htypes fun m hm => .allOf (Schema.decides_of_decision hd).2.2 hm)
  | const literal =>
      rw [hd] at h
      cases h
      exact TypeExpr.throughout_literal (hQ.literal literal)
  | declared =>
      rw [hd] at h
      obtain ⟨core, hcore, rfl⟩ := map_eq_ok.mp h
      refine hQ.throughout_orNullIf (hQ.declaredType_throughout hcore ?_ ?_)
      · intro t ht
        refine hQ.itemTypeWith_throughout ht fun item hi => ?_
        exact typeWith_throughout hexpand item (hQ.child hs (.item hi))
      · intro t ht
        refine hQ.objectTypeWith_throughout hs ht fun u hu => ?_
        exact typeWith_throughout hexpand u (hQ.of_transGen hs hu)
termination_by sizeOf s
decreasing_by
  · assumption
  · exact hw.sizeOf_lt
  · exact (Schema.Child.item hi).sizeOf_lt
  · exact Schema.sizeOf_lt_of_transGen hu

end Building

namespace Document

variable {kind : Schema → Prop} {Q : TypeExpr → Prop} {doc : Document} {direction : Direction}

theorem expand_throughout (hQ : Building kind Q)
    (hkind : ∀ s, FoundIn Schema.read doc.root s → kind s) {room : Nat} {active : List String}
    {pointer : String} {type : TypeExpr}
    (h : doc.expand direction room active pointer = .ok type) : type.Throughout Q := by
  induction room generalizing active pointer type with
  | zero =>
      obtain ⟨-, _, n, -, hroom, -⟩ := expand_eq_ok h
      contradiction
  | succ room ih =>
      obtain ⟨-, target, n, htarget, hroom, h⟩ := expand_eq_ok h
      cases hroom
      exact hQ.typeWith_throughout (fun _ _ hp => ih hp) target
        (hkind target (found_of_resolve htarget)) type h

/-- What every way of building types gives holds throughout the types of schemas. -/
theorem typeOf_throughout (hQ : Building kind Q)
    (hkind : ∀ s, FoundIn Schema.read doc.root s → kind s) {s : Schema} (hs : kind s)
    {type : TypeExpr} (h : doc.typeOf direction s = .ok type) : type.Throughout Q :=
  hQ.typeWith_throughout (fun _ _ hp => expand_throughout hQ hkind hp) s hs type h

end Document

end ApiTypings.OpenApi
