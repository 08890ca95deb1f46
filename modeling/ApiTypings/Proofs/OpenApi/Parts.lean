import ApiTypings.OpenApi.Schema.Typing
import ApiTypings.Proofs.Outcome
import Mathlib.Logic.Relation

/-! # The parts of a schema

Which of its schemas the type of a schema is put together from, and which references it comes to.
-/

namespace ApiTypings.OpenApi.Schema

open TypeScript Outcome

/-! ## The keyword that decides -/

/-- The keyword that decides the type of a schema. -/
inductive Decision where
  | reference (pointer : String)
  | wrapped (inner : Schema)
  | anyOf (members : List Schema)
  | oneOf (members : List Schema)
  | allOf (members : List Schema)
  | const (literal : Literal)
  /-- None of the above: the declared types decide. -/
  | declared

/-- The first keyword that counts. A constant without a literal does not. -/
def decision (s : Schema) : Decision :=
  match s.reference with
  | some pointer => .reference pointer
  | none =>
    match s.wrapped with
    | some inner => .wrapped inner
    | none =>
      match s.anyOf with
      | some members => .anyOf members
      | none =>
        match s.oneOf with
        | some members => .oneOf members
        | none =>
          match s.allOf with
          | some members => .allOf members
          | none =>
            match s.const.bind Literal.ofJson? with
            | some literal => .const literal
            | none => .declared

/-- What the keywords of a schema are where one of them decides. -/
def Decides (s : Schema) : Decision → Prop
  | .reference pointer => s.reference = some pointer
  | .wrapped inner => s.reference = none ∧ s.wrapped = some inner
  | .anyOf members => s.reference = none ∧ s.wrapped = none ∧ s.anyOf = some members
  | .oneOf members => s.reference = none ∧ s.wrapped = none ∧ s.oneOf = some members
  | .allOf members => s.reference = none ∧ s.wrapped = none ∧ s.allOf = some members
  | .const literal =>
      s.reference = none ∧ s.wrapped = none ∧
        ∃ value, s.const = some value ∧ Literal.ofJson? value = some literal
  | .declared => s.reference = none ∧ s.wrapped = none

theorem decides_of_decision {s : Schema} {d : Decision} (h : s.decision = d) : s.Decides d := by
  subst h
  unfold decision
  repeat' split
  all_goals simp_all [Decides, Option.bind_eq_some_iff]

/-- Where the properties of an object come from: its own list with what is required of it, or else
that of the schema of its additional properties. -/
def propertySource (s : Schema) : Option (List (String × Schema) × List String) :=
  match s.properties with
  | some properties => some (properties, s.required.getD [])
  | none =>
      s.additionalSchema.bind fun values =>
        values.properties.map fun properties => (properties, values.required.getD [])

/-- The names that a schema is typed as: its only type, or each of its types. Enumerated values
that no array is among are typed all at once. -/
def typedAs (s : Schema) : List (Option String) :=
  if s.declaredTypes.length < 2 then [s.primaryType]
  else if s.enum.isSome && !s.declaredTypes.contains "array" then []
  else s.declaredTypes.map some

/-- A type that is the only declared one is the primary one. -/
theorem primaryType_of_mem_declaredTypes {s : Schema} {name : String}
    (hlength : s.declaredTypes.length < 2) (hname : name ∈ s.declaredTypes) :
    s.primaryType = some name := by
  unfold primaryType
  match hnames : s.declaredTypes with
  | [] =>
      rw [hnames] at hname
      cases hname
  | [n] =>
      rw [hnames] at hname
      rw [List.mem_singleton.mp hname]
  | _ :: _ :: _ =>
      rw [hnames] at hlength
      simp only [List.length_cons] at hlength
      omega

/-! ## Parts -/

/-- The schema of the values of a dictionary with properties, where it is used. -/
def valueParts (values : Schema) : List Schema :=
  if values.primaryType = some "object" then [] else [values]

/-- The parts of a schema as an object. -/
def objectParts (s : Schema) : List Schema :=
  match s.propertySource, s.additionalSchema with
  | some (properties, _), some values => properties.map Prod.snd ++ values.valueParts
  | some (properties, _), none => properties.map Prod.snd
  | none, some values => if values.isInformative then [values] else []
  | none, none => []

/-- The parts of a schema as one of the names that it is typed as. -/
def partsAs (s : Schema) (name : Option String) : List Schema :=
  if name = some "array" then s.items.toList
  else if s.enum.isNone ∧ name = some "object" then s.objectParts
  else []

/-- The schemas that the type of a schema is put together from. -/
def parts (s : Schema) : List Schema :=
  match s.decision with
  | .reference _ | .const _ => []
  | .wrapped inner => [inner]
  | .anyOf members | .oneOf members | .allOf members => members
  | .declared => s.typedAs.flatMap s.partsAs

/-- A schema follows a reference if its type needs the type behind the reference. -/
inductive Follows : Schema → String → Prop
  | here {s : Schema} {pointer : String} (h : s.reference = some pointer) : Follows s pointer
  | part {s t : Schema} {pointer : String} (ht : t ∈ s.parts) (h : Follows t pointer) :
      Follows s pointer

/-! ## Equations -/

variable (direction : Direction) (expand : String → Except GenerationError TypeExpr)

def itemTypeWith (s : Schema) : Except GenerationError TypeExpr :=
  match s.items with
  | some item => item.typeWith direction expand
  | none => .ok .unknown

def objectTypeWith (s : Schema) : Except GenerationError TypeExpr :=
  match s.propertySource with
  | some (properties, required) => do
      let shape ← propertiesWith direction expand required properties
      match s.additionalProperties with
      | some (.values values) =>
          values.withValues { properties := shape } fun _ => values.typeWith direction expand
      | some (.flag true) => return .object { properties := shape, index := some .unknown }
      | _ => return .object { properties := shape }
  | none =>
      match s.additionalSchema with
      | some values =>
          if values.isInformative then TypeExpr.record <$> values.typeWith direction expand
          else .ok (.primitive .object)
      | none => .ok (.primitive .object)

theorem ownPropertiesWith_eq (s : Schema) :
    s.ownPropertiesWith direction expand =
      s.properties.map (propertiesWith direction expand (s.required.getD [])) := by
  cases s with
  | mk _ _ _ properties =>
      rw [ownPropertiesWith.eq_def]
      cases properties <;> rfl

/-- The type of an object, by its keywords one after the other. -/
theorem objectTypeWith_eq (s : Schema) :
    s.objectTypeWith direction expand =
      match s.properties, s.additionalProperties with
      | some properties, some (.values values) => do
          let shape ← propertiesWith direction expand (s.required.getD []) properties
          values.withValues { properties := shape } fun _ => values.typeWith direction expand
      | some properties, some (.flag true) => do
          let shape ← propertiesWith direction expand (s.required.getD []) properties
          return .object { properties := shape, index := some .unknown }
      | some properties, _ => do
          let shape ← propertiesWith direction expand (s.required.getD []) properties
          return .object { properties := shape }
      | none, some (.values values) =>
          match values.ownPropertiesWith direction expand with
          | some shape => do
              values.withValues { properties := ← shape } fun _ => values.typeWith direction expand
          | none =>
              if values.isInformative then return .record (← values.typeWith direction expand)
              else return .primitive .object
      | none, _ => return .primitive .object := by
  unfold objectTypeWith propertySource additionalSchema
  cases s.properties with
  | some properties =>
      rcases s.additionalProperties with _ | ⟨_ | _⟩ | _ <;> rfl
  | none =>
      rcases s.additionalProperties with _ | _ | values
      · rfl
      · rfl
      · simp only [ownPropertiesWith_eq, Option.bind_some, bind_pure_comp]
        cases values.properties <;> rfl

/-- The type of a schema, by the keyword that decides it. -/
theorem typeWith_eq (s : Schema) :
    s.typeWith direction expand =
      match s.decision with
      | .reference pointer => expand pointer
      | .wrapped inner => inner.typeWith direction expand
      | .anyOf members => TypeExpr.unionOf <$> members.mapM (typeWith direction expand)
      | .oneOf members =>
          (fun types => TypeExpr.unionOf (pinMembers s.discriminator members types)) <$>
            members.mapM (typeWith direction expand)
      | .allOf members => TypeExpr.intersectionOf <$> members.mapM (typeWith direction expand)
      | .const literal => .ok (.literal literal)
      | .declared =>
          TypeExpr.orNullIf s.isNullable <$>
            s.declaredType direction (fun _ => s.itemTypeWith direction expand)
              (fun _ => s.objectTypeWith direction expand) := by
  obtain ⟨type, reference, wrapped, properties, required, items, enum, anyOf, oneOf, allOf,
    additionalProperties, discriminator, format, const, nullable⟩ := s
  rw [typeWith.eq_def]
  simp only [decision, typesWith_eq_mapM, bind_pure_comp]
  cases reference with
  | some pointer => rfl
  | none =>
    cases wrapped with
    | some inner => rfl
    | none =>
      cases anyOf with
      | some members => rfl
      | none =>
        cases oneOf with
        | some members => rfl
        | none =>
          cases allOf with
          | some members => rfl
          | none =>
            cases const.bind Literal.ofJson? with
            | some literal => rfl
            | none =>
              simp only [objectTypeWith_eq]
              rfl

theorem typeWith_of_reference {s : Schema} {pointer : String} (h : s.reference = some pointer) :
    s.typeWith direction expand = expand pointer := by
  rw [typeWith_eq, decision, h]

/-- Where a discriminator applies, every member is pinned in its place. -/
theorem getElem?_pinMembers {d : Discriminator} {members : List Schema} {types : List TypeExpr}
    {i : Nat} {t : Schema} {pointer : String} {type : TypeExpr} (hname : d.propertyName ≠ "")
    (hall : members.all (·.reference.isSome)) (ht : members[i]? = some t)
    (hp : t.reference = some pointer) (htype : types[i]? = some type) :
    (pinMembers (some d) members types)[i]? =
      some (type.pinField d.propertyName (d.valueOf pointer)).1 := by
  simp only [pinMembers, if_pos (And.intro hname hall), List.getElem?_zipWith, ht, htype, hp]

/-! ## What the type of a schema rests on -/

omit expand

/-- The types of schemas, in terms of those behind references. -/
def types (ts : List Schema) :
    List ((String → Except GenerationError TypeExpr) → Except GenerationError TypeExpr) :=
  ts.map fun t expand => t.typeWith direction expand

theorem mapM_typeWith_restsOn (members : List Schema) :
    RestsOn (types direction members)
      fun expand => members.mapM (typeWith direction expand) := by
  rw [types, List.map_eq_flatMap]
  exact .mapM fun t _ => .self _

theorem propertiesWith_restsOn (required : List String) (properties : List (String × Schema)) :
    RestsOn (types direction (properties.map Prod.snd))
      fun expand => propertiesWith direction expand required properties := by
  simp only [propertiesWith_eq_mapM, bind_pure_comp]
  rw [types, List.map_map, List.map_eq_flatMap]
  exact .mapM fun p _ => (RestsOn.self _).map _

theorem withValues_restsOn (values : Schema) (shape : Shape TypeExpr) :
    RestsOn (types direction values.valueParts)
      fun expand => values.withValues shape fun _ => values.typeWith direction expand := by
  unfold valueParts withValues
  by_cases h : values.primaryType = some "object"
  · simp only [if_pos h]
    exact .ok _
  · simp only [if_neg h, bind_pure_comp]
    exact (RestsOn.self _).map _

theorem objectTypeWith_restsOn (s : Schema) :
    RestsOn (types direction s.objectParts) fun expand => s.objectTypeWith direction expand := by
  unfold objectParts objectTypeWith additionalSchema
  cases s.propertySource with
  | some source =>
      obtain ⟨properties, required⟩ := source
      have hproperties := propertiesWith_restsOn direction required properties
      rcases s.additionalProperties with _ | ⟨_ | _⟩ | values
      · exact hproperties.map _
      · exact hproperties.map _
      · exact hproperties.map _
      · simp only [types, List.map_append]
        exact hproperties.bind fun shape => withValues_restsOn direction values _
  | none =>
      rcases s.additionalProperties with _ | _ | values
      · exact .ok _
      · exact .ok _
      · by_cases h : values.isInformative
        · simp only [if_pos h]
          exact (RestsOn.self _).map _
        · simp only [if_neg h]
          exact .ok _

theorem itemTypeWith_restsOn (s : Schema) :
    RestsOn (types direction s.items.toList) fun expand => s.itemTypeWith direction expand := by
  unfold itemTypeWith
  cases s.items with
  | none => exact .ok _
  | some item => exact .self _

theorem typeNamed_restsOn (s : Schema) (name : Option String) :
    RestsOn (types direction (s.partsAs name)) fun expand =>
      s.typeNamed direction (fun _ => s.itemTypeWith direction expand)
        (fun _ => s.objectTypeWith direction expand) name := by
  unfold partsAs typeNamed
  by_cases ha : name = some "array"
  · simp only [if_pos ha, bind_pure_comp]
    exact (itemTypeWith_restsOn direction s).map _
  · simp only [if_neg ha]
    cases s.enum with
    | some values => exact .ok _
    | none =>
        simp only [Option.isNone_none, true_and]
        split
        · next h =>
            subst h
            exact objectTypeWith_restsOn direction s
        · split <;> first | contradiction | exact .ok _

theorem declaredType_restsOn (s : Schema) :
    RestsOn (types direction (s.typedAs.flatMap s.partsAs)) fun expand =>
      s.declaredType direction (fun _ => s.itemTypeWith direction expand)
        (fun _ => s.objectTypeWith direction expand) := by
  have hname := typeNamed_restsOn direction s
  unfold typedAs declaredType
  by_cases hlength : s.declaredTypes.length < 2
  · simpa only [if_pos hlength, List.flatMap_singleton] using hname s.primaryType
  · simp only [if_neg hlength]
    have hnames : RestsOn (types direction ((s.declaredTypes.map some).flatMap s.partsAs))
        fun expand => s.declaredTypes.mapM fun name =>
          s.typeNamed direction (fun _ => s.itemTypeWith direction expand)
            (fun _ => s.objectTypeWith direction expand) (some name) := by
      rw [types, List.map_flatMap, List.flatMap_map]
      exact .mapM fun name _ => hname (some name)
    cases s.enum with
    | none => simpa using hnames.map TypeExpr.union
    | some values =>
        cases s.declaredTypes.contains "array" with
        | false => exact .ok _
        | true => simpa using hnames.map TypeExpr.union

/-- The type of a schema rests on the types of its parts and on the type behind its reference. -/
theorem typeWith_restsOn (s : Schema) :
    RestsOn
      (s.reference.toList.map (fun pointer expand => expand pointer) ++ types direction s.parts)
      fun expand => s.typeWith direction expand := by
  have hmembers := mapM_typeWith_restsOn direction
  rw [funext fun expand => typeWith_eq direction expand s]
  unfold parts
  cases h : s.decision with
  | reference pointer =>
      have hr : s.reference = some pointer := decides_of_decision h
      rw [hr]
      exact .self _
  | wrapped inner =>
      rw [(decides_of_decision h).1]
      exact .self _
  | anyOf members | oneOf members | allOf members =>
      rw [(decides_of_decision h).1]
      exact (hmembers members).map _
  | const literal =>
      rw [(decides_of_decision h).1]
      exact .ok _
  | declared =>
      rw [(decides_of_decision h).1]
      exact (declaredType_restsOn direction s).map _

/-! ## Parts are smaller -/

/-- A schema directly under a keyword of another one, whether the type depends on it or not. -/
inductive Child (s : Schema) : Schema → Prop
  | wrapped {t : Schema} (h : s.wrapped = some t) : Child s t
  | property {properties : List (String × Schema)} {t : Schema} (h : s.properties = some properties)
      (ht : t ∈ properties.map Prod.snd) : Child s t
  | item {t : Schema} (h : s.items = some t) : Child s t
  | anyOf {members : List Schema} {t : Schema} (h : s.anyOf = some members) (ht : t ∈ members) :
      Child s t
  | oneOf {members : List Schema} {t : Schema} (h : s.oneOf = some members) (ht : t ∈ members) :
      Child s t
  | allOf {members : List Schema} {t : Schema} (h : s.allOf = some members) (ht : t ∈ members) :
      Child s t
  | values {t : Schema} (h : s.additionalProperties = some (.values t)) : Child s t

theorem Child.sizeOf_lt {s t : Schema} (h : Child s t) : sizeOf t < sizeOf s := by
  cases h with
  | wrapped h | item h | values h =>
      cases s
      simp only at h
      subst h
      simp
      omega
  | property h ht =>
      obtain ⟨p, hp, rfl⟩ := List.mem_map.mp ht
      have := List.sizeOf_lt_of_mem hp
      cases s
      simp only at h
      subst h
      cases p
      simp at this ⊢
      omega
  | anyOf h ht | oneOf h ht | allOf h ht =>
      have := List.sizeOf_lt_of_mem ht
      cases s
      simp only at h
      subst h
      simp
      omega

theorem additionalSchema_eq_some_iff {s values : Schema} :
    s.additionalSchema = some values ↔ s.additionalProperties = some (.values values) := by
  unfold additionalSchema
  grind

theorem mem_valueParts {values t : Schema} (ht : t ∈ values.valueParts) : t = values := by
  unfold valueParts at ht
  split at ht <;> simp_all

/-- The properties of an object are under its keywords, or under those of its additional
properties. -/
theorem child_of_propertySource {s t : Schema} {properties : List (String × Schema)}
    {required : List String} (h : s.propertySource = some (properties, required))
    (ht : t ∈ properties.map Prod.snd) : Relation.TransGen Child s t := by
  unfold propertySource at h
  split at h
  · next hp =>
      cases h
      exact .single (.property hp ht)
  · obtain ⟨values, hv, h⟩ := Option.bind_eq_some_iff.mp h
    obtain ⟨ps, hps, h⟩ := Option.map_eq_some_iff.mp h
    cases h
    exact .tail (.single (.values (additionalSchema_eq_some_iff.mp hv))) (.property hps ht)

theorem child_of_mem_objectParts {s t : Schema} (ht : t ∈ s.objectParts) :
    Relation.TransGen Child s t := by
  have hvalues {values : Schema} (h : s.additionalSchema = some values) : Child s values :=
    .values (additionalSchema_eq_some_iff.mp h)
  unfold objectParts at ht
  split at ht
  · next hs ha =>
      rcases List.mem_append.mp ht with ht | ht
      · exact child_of_propertySource hs ht
      · rw [mem_valueParts ht]
        exact .single (hvalues ha)
  · next hs _ => exact child_of_propertySource hs ht
  · next ha =>
      split at ht
      · rw [List.mem_singleton.mp ht]
        exact .single (hvalues ha)
      · cases ht
  · cases ht

/-- A part of a schema is somewhere below it. -/
theorem child_of_mem_parts {s t : Schema} (ht : t ∈ s.parts) : Relation.TransGen Child s t := by
  unfold parts at ht
  split at ht
  · cases ht
  · cases ht
  · next h =>
      rw [List.mem_singleton.mp ht]
      exact .single (.wrapped (decides_of_decision h).2)
  · next h => exact .single (.anyOf (decides_of_decision h).2.2 ht)
  · next h => exact .single (.oneOf (decides_of_decision h).2.2 ht)
  · next h => exact .single (.allOf (decides_of_decision h).2.2 ht)
  · obtain ⟨name, _, ht⟩ := List.mem_flatMap.mp ht
    unfold partsAs at ht
    split at ht
    · exact .single (.item (Option.mem_toList.mp ht))
    · split at ht
      · exact child_of_mem_objectParts ht
      · cases ht

theorem sizeOf_lt_of_transGen {s t : Schema} (h : Relation.TransGen Child s t) :
    sizeOf t < sizeOf s := by
  induction h with
  | single h => exact h.sizeOf_lt
  | tail _ h ih => exact Nat.lt_trans h.sizeOf_lt ih

/-- Between two references the schemas that are typed get smaller. -/
theorem sizeOf_lt_of_mem_parts {s t : Schema} (ht : t ∈ s.parts) : sizeOf t < sizeOf s :=
  sizeOf_lt_of_transGen (child_of_mem_parts ht)

/-! ## References that are followed -/

variable {direction} {expand expand' : String → Except GenerationError TypeExpr}

/-- Where a schema has a type, so has everything behind the references it follows. -/
theorem Follows.exists_expand_eq_ok {s : Schema} {pointer : String} (h : s.Follows pointer)
    {type : TypeExpr} (htype : s.typeWith direction expand = .ok type) :
    ∃ target, expand pointer = .ok target := by
  induction h generalizing type with
  | @here s pointer h =>
      exact (typeWith_restsOn direction s).exists_ok htype (fun expand => expand pointer)
        (by simp [h])
  | @part s t pointer ht _ ih =>
      obtain ⟨type, hpart⟩ := (typeWith_restsOn direction s).exists_ok htype
        (fun expand => t.typeWith direction expand)
        (List.mem_append_right _ (List.mem_map_of_mem ht))
      exact ih hpart

/-- A schema fails to have a type only as something behind a reference that it follows does. -/
theorem exists_follows_of_typeWith_eq_error (s : Schema) {e : GenerationError}
    (h : s.typeWith direction expand = .error e) :
    ∃ pointer, s.Follows pointer ∧ expand pointer = .error e := by
  obtain ⟨y, hy, he⟩ := (typeWith_restsOn direction s).exists_error h
  rcases List.mem_append.mp hy with hy | hy
  · obtain ⟨pointer, hp, rfl⟩ := List.mem_map.mp hy
    exact ⟨pointer, .here (Option.mem_toList.mp hp), he⟩
  · obtain ⟨t, ht, rfl⟩ := List.mem_map.mp hy
    obtain ⟨pointer, hp, he⟩ := exists_follows_of_typeWith_eq_error t he
    exact ⟨pointer, .part ht hp, he⟩
termination_by sizeOf s
decreasing_by exact sizeOf_lt_of_mem_parts ht

/-- The type of a schema depends on nothing but the types behind the references it follows. -/
theorem typeWith_congr (s : Schema)
    (h : ∀ pointer, s.Follows pointer → expand pointer = expand' pointer) :
    s.typeWith direction expand = s.typeWith direction expand' := by
  refine (typeWith_restsOn direction s).congr fun y hy => ?_
  rcases List.mem_append.mp hy with hy | hy
  · obtain ⟨pointer, hp, rfl⟩ := List.mem_map.mp hy
    exact h pointer (.here (Option.mem_toList.mp hp))
  · obtain ⟨t, ht, rfl⟩ := List.mem_map.mp hy
    exact typeWith_congr t fun pointer hp => h pointer (.part ht hp)
termination_by sizeOf s
decreasing_by exact sizeOf_lt_of_mem_parts ht

end ApiTypings.OpenApi.Schema
