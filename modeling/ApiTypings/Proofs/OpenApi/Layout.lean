import ApiTypings.OpenApi.Request.Layout
import Mathlib.Data.List.Basic
import Mathlib.Data.List.Forall2

/-! # The shapes of requests

What a request is laid out to, part by part, and how a list is divided into the first element of
each key and the later ones.
-/

namespace ApiTypings.OpenApi

open TypeScript

/-! ## First elements of each key -/

section FirstOfEach

variable {α : Type} {key : α → String} {seen : List String} {a : α} {as : List α}

theorem firstOfEach_cons_of_mem (h : key a ∈ seen) :
    firstOfEach key seen (a :: as) =
      ((firstOfEach key seen as).1, a :: (firstOfEach key seen as).2) := by
  rw [firstOfEach, if_pos h]

theorem firstOfEach_cons_of_not_mem (h : key a ∉ seen) :
    firstOfEach key seen (a :: as) =
      (a :: (firstOfEach key (key a :: seen) as).1, (firstOfEach key (key a :: seen) as).2) := by
  rw [firstOfEach, if_neg h]

theorem firstOfEach_sublist (key : α → String) (seen : List String) (as : List α) :
    (firstOfEach key seen as).1.Sublist as := by
  induction as generalizing seen with
  | nil => exact .slnil
  | cons a as ih =>
      by_cases h : key a ∈ seen
      · rw [firstOfEach_cons_of_mem h]
        exact (ih seen).cons a
      · rw [firstOfEach_cons_of_not_mem h]
        exact (ih _).cons_cons a

/-- The first elements have distinct keys, none of which was seen before. -/
theorem nodup_firstOfEach (key : α → String) (seen : List String) (as : List α) :
    ((firstOfEach key seen as).1.map key).Nodup ∧
      ∀ a ∈ (firstOfEach key seen as).1, key a ∉ seen := by
  induction as generalizing seen with
  | nil => simp [firstOfEach]
  | cons a as ih =>
      by_cases h : key a ∈ seen
      · rw [firstOfEach_cons_of_mem h]
        exact ih seen
      · rw [firstOfEach_cons_of_not_mem h]
        obtain ⟨hnodup, hnot⟩ := ih (key a :: seen)
        refine ⟨?_, ?_⟩
        · rw [List.map_cons, List.nodup_cons]
          refine ⟨fun hmem => ?_, hnodup⟩
          obtain ⟨b, hb, heq⟩ := List.mem_map.mp hmem
          exact hnot b hb (heq ▸ List.mem_cons_self)
        · rw [List.forall_mem_cons]
          exact ⟨h, fun b hb hmem => hnot b hb (List.mem_cons_of_mem _ hmem)⟩

/-- Every key that was not seen before has a first element. -/
theorem mem_map_firstOfEach_iff {k : String} :
    k ∈ (firstOfEach key seen as).1.map key ↔ k ∈ as.map key ∧ k ∉ seen := by
  induction as generalizing seen with
  | nil => simp [firstOfEach]
  | cons a as ih =>
      by_cases h : key a ∈ seen
      · rw [firstOfEach_cons_of_mem h]
        simp only [ih, List.map_cons, List.mem_cons]
        grind
      · rw [firstOfEach_cons_of_not_mem h]
        simp only [ih, List.map_cons, List.mem_cons]
        grind

/-- Only the seen keys that the elements have matter. -/
theorem firstOfEach_congr {seen' : List String} (h : ∀ a ∈ as, key a ∈ seen ↔ key a ∈ seen') :
    firstOfEach key seen as = firstOfEach key seen' as := by
  induction as generalizing seen seen' with
  | nil => rfl
  | cons a as ih =>
      obtain ⟨ha, has⟩ := List.forall_mem_cons.mp h
      by_cases hmem : key a ∈ seen
      · rw [firstOfEach_cons_of_mem hmem, firstOfEach_cons_of_mem (ha.mp hmem), ih has]
      · have hnext : ∀ b ∈ as, key b ∈ key a :: seen ↔ key b ∈ key a :: seen' := by
          intro b hb
          rw [List.mem_cons, List.mem_cons, has b hb]
        rw [firstOfEach_cons_of_not_mem hmem, firstOfEach_cons_of_not_mem fun h => hmem (ha.mpr h),
          ih hnext]

/-- Lists without a common key are divided apart from each other. -/
theorem firstOfEach_append {bs : List α} (h : ∀ a ∈ as, ∀ b ∈ bs, key a ≠ key b) :
    firstOfEach key seen (as ++ bs) =
      ((firstOfEach key seen as).1 ++ (firstOfEach key seen bs).1,
        (firstOfEach key seen as).2 ++ (firstOfEach key seen bs).2) := by
  induction as generalizing seen with
  | nil => rfl
  | cons a as ih =>
      obtain ⟨ha, has⟩ := List.forall_mem_cons.mp h
      rw [List.cons_append]
      by_cases hmem : key a ∈ seen
      · rw [firstOfEach_cons_of_mem hmem, firstOfEach_cons_of_mem hmem, ih has]
        rfl
      · have hbs : firstOfEach key (key a :: seen) bs = firstOfEach key seen bs := by
          refine firstOfEach_congr fun b hb => ?_
          rw [List.mem_cons, or_iff_right (ha b hb).symm]
        rw [firstOfEach_cons_of_not_mem hmem, firstOfEach_cons_of_not_mem hmem, ih has, hbs]
        rfl

theorem firstOfEach_flatMap {β : Type} {parts : List β} {g : β → List α}
    (h : parts.Pairwise fun p q => ∀ a ∈ g p, ∀ b ∈ g q, key a ≠ key b) :
    firstOfEach key seen (parts.flatMap g) =
      (parts.flatMap fun p => (firstOfEach key seen (g p)).1,
        parts.flatMap fun p => (firstOfEach key seen (g p)).2) := by
  induction h with
  | nil => rfl
  | @cons p parts hp _ ih =>
      rw [List.flatMap_cons, List.flatMap_cons, List.flatMap_cons, firstOfEach_append, ih]
      intro a ha b hb
      obtain ⟨q, hq, hb⟩ := List.mem_flatMap.mp hb
      exact hp q hq a ha b hb

/-- With distinct keys nothing comes later. -/
theorem firstOfEach_of_nodup (hnodup : (as.map key).Nodup) (hseen : ∀ a ∈ as, key a ∉ seen) :
    firstOfEach key seen as = (as, []) := by
  induction as generalizing seen with
  | nil => rfl
  | cons a as ih =>
      rw [List.map_cons, List.nodup_cons] at hnodup
      obtain ⟨ha, has⟩ := List.forall_mem_cons.mp hseen
      have hrest : ∀ b ∈ as, key b ∉ key a :: seen := by
        intro b hb
        rw [List.mem_cons, not_or]
        exact ⟨fun heq => hnodup.1 (heq ▸ List.mem_map_of_mem hb), has b hb⟩
      rw [firstOfEach_cons_of_not_mem ha, ih hnodup.2 hrest]

/-- Lists whose elements are related and have the same keys are divided alike. -/
theorem forall₂_firstOfEach {R : α → α → Prop} (hkey : ∀ a b, R a b → key a = key b)
    {bs : List α} (h : List.Forall₂ R as bs) :
    List.Forall₂ R (firstOfEach key seen as).1 (firstOfEach key seen bs).1 ∧
      List.Forall₂ R (firstOfEach key seen as).2 (firstOfEach key seen bs).2 := by
  induction h generalizing seen with
  | nil => exact ⟨.nil, .nil⟩
  | @cons a b _ _ hab _ ih =>
      by_cases hmem : key a ∈ seen
      · rw [firstOfEach_cons_of_mem hmem, firstOfEach_cons_of_mem (hkey a b hab ▸ hmem)]
        exact ⟨ih.1, .cons hab ih.2⟩
      · rw [firstOfEach_cons_of_not_mem hmem, firstOfEach_cons_of_not_mem (hkey a b hab ▸ hmem),
          ← hkey a b hab]
        exact ⟨.cons hab ih.1, ih.2⟩

end FirstOfEach

/-- Divides properties into the first one of each name and the later ones. -/
def firstOfNames (ps : List PartProperty) : List PartProperty × List PartProperty :=
  firstOfEach (fun p => p.property.name) [] ps

/-- The object type of the properties that are kept. -/
def shapeOf (ps : List PartProperty) (index : Option TypeExpr) : Shape TypeExpr :=
  { properties := (firstOfNames ps).1.map PartProperty.property, index }

theorem exists_of_mem_shapeOf {ps : List PartProperty} {index : Option TypeExpr}
    {property : Property TypeExpr} (h : property ∈ (shapeOf ps index).properties) :
    ∃ p ∈ ps, p.property = property := by
  obtain ⟨p, hp, rfl⟩ := List.mem_map.mp h
  exact ⟨p, (firstOfEach_sublist _ _ _).subset hp, rfl⟩

theorem nodup_names_shapeOf (ps : List PartProperty) (index : Option TypeExpr) :
    ((shapeOf ps index).properties.map Property.name).Nodup := by
  have hnodup := (nodup_firstOfEach (fun p : PartProperty => p.property.name) [] ps).1
  rwa [shapeOf, List.map_map]

/-! ## The flat layout -/

/-- The fields of a body as properties of its part. -/
def bodyFields (body : Option Body) : List PartProperty :=
  ((body.map Body.flatProperties).getD []).map (PartProperty.mk .body)

/-- The properties of all parts, one part after the other. -/
def flatProperties (ps : List PartProperty) (body : Option Body) : List PartProperty :=
  (parameterParts.flatMap fun part => ps.filter (·.part = part)) ++ bodyFields body

/-- The request for an object type and for a body that stands beside it. -/
def requestOf (name : String) (shape : Shape TypeExpr) :
    Option (TypeExpr × Bool) → Option Request
  | some (type, required) =>
      if shape.isEmpty then
        some { declaration := .typeAlias name type, optional := !required, layout := .flat }
      else
        some { declaration := .typeAlias name (.intersection [.object shape, type])
               optional := false
               layout := .flat }
  | none =>
      if shape.isEmpty then none
      else
        some { declaration := .interface name shape
               optional := shape.allOptional
               layout := .flat }

theorem flatRequest_eq (operation : String) (ps : List PartProperty) (body : Option Body) :
    flatRequest operation ps body =
      (requestOf (requestName operation)
          (shapeOf (flatProperties ps body) (body.bind Body.flatIndex))
          (body.bind Body.standalone?),
        shadowings operation (firstOfNames (flatProperties ps body)).2) := by
  unfold flatRequest requestOf
  cases body.bind Body.standalone? <;> rfl

/-! ## Dropped properties -/

theorem sharesName_eq_false_iff {names : List (RequestPart × String)} :
    sharesName names = false ↔ ∀ n ∈ names, ∀ m ∈ names, n.2 = m.2 → n.1 = m.1 := by
  simp only [sharesName, List.any_eq_false]
  grind

/-- In the flat layout no two parts share a name. -/
theorem sharesName_of_layoutOf {options : Options} {ps : List PartProperty} {body : Option Body}
    (h : layoutOf options ps body = .flat) : sharesName (partNames ps body) = false := by
  unfold layoutOf at h
  split at h
  · cases h
  · next hnot =>
      simp only [Bool.or_eq_true, not_or, Bool.not_eq_true] at hnot
      exact hnot.1.2

theorem Body.map_name_flatProperties (b : Body) :
    b.flatProperties.map Property.name = b.names := by
  cases b with
  | form => rfl
  | json type kind required => cases type <;> cases kind <;> rfl

theorem map_name_bodyFields (body : Option Body) :
    (bodyFields body).map (fun p => p.property.name) = (body.map Body.names).getD [] := by
  cases body with
  | none => rfl
  | some b =>
      have hnames := b.map_name_flatProperties
      simpa [bodyFields, Function.comp_def] using hnames

theorem mem_partNames_of_mem_bodyFields {ps : List PartProperty} {body : Option Body}
    {q : PartProperty} (hq : q ∈ bodyFields body) :
    (RequestPart.body, q.property.name) ∈ partNames ps body := by
  refine List.mem_append_right _ (List.mem_map_of_mem ?_)
  rw [← map_name_bodyFields]
  exact List.mem_map_of_mem hq

/-- The properties that are dropped from the parts of a request, part by part. -/
def droppedOf (ps : List PartProperty) : List PartProperty :=
  parameterParts.flatMap fun part => (firstOfNames (ps.filter (·.part = part))).2

/-- Where no two parts share a name, the flat layout keeps and drops what each part does by
itself. -/
theorem firstOfNames_flatProperties {ps : List PartProperty} {body : Option Body}
    (hshares : sharesName (partNames ps body) = false)
    (hbody : ∀ b, body = some b → b.names.Nodup) :
    firstOfNames (flatProperties ps body) =
      ((parameterParts.flatMap fun part => (firstOfNames (ps.filter (·.part = part))).1) ++
          bodyFields body,
        droppedOf ps) := by
  rw [sharesName_eq_false_iff] at hshares
  have hparameter : ∀ p ∈ ps, (p.part, p.property.name) ∈ partNames ps body :=
    fun p hp => List.mem_append_left _ (List.mem_map_of_mem hp)
  have hparts : parameterParts.Pairwise fun part part' =>
      ∀ p ∈ ps.filter (·.part = part), ∀ q ∈ ps.filter (·.part = part'),
        p.property.name ≠ q.property.name := by
    have hne : parameterParts.Pairwise (· ≠ ·) := by decide
    refine hne.imp fun hne p hp q hq heq => hne ?_
    obtain ⟨hp, hpart⟩ := List.mem_filter.mp hp
    obtain ⟨hq, hpart'⟩ := List.mem_filter.mp hq
    rw [← of_decide_eq_true hpart, ← of_decide_eq_true hpart']
    exact hshares _ (hparameter p hp) _ (hparameter q hq) heq
  have hfields : ∀ p ∈ parameterParts.flatMap fun part => ps.filter (·.part = part),
      ∀ q ∈ bodyFields body, p.property.name ≠ q.property.name := by
    intro p hp q hq heq
    obtain ⟨part, hpart, hp⟩ := List.mem_flatMap.mp hp
    obtain ⟨hp, hpart'⟩ := List.mem_filter.mp hp
    -- A parameter with the name of a field would be a part of the body itself.
    have hbody : p.part = .body :=
      hshares _ (hparameter p hp) _ (mem_partNames_of_mem_bodyFields hq) heq
    rw [← of_decide_eq_true hpart', hbody] at hpart
    exact absurd hpart (by decide)
  have hkept : firstOfEach (fun p : PartProperty => p.property.name) [] (bodyFields body) =
      (bodyFields body, []) := by
    refine firstOfEach_of_nodup ?_ (by simp)
    rw [map_name_bodyFields]
    cases body with
    | none => exact List.nodup_nil
    | some b => exact hbody b rfl
  rw [firstOfNames, flatProperties, firstOfEach_append hfields, firstOfEach_flatMap hparts, hkept,
    List.append_nil]
  rfl

/-! ## The divided layout -/

/-- The property for a group of parameters, if there are any. -/
def group (ps : List PartProperty) (part : RequestPart) : Option (Property TypeExpr) :=
  let shape := shapeOf (ps.filter (·.part = part)) none
  if shape.properties.isEmpty then none
  else some { name := part.name, type := .object shape, optional := shape.allOptional }

/-- The object type of the body and the groups of parameters. -/
def dividedShape (ps : List PartProperty) (body : Option Body) : Shape TypeExpr :=
  { properties := (body.map Body.property).toList ++ parameterParts.filterMap (group ps) }

theorem eq_of_group {ps : List PartProperty} {part : RequestPart}
    {property : Property TypeExpr} (h : group ps part = some property) :
    property.name = part.name ∧
      property.type = .object (shapeOf (ps.filter (·.part = part)) none) := by
  simp only [group] at h
  split at h <;> cases h
  exact ⟨rfl, rfl⟩

theorem name_property (b : Body) : b.property.name = "body" := by
  unfold Body.property
  split <;> rfl

theorem names_groups_sublist (ps : List PartProperty) (parts : List RequestPart) :
    ((parts.filterMap (group ps)).map Property.name).Sublist (parts.map RequestPart.name) := by
  induction parts with
  | nil => exact .slnil
  | cons part parts ih =>
      rw [List.filterMap_cons, List.map_cons]
      split
      · exact ih.cons _
      · next property hgroup =>
          rw [List.map_cons, (eq_of_group hgroup).1]
          exact ih.cons_cons _

/-- The body and the groups have names of their own. -/
theorem nodup_names_dividedShape (ps : List PartProperty) (body : Option Body) :
    ((dividedShape ps body).properties.map Property.name).Nodup := by
  have hbody : ((body.map Body.property).toList.map Property.name).Sublist ["body"] := by
    cases body with
    | none => exact List.nil_sublist _
    | some b => simp [name_property]
  have hall := hbody.append (names_groups_sublist ps parameterParts)
  rw [dividedShape, List.map_append]
  exact hall.nodup (by decide)

theorem dividedRequest_eq (operation : String) (ps : List PartProperty) (body : Option Body) :
    dividedRequest operation ps body =
      (if (dividedShape ps body).isEmpty then none
       else
         some { declaration := .interface (requestName operation) (dividedShape ps body)
                optional := (dividedShape ps body).allOptional
                layout := .divided },
        shadowings operation (droppedOf ps)) := by
  have hgroups : dividedShape ps body =
      { properties := (body.map Body.property).toList ++
          (parameterParts.map fun part =>
            (part, firstOfNames (ps.filter (·.part = part)))).filterMap fun taken =>
              if taken.2.1.isEmpty then none
              else
                some { name := taken.1.name
                       type := .object { properties := taken.2.1.map PartProperty.property }
                       optional := Shape.allOptional
                         { properties := taken.2.1.map PartProperty.property } } } := by
    rw [List.filterMap_map, dividedShape]
    congr 3
    funext part
    simp [group, shapeOf]
  rw [hgroups]
  rfl

end ApiTypings.OpenApi
