import ApiTypings.Proofs.TypeScript.Inside

/-! # What pinning a field changes

Pinning a field changes its targets and nothing else. Both are said of places: a type is known by
what stands in each of its places, so there is only one type that pinning can lead to.
-/

namespace ApiTypings.TypeScript.TypeExpr

/-! ## Places -/

/-- A step from a type to one directly inside it. -/
inductive Step where
  | item
  | value
  | member (i : Nat)
  | property (i : Nat)
  | index
  | argument (i : Nat)
  deriving DecidableEq, Repr

/-- A type where it stands: as the type of an optional property, or otherwise. -/
structure Place where
  type : TypeExpr
  optional : Bool := false

/-- A member of a union or of an intersection. -/
def member? : TypeExpr → Nat → Option TypeExpr
  | .union ts, i | .intersection ts, i => ts[i]?
  | _, _ => none

/-- The place that a step leads to. -/
def place? : TypeExpr → Step → Option Place
  | t, .member i => (t.member? i).map fun u => { type := u }
  | .array t, .item | .record t, .value => some { type := t }
  | .object shape, .property i =>
      shape.properties[i]?.map fun p => { type := p.type, optional := p.optional }
  | .object shape, .index => shape.index.map fun t => { type := t }
  | .generic _ ts, .argument i => ts[i]?.map fun t => { type := t }
  | _, _ => none

/-- The place at the end of a path. -/
def Place.at? : Place → List Step → Option Place
  | place, [] => some place
  | place, step :: path => (place.type.place? step).bind (·.at? path)

def at? (t : TypeExpr) (path : List Step) : Option Place :=
  Place.at? { type := t } path

/-- What a type is by itself, without the types inside it. -/
inductive Former where
  | primitive (name : Primitive)
  | literal (value : Literal)
  | array
  | union (size : Nat)
  | intersection (size : Nat)
  | object (names : List String) (indexed : Bool)
  | record
  | named (name : String)
  | generic (name : String) (size : Nat)
  deriving DecidableEq, Repr

def former : TypeExpr → Former
  | .primitive name => .primitive name
  | .literal value => .literal value
  | .array _ => .array
  | .union ts => .union ts.length
  | .intersection ts => .intersection ts.length
  | .object shape => .object (shape.properties.map (·.name)) shape.index.isSome
  | .record _ => .record
  | .named name => .named name
  | .generic name ts => .generic name ts.length

/-- What can be told of a place without looking inside its type. -/
def Place.label (place : Place) : Former × Bool :=
  (place.type.former, place.optional)

/-- The same stands in all places of two types. -/
def SameLabels (t u : TypeExpr) : Prop :=
  ∀ path, (t.at? path).map Place.label = (u.at? path).map Place.label

variable {t u : TypeExpr} {ts us : List TypeExpr} {step : Step} {path : List Step}

theorem at?_nil (t : TypeExpr) : t.at? [] = some { type := t } :=
  rfl

theorem at?_cons (t : TypeExpr) (step : Step) (path : List Step) :
    t.at? (step :: path) = (t.place? step).bind (·.at? path) :=
  rfl

section Steps

variable {i : Nat} {shape : Shape TypeExpr} {p : Property TypeExpr}

theorem place?_member (h : t.member? i = some u) :
    t.place? (.member i) = some { type := u } := by
  simp [place?, h]

theorem place?_argument {name : String} (h : ts[i]? = some t) :
    (generic name ts).place? (.argument i) = some { type := t } := by
  simp [place?, h]

theorem place?_property (h : shape.properties[i]? = some p) :
    (object shape).place? (.property i) = some { type := p.type, optional := p.optional } := by
  simp [place?, h]

end Steps

namespace SameLabels

theorem former_eq (h : t.SameLabels u) : t.former = u.former := by
  have hlabel := h []
  simp only [at?_nil, Option.map_some, Option.some.injEq, Place.label, Prod.mk.injEq] at hlabel
  exact hlabel.1

/-- Two types with the same labels in the same place have them in all places inside. -/
theorem of_places {p q : Place}
    (h : ∀ path, (p.at? path).map Place.label = (q.at? path).map Place.label) :
    p.optional = q.optional ∧ p.type.SameLabels q.type := by
  have hlabel : p.label = q.label := Option.some.inj (h [])
  refine ⟨congrArg Prod.snd hlabel, fun path => ?_⟩
  cases path with
  | nil =>
      have hformer : p.type.former = q.type.former := congrArg Prod.fst hlabel
      simp [at?_nil, Place.label, hformer]
  | cons step path => exact h (step :: path)

theorem of_step (h : t.SameLabels u) (step : Step) {p q : Place} (hp : t.place? step = some p)
    (hq : u.place? step = some q) : p.optional = q.optional ∧ p.type.SameLabels q.type := by
  refine of_places fun path => ?_
  have hpath := h (step :: path)
  rwa [at?_cons, at?_cons, hp, hq] at hpath

/-- Lists of the same length are equal if the types in the same places of them have the same
labels. -/
theorem list_eq (hlength : ts.length = us.length)
    (ih : ∀ t ∈ ts, ∀ u, t.SameLabels u → t = u)
    (h : ∀ (i : Nat) t u, ts[i]? = some t → us[i]? = some u → t.SameLabels u) : ts = us := by
  refine List.ext_getElem hlength fun i ht hu => ih _ (List.getElem_mem ht) _ ?_
  exact h i _ _ (List.getElem?_eq_getElem ht) (List.getElem?_eq_getElem hu)

theorem properties_eq {ps qs : List (Property TypeExpr)}
    (hnames : ps.map (·.name) = qs.map (·.name))
    (ih : ∀ p ∈ ps, ∀ u, p.type.SameLabels u → p.type = u)
    (h : ∀ (i : Nat) p q, ps[i]? = some p → qs[i]? = some q →
      p.optional = q.optional ∧ p.type.SameLabels q.type) : ps = qs := by
  have hlength : ps.length = qs.length := by simpa using congrArg List.length hnames
  refine List.ext_getElem hlength fun i hi hi' => ?_
  have hp := List.getElem?_eq_getElem hi
  have hq := List.getElem?_eq_getElem hi'
  have hname : ps[i].name = qs[i].name := by simpa [hp, hq] using congrArg (·[i]?) hnames
  obtain ⟨hoptional, htype⟩ := h i _ _ hp hq
  have htype := ih _ (List.getElem_mem hi) _ htype
  generalize ps[i] = p at *
  generalize qs[i] = q at *
  obtain ⟨name, type, optional⟩ := p
  obtain ⟨name', type', optional'⟩ := q
  simp_all

/-- A type is known by its labels. -/
protected theorem eq (h : t.SameLabels u) : t = u := by
  induction t using part_induction generalizing u with | step t ih
  have hformer := h.former_eq
  cases t with
  | primitive name => cases u <;> simp_all [former]
  | literal value => cases u <;> simp_all [former]
  | named name => cases u <;> simp_all [former]
  | array item =>
      cases u with
      | array item' => rw [ih item .item (h.of_step .item rfl rfl).2]
      | _ => simp [former] at hformer
  | record value =>
      cases u with
      | record value' => rw [ih value .value (h.of_step .value rfl rfl).2]
      | _ => simp [former] at hformer
  | union ts =>
      cases u with
      | union us =>
          have hlength : ts.length = us.length := by simpa [former] using hformer
          rw [list_eq hlength (fun t ht _ => ih t (.member ht)) fun i t u ht hu =>
            (h.of_step _ (place?_member ht) (place?_member hu)).2]
      | _ => simp [former] at hformer
  | intersection ts =>
      cases u with
      | intersection us =>
          have hlength : ts.length = us.length := by simpa [former] using hformer
          rw [list_eq hlength (fun t ht _ => ih t (.operand ht)) fun i t u ht hu =>
            (h.of_step _ (place?_member ht) (place?_member hu)).2]
      | _ => simp [former] at hformer
  | generic name ts =>
      cases u with
      | generic name' us =>
          simp only [former, Former.generic.injEq] at hformer
          rw [hformer.1, list_eq hformer.2 (fun t ht _ => ih t (.argument ht)) fun i t u ht hu =>
            (h.of_step _ (place?_argument ht) (place?_argument hu)).2]
      | _ => simp [former] at hformer
  | object shape =>
      cases u with
      | object shape' =>
          obtain ⟨properties, index⟩ := shape
          obtain ⟨properties', index'⟩ := shape'
          simp only [former, Former.object.injEq] at hformer
          have hproperties := properties_eq hformer.1 (fun p hp _ => ih p.type (.property hp))
            fun i p q hp hq => h.of_step _ (place?_property hp) (place?_property hq)
          cases index with
          | none =>
              obtain rfl : index' = none := by simpa using hformer.2.symm
              rw [hproperties]
          | some t =>
              obtain ⟨u, rfl⟩ := Option.isSome_iff_exists.mp hformer.2.symm
              rw [hproperties, ih t (.index rfl) (h.of_step .index rfl rfl).2]
      | _ => simp [former] at hformer

end SameLabels

/-! ## Targets -/

/-- The targets of a field: the types of its properties where they are the type of all strings, in
object types that are reached through unions and intersections only. -/
inductive IsTarget (field : String) : TypeExpr → List Step → Prop
  | property {shape : Shape TypeExpr} {i : Nat} {p : Property TypeExpr}
      (hp : shape.properties[i]? = some p) (hname : p.name = field) (htype : p.type = .string) :
      IsTarget field (.object shape) [.property i]
  | member {t u : TypeExpr} {i : Nat} {path : List Step} (hu : t.member? i = some u)
      (h : IsTarget field u path) : IsTarget field t (.member i :: path)

/-- A type is another one with a field pinned: its targets are required literals, and in all other
places nothing is different. -/
structure IsPinned (field value : String) (t u : TypeExpr) : Prop where
  at_target : ∀ path, t.IsTarget field path →
    u.at? path = some { type := .literal (.string value) }
  elsewhere : ∀ path, ¬t.IsTarget field path →
    (u.at? path).map Place.label = (t.at? path).map Place.label

variable {field other value : String}

theorem not_isTarget_nil : ¬t.IsTarget field [] := by
  intro h
  cases h

/-- A path to a target begins with a member or a property. -/
theorem not_isTarget_cons (hmember : ∀ i, step ≠ .member i) (hproperty : ∀ i, step ≠ .property i) :
    ¬t.IsTarget field (step :: path) := by
  intro h
  cases h with
  | property => exact hproperty _ rfl
  | member => exact hmember _ rfl

theorem isTarget_member_iff {i : Nat} :
    t.IsTarget field (.member i :: path) ↔ ∃ u, t.member? i = some u ∧ u.IsTarget field path := by
  constructor
  · intro h
    cases h with
    | member hu h => exact ⟨_, hu, h⟩
  · rintro ⟨u, hu, h⟩
    exact .member hu h

theorem isTarget_property_iff {shape : Shape TypeExpr} {i : Nat} :
    (object shape).IsTarget field (.property i :: path) ↔
      path = [] ∧ ∃ p, shape.properties[i]? = some p ∧ p.name = field ∧ p.type = .string := by
  constructor
  · intro h
    cases h with
    | property hp hname htype => exact ⟨rfl, _, hp, hname, htype⟩
  · rintro ⟨rfl, p, hp, hname, htype⟩
    exact .property hp hname htype

/-- A target is the type of all strings. -/
theorem IsTarget.type_eq (h : t.IsTarget field path) :
    ∃ place, t.at? path = some place ∧ place.type = .string := by
  induction h with
  | @property shape i p hp _ htype =>
      refine ⟨{ type := p.type, optional := p.optional }, ?_, htype⟩
      rw [at?_cons, place?_property hp]
      rfl
  | member hu _ ih =>
      obtain ⟨place, hplace, htype⟩ := ih
      refine ⟨place, ?_, htype⟩
      rw [at?_cons, place?_member hu]
      exact hplace

/-- A place is the target of one field at most. -/
theorem IsTarget.field_eq (h : t.IsTarget field path) (h' : t.IsTarget other path) :
    field = other := by
  induction h with
  | property hp hname _ =>
      cases h' with
      | property hp' hname' _ =>
          obtain rfl := Option.some.inj (hp.symm.trans hp')
          exact hname.symm.trans hname'
  | member hu _ ih =>
      cases h' with
      | member hu' h' =>
          obtain rfl := Option.some.inj (hu.symm.trans hu')
          exact ih h'

/-! ## Pinning -/

theorem pinField_object (field value : String) (shape : Shape TypeExpr) :
    ((object shape).pinField field value).1 =
      .object { shape with
        properties := shape.properties.map fun p => (pinProperty field value p).1 } := by
  simp [pinField]

theorem member?_pinField (field value : String) (t : TypeExpr) (i : Nat) :
    (t.pinField field value).1.member? i =
      (t.member? i).map fun u => (u.pinField field value).1 := by
  cases t with
  | union ts => simp [pinField, fst_pinFields, member?]
  | intersection ts => simp [pinField, fst_pinFields, member?]
  | _ => rfl

/-- A property of the type of all strings is pinned in its place. -/
theorem exists_pinField_object {shape : Shape TypeExpr} {i : Nat} {p : Property TypeExpr}
    (hp : shape.properties[i]? = some p) (hname : p.name = field) (htype : p.type = .string)
    (value : String) :
    ∃ pinned, ((object shape).pinField field value).1 = .object pinned ∧
      pinned.properties[i]? =
        some { name := field, type := .literal (.string value), optional := false } := by
  refine ⟨_, pinField_object field value shape, ?_⟩
  rw [List.getElem?_map, hp, Option.map_some, pinProperty_of_target hname htype value, hname]

/-- A pinned property is a target of other fields as before, and of its own field no more. -/
theorem plain_pinProperty_iff (p : Property TypeExpr) :
    ((pinProperty field value p).1.name = other ∧ (pinProperty field value p).1.type = .string) ↔
      other ≠ field ∧ p.name = other ∧ p.type = .string := by
  rcases pinProperty_eq field value p with ⟨hname, htype, h⟩ | ⟨hplain, h⟩ <;> rw [h]
  · constructor
    · rintro ⟨-, h⟩
      cases h
    · rintro ⟨hne, hother, -⟩
      exact absurd (hother.symm.trans hname) hne
  · constructor
    · rintro ⟨rfl, htype⟩
      exact ⟨fun hname => hplain ⟨hname, htype⟩, rfl, htype⟩
    · exact And.right

theorem former_pinField (field value : String) (t : TypeExpr) :
    (t.pinField field value).1.former = t.former := by
  cases t with
  | union ts => simp [pinField, fst_pinFields, former]
  | intersection ts => simp [pinField, fst_pinFields, former]
  | object shape => simp [pinField_object, former, name_pinProperty, Function.comp_def]
  | _ => rfl

/-- Beyond members and properties nothing is touched. -/
theorem place?_pinField (t : TypeExpr) (hmember : ∀ i, step ≠ .member i)
    (hproperty : ∀ i, step ≠ .property i) :
    (t.pinField field value).1.place? step = t.place? step := by
  cases step with
  | member i => exact absurd rfl (hmember i)
  | property i => exact absurd rfl (hproperty i)
  | _ => cases t <;> rfl

theorem IsTarget.at?_pinField (h : t.IsTarget field path) (value : String) :
    (t.pinField field value).1.at? path = some { type := .literal (.string value) } := by
  induction h with
  | @property shape i p hp hname htype =>
      rw [pinField_object, at?_cons, place?_property (p := (pinProperty field value p).1)
        (by simp [hp]), pinProperty_of_target hname htype value]
      rfl
  | @member t u i path hu _ ih =>
      rw [at?_cons, place?_member (u := (u.pinField field value).1)
        (by simp [member?_pinField, hu])]
      exact ih

/-- Where there is no target, pinning changes nothing. -/
theorem label_at?_pinField (value : String) (h : ¬t.IsTarget field path) :
    ((t.pinField field value).1.at? path).map Place.label = (t.at? path).map Place.label := by
  induction path generalizing t with
  | nil => simp [at?_nil, Place.label, former_pinField]
  | cons step path ih =>
      rw [at?_cons, at?_cons]
      cases step with
      | member i =>
          cases hu : t.member? i with
          | none => simp [place?, member?_pinField, hu]
          | some u =>
              rw [place?_member hu, place?_member (u := (u.pinField field value).1)
                (by simp [member?_pinField, hu])]
              exact ih fun hrest => h (.member hu hrest)
      | property i =>
          cases t with
          | object shape =>
              rw [pinField_object]
              cases hp : shape.properties[i]? with
              | none => simp [place?, hp]
              | some p =>
                  rw [place?_property hp, place?_property (p := (pinProperty field value p).1)
                    (by simp [hp])]
                  rcases pinProperty_eq field value p with ⟨hname, htype, hpinned⟩ | ⟨-, hpinned⟩
                  · -- The path goes on, but there is nothing inside the type of all strings.
                    cases path with
                    | nil => exact absurd (.property hp hname htype) h
                    | cons step path =>
                        rw [hpinned]
                        simp only [Option.bind_some, Place.at?, htype]
                        cases step <;> rfl
                  · rw [hpinned]
          | _ => rfl
      | _ => rw [place?_pinField t (by simp) (by simp)]

/-- Pinning changes the targets and nothing else. -/
theorem isPinned_pinField (field value : String) (t : TypeExpr) :
    t.IsPinned field value (t.pinField field value).1 where
  at_target _ h := h.at?_pinField value
  elsewhere _ h := label_at?_pinField value h

/-- There is only one type that pinning can lead to. -/
theorem isPinned_iff : t.IsPinned field value u ↔ u = (t.pinField field value).1 := by
  constructor
  · intro h
    refine SameLabels.eq fun path => ?_
    by_cases htarget : t.IsTarget field path
    · rw [h.at_target path htarget, htarget.at?_pinField value]
    · rw [h.elsewhere path htarget, label_at?_pinField value htarget]
  · rintro rfl
    exact isPinned_pinField field value t

/-- The targets of a union or of an intersection are those of its members. -/
theorem any_pinField_iff (hmember : ∀ i, t.member? i = ts[i]?) (ht : ∀ shape, t ≠ .object shape)
    (h : ∀ u ∈ ts, ((u.pinField field value).2 = true ↔ ∃ path, u.IsTarget field path)) :
    (ts.any fun u => (u.pinField field value).2) = true ↔ ∃ path, t.IsTarget field path := by
  rw [List.any_eq_true]
  constructor
  · rintro ⟨u, hu, hpinned⟩
    obtain ⟨i, hi⟩ := List.mem_iff_getElem?.mp hu
    obtain ⟨path, hpath⟩ := (h u hu).mp hpinned
    exact ⟨_, .member ((hmember i).trans hi) hpath⟩
  · rintro ⟨path, htarget⟩
    cases htarget with
    | property => exact absurd rfl (ht _)
    | member hu hpath =>
        have hmem := List.mem_of_getElem? ((hmember _).symm.trans hu)
        exact ⟨_, hmem, (h _ hmem).mpr ⟨_, hpath⟩⟩

/-- Pinning tells whether there was a target. -/
theorem snd_pinField_iff : (t.pinField field value).2 = true ↔ ∃ path, t.IsTarget field path := by
  induction t using part_induction with | step t ih
  cases t with
  | union ts =>
      rw [pinField, snd_pinFields]
      exact any_pinField_iff (fun _ => rfl) (by simp) fun u hu => ih u (.member hu)
  | intersection ts =>
      rw [pinField, snd_pinFields]
      exact any_pinField_iff (fun _ => rfl) (by simp) fun u hu => ih u (.operand hu)
  | object shape =>
      simp only [pinField, List.any_map, List.any_eq_true, Function.comp_apply]
      constructor
      · rintro ⟨p, hp, hpinned⟩
        obtain ⟨i, hi⟩ := List.mem_iff_getElem?.mp hp
        rcases pinProperty_eq field value p with ⟨hname, htype, -⟩ | ⟨-, h⟩
        · exact ⟨_, .property hi hname htype⟩
        · rw [h] at hpinned
          cases hpinned
      · rintro ⟨path, h⟩
        cases h with
        | @property _ i p hp hname htype =>
            refine ⟨p, List.mem_of_getElem? hp, ?_⟩
            rw [pinProperty_of_target hname htype value]
        | member hu => cases hu
  | _ =>
      refine iff_of_false Bool.false_ne_true fun ⟨path, h⟩ => ?_
      cases h with
      | member hu => cases hu

theorem pinField_eq_self_iff :
    (t.pinField field value).1 = t ↔ ∀ path, ¬t.IsTarget field path := by
  constructor
  · intro h path htarget
    obtain ⟨place, hplace, htype⟩ := htarget.type_eq
    have hpinned := htarget.at?_pinField value
    rw [h, hplace] at hpinned
    rw [Option.some.inj hpinned] at htype
    cases htype
  · intro h
    exact (isPinned_iff.mp ⟨fun path htarget => absurd htarget (h path), fun _ _ => rfl⟩).symm

/-- The targets of other fields stay, and those of the field itself are none any more. -/
theorem isTarget_pinField_iff :
    (t.pinField field value).1.IsTarget other path ↔ other ≠ field ∧ t.IsTarget other path := by
  induction path generalizing t with
  | nil => exact iff_of_false not_isTarget_nil fun h => not_isTarget_nil h.2
  | cons step path ih =>
      cases step with
      | member i =>
          rw [isTarget_member_iff, isTarget_member_iff, member?_pinField]
          cases t.member? i with
          | none => simp
          | some u => simpa using ih
      | property i =>
          cases t with
          | object shape =>
              rw [pinField_object, isTarget_property_iff, isTarget_property_iff]
              cases hp : shape.properties[i]? with
              | none => simp [hp]
              | some p =>
                  simp only [List.getElem?_map, hp, Option.map_some, Option.some.injEq,
                    exists_eq_left', plain_pinProperty_iff]
                  exact and_left_comm
          | _ =>
              refine iff_of_false (fun h => ?_) fun h => by cases h.2
              simp only [pinField] at h
              cases h
      | _ =>
          exact iff_of_false (not_isTarget_cons (by simp) (by simp))
            fun h => not_isTarget_cons (by simp) (by simp) h.2

/-- A target of one field is pinned to the same literal before and after another field is. -/
theorem IsTarget.label_comm (h : t.IsTarget field path) (hne : other ≠ field)
    (value value' : String) :
    (((t.pinField field value).1.pinField other value').1.at? path).map Place.label =
      (((t.pinField other value').1.pinField field value).1.at? path).map Place.label := by
  have hother : ¬(t.pinField field value).1.IsTarget other path :=
    fun hother => hne ((isTarget_pinField_iff.mp hother).2.field_eq h)
  have hfield : (t.pinField other value').1.IsTarget field path :=
    isTarget_pinField_iff.mpr ⟨hne.symm, h⟩
  rw [label_at?_pinField value' hother, h.at?_pinField value, hfield.at?_pinField value]

theorem pinField_comm (hne : other ≠ field) (value value' : String) (t : TypeExpr) :
    ((t.pinField field value).1.pinField other value').1 =
      ((t.pinField other value').1.pinField field value).1 := by
  refine SameLabels.eq fun path => ?_
  by_cases hfield : t.IsTarget field path
  · exact hfield.label_comm hne value value'
  · by_cases hother : t.IsTarget other path
    · exact (hother.label_comm hne.symm value' value).symm
    · rw [label_at?_pinField value' fun h => hother (isTarget_pinField_iff.mp h).2,
        label_at?_pinField value hfield,
        label_at?_pinField value fun h => hfield (isTarget_pinField_iff.mp h).2,
        label_at?_pinField value' hother]

theorem snd_pinField_pinField (hne : other ≠ field) (value value' : String) (t : TypeExpr) :
    ((t.pinField field value).1.pinField other value').2 = (t.pinField other value').2 := by
  rw [Bool.eq_iff_iff, snd_pinField_iff, snd_pinField_iff]
  simp [isTarget_pinField_iff, hne]

/-- Pinning a field changes its targets to required literals and nothing else, and tells whether it
changed anything. A second time there is nothing to change, and two fields are pinned in any
order. -/
theorem pinField_exact (field value : String) (t : TypeExpr) :
    (∀ u, t.IsPinned field value u ↔ u = (t.pinField field value).1) ∧
      ((t.pinField field value).2 = true ↔ (t.pinField field value).1 ≠ t) ∧
      (∀ value', (t.pinField field value).1.pinField field value' =
        ((t.pinField field value).1, false)) ∧
      ∀ other value', other ≠ field →
        ((t.pinField field value).1.pinField other value').1 =
            ((t.pinField other value').1.pinField field value).1 ∧
          ((t.pinField field value).1.pinField other value').2 = (t.pinField other value').2 ∧
          ((t.pinField other value').1.pinField field value).2 = (t.pinField field value).2 := by
  have hnone : ∀ path, ¬(t.pinField field value).1.IsTarget field path :=
    fun path h => (isTarget_pinField_iff.mp h).1 rfl
  refine ⟨fun u => isPinned_iff, ?_, fun value' => Prod.ext ?_ ?_, fun other value' hne => ?_⟩
  · rw [snd_pinField_iff, ne_eq, pinField_eq_self_iff, not_forall_not]
  · exact pinField_eq_self_iff.mpr hnone
  · rw [Bool.eq_false_iff, ne_eq, snd_pinField_iff, not_exists]
    exact hnone
  · exact ⟨pinField_comm hne value value' t, snd_pinField_pinField hne value value' t,
      snd_pinField_pinField hne.symm value' value t⟩

/-- Two targets in a union, one of them in an intersection, beside properties of the name that are
none: one of numbers, and one inside the type of another property. -/
theorem pinField_exact_of_nested :
    let inner : TypeExpr := .array (.object { properties := [{ name := "kind", type := .string }] })
    let pet (kind : TypeExpr) (optional : Bool) : TypeExpr := .object
      { properties :=
          [{ name := "kind", type := kind, optional }, { name := "id", type := .string },
           { name := "friends", type := inner, optional := true }] }
    let mixed (kind : TypeExpr) : TypeExpr := .intersection
      [.object { properties := [{ name := "kind", type := .number }] },
       .object { properties := [{ name := "kind", type := kind }], index := some .unknown }]
    let t : TypeExpr := .union [pet .string true, .record inner, mixed .string]
    let u : TypeExpr := .union
      [pet (.literal (.string "dog")) false, .record inner, mixed (.literal (.string "dog"))]
    t.pinField "kind" "dog" = (u, true) ∧ t.IsPinned "kind" "dog" u ∧
      u.pinField "kind" "cat" = (u, false) ∧ "id" ≠ "kind" ∧
      (u.pinField "id" "7").1 = ((t.pinField "id" "7").1.pinField "kind" "dog").1 ∧
      (u.pinField "id" "7").2 = (t.pinField "id" "7").2 ∧
      ((t.pinField "id" "7").1.pinField "kind" "dog").2 = true := by
  intro inner pet mixed t u
  obtain ⟨hpinned, -, hagain, hother⟩ := pinField_exact "kind" "dog" t
  exact ⟨rfl, (hpinned u).mpr rfl, hagain "cat", by decide, hother "id" "7" (by decide)⟩

end ApiTypings.TypeScript.TypeExpr
