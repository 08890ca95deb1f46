import ApiTypings.Proofs.TypeScript.Inside

/-! # Types of objects

A type is one of objects if it is built from object types and records only, besides null. That can
be told from what it is built from, one step at a time.
-/

namespace ApiTypings.TypeScript

/-! ## Domains -/

/-- What kind of values a type is for. -/
inductive Domain where
  /-- Objects, and null besides them. -/
  | object
  | null
  | other
  deriving DecidableEq, Repr

namespace Domain

/-- The domain of a union: objects, if each member is one of objects or null. -/
def union (domains : List Domain) : Domain :=
  if other ∈ domains then other else object

/-- The domain of an intersection: objects, if each operand is one of objects. -/
def intersection (domains : List Domain) : Domain :=
  if ∀ d ∈ domains, d = object then object else other

/-- The domain of the union of any number of types: nothing is known without members, and a single
member stands for itself. -/
def unionOf : List Domain → Domain
  | [] => other
  | [d] => d
  | domains => union domains

/-- The domain of the intersection of any number of types: nothing is known without operands, and a
single operand stands for itself. -/
def intersectionOf : List Domain → Domain
  | [] => other
  | [d] => d
  | domains => intersection domains

def orNullIf (nullable : Bool) (d : Domain) : Domain :=
  if nullable then union [d, null] else d

theorem union_eq_object_iff {domains : List Domain} : union domains = object ↔ other ∉ domains := by
  simp [union]

theorem intersection_eq_object_iff {domains : List Domain} :
    intersection domains = object ↔ ∀ d ∈ domains, d = object := by
  simp [intersection]

theorem union_ne_null (domains : List Domain) : union domains ≠ null := by
  simp [union, ite_eq_iff]

theorem intersection_ne_null (domains : List Domain) : intersection domains ≠ null := by
  simp [intersection, ite_eq_iff]

/-- Null makes no difference to objects. -/
theorem orNullIf_eq_object_iff {nullable : Bool} {d : Domain} (hd : d ≠ null) :
    orNullIf nullable d = object ↔ d = object := by
  cases nullable <;> cases d <;> simp_all [orNullIf, union]

end Domain

/-! ## The domains of types -/

namespace TypeExpr

/-- The types of null. -/
def IsNull (t : TypeExpr) : Prop :=
  t = .primitive .null ∨ t = .literal .null

/-- The types of objects: object types, records and the type of any object, the intersections of
such types, and the unions of such types and of types of null. -/
inductive IsObjectLike : TypeExpr → Prop
  | object (shape : Shape TypeExpr) : IsObjectLike (.object shape)
  | record (value : TypeExpr) : IsObjectLike (.record value)
  | any : IsObjectLike (.primitive .object)
  | intersection {ts : List TypeExpr} (h : ∀ t ∈ ts, IsObjectLike t) :
      IsObjectLike (.intersection ts)
  | union {ts : List TypeExpr} (h : ∀ t ∈ ts, ¬t.IsNull → IsObjectLike t) :
      IsObjectLike (.union ts)

mutual

/-- The domain of a type. -/
def domain : TypeExpr → Domain
  | .object _ | .record _ | .primitive .object => .object
  | .primitive .null | .literal .null => .null
  | .union ts => .union (domains ts)
  | .intersection ts => .intersection (domains ts)
  | _ => .other

def domains : List TypeExpr → List Domain
  | [] => []
  | t :: rest => domain t :: domains rest

end

theorem domains_eq_map (ts : List TypeExpr) : domains ts = ts.map domain := by
  induction ts with
  | nil => rfl
  | cons t ts ih => rw [domains, ih, List.map_cons]

@[simp] theorem domain_union (ts : List TypeExpr) : (union ts).domain = .union (ts.map domain) := by
  rw [domain, domains_eq_map]

@[simp] theorem domain_intersection (ts : List TypeExpr) :
    (intersection ts).domain = .intersection (ts.map domain) := by
  rw [domain, domains_eq_map]

theorem isNull_iff (t : TypeExpr) : t.IsNull ↔ t.domain = .null := by
  cases t with
  | primitive p => cases p <;> simp [IsNull, domain]
  | literal l => cases l <;> simp [IsNull, domain]
  | union ts => simp [IsNull, Domain.union_ne_null]
  | intersection ts => simp [IsNull, Domain.intersection_ne_null]
  | _ => simp [IsNull, domain]

/-- The types of objects are those of that domain. -/
theorem isObjectLike_iff (t : TypeExpr) : t.IsObjectLike ↔ t.domain = .object := by
  induction t using part_induction with | step t ih
  cases t with
  | union ts =>
      have hts : (union ts).IsObjectLike ↔ ∀ t ∈ ts, ¬t.IsNull → t.IsObjectLike :=
        ⟨fun h => by cases h; assumption, .union⟩
      rw [hts, domain_union, Domain.union_eq_object_iff, List.mem_map, not_exists]
      refine forall_congr' fun t => ?_
      rw [not_and]
      refine forall_congr' fun ht => ?_
      rw [isNull_iff, ih t (.member ht)]
      cases t.domain <;> simp
  | intersection ts =>
      have hts : (intersection ts).IsObjectLike ↔ ∀ t ∈ ts, t.IsObjectLike :=
        ⟨fun h => by cases h; assumption, .intersection⟩
      rw [hts, domain_intersection, Domain.intersection_eq_object_iff, List.forall_mem_map]
      exact forall₂_congr fun t ht => ih t (.operand ht)
  | object shape => exact iff_of_true (.object shape) rfl
  | record value => exact iff_of_true (.record value) rfl
  | primitive p =>
      cases p with
      | object => exact iff_of_true .any rfl
      | _ => exact iff_of_false (fun h => by cases h) (by simp [domain])
  | literal l => exact iff_of_false (fun h => by cases h) (by cases l <;> simp [domain])
  | _ => exact iff_of_false (fun h => by cases h) (by simp [domain])

theorem domain_unionOf (ts : List TypeExpr) : (unionOf ts).domain = .unionOf (ts.map domain) := by
  match ts with
  | [] | [t] => rfl
  | t :: u :: rest => exact domain_union (t :: u :: rest)

theorem domain_intersectionOf (ts : List TypeExpr) :
    (intersectionOf ts).domain = .intersectionOf (ts.map domain) := by
  match ts with
  | [] | [t] => rfl
  | t :: u :: rest => exact domain_intersection (t :: u :: rest)

theorem domain_orNullIf (nullable : Bool) (t : TypeExpr) :
    (orNullIf nullable t).domain = .orNullIf nullable t.domain := by
  cases nullable with
  | false => rfl
  | true => exact domain_union [t, null]

/-- Objects stay objects where a field is pinned. -/
theorem domain_pinField (field value : String) (t : TypeExpr) :
    (t.pinField field value).1.domain = t.domain := by
  induction t using part_induction with | step t ih
  cases t with
  | union ts =>
      rw [pinField, fst_pinFields, domain_union, domain_union, List.map_map]
      exact congrArg _ (List.map_congr_left fun t ht => ih t (.member ht))
  | intersection ts =>
      rw [pinField, fst_pinFields, domain_intersection, domain_intersection, List.map_map]
      exact congrArg _ (List.map_congr_left fun t ht => ih t (.operand ht))
  | _ => rfl

end TypeExpr

end ApiTypings.TypeScript
