import ApiTypings.Proofs.Json.Keys
import ApiTypings.Proofs.OpenApi.Described
import Mathlib.Data.List.Pairwise

/-! # Documents with reordered paths

Where two documents differ in the order of their paths only, so does what references designate in
them. Whatever may stand behind a reference is read without regard to that order.
-/

namespace ApiTypings

open Outcome

/-! ## Records in any order -/

namespace Reader

variable {α β γ : Type}

/-- The order in which two fields are set does not matter. -/
def Field.Commutes (f g : Field α) : Prop :=
  ∀ value value' a, Agrees (f.set value a >>= g.set value') (g.set value' a >>= f.set value)

instance : Std.Symm (Field.Commutes (α := α)) where
  symm _ _ h value value' a := (h value' value a).symm

theorem Field.commutes {f g : Field α} {read : Reader β} {read' : Reader γ} {update : β → α → α}
    {update' : γ → α → α} (hf : ∀ value a, f.set value a = do return update (← read value) a)
    (hg : ∀ value a, g.set value a = do return update' (← read' value) a)
    (h : ∀ b c a, update' c (update b a) = update b (update' c a)) : f.Commutes g := by
  intro value value' a x
  simp only [hf, hg, bind_eq_ok, pure, Except.pure, Except.ok.injEq]
  grind

theorem setEntry_commutes {fields : List (Field α)} (hfields : fields.Pairwise Field.Commutes)
    {e e' : String × Json} (hne : e.1 ≠ e'.1) (a : α) :
    Agrees (setEntry fields a e >>= (setEntry fields · e'))
      (setEntry fields a e' >>= (setEntry fields · e)) := by
  unfold setEntry
  cases hf : fields.find? (·.key = e.1) with
  | none => exact .of_eq (bind_pure _).symm
  | some f =>
      cases hg : fields.find? (·.key = e'.1) with
      | none => exact .of_eq (bind_pure _)
      | some g =>
          have hfkey : f.key = e.1 := by simpa using List.find?_some hf
          have hgkey : g.key = e'.1 := by simpa using List.find?_some hg
          have hfg : f ≠ g := by
            rintro rfl
            exact hne (hfkey.symm.trans hgkey)
          exact hfields.forall (List.mem_of_find?_eq_some hf) (List.mem_of_find?_eq_some hg) hfg
            e.2 e'.2 a

theorem setEntries_agrees_of_perm {fields : List (Field α)}
    (hfields : fields.Pairwise Field.Commutes) {es es' : List (String × Json)} (h : es.Perm es')
    (hkeys : (es.map Prod.fst).Nodup) (a : α) :
    Agrees (setEntries fields es a) (setEntries fields es' a) :=
  Agrees.foldlM_perm h
    ((List.pairwise_map.mp hkeys).imp fun hne a => setEntry_commutes hfields hne a) a

theorem setEntry_eq_ok {fields : List (Field α)} {e : String × Json}
    (h : ∀ f ∈ fields, f.key ≠ e.1) (a : α) : setEntry fields a e = .ok a := by
  have hnone : fields.find? (·.key = e.1) = none := by simpa using h
  rw [setEntry, hnone]

theorem setEntries_eq_ok {fields : List (Field α)} {es : List (String × Json)}
    (h : ∀ e ∈ es, ∀ f ∈ fields, f.key ≠ e.1) (a : α) : setEntries fields es a = .ok a := by
  unfold setEntries
  induction es with
  | nil => rfl
  | cons e es ih =>
      rw [List.forall_mem_cons] at h
      rw [List.foldlM_cons, setEntry_eq_ok h.1]
      exact ih h.2

/-- Of several entries only one may be for a field. -/
theorem setEntries_append_cons {fields : List (Field α)} {before after : List (String × Json)}
    (h : ∀ e ∈ before ++ after, ∀ f ∈ fields, f.key ≠ e.1) (e : String × Json) (a : α) :
    setEntries fields (before ++ e :: after) a = setEntry fields a e := by
  rw [List.forall_mem_append] at h
  have hbefore := setEntries_eq_ok h.1 a
  have hafter : (fun b => setEntries fields after b) = Except.ok := funext (setEntries_eq_ok h.2)
  unfold setEntries at hbefore hafter ⊢
  rw [List.foldlM_append, hbefore]
  simp only [List.foldlM_cons, hafter]
  exact bind_pure (setEntry fields a e)

end Reader

/-! ## Reordered nodes -/

namespace Json

/-- Two documents differ in the order of their paths only. -/
inductive PathsReordered : Json → Json → Prop
  | object (before after : List (String × Json)) {es es' : List (String × Json)}
      (h : es.Perm es') :
      PathsReordered (.object (before ++ ("paths", .object es) :: after))
        (.object (before ++ ("paths", .object es') :: after))
  /-- In a document that is a list of its fields the paths come first. -/
  | array (rest : List Json) {es es' : List (String × Json)} (h : es.Perm es') :
      PathsReordered (.array (.object es :: rest)) (.array (.object es' :: rest))

/-- What one pointer designates in two documents that differ in the order of their paths only. -/
inductive Reordered : Json → Json → Prop
  | same (node : Json) : Reordered node node
  | paths {es es' : List (String × Json)} (h : es.Perm es') (hkeys : (es.map Prod.fst).Nodup) :
      Reordered (.object es) (.object es')
  | root {root root' : Json} (h : PathsReordered root root') (hkeys : root.HasDistinctKeys) :
      Reordered root root'

theorem get?_eq_of_perm {es es' : List (String × Json)} (h : es.Perm es')
    (hkeys : (es.map Prod.fst).Nodup) (key : String) : get? key es = get? key es' := by
  unfold get?
  induction h with
  | nil => rfl
  | cons e _ ih =>
      have hkeys := (List.nodup_cons.mp hkeys).2
      rw [List.lookup_cons, List.lookup_cons, ih hkeys]
  | swap e e' es =>
      have hne : e'.1 ≠ e.1 := by simp_all
      rw [List.lookup_cons, List.lookup_cons, List.lookup_cons, List.lookup_cons]
      grind
  | trans h _ ih ih' => exact (ih hkeys).trans (ih' ((h.map Prod.fst).nodup_iff.mp hkeys))

theorem PathsReordered.perm_texts {root root' : Json} (h : PathsReordered root root') :
    root.texts.Perm root'.texts := by
  cases h with
  | object before after h =>
      simp only [texts, textsOfEntries_eq_flatMap, List.map_append, List.map_cons,
        List.flatMap_append, List.flatMap_cons]
      exact (((h.map Prod.snd).flatMap_right texts).append_right _).append_left _
  | array rest h =>
      simp only [texts, textsOfItems, textsOfEntries_eq_flatMap]
      exact ((h.map Prod.snd).flatMap_right texts).append_right _

theorem HasDistinctKeys.nodup_of_object_mem_children {root : Json} (h : root.HasDistinctKeys)
    {es : List (String × Json)} (hes : .object es ∈ root.children) : (es.map Prod.fst).Nodup :=
  (hasDistinctKeys_iff.mp ((hasDistinctKeys_iff.mp h).2 _ hes)).1

namespace Reordered

variable {node node' : Json}

/-- Only the step from the root to the paths and the one from there to a path meet the order. -/
theorem child? (h : Reordered node node') (key : String) :
    Option.Rel Reordered (node.child? key) (node'.child? key) := by
  cases h with
  | same node => exact rel_refl .same _
  | paths h hkeys =>
      unfold Json.child?
      simp only [get?_eq_of_perm h hkeys]
      exact rel_refl .same _
  | root h hkeys =>
      cases h with
      | @object before after es es' h =>
          have hpaths : (es.map Prod.fst).Nodup :=
            hkeys.nodup_of_object_mem_children (by simp [children])
          unfold Json.child? get?
          simp only [List.lookup_append, List.lookup_cons]
          cases before.lookup key with
          | some value => exact .some (.same value)
          | none =>
              split
              · exact .some (.paths h hpaths)
              · exact rel_refl .same _
      | array rest h =>
          have hpaths := hkeys.nodup_of_object_mem_children List.mem_cons_self
          unfold Json.child?
          cases Pointer.index? key with
          | none => exact .none
          | some index =>
              cases index with
              | zero => exact .some (.paths h hpaths)
              | succ index => exact rel_refl .same _

theorem at? (h : Reordered node node') (keys : List String) :
    Option.Rel Reordered (node.at? keys) (node'.at? keys) := by
  induction keys generalizing node node' with
  | nil => exact .some h
  | cons key rest ih =>
      unfold Json.at?
      have hchild := h.child? key
      generalize node.child? key = x at hchild ⊢
      generalize node'.child? key = y at hchild ⊢
      cases hchild with
      | none => exact .none
      | some hchild => exact ih hchild

theorem pointer? (h : Reordered node node') (pointer : List Char) :
    Option.Rel Reordered (node.pointer? pointer) (node'.pointer? pointer) := by
  unfold Json.pointer?
  cases Pointer.keys? pointer with
  | none => exact .none
  | some keys => exact h.at? keys

end Reordered

end Json

/-! ## Records read from reordered nodes -/

namespace Reader

variable {α : Type}

/-- Fields that can be read from reordered nodes alike: their order does not matter, paths are not
among them, and no field that comes first looks into an object. -/
structure IgnoreOrder (fields : List (Field α)) : Prop where
  commute : fields.Pairwise Field.Commutes
  key_ne : ∀ f ∈ fields, f.key ≠ "paths"
  head_eq : ∀ f ∈ fields.head?, ∀ es es' a, f.set (.object es) a = f.set (.object es') a

theorem IgnoreOrder.record_agrees {fields : List (Field α)} (hfields : IgnoreOrder fields)
    {node node' : Json} (h : Json.Reordered node node') (name : String) (blank : α) :
    Agrees (record name blank fields node) (record name blank fields node') := by
  cases h with
  | same node => exact .refl _
  | paths h hkeys => exact setEntries_agrees_of_perm hfields.commute h hkeys blank
  | root h hkeys =>
      cases h with
      | object before after h =>
          have hpaths (value : Json) (a : α) : setEntry fields a ("paths", value) = .ok a :=
            setEntry_eq_ok hfields.key_ne a
          simp only [record, setEntries, List.foldlM_append, List.foldlM_cons, hpaths]
          exact .refl _
      | array rest h =>
          cases fields with
          | nil => exact .refl _
          | cons f fields =>
              simp only [record, setItems]
              rw [hfields.head_eq f rfl]
              exact .refl _

end Reader

namespace OpenApi

open Reader

/-! ## What may stand behind a reference -/

/-- What may stand behind a reference is read alike from reordered nodes. -/
class Unordered (α : Type) [Referable α] : Prop where
  read_agrees : ∀ {node node' : Json}, Json.Reordered node node' →
    Agrees (Referable.read node : Except ReadError α) (Referable.read node')

theorem Schema.ignoreOrder_fields : IgnoreOrder Schema.fields where
  commute := by
    simp only [fields, List.pairwise_cons, List.forall_mem_cons, List.not_mem_nil, false_implies,
      implies_true, and_true, List.Pairwise.nil]
    repeat' apply And.intro
    all_goals exact Field.commutes (fun _ _ => rfl) (fun _ _ => rfl) fun _ _ _ => rfl
  key_ne := by decide
  head_eq := by
    rintro _ ⟨⟩ es es' s
    rfl

instance : Unordered Schema where
  read_agrees h := by
    have hagrees := Schema.ignoreOrder_fields.record_agrees h "Schema" {}
    rw [← Schema.map_field_eq_fields, ← Schema.read_eq_record, ← Schema.read_eq_record] at hagrees
    exact hagrees

instance : Unordered Parameter where
  read_agrees h := by
    refine IgnoreOrder.record_agrees ⟨?commute, ?key_ne, ?head_eq⟩ h _ _
    case commute =>
      simp only [List.pairwise_cons, List.forall_mem_cons, List.not_mem_nil, false_implies,
        implies_true, and_true, List.Pairwise.nil]
      repeat' apply And.intro
      all_goals exact Field.commutes (fun _ _ => rfl) (fun _ _ => rfl) fun _ _ _ => rfl
    case key_ne => decide
    case head_eq =>
      rintro _ ⟨⟩ es es' a
      rfl

instance : Unordered RequestBody where
  read_agrees h := by
    refine IgnoreOrder.record_agrees ⟨?commute, ?key_ne, ?head_eq⟩ h _ _
    case commute =>
      simp only [List.pairwise_cons, List.forall_mem_cons, List.not_mem_nil, false_implies,
        implies_true, and_true, List.Pairwise.nil]
      repeat' apply And.intro
      all_goals exact Field.commutes (fun _ _ => rfl) (fun _ _ => rfl) fun _ _ _ => rfl
    case key_ne => decide
    case head_eq =>
      rintro _ ⟨⟩ es es' a
      rfl

instance : Unordered Response where
  read_agrees h := by
    refine IgnoreOrder.record_agrees ⟨?commute, ?key_ne, ?head_eq⟩ h _ _
    case commute =>
      simp only [List.pairwise_cons, List.forall_mem_cons, List.not_mem_nil, false_implies,
        implies_true, and_true, List.Pairwise.nil]
      exact Field.commutes (fun _ _ => rfl) (fun _ _ => rfl) fun _ _ _ => rfl
    case key_ne => decide
    case head_eq =>
      rintro _ ⟨⟩ es es' a
      rfl

end OpenApi

end ApiTypings
