import ApiTypings.OpenApi.Schema.Typing
import ApiTypings.Proofs.OpenApi.Described

/-! # Room for references

A document has room for all of its references, so none that is open at once with others is ever
turned away: how much room there is beyond that, and what would happen without it, does not
matter.
-/

namespace ApiTypings.OpenApi

open Reader Outcome

/-- Room for what of a list of pointers is not open yet. -/
structure HasRoom (pointers : List String) (room : Nat) (opened : List String) : Prop where
  nodup : opened.Nodup
  subset : opened ⊆ pointers
  length_le : pointers.length ≤ room + opened.length

namespace HasRoom

variable {pointers opened : List String} {room : Nat} {pointer : String}

theorem nil (h : pointers.length ≤ room) : HasRoom pointers room [] where
  nodup := List.nodup_nil
  subset := List.nil_subset pointers
  length_le := h

/-- By counting: opened pointers and one more are distinct pointers of the list. -/
theorem pos (h : HasRoom pointers room opened) (hmem : pointer ∈ pointers)
    (hp : pointer ∉ opened) : 0 < room := by
  have hnodup : (pointer :: opened).Nodup := List.nodup_cons.mpr ⟨hp, h.nodup⟩
  have hsubset : pointer :: opened ⊆ pointers := List.cons_subset.mpr ⟨hmem, h.subset⟩
  have hlength := (hnodup.subperm hsubset).length_le
  have := h.length_le
  rw [List.length_cons] at hlength
  omega

theorem cons (h : HasRoom pointers (room + 1) opened) (hmem : pointer ∈ pointers)
    (hp : pointer ∉ opened) : HasRoom pointers room (pointer :: opened) where
  nodup := List.nodup_cons.mpr ⟨hp, h.nodup⟩
  subset := List.cons_subset.mpr ⟨hmem, h.subset⟩
  length_le := by
    have := h.length_le
    rw [List.length_cons]
    omega

end HasRoom

/-- A schema within a document mentions references of the document only. -/
def Schema.IsWithin (root : Json) (s : Schema) : Prop :=
  ∀ pointer, s.Mentions pointer → pointer ∈ references root

theorem Schema.isWithin_of_found {root : Json} {s : Schema} (h : FoundIn Schema.read root s) :
    s.IsWithin root :=
  fun _ hp => hp.mem_references h

theorem Schema.IsWithin.of_part {root : Json} {s t : Schema} (h : s.IsWithin root)
    (ht : t ∈ s.parts) : t.IsWithin root := by
  rintro pointer ⟨u, hu, hp⟩
  exact h pointer ⟨u, (child_of_mem_parts ht).to_reflTransGen.trans hu, hp⟩

namespace Document

variable {doc doc' : Document}

theorem resolve_congr (hroot : doc.root = doc'.root) {α : Type} (read : Reader α)
    (pointer : String) : doc.resolve read pointer = doc'.resolve read pointer := by
  unfold resolve node
  rw [hroot]

/-- With room for the references, which designate the same schemas, expansions are the same. -/
theorem expand_congr_of_resolve
    (hresolve : ∀ q ∈ references doc.root,
      doc.resolve Schema.read q = doc'.resolve Schema.read q)
    {direction : Direction} {room room' : Nat} {active : List String} {pointer : String}
    (hp : pointer ∈ references doc.root) (h : HasRoom (references doc.root) room active)
    (h' : HasRoom (references doc.root) room' active) :
    doc.expand direction room active pointer = doc'.expand direction room' active pointer := by
  induction room generalizing room' active pointer with
  | zero =>
      -- Without room all references of the document are active, so both sides fail alike.
      have hactive : pointer ∈ active :=
        Decidable.byContradiction fun hactive => absurd (h.pos hp hactive) (Nat.lt_irrefl 0)
      unfold expand
      rw [hresolve pointer hp]
      simp only [if_pos hactive]
  | succ room ih =>
      unfold expand
      rw [← hresolve pointer hp]
      cases ht : doc.resolve Schema.read pointer with
      | error e => rfl
      | ok target =>
          by_cases hactive : pointer ∈ active
          · simp only [if_pos hactive]
          · obtain ⟨room', rfl⟩ := Nat.exists_eq_add_one.mpr (h'.pos hp hactive)
            simp only [if_neg hactive]
            refine Schema.typeWith_congr target fun q hq => ?_
            exact ih (hq.mentions.mem_references (found_of_resolve ht)) (h.cons hp hactive)
              (h'.cons hp hactive)

theorem typeOf_congr_of_resolve
    (hresolve : ∀ q ∈ references doc.root,
      doc.resolve Schema.read q = doc'.resolve Schema.read q)
    (h : (references doc.root).length ≤ doc.room) (h' : (references doc.root).length ≤ doc'.room)
    {direction : Direction} {s : Schema} (hs : s.IsWithin doc.root) :
    doc.typeOf direction s = doc'.typeOf direction s :=
  Schema.typeWith_congr s fun pointer hp =>
    expand_congr_of_resolve hresolve (hs pointer hp.mentions) (.nil h) (.nil h')

/-- With room for the references, the bound on expansions does not matter. -/
theorem expand_congr (hroot : doc.root = doc'.root) {direction : Direction} {room room' : Nat}
    {active : List String} {pointer : String} (hp : pointer ∈ references doc.root)
    (h : HasRoom (references doc.root) room active)
    (h' : HasRoom (references doc.root) room' active) :
    doc.expand direction room active pointer = doc'.expand direction room' active pointer :=
  expand_congr_of_resolve (fun q _ => resolve_congr hroot Schema.read q) hp h h'

/-- With room for the references, the type of a schema does not depend on the bound. -/
theorem typeOf_congr (hroot : doc.root = doc'.root)
    (h : (references doc.root).length ≤ doc.room) (h' : (references doc.root).length ≤ doc'.room)
    {direction : Direction} {s : Schema} (hs : s.IsWithin doc.root) :
    doc.typeOf direction s = doc'.typeOf direction s :=
  typeOf_congr_of_resolve (fun q _ => resolve_congr hroot Schema.read q) h h' hs

section Following

variable {α : Type} [Referable α]

theorem deref_of_reference_eq_none {item : α} (h : Referable.reference? item = none) :
    doc.deref item = .ok item := by
  unfold deref follow
  rw [h]

/-- Of a reference nothing else than its pointer counts. -/
theorem deref_eq_deref {item item' : α} {pointer : String}
    (h : Referable.reference? item = some pointer)
    (h' : Referable.reference? item' = some pointer) : doc.deref item = doc.deref item' := by
  unfold deref follow
  rw [h, h']

/-- What is behind references is no reference, and is what the document has or the node itself. -/
theorem follow_eq_ok {P : α → Prop} (hfound : ∀ a, FoundIn Referable.read doc.root a → P a)
    {room : Nat} {followed : List String} {item target : α}
    (h : doc.follow room followed item = .ok target) (hitem : P item) :
    P target ∧ Referable.reference? target = none := by
  induction room generalizing followed item with
  | zero =>
      unfold follow at h
      split at h
      · next hp =>
          cases h
          exact ⟨hitem, hp⟩
      · split at h <;> cases h
  | succ room ih =>
      unfold follow at h
      split at h
      · next hp =>
          cases h
          exact ⟨hitem, hp⟩
      · split at h
        · cases h
        · obtain ⟨next, hnext, h⟩ := bind_eq_ok.mp h
          exact ih h (hfound next (found_of_resolve hnext))

/-- What all nodes of the document have, the node behind a reference has as well. -/
theorem deref_preserves {P : α → Prop} (hfound : ∀ a, FoundIn Referable.read doc.root a → P a)
    {item target : α} (h : doc.deref item = .ok target) (hitem : P item) : P target :=
  (follow_eq_ok hfound h hitem).1

theorem found_of_deref {item target : α} (h : doc.deref item = .ok target)
    (hitem : FoundIn Referable.read doc.root item) : FoundIn Referable.read doc.root target :=
  deref_preserves (fun _ ha => ha) h hitem

variable [Described α]

/-- With room for the references, which designate the same, following them leads to the same. -/
theorem follow_congr_of_resolve
    (hresolve : ∀ q ∈ references doc.root, (doc.resolve Referable.read q : Except _ α) =
      doc'.resolve Referable.read q)
    {room room' : Nat} {followed : List String} {item : α}
    (hitem : FoundIn Referable.read doc.root item)
    (h : HasRoom (references doc.root) room followed)
    (h' : HasRoom (references doc.root) room' followed) :
    doc.follow room followed item = doc'.follow room' followed item := by
  induction room generalizing room' followed item with
  | zero =>
      unfold follow
      cases hp : Referable.reference? item with
      | none => rfl
      | some pointer =>
          have hfollowed : pointer ∈ followed := Decidable.byContradiction fun hnot =>
            absurd (h.pos (reference_mem_references hitem hp) hnot) (Nat.lt_irrefl 0)
          simp only [if_pos hfollowed]
  | succ room ih =>
      unfold follow
      cases hp : Referable.reference? item with
      | none => rfl
      | some pointer =>
          have hmem := reference_mem_references hitem hp
          by_cases hfollowed : pointer ∈ followed
          · simp only [if_pos hfollowed]
          · obtain ⟨room', rfl⟩ := Nat.exists_eq_add_one.mpr (h'.pos hmem hfollowed)
            simp only [if_neg hfollowed]
            refine bind_congr_of_ok (hresolve pointer hmem) fun target ht => ?_
            exact ih (found_of_resolve ht) (h.cons hmem hfollowed) (h'.cons hmem hfollowed)

theorem deref_congr_of_resolve
    (hresolve : ∀ q ∈ references doc.root, (doc.resolve Referable.read q : Except _ α) =
      doc'.resolve Referable.read q)
    (h : (references doc.root).length ≤ doc.room) (h' : (references doc.root).length ≤ doc'.room)
    {item : α} (hitem : FoundIn Referable.read doc.root item) :
    doc.deref item = doc'.deref item :=
  follow_congr_of_resolve hresolve hitem (.nil h) (.nil h')

/-- With room for the references, what is behind a reference does not depend on the bound. -/
theorem deref_congr (hroot : doc.root = doc'.root)
    (h : (references doc.root).length ≤ doc.room) (h' : (references doc.root).length ≤ doc'.room)
    {item : α} (hitem : FoundIn Referable.read doc.root item) :
    doc.deref item = doc'.deref item :=
  deref_congr_of_resolve (fun q _ => resolve_congr hroot Referable.read q) h h' hitem

end Following

end Document

end ApiTypings.OpenApi
