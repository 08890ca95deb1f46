import ApiTypings.Proofs.OpenApi.Room

/-! # Cyclic references

A reference leads to those that the schema behind it follows, and is cyclic if it leads back to
itself. Typing a schema fails for a cyclic reference exactly when it can reach one.
-/

namespace ApiTypings.OpenApi.Document

open Relation Outcome

/-! ## The graph of references -/

/-- A reference leads to those that the schema behind it follows. -/
def Leads (doc : Document) (p q : String) : Prop :=
  ∃ target, doc.resolve Schema.read p = .ok target ∧ target.Follows q

/-- The references that a schema comes to, by way of any number of others. -/
def Reaches (doc : Document) (s : Schema) (p : String) : Prop :=
  ∃ q, s.Follows q ∧ ReflTransGen doc.Leads q p

/-- A reference is cyclic if it leads back to itself. -/
def Cyclic (doc : Document) (p : String) : Prop :=
  TransGen doc.Leads p p

variable {doc : Document} {direction : Direction} {room : Nat} {active : List String}
  {p q : String}

/-- References lead to references of the document only. -/
theorem Leads.mem_references (h : doc.Leads p q) : q ∈ references doc.root := by
  obtain ⟨target, ht, hq⟩ := h
  exact hq.mentions.mem_references (found_of_resolve ht)

theorem node_ne_cyclicReference : doc.node p ≠ .error (.cyclicReference q) := by
  unfold node
  grind

theorem resolve_ne_cyclicReference {α : Type} {read : Reader α} :
    doc.resolve read p ≠ .error (.cyclicReference q) := by
  intro h
  unfold resolve at h
  cases hnode : doc.node p with
  | error e =>
      rw [hnode] at h
      cases h
      exact node_ne_cyclicReference hnode
  | ok node =>
      rw [hnode] at h
      simp only [bind, Except.bind] at h
      split at h <;> cases h

/-! ## Expanding a reference -/

theorem expand_eq_ok {type : TypeScript.TypeExpr}
    (h : doc.expand direction room active p = .ok type) :
    p ∉ active ∧ ∃ target n, doc.resolve Schema.read p = .ok target ∧ room = n + 1 ∧
      target.typeWith direction (doc.expand direction n (p :: active)) = .ok type := by
  unfold expand at h
  obtain ⟨target, ht, h⟩ := bind_eq_ok.mp h
  split at h
  · cases h
  · next hp =>
      cases room with
      | zero => cases h
      | succ n => exact ⟨hp, target, n, ht, rfl, h⟩

/-- An expansion fails because of the reference itself, which is active already, which finds no
room or behind which there is no schema; or else because of the schema behind it. -/
theorem expand_eq_error {e : GenerationError}
    (h : doc.expand direction room active p = .error e) :
    doc.resolve Schema.read p = .error e ∨
      (p ∈ active ∧ e = .cyclicReference p) ∨
      (p ∉ active ∧ room = 0) ∨
      ∃ target n, p ∉ active ∧ doc.resolve Schema.read p = .ok target ∧ room = n + 1 ∧
        target.typeWith direction (doc.expand direction n (p :: active)) = .error e := by
  unfold expand at h
  cases ht : doc.resolve Schema.read p with
  | error e' =>
      rw [ht] at h
      cases h
      exact .inl rfl
  | ok target =>
      rw [ht] at h
      right
      by_cases hp : p ∈ active
      · left
        simp only [bind, Except.bind, if_pos hp] at h
        cases h
        exact ⟨hp, rfl⟩
      · right
        simp only [bind, Except.bind, if_neg hp] at h
        cases room with
        | zero => exact .inl ⟨hp, rfl⟩
        | succ n => exact .inr ⟨target, n, hp, rfl, rfl, h⟩

/-- Where an expansion succeeds, so it does for all references that the schema behind it follows,
with one more active reference. -/
theorem expand_eq_ok_of_leads {type : TypeScript.TypeExpr}
    (h : doc.expand direction room active p = .ok type) (hq : doc.Leads p q) :
    ∃ n type', room = n + 1 ∧ doc.expand direction n (p :: active) q = .ok type' := by
  obtain ⟨-, target, n, ht, hroom, h⟩ := expand_eq_ok h
  obtain ⟨target', ht', hq⟩ := hq
  rw [ht] at ht'
  cases ht'
  obtain ⟨type', h⟩ := hq.exists_expand_eq_ok h
  exact ⟨n, type', hroom, h⟩

/-- Where an expansion succeeds, the reference leads to no active one. -/
theorem not_mem_active_of_expand_eq_ok {type : TypeScript.TypeExpr}
    (h : doc.expand direction room active p = .ok type) (hq : ReflTransGen doc.Leads p q) :
    q ∉ active := by
  -- Each step of the path makes one more reference active and takes one unit of room.
  induction room generalizing active p type with
  | zero =>
      obtain ⟨-, -, n, -, hroom, -⟩ := expand_eq_ok h
      contradiction
  | succ room ih =>
      rcases hq.cases_head with rfl | ⟨p', hp', hq⟩
      · exact (expand_eq_ok h).1
      · obtain ⟨n, type', hroom, h⟩ := expand_eq_ok_of_leads h hp'
        cases hroom
        have hnot := ih h hq
        exact fun hmem => hnot (List.mem_cons_of_mem p hmem)

/-- Where an expansion succeeds, the reference leads to no cyclic one. -/
theorem not_cyclic_of_expand_eq_ok {type : TypeScript.TypeExpr}
    (h : doc.expand direction room active p = .ok type) (hq : ReflTransGen doc.Leads p q) :
    ¬doc.Cyclic q := by
  induction room generalizing active p type with
  | zero =>
      obtain ⟨-, -, n, -, hroom, -⟩ := expand_eq_ok h
      contradiction
  | succ room ih =>
      rcases hq.cases_head with rfl | ⟨p', hp', hq⟩
      · -- The first step of the cycle expands with `p` active, so nothing leads back to it.
        intro hcycle
        obtain ⟨p', hp', hback⟩ := TransGen.head'_iff.mp hcycle
        obtain ⟨n, type', -, h⟩ := expand_eq_ok_of_leads h hp'
        exact not_mem_active_of_expand_eq_ok h hback List.mem_cons_self
      · obtain ⟨n, type', hroom, h⟩ := expand_eq_ok_of_leads h hp'
        cases hroom
        exact ih h hq

/-- The references that are active while another one is expanded: there is room beside them, and
each of them leads to it. -/
structure Trail (doc : Document) (pointers : List String) (room : Nat) (active : List String)
    (p : String) : Prop extends HasRoom pointers room active where
  mem : p ∈ pointers
  leads : ∀ a ∈ active, TransGen doc.Leads a p

theorem Trail.step {pointers : List String} (h : doc.Trail pointers (room + 1) active p)
    (hp : p ∉ active) (hq : doc.Leads p q) (hmem : q ∈ pointers) :
    doc.Trail pointers room (p :: active) q where
  toHasRoom := h.cons h.mem hp
  mem := hmem
  leads := by
    intro a ha
    rcases List.mem_cons.mp ha with rfl | ha
    · exact .single hq
    · exact (h.leads a ha).tail hq

/-- Where an expansion fails for a cyclic reference, the expanded one leads to it. -/
theorem cyclic_of_expand_eq_error {pointers : List String}
    (hpointers : references doc.root ⊆ pointers) (trail : doc.Trail pointers room active p)
    (h : doc.expand direction room active p = .error (.cyclicReference q)) :
    ReflTransGen doc.Leads p q ∧ doc.Cyclic q := by
  induction room generalizing active p with
  | zero =>
      rcases expand_eq_error h with h | ⟨hp, h⟩ | ⟨hp, -⟩ | ⟨_, n, -, -, hroom, -⟩
      · exact absurd h resolve_ne_cyclicReference
      · cases h
        exact ⟨.refl, trail.leads _ hp⟩
      · exact absurd (trail.pos trail.mem hp) (Nat.lt_irrefl 0)
      · contradiction
  | succ room ih =>
      rcases expand_eq_error h with h | ⟨hp, h⟩ | ⟨-, hroom⟩ | ⟨target, n, hp, ht, hroom, h⟩
      · exact absurd h resolve_ne_cyclicReference
      · cases h
        exact ⟨.refl, trail.leads _ hp⟩
      · contradiction
      · cases hroom
        obtain ⟨p', hp', h⟩ := Schema.exists_follows_of_typeWith_eq_error target h
        have hlead : doc.Leads p p' := ⟨target, ht, hp'⟩
        obtain ⟨hreach, hcycle⟩ := ih (trail.step hp hlead (hpointers hlead.mem_references)) h
        exact ⟨.head hlead hreach, hcycle⟩

/-! ## Typing a schema -/

theorem not_cyclic_of_typeOf_eq_ok {s : Schema} {type : TypeScript.TypeExpr}
    (h : doc.typeOf direction s = .ok type) (hp : doc.Reaches s p) : ¬doc.Cyclic p := by
  obtain ⟨q, hq, hp⟩ := hp
  obtain ⟨type', h⟩ := hq.exists_expand_eq_ok h
  exact not_cyclic_of_expand_eq_ok h hp

theorem cyclic_of_typeOf_eq_error {s : Schema} (hroom : (references doc.root).length < doc.room)
    (h : doc.typeOf direction s = .error (.cyclicReference p)) :
    doc.Reaches s p ∧ doc.Cyclic p := by
  obtain ⟨q, hq, h⟩ := Schema.exists_follows_of_typeWith_eq_error s h
  have trail : doc.Trail (q :: references doc.root) doc.room [] q :=
    { toHasRoom := .nil hroom
      mem := List.mem_cons_self
      leads := by simp }
  obtain ⟨hreach, hcycle⟩ := cyclic_of_expand_eq_error (List.subset_cons_self _ _) trail h
  exact ⟨⟨q, hq, hreach⟩, hcycle⟩

/-- Cycles are detected exactly. A schema with a type reaches no cyclic reference, and the
reference that typing fails for is reached and cyclic. So references that are only shared are never
reported, and a cyclic reference that is reached always makes typing fail. -/
theorem typeOf_cycle_exact (root : Json) (direction : Direction) (s : Schema) :
    (∀ type, (ofJson root).typeOf direction s = .ok type →
      ∀ p, (ofJson root).Reaches s p → ¬(ofJson root).Cyclic p) ∧
    (∀ p, (ofJson root).typeOf direction s = .error (.cyclicReference p) →
      (ofJson root).Reaches s p ∧ (ofJson root).Cyclic p) ∧
    ((∀ p, (ofJson root).Reaches s p → ¬(ofJson root).Cyclic p) →
      ∀ p, (ofJson root).typeOf direction s ≠ .error (.cyclicReference p)) ∧
    ∀ p, (ofJson root).Reaches s p → (ofJson root).Cyclic p →
      ∃ e, (ofJson root).typeOf direction s = .error e := by
  have hexact (p : String)
      (h : (ofJson root).typeOf direction s = .error (.cyclicReference p)) :
      (ofJson root).Reaches s p ∧ (ofJson root).Cyclic p :=
    cyclic_of_typeOf_eq_error (length_references_lt_room root) h
  refine ⟨fun type h p hp => not_cyclic_of_typeOf_eq_ok h hp, hexact, ?_, ?_⟩
  · intro hacyclic p h
    exact hacyclic p (hexact p h).1 (hexact p h).2
  · intro p hp hcycle
    cases h : (ofJson root).typeOf direction s with
    | ok type => exact absurd hcycle (not_cyclic_of_typeOf_eq_ok h hp)
    | error e => exact ⟨e, rfl⟩

end ApiTypings.OpenApi.Document
