import ApiTypings.Proofs.Json.Nodes
import ApiTypings.Proofs.Outcome
import ApiTypings.Reading

/-! # What is read is read inside

Whatever a reader takes from a node of a document is read at a node of the document itself.
-/

namespace ApiTypings.Reader

open Outcome

variable {α β : Type} {root : Json}

/-- Whether a reader reads a given result at a node of a document. -/
def FoundIn (read : Reader α) (root : Json) (a : α) : Prop :=
  ∃ node ∈ root.nodes, read node = .ok a

theorem FoundIn.mem_texts {s : String} (h : FoundIn text root s) : s ∈ root.texts := by
  obtain ⟨node, hnode, h⟩ := h
  cases node with
  | text s' =>
      cases h
      exact Json.texts_subset_of_mem_nodes hnode (by simp [Json.texts])
  | _ => cases h

/-! ## Options, lists and entries -/

theorem FoundIn.of_optional {read : Reader α} {a : α}
    (h : FoundIn (optional read) root (some a)) : FoundIn read root a := by
  obtain ⟨node, hnode, h⟩ := h
  cases node with
  | null => cases h
  | _ =>
      obtain ⟨b, hb, h⟩ := map_eq_ok.mp h
      cases h
      exact ⟨_, hnode, hb⟩

theorem FoundIn.of_optional_eq_some {read : Reader α} {x : Option α}
    (h : FoundIn (optional read) root x) (a : α) (ha : x = some a) : FoundIn read root a := by
  subst ha
  exact h.of_optional

theorem FoundIn.of_list {read : Reader α} {as : List α} (h : FoundIn (list read) root as) {a : α}
    (ha : a ∈ as) : FoundIn read root a := by
  obtain ⟨node, hnode, h⟩ := h
  cases node with
  | array items =>
      obtain ⟨item, hitem, h⟩ := exists_of_mem_mapM h ha
      exact ⟨item, Json.mem_nodes_of_mem_children hnode hitem, h⟩
  | _ => cases h

theorem FoundIn.of_entries {read : Reader α} {as : List (String × α)}
    (h : FoundIn (entries read) root as) {a : String × α} (ha : a ∈ as) :
    FoundIn read root a.2 := by
  obtain ⟨node, hnode, h⟩ := h
  cases node with
  | object entries =>
      obtain ⟨e, he, h⟩ := exists_of_mem_mapM h ha
      obtain ⟨b, hb, h⟩ := map_eq_ok.mp h
      cases h
      exact ⟨e.2, Json.mem_nodes_of_mem_children hnode (List.mem_map_of_mem he), hb⟩
  | _ => cases h

theorem FoundIn.of_plainEntries {read : Reader α} {as : List (String × α)}
    (h : FoundIn (plainEntries read) root as) {a : String × α} (ha : a ∈ as) :
    FoundIn read root a.2 := by
  obtain ⟨node, hnode, h⟩ := h
  cases node with
  | object entries =>
      obtain ⟨e, he, h⟩ := exists_of_mem_mapM h ha
      have hchild : e.2 ∈ (Json.object entries).children :=
        List.mem_map_of_mem (List.mem_of_mem_filter he)
      refine ⟨e.2, Json.mem_nodes_of_mem_children hnode hchild, ?_⟩
      cases hread : read e.2 with
      | ok b =>
          simp only [hread] at h
          cases h
          rfl
      | error cause =>
          simp only [hread] at h
          cases h
  | _ => cases h

/-! ## Records -/

/-- Whether a property of a record under construction survives a field that is read in a
document. -/
def Field.Keeps (root : Json) (P : α → Prop) (f : Field α) : Prop :=
  ∀ node ∈ root.nodes, ∀ a b, P a → f.set node a = .ok b → P b

theorem keeps_field {P : α → Prop} {key : String} {read : Reader β} {update : β → α → α}
    (h : ∀ b, FoundIn read root b → ∀ a, P a → P (update b a)) :
    (field key read update).Keeps root P := by
  intro node hnode a b ha hset
  obtain ⟨x, hx, hset⟩ := bind_eq_ok.mp hset
  cases hset
  exact h x ⟨node, hnode, hx⟩ a ha

theorem keeps_trailingField {P : α → Prop} {key : String} {read : Reader β} {update : β → α → α}
    (h : ∀ b, FoundIn read root b → ∀ a, P a → P (update b a)) :
    (trailingField key read update).Keeps root P :=
  @keeps_field _ _ _ _ key _ _ h

theorem setItems_keeps {P : α → Prop} {name : String} {count index : Nat}
    {fields : List (Field α)} {items : List Json} {a b : α} (hitems : items ⊆ root.nodes)
    (h : setItems name count index fields items a = .ok b) (ha : P a)
    (hfields : ∀ f ∈ fields, f.Keeps root P) : P b := by
  induction fields generalizing index items a with
  | nil =>
      cases items with
      | nil =>
          cases h
          exact ha
      | cons item items => cases h
  | cons f fields ih =>
      have hrest : ∀ g ∈ fields, g.Keeps root P := fun g hg =>
        hfields g (List.mem_cons_of_mem f hg)
      cases items with
      | nil =>
          rw [setItems] at h
          split at h
          · exact ih hitems h ha hrest
          · cases h
      | cons item items =>
          rw [List.cons_subset] at hitems
          rw [setItems] at h
          obtain ⟨a', ha', h⟩ := bind_eq_ok.mp h
          exact ih hitems.2 h (hfields f List.mem_cons_self item hitems.1 a a' ha ha') hrest

theorem setEntries_keeps {P : α → Prop} {fields : List (Field α)}
    {entries : List (String × Json)} {a b : α} (hentries : entries.map Prod.snd ⊆ root.nodes)
    (h : setEntries fields entries a = .ok b) (ha : P a)
    (hfields : ∀ f ∈ fields, f.Keeps root P) : P b := by
  refine foldlM_preserves h ha ?_
  intro e he a b ha hset
  unfold setEntry at hset
  split at hset
  · next f hf =>
      exact hfields f (List.mem_of_find?_eq_some hf) e.2 (hentries (List.mem_map_of_mem he)) a b
        ha hset
  · cases hset
    exact ha

/-- What holds of the blank record and survives each field holds of every record. -/
theorem FoundIn.record_induction {P : α → Prop} {name : String} {blank : α}
    {fields : List (Field α)} (hblank : P blank) (hfields : ∀ f ∈ fields, f.Keeps root P) {a : α}
    (h : FoundIn (record name blank fields) root a) : P a := by
  obtain ⟨node, hnode, h⟩ := h
  have hchildren : node.children ⊆ root.nodes := fun _ hc =>
    Json.mem_nodes_of_mem_children hnode hc
  cases node with
  | array items => exact setItems_keeps hchildren h hblank hfields
  | object entries => exact setEntries_keeps hchildren h hblank hfields
  | _ => cases h

end ApiTypings.Reader
