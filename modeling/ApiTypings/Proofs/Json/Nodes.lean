import ApiTypings.Json.Pointer

/-! # The nodes of a JSON value -/

namespace ApiTypings.Json

/-- The values directly inside a value. -/
def children : Json → List Json
  | .array items => items
  | .object entries => entries.map Prod.snd
  | _ => []

mutual

/-- A value and every value inside it, in document order. -/
def nodes : Json → List Json
  | .array items => .array items :: nodesOfItems items
  | .object entries => .object entries :: nodesOfEntries entries
  | scalar => [scalar]

def nodesOfItems : List Json → List Json
  | [] => []
  | item :: rest => item.nodes ++ nodesOfItems rest

/-- The nodes of the values of a list of entries. -/
def nodesOfEntries : List (String × Json) → List Json
  | [] => []
  | (_, value) :: rest => value.nodes ++ nodesOfEntries rest

end

theorem nodesOfItems_eq_flatMap (items : List Json) : nodesOfItems items = items.flatMap nodes := by
  induction items with
  | nil => rfl
  | cons item rest ih => simp [nodesOfItems, ih]

theorem nodesOfEntries_eq_flatMap (entries : List (String × Json)) :
    nodesOfEntries entries = (entries.map Prod.snd).flatMap nodes := by
  induction entries with
  | nil => rfl
  | cons e rest ih =>
      obtain ⟨key, value⟩ := e
      simp [nodesOfEntries, ih]

/-- The nodes of a value are the value and the nodes of what is directly inside it. -/
theorem nodes_eq_cons (value : Json) : value.nodes = value :: value.children.flatMap nodes := by
  cases value <;>
    simp [nodes, children, nodesOfItems_eq_flatMap, nodesOfEntries_eq_flatMap]

theorem textsOfItems_eq_flatMap (items : List Json) : textsOfItems items = items.flatMap texts := by
  induction items with
  | nil => rfl
  | cons item rest ih => simp [textsOfItems, ih]

theorem textsOfEntries_eq_flatMap (entries : List (String × Json)) :
    textsOfEntries entries = (entries.map Prod.snd).flatMap texts := by
  induction entries with
  | nil => rfl
  | cons e rest ih =>
      obtain ⟨key, value⟩ := e
      simp [textsOfEntries, ih]

theorem texts_subset_of_mem_children {value child : Json} (h : child ∈ value.children) :
    child.texts ⊆ value.texts := by
  intro s hs
  cases value with
  | array items =>
      rw [texts, textsOfItems_eq_flatMap]
      exact List.mem_flatMap.mpr ⟨child, h, hs⟩
  | object entries =>
      rw [texts, textsOfEntries_eq_flatMap]
      exact List.mem_flatMap.mpr ⟨child, h, hs⟩
  | _ => cases h

theorem sizeOf_lt_of_mem_children {value child : Json} (h : child ∈ value.children) :
    sizeOf child < sizeOf value := by
  cases value with
  | array items =>
      have : sizeOf child < sizeOf items := List.sizeOf_lt_of_mem h
      simp
      omega
  | object entries =>
      obtain ⟨e, he, rfl⟩ := List.mem_map.mp h
      have := List.sizeOf_lt_of_mem he
      cases e
      simp at this ⊢
      omega
  | _ => cases h

/-! ## Nodes of nodes -/

theorem self_mem_nodes (value : Json) : value ∈ value.nodes := by
  rw [nodes_eq_cons]
  exact List.mem_cons_self

/-- What holds of a value and goes over to the values directly inside holds of all nodes. -/
theorem forall_mem_nodes {P : Json → Prop} (value : Json) (self : P value)
    (child : ∀ v w, P v → w ∈ v.children → P w) : ∀ node ∈ value.nodes, P node := by
  intro node h
  rw [nodes_eq_cons] at h
  rcases List.mem_cons.mp h with rfl | h
  · exact self
  · obtain ⟨w, hw, h⟩ := List.mem_flatMap.mp h
    exact forall_mem_nodes w (child value w self hw) child node h
termination_by sizeOf value
decreasing_by exact sizeOf_lt_of_mem_children hw

theorem mem_nodes_of_mem_children {root value child : Json} (h : value ∈ root.nodes)
    (hc : child ∈ value.children) : child ∈ root.nodes := by
  rw [nodes_eq_cons] at h ⊢
  rcases List.mem_cons.mp h with rfl | h
  · exact List.mem_cons_of_mem _ (List.mem_flatMap.mpr ⟨child, hc, self_mem_nodes child⟩)
  · obtain ⟨w, hw, h⟩ := List.mem_flatMap.mp h
    exact List.mem_cons_of_mem _ (List.mem_flatMap.mpr ⟨w, hw, mem_nodes_of_mem_children h hc⟩)
termination_by sizeOf root
decreasing_by exact sizeOf_lt_of_mem_children hw

theorem texts_subset_of_mem_nodes {root value : Json} (h : value ∈ root.nodes) :
    value.texts ⊆ root.texts :=
  forall_mem_nodes (P := (·.texts ⊆ root.texts)) root (List.Subset.refl _)
    (fun _ _ hv hw => List.Subset.trans (texts_subset_of_mem_children hw) hv) value h

/-! ## Designated nodes -/

theorem mem_children_of_child? {value child : Json} {key : String}
    (h : value.child? key = some child) : child ∈ value.children := by
  cases value with
  | array items =>
      obtain ⟨index, -, h⟩ := Option.bind_eq_some_iff.mp h
      exact List.mem_of_getElem? h
  | object entries =>
      obtain ⟨l₁, l₂, h, -⟩ := List.lookup_eq_some_iff.mp h
      simp [children, h]
  | _ => cases h

theorem mem_nodes_of_at? {value node : Json} {keys : List String}
    (h : value.at? keys = some node) : node ∈ value.nodes := by
  induction keys generalizing value with
  | nil =>
      cases h
      exact self_mem_nodes _
  | cons key rest ih =>
      obtain ⟨child, hc, h⟩ := Option.bind_eq_some_iff.mp h
      rw [nodes_eq_cons]
      exact List.mem_cons_of_mem _
        (List.mem_flatMap.mpr ⟨child, mem_children_of_child? hc, ih h⟩)

/-- A pointer designates a node. -/
theorem mem_nodes_of_pointer? {value node : Json} {pointer : List Char}
    (h : value.pointer? pointer = some node) : node ∈ value.nodes := by
  obtain ⟨keys, -, h⟩ := Option.bind_eq_some_iff.mp h
  exact mem_nodes_of_at? h

end ApiTypings.Json
