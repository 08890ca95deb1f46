import ApiTypings.Json.Reader
import ApiTypings.Proofs.Json.Nodes

/-! # Distinct keys

No object in a value that is read from a text has a key twice.
-/

namespace ApiTypings.Json

/-- The keys of an object. -/
def keys : Json → List String
  | .object entries => entries.map Prod.fst
  | _ => []

/-- No object in a value has a key twice. -/
def HasDistinctKeys (root : Json) : Prop :=
  ∀ node ∈ root.nodes, node.keys.Nodup

instance : DecidablePred HasDistinctKeys :=
  fun root => inferInstanceAs (Decidable (∀ node ∈ root.nodes, node.keys.Nodup))

theorem hasDistinctKeys_iff {value : Json} :
    value.HasDistinctKeys ↔ value.keys.Nodup ∧ ∀ child ∈ value.children, child.HasDistinctKeys := by
  unfold HasDistinctKeys
  rw [nodes_eq_cons, List.forall_mem_cons]
  refine and_congr_right fun _ => ?_
  simp only [List.mem_flatMap]
  exact ⟨fun h child hc node hn => h node ⟨child, hc, hn⟩,
    fun h node ⟨child, hc, hn⟩ => h child hc node hn⟩

theorem hasDistinctKeys_array {items : List Json} (h : ∀ item ∈ items, item.HasDistinctKeys) :
    (array items).HasDistinctKeys :=
  hasDistinctKeys_iff.mpr ⟨List.nodup_nil, h⟩

/-! ## Merged entries -/

theorem mem_of_mem_setEntry {key : String} {value : Json} {entries : List (String × Json)}
    {e : String × Json} (h : e ∈ setEntry key value entries) : e = (key, value) ∨ e ∈ entries := by
  induction entries with
  | nil => exact .inl (List.mem_singleton.mp h)
  | cons e' entries ih =>
      obtain ⟨k, v⟩ := e'
      unfold setEntry at h
      split at h
      · exact (List.mem_cons.mp h).imp_right (List.mem_cons_of_mem _)
      · rcases List.mem_cons.mp h with rfl | h
        · exact .inr List.mem_cons_self
        · exact (ih h).imp_right (List.mem_cons_of_mem _)

/-- Merging keeps entries or drops them. -/
theorem mergeEntries_subset (entries : List (String × Json)) : mergeEntries entries ⊆ entries := by
  have hfold (rest merged : List (String × Json)) (hrest : rest ⊆ entries)
      (hmerged : merged ⊆ entries) :
      rest.foldl (fun merged e => setEntry e.1 e.2 merged) merged ⊆ entries := by
    induction rest generalizing merged with
    | nil => exact hmerged
    | cons e rest ih =>
        rw [List.cons_subset] at hrest
        refine ih _ hrest.2 fun e' he' => ?_
        rcases mem_of_mem_setEntry he' with rfl | he'
        · exact hrest.1
        · exact hmerged he'
  exact hfold entries [] (List.Subset.refl _) (List.nil_subset _)

theorem hasDistinctKeys_mergeEntries {entries : List (String × Json)}
    (h : ∀ e ∈ entries, e.2.HasDistinctKeys) : (object (mergeEntries entries)).HasDistinctKeys := by
  refine hasDistinctKeys_iff.mpr ⟨nodup_keys_mergeEntries entries, ?_⟩
  intro child hc
  obtain ⟨e, he, rfl⟩ := List.mem_map.mp hc
  exact h e (mergeEntries_subset entries he)

/-! ## Values read from a text -/

namespace Reader

variable {α : Type} {P : α → Prop} {item : List Char → Option (α × List Char)}

theorem moreItems_forall (hitem : ∀ cs a rest, item cs = some (a, rest) → P a) {close : Char}
    {bound : Nat} {cs rest : List Char} {as : List α}
    (h : moreItems item close bound cs = some (as, rest)) : ∀ a ∈ as, P a := by
  induction bound generalizing cs rest as with
  | zero => cases h
  | succ bound ih =>
      unfold moreItems at h
      split at h
      · cases h
      · split at h
        · cases h
          simp
        · split at h
          · obtain ⟨⟨first, rest'⟩, hfirst, h⟩ := Option.bind_eq_some_iff.mp h
            obtain ⟨⟨others, rest''⟩, hothers, h⟩ := Option.bind_eq_some_iff.mp h
            cases h
            exact List.forall_mem_cons.mpr ⟨hitem _ _ _ hfirst, ih hothers⟩
          · cases h

/-- What holds of every item that can be read holds of all items that are. -/
theorem items_forall (hitem : ∀ cs a rest, item cs = some (a, rest) → P a) {close : Char}
    {cs rest : List Char} {as : List α} (h : items item close cs = some (as, rest)) :
    ∀ a ∈ as, P a := by
  unfold items at h
  split at h
  · cases h
  · split at h
    · cases h
      simp
    · obtain ⟨⟨first, rest'⟩, hfirst, h⟩ := Option.bind_eq_some_iff.mp h
      obtain ⟨⟨others, rest''⟩, hothers, h⟩ := Option.bind_eq_some_iff.mp h
      cases h
      exact List.forall_mem_cons.mpr ⟨hitem _ _ _ hfirst, moreItems_forall hitem hothers⟩

theorem entry_eq_some {value : List Char → Option (Json × List Char)} {cs rest : List Char}
    {e : String × Json} (h : entry value cs = some (e, rest)) :
    ∃ cs', value cs' = some (e.2, rest) := by
  unfold entry at h
  obtain ⟨⟨key, rest'⟩, -, h⟩ := Option.bind_eq_some_iff.mp h
  simp only at h
  split at h
  · obtain ⟨⟨v, rest''⟩, hv, h⟩ := Option.bind_eq_some_iff.mp h
    cases h
    exact ⟨_, hv⟩
  · cases h

theorem scalar?_children {cs rest : List Char} {v : Json} (h : scalar? cs = some (v, rest)) :
    v.keys = [] ∧ v.children = [] := by
  unfold scalar? at h
  split at h
  case h_4 =>
    obtain ⟨⟨s, rest'⟩, -, h⟩ := Option.map_eq_some_iff.mp h
    cases h
    exact ⟨rfl, rfl⟩
  case h_5 =>
    obtain ⟨⟨numeral, rest'⟩, -, h⟩ := Option.bind_eq_some_iff.mp h
    obtain ⟨number, -, h⟩ := Option.bind_eq_some_iff.mp h
    cases h
    exact ⟨rfl, rfl⟩
  all_goals
    cases h
    exact ⟨rfl, rfl⟩

theorem hasDistinctKeys_of_scalar? {cs rest : List Char} {v : Json}
    (h : scalar? cs = some (v, rest)) : v.HasDistinctKeys := by
  obtain ⟨hkeys, hchildren⟩ := scalar?_children h
  refine hasDistinctKeys_iff.mpr ⟨?_, ?_⟩
  · rw [hkeys]
    exact List.nodup_nil
  · simp [hchildren]

/-- On the nesting that is left: what is nested in a value has distinct keys before it has. -/
theorem hasDistinctKeys_of_value {room : Nat} {cs rest : List Char} {v : Json}
    (h : value room cs = some (v, rest)) : v.HasDistinctKeys := by
  induction room generalizing cs rest v with
  | zero =>
      rw [value.eq_def] at h
      exact hasDistinctKeys_of_scalar? h
  | succ room ih =>
      rw [value.eq_def] at h
      split at h
      · next heq =>
          cases heq
          obtain ⟨⟨values, rest'⟩, hvalues, h⟩ := Option.bind_eq_some_iff.mp h
          cases h
          exact hasDistinctKeys_array (items_forall (fun _ _ _ hv => ih hv) hvalues)
      · next heq =>
          cases heq
          obtain ⟨⟨entries, rest'⟩, hentries, h⟩ := Option.bind_eq_some_iff.mp h
          cases h
          refine hasDistinctKeys_mergeEntries (items_forall (fun _ _ _ he => ?_) hentries)
          obtain ⟨cs', hv⟩ := entry_eq_some he
          exact ih hv
      · exact hasDistinctKeys_of_scalar? h

end Reader

/-- No object in a parsed value has a key twice: of a key written twice the last value counts. -/
theorem hasDistinctKeys_of_parse? {source : String} {root : Json} (h : parse? source = some root) :
    root.HasDistinctKeys := by
  unfold parse? parseWithin? at h
  obtain ⟨⟨value, rest⟩, hvalue, h⟩ := Option.bind_eq_some_iff.mp h
  simp only at h
  split at h <;> cases h
  exact Reader.hasDistinctKeys_of_value hvalue

end ApiTypings.Json
