import ApiTypings.OpenApi.Reference
import ApiTypings.Proofs.Json.Keys
import Mathlib.Data.Nat.Init

/-! # Pointers to the nodes of a document

A node of a document is reached by steps: under a key of an object, or to an item of an array. The
names of the steps, escaped, make up a pointer, which designates the node.
-/

namespace ApiTypings.Json

/-! ## Segments -/

namespace Pointer

theorem escapeChar_of_ne {c : Char} (htilde : c ≠ '~') (hslash : c ≠ '/') :
    escapeChar c = [c] := by
  rw [escapeChar, if_neg htilde, if_neg hslash]

theorem slash_not_mem_escapeChar (c : Char) : '/' ∉ escapeChar c := by
  by_cases htilde : c = '~'
  · subst htilde
    decide
  · by_cases hslash : c = '/'
    · subst hslash
      decide
    · rw [escapeChar_of_ne htilde hslash, List.mem_singleton]
      exact Ne.symm hslash

theorem slash_not_mem_escape (key : String) : '/' ∉ escape key := by
  intro h
  obtain ⟨c, -, hc⟩ := List.mem_flatMap.mp h
  exact slash_not_mem_escapeChar c hc

theorem replaceMark_cons_of_ne {mark by_ c : Char} (h : c ≠ '~') (cs : List Char) :
    replaceMark mark by_ (c :: cs) = c :: replaceMark mark by_ cs := by
  rw [replaceMark.eq_def]
  split <;> simp_all

/-- The written form of a tilde, where all else is as it is. -/
def escapeTilde (c : Char) : List Char :=
  if c = '~' then ['~', '0'] else [c]

/-- Once the slashes are restored, only the tildes are escaped: the zero behind a tilde keeps what
follows apart from it. -/
theorem replaceMark_escape (cs : List Char) :
    replaceMark '1' '/' (cs.flatMap escapeChar) = cs.flatMap escapeTilde := by
  induction cs with
  | nil => rfl
  | cons c cs ih =>
      rw [List.flatMap_cons, List.flatMap_cons, ← ih]
      by_cases htilde : c = '~'
      · subst htilde
        simp [escapeChar, escapeTilde, replaceMark]
      · by_cases hslash : c = '/'
        · subst hslash
          simp [escapeChar, escapeTilde, replaceMark]
        · rw [escapeChar_of_ne htilde hslash, escapeTilde, if_neg htilde, List.singleton_append,
            replaceMark_cons_of_ne htilde, List.singleton_append]

theorem replaceMark_escapeTilde (cs : List Char) :
    replaceMark '0' '~' (cs.flatMap escapeTilde) = cs := by
  induction cs with
  | nil => rfl
  | cons c cs ih =>
      rw [List.flatMap_cons]
      by_cases htilde : c = '~'
      · subst htilde
        simp [escapeTilde, replaceMark, ih]
      · rw [escapeTilde, if_neg htilde, List.singleton_append, replaceMark_cons_of_ne htilde, ih]

/-- A segment stands for the key that it was written for. -/
theorem unescape_escape (key : String) : unescape (escape key) = key := by
  rw [unescape, escape, replaceMark_escape, replaceMark_escapeTilde, String.ofList_toList]

theorem map_unescape_escape (keys : List String) : (keys.map escape).map unescape = keys := by
  rw [List.map_map]
  exact List.map_id'' unescape_escape keys

/-! ## Indices -/

/-- The digits of a positive number do not start with zero. -/
theorem head?_toDigits_ne {n : Nat} (hn : 0 < n) : (Nat.toDigits 10 n).head? ≠ some '0' := by
  induction n using Nat.strong_induction_on with
  | _ n ih =>
      rw [Nat.toDigits_eq_if (by decide)]
      split
      · next h =>
          have hdigit : ∀ m < 10, 0 < m → m.digitChar ≠ '0' := by decide
          simpa using hdigit n h hn
      · next h =>
          have hhead := ih (n / 10) (by omega) (by omega)
          rw [List.head?_append]
          cases hdigits : (Nat.toDigits 10 (n / 10)).head? with
          | none => exact absurd (List.head?_eq_none_iff.mp hdigits) Nat.toDigits_ne_nil
          | some c => rwa [hdigits] at hhead

/-- The digits of a number denote it as an index. -/
theorem index?_toString (n : Nat) : index? (toString n) = some n := by
  have hdigits : (toString n).toList = Nat.toDigits 10 n := by
    rw [Nat.toString_eq_repr, Nat.repr_eq_ofList_toDigits, String.toList_ofList]
  rcases Nat.eq_zero_or_pos n with rfl | hn
  · rfl
  · have hall : (Nat.toDigits 10 n).all Char.isDigit = true :=
      List.all_eq_true.mpr fun c hc => Nat.isDigit_of_mem_toDigits (by decide) (by decide) hc
    have hhead := head?_toDigits_ne hn
    unfold index?
    rw [hdigits]
    split
    · next h => simp [h] at hhead
    · next h => simp [h] at hhead
    · next h => exact absurd h Nat.toDigits_ne_nil
    · rw [if_pos hall, ← Nat.ofDigitChars_eq_foldl,
        Nat.ofDigitChars_toDigits (by decide) (by decide)]

end Pointer

/-! ## Steps -/

/-- A step from a value to a value directly inside it. -/
inductive Step where
  | member (key : String)
  | item (index : Nat)
  deriving DecidableEq, Repr

/-- The name of a step: an index goes by its digits. -/
def Step.name : Step → String
  | .member key => key
  | .item index => toString index

/-- Whether steps lead from a value to a node in it. -/
inductive Leads : Json → List Step → Json → Prop
  | here (value : Json) : Leads value [] value
  | member {entries : List (String × Json)} {key : String} {child node : Json} {steps : List Step}
      (hchild : get? key entries = some child) (h : Leads child steps node) :
      Leads (.object entries) (.member key :: steps) node
  | item {items : List Json} {index : Nat} {child node : Json} {steps : List Step}
      (hchild : items[index]? = some child) (h : Leads child steps node) :
      Leads (.array items) (.item index :: steps) node

theorem Leads.at?_eq {value node : Json} {steps : List Step} (h : Leads value steps node) :
    value.at? (steps.map Step.name) = some node := by
  induction h with
  | here value => rfl
  | member hchild _ ih =>
      rw [List.map_cons, at?, child?, Step.name, hchild]
      exact ih
  | item hchild _ ih =>
      rw [List.map_cons, at?, child?, Step.name, Pointer.index?_toString, Option.bind_some, hchild]
      exact ih

theorem get?_eq_some_of_mem {entries : List (String × Json)} {key : String} {value : Json}
    (hkeys : (entries.map Prod.fst).Nodup) (h : (key, value) ∈ entries) :
    get? key entries = some value := by
  obtain ⟨before, after, rfl⟩ := List.append_of_mem h
  refine List.lookup_eq_some_iff.mpr ⟨before, after, rfl, fun e he => ?_⟩
  rw [List.map_append, List.nodup_append] at hkeys
  have hne := hkeys.2.2 e.1 (List.mem_map_of_mem he) key (by simp)
  exact bne_iff_ne.mpr hne.symm

/-- Where no object has a key twice, steps lead to every node. -/
theorem exists_leads_of_mem_nodes {root node : Json} (hkeys : root.HasDistinctKeys)
    (h : node ∈ root.nodes) : ∃ steps, root.Leads steps node := by
  rw [nodes_eq_cons] at h
  rcases List.mem_cons.mp h with rfl | h
  · exact ⟨[], .here node⟩
  · obtain ⟨child, hchild, h⟩ := List.mem_flatMap.mp h
    obtain ⟨hnodup, hinside⟩ := hasDistinctKeys_iff.mp hkeys
    obtain ⟨steps, hsteps⟩ := exists_leads_of_mem_nodes (hinside child hchild) h
    cases root with
    | array items =>
        obtain ⟨index, hindex⟩ := List.mem_iff_getElem?.mp hchild
        exact ⟨.item index :: steps, .item hindex hsteps⟩
    | object entries =>
        obtain ⟨⟨key, value⟩, he, rfl⟩ := List.mem_map.mp hchild
        exact ⟨.member key :: steps, .member (get?_eq_some_of_mem hnodup he) hsteps⟩
    | _ => cases hchild
termination_by sizeOf root
decreasing_by exact sizeOf_lt_of_mem_children hchild

/-! ## Pointers -/

/-- The pointer along steps: a number sign, and the name of each step, escaped, behind a slash. -/
def pointerAlong (steps : List Step) : String :=
  String.ofList ('#' :: steps.flatMap fun step => '/' :: Pointer.escape step.name)

theorem toList_pointerAlong (steps : List Step) :
    (pointerAlong steps).toList =
      '#' :: ((steps.map Step.name).map Pointer.escape).flatMap ('/' :: ·) := by
  rw [pointerAlong, String.toList_ofList, List.map_map, List.flatMap_map]
  rfl

theorem not_separator_of_mem_segments (keys : List String) :
    ∀ segment ∈ keys.map Pointer.escape, ∀ c ∈ segment, decide (c = '/') = false := by
  intro segment hsegment c hc
  obtain ⟨key, -, rfl⟩ := List.mem_map.mp hsegment
  refine decide_eq_false ?_
  rintro rfl
  exact Pointer.slash_not_mem_escape key hc

theorem keys?_flatMap_escape (keys : List String) :
    Pointer.keys? ((keys.map Pointer.escape).flatMap ('/' :: ·)) = some keys := by
  cases keys with
  | nil => rfl
  | cons key keys =>
      have hsegments := not_separator_of_mem_segments (key :: keys)
      rw [List.map_cons, List.forall_mem_cons] at hsegments
      rw [List.map_cons, List.flatMap_cons, List.cons_append, Pointer.keys?,
        Text.pieces_append_flatMap_cons hsegments.1 hsegments.2 (by decide), ← List.map_cons,
        Pointer.map_unescape_escape]

theorem Leads.pointer?_eq {root node : Json} {steps : List Step} (h : root.Leads steps node) :
    root.pointer? (((steps.map Step.name).map Pointer.escape).flatMap ('/' :: ·)) = some node := by
  rw [pointer?, keys?_flatMap_escape]
  exact h.at?_eq

/-- The last key of a pointer along steps is the name of the last step. -/
theorem lastKey_pointerAlong {steps : List Step} {last : Step} (h : steps.getLast? = some last) :
    Pointer.lastKey (pointerAlong steps) = last.name := by
  obtain ⟨before, rfl⟩ := List.getLast?_eq_some_iff.mp h
  have hpieces : Text.pieces (· = '/') (pointerAlong (before ++ [last])).toList =
      (['#'] :: (before.map Step.name).map Pointer.escape) ++ [Pointer.escape last.name] := by
    rw [toList_pointerAlong, List.map_append, List.map_append]
    have hmark : ∀ c ∈ ['#'], decide (c = '/') = false := by simp
    refine Text.pieces_append_flatMap_cons hmark ?_ rfl
    rw [← List.map_append]
    exact not_separator_of_mem_segments _
  have hlast : Text.lastPiece (· = '/') (pointerAlong (before ++ [last])).toList =
      Pointer.escape last.name := by
    simp only [Text.lastPiece, hpieces, List.getLast_concat]
  rw [Pointer.lastKey, hlast, Pointer.unescape_escape]

end ApiTypings.Json

namespace ApiTypings.OpenApi

open Json

/-- The pointer along the steps to a node designates that node, and its last key is the name of the
last step, whatever the keys are; and there are steps to every node. -/
theorem Document.node_pointerAlong (doc : Document) :
    (∀ steps node, doc.root.Leads steps node →
        doc.node (pointerAlong steps) = .ok node ∧
          ∀ last ∈ steps.getLast?, Pointer.lastKey (pointerAlong steps) = last.name) ∧
      (doc.root.HasDistinctKeys → ∀ node ∈ doc.root.nodes, ∃ steps, doc.root.Leads steps node) := by
  refine ⟨fun steps node h => ⟨?_, fun last hlast => lastKey_pointerAlong hlast⟩, ?_⟩
  · rw [Document.node, toList_pointerAlong]
    simp only [h.pointer?_eq]
  · exact fun hkeys node hnode => exists_leads_of_mem_nodes hkeys hnode

/-- Keys that look like escaped ones, an empty one, and an index of two digits. -/
theorem Document.node_pointerAlong_of_escaped :
    let node : Json := .object [("~1", .null), ("", .text "found")]
    let root : Json := .object
      [("a/b", .object [("~0~", .null), ("~01", .array (List.replicate 10 .null ++ [node]))])]
    let steps : List Step := [.member "a/b", .member "~01", .item 10, .member ""]
    root.Leads steps (.text "found") ∧
      pointerAlong steps = "#/a~1b/~001/10/" ∧
      (ofJson root).node "#/a~1b/~001/10/" = .ok (.text "found") ∧
      Pointer.lastKey "#/a~1b/~001/10/" = "" ∧
      root.HasDistinctKeys ∧ ∃ steps, root.Leads steps node := by
  intro node root steps
  have hitem : (Json.array (List.replicate 10 .null ++ [node])).Leads [.item 10] node :=
    .item rfl (.here node)
  have hnode : root.Leads [.member "a/b", .member "~01", .item 10] node :=
    .member rfl (.member rfl (.item rfl (.here node)))
  have hfound : root.Leads steps (.text "found") :=
    .member rfl (.member rfl (.item rfl (.member rfl (.here _))))
  have hpointer : pointerAlong steps = "#/a~1b/~001/10/" := by decide +kernel
  have hkeys : root.HasDistinctKeys := by decide +kernel
  obtain ⟨hdesignated, hlast⟩ := (Document.node_pointerAlong (ofJson root)).1 steps _ hfound
  rw [hpointer] at hdesignated hlast
  exact ⟨hfound, hpointer, hdesignated, hlast _ rfl, hkeys,
    (Document.node_pointerAlong (ofJson root)).2 hkeys node (mem_nodes_of_at? hnode.at?_eq)⟩

end ApiTypings.OpenApi
