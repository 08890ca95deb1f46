import ApiTypings.Binary64.Basic

/-! # JSON values

Objects keep the order of their keys, and numbers keep apart what was written as an integer from
what was written as a decimal.
-/

namespace ApiTypings

/-- A JSON number: an integer between `-2 ^ 63` and `2 ^ 64 - 1` written without point and
exponent, or a double. -/
inductive Json.Number where
  | integer (value : Int)
  | double (value : Binary64)
  deriving DecidableEq, Repr

/-- A JSON value with ordered objects. -/
inductive Json where
  | null
  | boolean (value : Bool)
  | number (value : Json.Number)
  | text (value : String)
  | array (items : List Json)
  | object (entries : List (String × Json))
  deriving Repr, Inhabited

namespace Json

/-- Sets a key: in place where the key is present, at the end where it is not. -/
def setEntry (key : String) (value : Json) : List (String × Json) → List (String × Json)
  | [] => [(key, value)]
  | (k, v) :: rest =>
      if k = key then (key, value) :: rest else (k, v) :: setEntry key value rest

/-- The entries of an object written with repeated keys: the last value of a key, at the place
of its first occurrence. -/
def mergeEntries (entries : List (String × Json)) : List (String × Json) :=
  entries.foldl (fun merged (key, value) => setEntry key value merged) []

theorem mem_keys_setEntry {key k : String} {value : Json} {entries : List (String × Json)} :
    k ∈ (setEntry key value entries).map Prod.fst ↔ k = key ∨ k ∈ entries.map Prod.fst := by
  induction entries with
  | nil => simp [setEntry]
  | cons e entries ih =>
      obtain ⟨k', v⟩ := e
      unfold setEntry
      split
      · next h =>
          subst h
          simp
      · simp only [List.map_cons, List.mem_cons, ih]
        exact or_left_comm

theorem nodup_keys_setEntry {key : String} {value : Json} {entries : List (String × Json)}
    (h : (entries.map Prod.fst).Nodup) : ((setEntry key value entries).map Prod.fst).Nodup := by
  induction entries with
  | nil => simp [setEntry]
  | cons e entries ih =>
      obtain ⟨k', v⟩ := e
      simp only [List.map_cons, List.nodup_cons] at h
      unfold setEntry
      split
      · next hk =>
          subst hk
          simpa using h
      · next hk =>
          simp only [List.map_cons, List.nodup_cons, mem_keys_setEntry]
          exact ⟨by rintro (rfl | hm) <;> simp_all, ih h.2⟩

/-- Merged entries have pairwise distinct keys. -/
theorem nodup_keys_mergeEntries (entries : List (String × Json)) :
    ((mergeEntries entries).map Prod.fst).Nodup := by
  have aux (merged : List (String × Json)) (h : (merged.map Prod.fst).Nodup) :
      ((entries.foldl (fun merged (key, value) => setEntry key value merged) merged).map
        Prod.fst).Nodup := by
    induction entries generalizing merged with
    | nil => exact h
    | cons e entries ih => exact ih _ (nodup_keys_setEntry h)
  exact aux [] (by simp)

def get? (key : String) (entries : List (String × Json)) : Option Json :=
  entries.lookup key

/-! ## Texts inside a value -/

mutual

/-- Every text that occurs as a value, in document order. -/
def texts : Json → List String
  | .text s => [s]
  | .array items => textsOfItems items
  | .object entries => textsOfEntries entries
  | _ => []

def textsOfItems : List Json → List String
  | [] => []
  | item :: rest => item.texts ++ textsOfItems rest

/-- Every text in the values of a list of entries. -/
def textsOfEntries : List (String × Json) → List String
  | [] => []
  | (_, value) :: rest => value.texts ++ textsOfEntries rest

end

end Json

end ApiTypings
