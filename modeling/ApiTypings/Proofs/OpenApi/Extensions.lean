import ApiTypings.OpenApi.Description
import ApiTypings.Proofs.Outcome

/-! # Extensions in a description

The paths of a description, what is on a path, an operation and its responses may carry extensions:
entries whose keys start with `x-`. None of them can be seen in what is read, wherever it stands and
whatever its value is.
-/

namespace ApiTypings.Reader

open Outcome

variable {α : Type}

/-! ## Values that differ in extensions -/

/-- The entries that are no extensions. -/
def plain (entries : List (String × Json)) : List (String × Json) :=
  entries.filter (!isExtension ·.1)

/-- Entries with the same keys in the same order, and values that are related as their key tells. -/
abbrev EntriesAlike (R : String → Json → Json → Prop) : (es fs : List (String × Json)) → Prop :=
  List.Forall₂ fun e f => e.1 = f.1 ∧ R e.1 e.2 f.2

/-- Two values are the same but for extensions: two objects whose other entries are alike, or two
arrays whose items for the given keys are alike, or one value. -/
inductive SameButExtensions (keys : List String) (R : String → Json → Json → Prop) :
    Json → Json → Prop
  | object {es fs : List (String × Json)} (h : EntriesAlike R (plain es) (plain fs)) :
      SameButExtensions keys R (.object es) (.object fs)
  | array {vs ws : List Json} (h : EntriesAlike R (keys.zip vs) (keys.zip ws))
      (hrest : vs.drop keys.length = ws.drop keys.length) :
      SameButExtensions keys R (.array vs) (.array ws)
  | same (v : Json) : SameButExtensions keys R v v

variable {keys : List String} {R : String → Json → Json → Prop} {v w : Json}

theorem SameButExtensions.optional_eq {read : Reader α} (h : SameButExtensions keys R v w)
    (hread : read v = read w) : optional read v = optional read w := by
  cases h with
  | object h => rw [optional, optional, hread] <;> simp
  | array h hrest => rw [optional, optional, hread] <;> simp
  | same v => rfl

/-! ## Maps -/

/-- Maps whose values are read alike are read alike. -/
theorem SameButExtensions.plainEntries_eq {S : Json → Json → Prop} {read : Reader α}
    (h : SameButExtensions [] (fun _ => S) v w) (hread : ∀ v w, S v w → read v = read w) :
    plainEntries read v = plainEntries read w := by
  cases h with
  | object h =>
      refine mapM_congr_of_forall₂ h fun (key, value) (key', value') ⟨hkey, hvalue⟩ => ?_
      simp only [show key = key' from hkey, hread value value' hvalue]
  | array h hrest => rfl
  | same v => rfl

/-! ## Records -/

theorem setEntry_of_isExtension {fields : List (Field α)}
    (hkeys : ∀ key ∈ fields.map Field.key, isExtension key = false) {e : String × Json}
    (he : isExtension e.1 = true) (a : α) : setEntry fields a e = .ok a := by
  have hnone : fields.find? (·.key = e.1) = none := by
    rw [List.find?_eq_none]
    intro f hf hkey
    rw [← of_decide_eq_true hkey, hkeys f.key (List.mem_map_of_mem hf)] at he
    cases he
  rw [setEntry, hnone]

/-- Extensions are passed over. -/
theorem setEntries_plain {fields : List (Field α)}
    (hkeys : ∀ key ∈ fields.map Field.key, isExtension key = false) (es : List (String × Json))
    (a : α) :
    setEntries fields (plain es) a = setEntries fields es a := by
  unfold plain setEntries
  induction es generalizing a with
  | nil => rfl
  | cons e es ih =>
      cases he : isExtension e.1 with
      | true =>
          rw [List.filter_cons_of_neg (by simp [he]), ih, List.foldlM_cons,
            setEntry_of_isExtension hkeys he]
          rfl
      | false =>
          rw [List.filter_cons_of_pos (by simp [he]), List.foldlM_cons, List.foldlM_cons]
          congr 1
          funext b
          exact ih b

/-- Whether a field is set in the same way by values that are related. -/
def Field.Respects (R : String → Json → Json → Prop) (f : Field α) : Prop :=
  ∀ v w, R f.key v w → ∀ a, f.set v a = f.set w a

theorem setEntry_eq {fields : List (Field α)} (hfields : ∀ f ∈ fields, f.Respects R)
    {e f : String × Json} (hkey : e.1 = f.1) (h : R e.1 e.2 f.2) (a : α) :
    setEntry fields a e = setEntry fields a f := by
  unfold setEntry
  rw [← hkey]
  cases hfind : fields.find? (·.key = e.1) with
  | none => rfl
  | some field =>
      have hfield : field.key = e.1 := by simpa using List.find?_some hfind
      exact hfields field (List.mem_of_find?_eq_some hfind) _ _ (hfield ▸ h) a

theorem setEntries_eq {fields : List (Field α)} (hfields : ∀ f ∈ fields, f.Respects R)
    {es fs : List (String × Json)} (h : EntriesAlike R es fs) (a : α) :
    setEntries fields es a = setEntries fields fs a := by
  unfold setEntries
  induction h generalizing a with
  | nil => rfl
  | cons hef _ ih =>
      rw [List.foldlM_cons, List.foldlM_cons, setEntry_eq hfields hef.1 hef.2]
      congr 1
      funext b
      exact ih b

theorem setItems_eq {name : String} {count index : Nat} {fields : List (Field α)}
    (hfields : ∀ f ∈ fields, f.Respects R) {vs ws : List Json}
    (h : EntriesAlike R ((fields.map Field.key).zip vs) ((fields.map Field.key).zip ws))
    (hrest : vs.drop fields.length = ws.drop fields.length) (a : α) :
    setItems name count index fields vs a = setItems name count index fields ws a := by
  induction fields generalizing index vs ws a with
  | nil =>
      rw [List.length_nil, List.drop_zero, List.drop_zero] at hrest
      rw [hrest]
  | cons f fields ih =>
      rw [List.forall_mem_cons] at hfields
      cases vs with
      | nil =>
          cases ws with
          | nil => rfl
          | cons w ws => cases h
      | cons v vs =>
          cases ws with
          | nil => cases h
          | cons w ws =>
              simp only [List.map_cons, List.zip_cons_cons] at h
              obtain ⟨hhead, h⟩ := List.forall₂_cons.mp h
              rw [setItems, setItems, hfields.1 v w hhead.2]
              congr 1
              funext b
              exact ih hfields.2 h hrest b

/-- From values that are the same but for extensions a record is read alike where its fields are. -/
theorem SameButExtensions.record_eq {name : String} {blank : α} {fields : List (Field α)}
    (hkeys : ∀ key ∈ fields.map Field.key, isExtension key = false)
    (hfields : ∀ f ∈ fields, f.Respects R)
    (h : SameButExtensions (fields.map Field.key) R v w) :
    record name blank fields v = record name blank fields w := by
  cases h with
  | @object es fs h =>
      rw [record, record, ← setEntries_plain hkeys es, ← setEntries_plain hkeys fs]
      exact setEntries_eq hfields h blank
  | array h hrest =>
      rw [List.length_map] at hrest
      exact setItems_eq hfields h hrest blank
  | same v => rfl

/-- The values under some keys are related, and all others are equal. -/
def Under (keys : List String) (S : Json → Json → Prop) (key : String) (v w : Json) : Prop :=
  if key ∈ keys then S v w else v = w

variable {β : Type} {S : Json → Json → Prop}

theorem respects_of_not_mem {f : Field α} (h : f.key ∉ keys) : f.Respects (Under keys S) := by
  intro v w hvw a
  rw [Under, if_neg h] at hvw
  rw [hvw]

theorem respects_field {key : String} {read : Reader β} {update : β → α → α}
    (hread : ∀ v w, S v w → read v = read w) :
    (field key read update).Respects (Under keys S) := by
  intro v w hvw a
  have hvw : read v = read w := by
    unfold Under at hvw
    split at hvw
    · exact hread v w hvw
    · rw [hvw]
  simp only [field, hvw]

theorem respects_trailingField {key : String} {read : Reader β} {update : β → α → α}
    (hread : ∀ v w, S v w → read v = read w) :
    (trailingField key read update).Respects (Under keys S) :=
  (respects_field hread : (field key read update).Respects (Under keys S))

end ApiTypings.Reader

namespace ApiTypings.OpenApi

open Reader

/-! ## Descriptions -/

/-- Responses that differ in extensions only. -/
abbrev ResponsesAlike : Json → Json → Prop :=
  SameButExtensions [] fun _ => Eq

/-- Operations that differ only in extensions of their own and in those of their responses. -/
abbrev OperationAlike : Json → Json → Prop :=
  SameButExtensions ["operationId", "parameters", "requestBody", "responses"]
    (Under ["responses"] ResponsesAlike)

/-- The keys of the operations on a path. -/
def methods : List String :=
  ["get", "put", "post", "delete", "options", "head", "patch", "trace"]

/-- What is on a path, where it differs only in extensions of its own and in those of its
operations. -/
abbrev PathItemAlike : Json → Json → Prop :=
  SameButExtensions (methods ++ ["parameters"]) (Under methods OperationAlike)

/-- Paths that differ only in extensions among them and in those of what is on them. -/
abbrev PathsAlike : Json → Json → Prop :=
  SameButExtensions [] fun _ => PathItemAlike

/-- Documents that differ only in extensions: among their paths, in what is on a path, in operations
and among responses. -/
abbrev DocumentAlike : Json → Json → Prop :=
  SameButExtensions ["paths"] (Under ["paths"] PathsAlike)

variable {v w : Json}

theorem Operation.read_eq_of_operationAlike (h : OperationAlike v w) : read v = read w := by
  refine h.record_eq (by decide) ?_
  have hresponses : ∀ v w, ResponsesAlike v w →
      optional (plainEntries Response.read) v = optional (plainEntries Response.read) w :=
    fun v w h => h.optional_eq (h.plainEntries_eq fun _ _ h => h ▸ rfl)
  simp only [List.forall_mem_cons]
  exact ⟨respects_of_not_mem (by decide), respects_of_not_mem (by decide),
    respects_of_not_mem (by decide), respects_trailingField hresponses, by simp⟩

theorem PathItem.read_eq_of_pathItemAlike (h : PathItemAlike v w) : read v = read w := by
  refine h.record_eq (by decide) ?_
  have hoperation : ∀ v w, OperationAlike v w →
      optional Operation.read v = optional Operation.read w :=
    fun v w h => h.optional_eq (Operation.read_eq_of_operationAlike h)
  simp only [List.forall_mem_cons]
  exact ⟨respects_field hoperation, respects_field hoperation, respects_field hoperation,
    respects_field hoperation, respects_field hoperation, respects_field hoperation,
    respects_field hoperation, respects_field hoperation, respects_of_not_mem (by decide), by simp⟩

/-- Extensions cannot be seen in a description: from documents that differ in nothing else the same
is read, or reading them fails with the same error. -/
theorem Description.read_eq_of_alike {root root' : Json} (h : DocumentAlike root root') :
    read root = read root' := by
  refine h.record_eq (by decide) ?_
  have hpaths : ∀ v w, PathsAlike v w →
      plainEntries PathItem.read v = plainEntries PathItem.read w :=
    fun v w h => h.plainEntries_eq fun _ _ h => PathItem.read_eq_of_pathItemAlike h
  simp only [List.forall_mem_cons]
  exact ⟨respects_trailingField hpaths, by simp⟩

/-- Extensions that are added, left out, moved and changed, on all levels, whose values are neither
paths nor operations nor responses. -/
theorem Description.read_eq_of_alike_of_moved :
    let root : Json := .object [("paths", .object
      [("x-internal", .boolean true),
       ("/pets", .object
         [("x-owner", .text "pets"),
          ("get", .object
            [("operationId", .text "listPets"),
             ("responses", .object [("200", .object []), ("x-note", .array [])])])])])]
    let root' : Json := .object [("paths", .object
      [("/pets", .object
         [("get", .object
            [("x-rate", .number (.integer 5)),
             ("operationId", .text "listPets"),
             ("responses", .object
               [("x-note", .text "see below"), ("200", .object []), ("x-more", .null)])]),
          ("x-owner", .null)]),
       ("x-internal", .object [("get", .boolean false)])])]
    let operation : Operation :=
      { operationId := some "listPets", responses := some [("200", {})] }
    let description : Description := { paths := [("/pets", { get := some operation })] }
    DocumentAlike root root' ∧ Description.read root = .ok description ∧
      Description.read root' = .ok description := by
  intro root root' operation description
  have hresponses : ResponsesAlike (.object [("200", .object []), ("x-note", .array [])])
      (.object [("x-note", .text "see below"), ("200", .object []), ("x-more", .null)]) :=
    .object (.cons ⟨rfl, rfl⟩ .nil)
  have hoperation : OperationAlike
      (.object [("operationId", .text "listPets"),
        ("responses", .object [("200", .object []), ("x-note", .array [])])])
      (.object [("x-rate", .number (.integer 5)), ("operationId", .text "listPets"),
        ("responses", .object
          [("x-note", .text "see below"), ("200", .object []), ("x-more", .null)])]) :=
    .object (.cons ⟨rfl, (if_neg (by decide)).mpr rfl⟩
      (.cons ⟨rfl, (if_pos (by decide)).mpr hresponses⟩ .nil))
  have hroot : DocumentAlike root root' := by
    refine .object (.cons ⟨rfl, (if_pos (by decide)).mpr ?_⟩ .nil)
    refine .object (.cons ⟨rfl, ?_⟩ .nil)
    exact .object (.cons ⟨rfl, (if_pos (by decide)).mpr hoperation⟩ .nil)
  have hread : Description.read root = .ok description := by rfl
  exact ⟨hroot, hread, (Description.read_eq_of_alike hroot).symm.trans hread⟩

end ApiTypings.OpenApi
