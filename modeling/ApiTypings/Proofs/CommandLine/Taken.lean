import ApiTypings.CommandLine.Arguments
import ApiTypings.Proofs.Outcome
import Mathlib.Data.List.TakeDrop

/-! # What arguments say

Arguments are taken from first to last, one option with its value at a time. Which arguments make a
generation is described by this, apart from the reader and its messages.
-/

namespace ApiTypings.CommandLine

open Outcome

/-! ## What arguments add to a draft -/

/-- Arguments that give a setting its value: an option with the value attached to it, or an option
and a value behind it that looks like no option. -/
inductive Gives (setting : Setting) (value : String) : List String → Prop
  | long {argument name : String} (hshape : Shape.of argument = .long name none)
      (hname : Named.ofLong? name = some (.setting setting)) (hvalue : Shape.of value = .plain) :
      Gives setting value [argument, value]
  | longAttached {argument name : String} (hshape : Shape.of argument = .long name (some value))
      (hname : Named.ofLong? name = some (.setting setting)) : Gives setting value [argument]
  | short {argument : String} {name : Char} (hshape : Shape.of argument = .short name [])
      (hname : Named.ofShort? name = some (.setting setting)) (hvalue : Shape.of value = .plain) :
      Gives setting value [argument, value]
  | shortEquals {argument : String} {name : Char} {more : List Char}
      (hshape : Shape.of argument = .short name ('=' :: more))
      (hname : Named.ofShort? name = some (.setting setting))
      (hvalue : value = String.ofList more) : Gives setting value [argument]
  | shortAttached {argument : String} {name c : Char} {more : List Char}
      (hshape : Shape.of argument = .short name (c :: more)) (hequals : c ≠ '=')
      (hname : Named.ofShort? name = some (.setting setting))
      (hvalue : value = String.ofList (c :: more)) : Gives setting value [argument]

namespace Draft

variable {draft next : Draft} {taken rest arguments : List String} {i : Invocation}

theorem addInput_eq_ok {value : String} :
    draft.addInput value = .ok next ↔
      draft.input = none ∧ value.isEmpty = false ∧ { draft with input := some value } = next := by
  unfold addInput
  cases draft.input with
  | none => cases value.isEmpty <;> simp [pure, Except.pure, throw, throwThe, MonadExceptOf.throw]
  | some input => simp [throw, throwThe, MonadExceptOf.throw]

theorem addFlag_eq_ok {name : String} {flag : Flag} :
    draft.addFlag name flag = .ok next ↔
      flag ∉ draft.flags ∧ { draft with flags := flag :: draft.flags } = next := by
  unfold addFlag
  split <;> simp_all [pure, Except.pure, throw, throwThe, MonadExceptOf.throw]

theorem addSetting_eq_ok {name value : String} {setting : Setting} :
    draft.addSetting name setting value = .ok next ↔
      (setting = .clientName ∨ value.isEmpty = false) ∧ draft.setting? setting = none ∧
        { draft with settings := (setting, value) :: draft.settings } = next := by
  unfold addSetting
  split
  · next hempty => simp_all [throw, throwThe, MonadExceptOf.throw]
  · next hempty =>
      have hvalue : setting = .clientName ∨ value.isEmpty = false := by
        by_cases hname : setting = .clientName
        · exact .inl hname
        · exact .inr (by simpa [hname] using hempty)
      cases hgiven : draft.setting? setting with
      | some old => simp [throw, throwThe, MonadExceptOf.throw]
      | none =>
          simp only [hvalue, true_and, Option.isSome_none, Bool.false_eq_true, if_false, pure,
            Except.pure, Except.ok.injEq]

theorem setting?_of_addSetting {name value : String} {setting : Setting}
    (h : draft.addSetting name setting value = .ok next) (other : Setting) :
    next.setting? other = if other = setting then some value else draft.setting? other := by
  obtain ⟨-, -, rfl⟩ := addSetting_eq_ok.mp h
  unfold setting?
  rw [List.lookup_cons]
  split <;> simp_all

/-- What some arguments do to a draft. -/
inductive Takes (draft next : Draft) : List String → Prop
  | input {argument : String} (hshape : Shape.of argument = .plain)
      (h : draft.addInput argument = .ok next) : Takes draft next [argument]
  | flag {argument name : String} {flag : Flag} (hshape : Shape.of argument = .long name none)
      (hname : Named.ofLong? name = some (.flag flag))
      (h : draft.addFlag argument flag = .ok next) : Takes draft next [argument]
  | setting {taken : List String} {name value : String} {setting : Setting}
      (hgives : Gives setting value taken) (h : draft.addSetting name setting value = .ok next) :
      Takes draft next taken

/-- Arguments and what a draft generates once it has taken them. -/
inductive Reads : Draft → List String → Invocation → Prop
  | done {draft : Draft} {i : Invocation} (h : draft.finish = .ok (.generate i)) : Reads draft [] i
  | stop {draft next : Draft} {argument : String} {inputs : List String} {i : Invocation}
      (hshape : Shape.of argument = .stop) (hinputs : inputs.foldlM addInput draft = .ok next)
      (h : next.finish = .ok (.generate i)) : Reads draft (argument :: inputs) i
  | step {draft next : Draft} {taken rest : List String} {i : Invocation}
      (htakes : draft.Takes next taken) (h : Reads next rest i) : Reads draft (taken ++ rest) i

/-- An option with a value is taken whole. -/
theorem read_append_of_gives {setting : Setting} {value : String} (h : Gives setting value taken)
    (draft : Draft) (rest : List String) :
    ∃ name, draft.read (taken ++ rest) =
      draft.addSetting name setting value >>= fun next => next.read rest := by
  cases h with
  | @long argument _ hshape hname hvalue =>
      refine ⟨argument, ?_⟩
      rw [List.cons_append, List.singleton_append, Draft.read, hshape]
      simp only [hname, hvalue, if_true]
  | @longAttached argument _ hshape hname =>
      refine ⟨argument, ?_⟩
      rw [List.singleton_append, Draft.read, hshape]
      simp only [hname]
  | @short argument _ hshape hname hvalue =>
      refine ⟨argument, ?_⟩
      rw [List.cons_append, List.singleton_append, Draft.read, hshape]
      simp only [hname, hvalue, if_true]
  | @shortEquals argument _ _ hshape hname hvalue =>
      refine ⟨argument, ?_⟩
      rw [List.singleton_append, Draft.read, hshape, hvalue]
      simp only [hname]
  | @shortAttached argument _ _ _ hshape hequals hname hvalue =>
      refine ⟨argument, ?_⟩
      rw [List.singleton_append, Draft.read, hshape, hvalue]
      simp only [hname]

theorem read_append_of_takes (h : draft.Takes next taken) (rest : List String) :
    draft.read (taken ++ rest) = next.read rest := by
  cases h with
  | input hshape h =>
      rw [List.singleton_append, Draft.read, hshape]
      exact bind_eq_of_ok h _
  | flag hshape hname h =>
      rw [List.singleton_append, Draft.read, hshape]
      simp only [hname]
      exact bind_eq_of_ok h _
  | setting hgives h =>
      obtain ⟨name, hread⟩ := read_append_of_gives hgives draft rest
      rw [hread]
      exact bind_eq_of_ok (addSetting_eq_ok.mpr (addSetting_eq_ok.mp h)) _

theorem Reads.read_eq (h : draft.Reads arguments i) : draft.read arguments = .ok (.generate i) := by
  induction h with
  | done h => exact h
  | stop hshape hinputs h =>
      rw [Draft.read, hshape]
      exact bind_eq_ok.mpr ⟨_, hinputs, h⟩
  | step htakes _ ih =>
      rw [read_append_of_takes htakes]
      exact ih

/-- No name of an option asks for a generation. -/
theorem ofLong?_ne_generate (name : String) (i : Invocation) :
    Named.ofLong? name ≠ some (.done (.generate i)) := by
  unfold Named.ofLong?
  split <;> simp

theorem ofShort?_ne_generate (name : Char) (i : Invocation) :
    Named.ofShort? name ≠ some (.done (.generate i)) := by
  unfold Named.ofShort?
  split <;> simp

theorem reads_of_read {draft : Draft} {arguments : List String} {i : Invocation}
    (h : draft.read arguments = .ok (.generate i)) : draft.Reads arguments i := by
  rw [Draft.read.eq_def] at h
  split at h
  · exact .done h
  · next argument rest =>
      split at h
      · next hshape =>
          obtain ⟨next, hnext, h⟩ := bind_eq_ok.mp h
          exact .stop hshape hnext h
      · next hshape =>
          obtain ⟨next, hnext, h⟩ := bind_eq_ok.mp h
          exact .step (.input hshape hnext) (reads_of_read h)
      · next name value hshape =>
          split at h
          · cases h
          · next command hname =>
              cases h
              exact absurd hname (ofLong?_ne_generate name i)
          · next flag hname =>
              obtain ⟨next, hnext, h⟩ := bind_eq_ok.mp h
              exact .step (.flag hshape hname hnext) (reads_of_read h)
          · cases h
          · cases h
          · next setting value hname =>
              obtain ⟨next, hnext, h⟩ := bind_eq_ok.mp h
              exact .step (.setting (.longAttached hshape hname) hnext) (reads_of_read h)
          · next setting hname =>
              split at h
              · next value rest =>
                  split at h
                  · next hvalue =>
                      obtain ⟨next, hnext, h⟩ := bind_eq_ok.mp h
                      exact .step (.setting (.long hshape hname hvalue) hnext) (reads_of_read h)
                  · cases h
              · cases h
      · next name more hshape =>
          split at h
          · cases h
          · cases h
          · next command hname =>
              cases h
              exact absurd hname (ofShort?_ne_generate name i)
          · next setting value hname =>
              obtain ⟨next, hnext, h⟩ := bind_eq_ok.mp h
              exact .step (.setting (.shortEquals hshape hname rfl) hnext) (reads_of_read h)
          · next setting c value hequals hname =>
              obtain ⟨next, hnext, h⟩ := bind_eq_ok.mp h
              exact .step (.setting (.shortAttached hshape hequals hname rfl) hnext)
                (reads_of_read h)
          · next setting hname =>
              split at h
              · next value rest =>
                  split at h
                  · next hvalue =>
                      obtain ⟨next, hnext, h⟩ := bind_eq_ok.mp h
                      exact .step (.setting (.short hshape hname hvalue) hnext) (reads_of_read h)
                  · cases h
              · cases h
termination_by arguments.length

/-- Exactly the arguments that can be taken from first to last make a generation. -/
theorem read_eq_generate_iff :
    draft.read arguments = .ok (.generate i) ↔ draft.Reads arguments i :=
  ⟨reads_of_read, Reads.read_eq⟩

end Draft

/-! ## Arguments that name the output -/

/-- The arguments that name the file to write: its path is an argument of its own, if it looks like
no option, or is attached to the one before it. -/
inductive OutputOption (path : String) : List String → Prop
  | long (h : Shape.of path = .plain) : OutputOption path ["--output", path]
  | longAttached : OutputOption path ["--output=" ++ path]
  | short (h : Shape.of path = .plain) : OutputOption path ["-o", path]
  | shortEquals : OutputOption path ["-o=" ++ path]
  | shortAttached (hempty : path ≠ "") (h : path.toList.head? ≠ some '=') :
      OutputOption path ["-o" ++ path]

theorem eq_of_shape_long {argument name : String} {value : Option String}
    (h : Shape.of argument = .long name value) :
    argument = "--" ++ name ++ value.elim "" ("=" ++ ·) := by
  unfold Shape.of at h
  split at h
  · cases h
  · next rest _ hlist =>
      have hrest := List.takeWhile_append_dropWhile (p := (· ≠ '=')) (l := rest)
      have hhead := List.head?_dropWhile_not (· ≠ '=') rest
      rw [List.span_eq_takeWhile_dropWhile] at h
      split at h
      · next c tail hspan =>
          obtain ⟨hname, hdrop⟩ := Prod.mk.inj hspan
          rw [hname, hdrop] at hrest
          rw [hdrop] at hhead
          cases h
          have hc : c = '=' := by simpa using hhead
          rw [← String.toList_inj, hlist, ← hrest]
          simp [hc]
      · next hspan =>
          obtain ⟨hname, hdrop⟩ := Prod.mk.inj hspan
          rw [hname, hdrop] at hrest
          cases h
          rw [← String.toList_inj, hlist, ← hrest]
          simp
  · cases h
  · cases h

theorem eq_of_shape_short {argument : String} {name : Char} {more : List Char}
    (h : Shape.of argument = .short name more) :
    argument = "-" ++ String.ofList (name :: more) := by
  unfold Shape.of at h
  split at h
  · cases h
  · split at h <;> cases h
  · next hlist =>
      cases h
      rw [← String.toList_inj, hlist]
      simp
  · cases h

theorem eq_output_of_ofLong? {name : String} (h : Named.ofLong? name = some (.setting .output)) :
    name = "output" := by
  unfold Named.ofLong? at h
  split at h <;> simp_all

theorem eq_output_of_ofShort? {name : Char} (h : Named.ofShort? name = some (.setting .output)) :
    name = 'o' := by
  unfold Named.ofShort? at h
  split at h <;> simp_all

/-- There is no other way to name the file to write. -/
theorem Gives.outputOption {path : String} {option : List String} (h : Gives .output path option) :
    OutputOption path option := by
  cases h with
  | long hshape hname hvalue =>
      rw [eq_of_shape_long hshape, eq_output_of_ofLong? hname]
      exact .long hvalue
  | longAttached hshape hname =>
      rw [eq_of_shape_long hshape, eq_output_of_ofLong? hname]
      exact .longAttached
  | short hshape hname hvalue =>
      rw [eq_of_shape_short hshape, eq_output_of_ofShort? hname]
      exact .short hvalue
  | @shortEquals argument _ more hshape hname hvalue =>
      have hargument : argument = "-o=" ++ path := by
        rw [eq_of_shape_short hshape, eq_output_of_ofShort? hname, hvalue, ← String.toList_inj]
        simp
      rw [hargument]
      exact .shortEquals
  | @shortAttached argument _ c more hshape hequals hname hvalue =>
      have hargument : argument = "-o" ++ path := by
        rw [eq_of_shape_short hshape, eq_output_of_ofShort? hname, hvalue, ← String.toList_inj]
        simp
      rw [hargument]
      exact .shortAttached (by simp [hvalue]) (by simpa [hvalue] using hequals)

end ApiTypings.CommandLine
