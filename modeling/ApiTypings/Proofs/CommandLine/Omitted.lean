import ApiTypings.Proofs.CommandLine.Taken

/-! # Leaving out the output

The same arguments are taken by a draft with an output and by one without, up to the argument that
names an output again.
-/

namespace ApiTypings.CommandLine

open Outcome

namespace Draft

variable {draft next : Draft} {taken rest arguments : List String} {i : Invocation}

/-! ## Drafts with and without an output -/

/-- Two drafts that differ in nothing but the output that the second one has. -/
structure PlusOutput (path : String) (draft more : Draft) : Prop where
  input : more.input = draft.input
  flags : more.flags = draft.flags
  absent : draft.setting? .output = none
  given : more.setting? .output = some path
  others : ∀ setting ≠ .output, more.setting? setting = draft.setting? setting

namespace PlusOutput

variable {path : String} {more next : Draft}

theorem addInput (h : PlusOutput path draft more) {value : String}
    (hnext : more.addInput value = .ok next) :
    ∃ less, draft.addInput value = .ok less ∧ PlusOutput path less next := by
  obtain ⟨hinput, hvalue, rfl⟩ := addInput_eq_ok.mp hnext
  refine ⟨_, addInput_eq_ok.mpr ⟨h.input.symm.trans hinput, hvalue, rfl⟩, ?_⟩
  exact ⟨rfl, h.flags, h.absent, h.given, h.others⟩

theorem addFlag (h : PlusOutput path draft more) {name : String} {flag : Flag}
    (hnext : more.addFlag name flag = .ok next) :
    ∃ less, draft.addFlag name flag = .ok less ∧ PlusOutput path less next := by
  obtain ⟨hflag, rfl⟩ := addFlag_eq_ok.mp hnext
  rw [h.flags] at hflag
  refine ⟨_, addFlag_eq_ok.mpr ⟨hflag, rfl⟩, ?_⟩
  exact ⟨h.input, congrArg (flag :: ·) h.flags, h.absent, h.given, h.others⟩

theorem addSetting (h : PlusOutput path draft more) {name value : String} {setting : Setting}
    (hnext : more.addSetting name setting value = .ok next) :
    ∃ less, draft.addSetting name setting value = .ok less ∧ PlusOutput path less next := by
  obtain ⟨hvalue, hgiven, hmore⟩ := addSetting_eq_ok.mp hnext
  have hne : .output ≠ setting := by
    rintro rfl
    rw [h.given] at hgiven
    cases hgiven
  rw [h.others setting hne.symm] at hgiven
  obtain ⟨less, hless⟩ : ∃ less, draft.addSetting name setting value = .ok less :=
    ⟨_, addSetting_eq_ok.mpr ⟨hvalue, hgiven, rfl⟩⟩
  have hadded := setting?_of_addSetting hless
  have hadded' := setting?_of_addSetting hnext
  refine ⟨less, hless, ?_, ?_, ?_, ?_, ?_⟩
  · obtain ⟨-, -, rfl⟩ := addSetting_eq_ok.mp hless
    rw [← hmore]
    exact h.input
  · obtain ⟨-, -, rfl⟩ := addSetting_eq_ok.mp hless
    rw [← hmore]
    exact h.flags
  · rw [hadded, if_neg hne]
    exact h.absent
  · rw [hadded', if_neg hne]
    exact h.given
  · intro other hother
    rw [hadded, hadded', h.others other hother]

theorem takes (h : PlusOutput path draft more) (htakes : more.Takes next taken) :
    ∃ less, draft.Takes less taken ∧ PlusOutput path less next := by
  cases htakes with
  | input hshape hnext =>
      obtain ⟨less, hless, hplus⟩ := h.addInput hnext
      exact ⟨less, .input hshape hless, hplus⟩
  | flag hshape hname hnext =>
      obtain ⟨less, hless, hplus⟩ := h.addFlag hnext
      exact ⟨less, .flag hshape hname hless, hplus⟩
  | setting hgives hnext =>
      obtain ⟨less, hless, hplus⟩ := h.addSetting hnext
      exact ⟨less, .setting hgives hless, hplus⟩

theorem inputs (h : PlusOutput path draft more) {inputs : List String}
    (hinputs : inputs.foldlM Draft.addInput more = .ok next) :
    ∃ less, inputs.foldlM Draft.addInput draft = .ok less ∧ PlusOutput path less next := by
  induction inputs generalizing draft more with
  | nil =>
      cases hinputs
      exact ⟨draft, rfl, h⟩
  | cons input inputs ih =>
      rw [List.foldlM_cons] at hinputs
      obtain ⟨middle, hmiddle, hinputs⟩ := bind_eq_ok.mp hinputs
      obtain ⟨less, hless, hplus⟩ := h.addInput hmiddle
      rw [List.foldlM_cons, bind_eq_of_ok hless]
      exact ih hplus hinputs

theorem finish (h : PlusOutput path draft more) (hfinish : more.finish = .ok (.generate i)) :
    i.output = some path ∧ draft.finish = .ok (.generate { i with output := none }) := by
  unfold Draft.finish at hfinish ⊢
  rw [h.input] at hfinish
  cases hinput : draft.input with
  | none =>
      rw [hinput] at hfinish
      cases hfinish
  | some input =>
      rw [hinput] at hfinish
      cases hfinish
      refine ⟨h.given, ?_⟩
      simp only [h.flags, h.absent, h.others .config (by decide), h.others .clientName (by decide)]
      rfl

/-- Without the output, the same arguments ask for the same thing without an output. -/
theorem reads (h : PlusOutput path draft more) (hreads : more.Reads arguments i) :
    i.output = some path ∧ draft.Reads arguments { i with output := none } := by
  induction hreads generalizing draft with
  | done hfinish =>
      obtain ⟨houtput, hless⟩ := h.finish hfinish
      exact ⟨houtput, .done hless⟩
  | stop hshape hinputs hfinish =>
      obtain ⟨less, hless, hplus⟩ := h.inputs hinputs
      obtain ⟨houtput, hlast⟩ := hplus.finish hfinish
      exact ⟨houtput, .stop hshape hless hlast⟩
  | step htakes _ ih =>
      obtain ⟨less, hless, hplus⟩ := h.takes htakes
      obtain ⟨houtput, hrest⟩ := ih hplus
      exact ⟨houtput, .step hless hrest⟩

end PlusOutput

/-! ## Arguments with and without an output -/

theorem plusOutput_of_addSetting {name path : String}
    (h : draft.addSetting name .output path = .ok next) : PlusOutput path draft next := by
  have hadded := setting?_of_addSetting h
  obtain ⟨-, habsent, rfl⟩ := addSetting_eq_ok.mp h
  refine ⟨rfl, rfl, habsent, ?_, fun other hother => ?_⟩
  · rw [hadded, if_pos rfl]
  · rw [hadded, if_neg hother]

/-- What takes an argument that names no output leaves the output alone. -/
theorem Takes.output_cases (h : draft.Takes next taken) :
    next.setting? .output = draft.setting? .output ∨
      ∃ name path, Gives .output path taken ∧ draft.addSetting name .output path = .ok next := by
  cases h with
  | input hshape h =>
      obtain ⟨-, -, rfl⟩ := addInput_eq_ok.mp h
      exact .inl rfl
  | flag hshape hname h =>
      obtain ⟨-, rfl⟩ := addFlag_eq_ok.mp h
      exact .inl rfl
  | @setting _ name value setting hgives h =>
      by_cases hsetting : setting = .output
      · subst hsetting
        exact .inr ⟨name, value, hgives, h⟩
      · rw [setting?_of_addSetting h, if_neg (Ne.symm hsetting)]
        exact .inl rfl

theorem output_of_finish (h : draft.finish = .ok (.generate i)) :
    i.output = draft.setting? .output := by
  unfold finish at h
  split at h <;> cases h
  rfl

/-- An output is named by arguments that can be left out. -/
theorem Reads.exists_output (h : draft.Reads arguments i) {path : String}
    (habsent : draft.setting? .output = none) (houtput : i.output = some path) :
    ∃ before option rest, arguments = before ++ (option ++ rest) ∧ Gives .output path option ∧
      draft.Reads (before ++ rest) { i with output := none } := by
  induction h with
  | done hfinish =>
      rw [output_of_finish hfinish, habsent] at houtput
      cases houtput
  | @stop draft next argument inputs i hshape hinputs hfinish =>
      have hnext : next.setting? .output = none := by
        refine foldlM_preserves (P := (·.setting? .output = none)) hinputs habsent ?_
        intro input _ middle last hmiddle hlast
        obtain ⟨-, -, rfl⟩ := addInput_eq_ok.mp hlast
        exact hmiddle
      rw [output_of_finish hfinish, hnext] at houtput
      cases houtput
  | @step draft next taken rest i htakes h ih =>
      rcases htakes.output_cases with hsame | ⟨name, path', hgives, hadd⟩
      · obtain ⟨before, option, rest, rfl, hoption, hreads⟩ := ih (hsame.trans habsent) houtput
        refine ⟨taken ++ before, option, rest, (List.append_assoc ..).symm, hoption, ?_⟩
        rw [List.append_assoc]
        exact .step htakes hreads
      · obtain ⟨houtput', hreads⟩ := (plusOutput_of_addSetting hadd).reads h
        cases houtput.symm.trans houtput'
        exact ⟨[], taken, rest, rfl, hgives, hreads⟩

end Draft

/-! ## Commands with and without an output -/

/-- A command with an output is one without it, in which the arguments that name the output are put
somewhere. -/
theorem exists_output_of_parse {arguments : List String} {path : String} {i : Invocation}
    (h : Command.parse arguments = .ok (.generate i)) (houtput : i.output = some path) :
    ∃ before option rest, arguments = before ++ (option ++ rest) ∧ OutputOption path option ∧
      Command.parse (before ++ rest) = .ok (.generate { i with output := none }) := by
  obtain ⟨before, option, rest, heq, hgives, hreads⟩ :=
    (Draft.read_eq_generate_iff.mp h).exists_output rfl houtput
  exact ⟨before, option, rest, heq, hgives.outputOption, hreads.read_eq⟩

end ApiTypings.CommandLine
