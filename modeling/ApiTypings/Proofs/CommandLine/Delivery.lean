import ApiTypings.CommandLine.Run
import ApiTypings.Proofs.CommandLine.Omitted
import ApiTypings.Proofs.CommandLine.Written

/-! # What a run delivers

A run generates from the files as they were before it and then writes at most once. So it leaves
nothing behind where it fails, and what it delivers does not depend on where that goes.
-/

namespace ApiTypings.CommandLine

open Outcome

variable {arguments : List String} {folder after : Folder} {i : Invocation} {output : Output}
  {report : Report}

/-! ## What is generated from files -/

/-- The options of an invocation, from its file in a folder if it names one. -/
def Invocation.optionsFrom (i : Invocation) (folder : Folder) : Except String Options :=
  match i.config with
  | none => return i.options {}
  | some path => (readOptions path (folder.read path)).map i.options

/-- What the options and the input in a folder generate, or the message for the first failure. -/
def Invocation.outputFrom (i : Invocation) (folder : Folder) : Except String Output := do
  let options ← i.optionsFrom folder
  let document ← readDocument i.input (folder.read i.input)
  (i.generate document options).mapError GenerationError.message

theorem outputFrom_eq_ok :
    i.outputFrom folder = .ok output ↔ ∃ options document, i.optionsFrom folder = .ok options ∧
      readDocument i.input (folder.read i.input) = .ok document ∧
        i.generate document options = .ok output := by
  simp only [Invocation.outputFrom, bind_eq_ok]
  constructor
  · rintro ⟨options, hoptions, document, hdocument, h⟩
    refine ⟨options, document, hoptions, hdocument, ?_⟩
    cases hgenerate : i.generate document options with
    | error e =>
        rw [hgenerate] at h
        cases h
    | ok output' =>
        rw [hgenerate] at h
        cases h
        rfl
  · rintro ⟨options, document, hoptions, hdocument, h⟩
    exact ⟨options, hoptions, document, hdocument, by rw [h]; rfl⟩

/-- Where the output goes is nothing that is generated. -/
theorem outputFrom_without_output (i : Invocation) (folder : Folder) :
    { i with output := none }.outputFrom folder = i.outputFrom folder := rfl

/-! ## Runs on a folder -/

theorem disk_read (path : String) (folder : Folder) :
    (Folder.disk.read path).run folder = pure (folder.read path, folder) := rfl

theorem disk_write_of_ok {path text : String} (h : folder.write path text = .ok after) :
    (Folder.disk.write path text).run folder = pure (.ok (), after) := by
  simp only [Folder.disk, StateT.run_bind, StateT.run_get, pure_bind, h]
  rfl

theorem disk_write_of_error {path text : String} {e : FileError}
    (h : folder.write path text = .error e) :
    (Folder.disk.write path text).run folder = pure (.error e, folder) := by
  simp only [Folder.disk, StateT.run_bind, StateT.run_get, pure_bind, h]
  rfl

theorem loadOptions_disk (i : Invocation) (folder : Folder) :
    (loadOptions Folder.disk i).run folder = pure (i.optionsFrom folder, folder) := by
  unfold loadOptions Invocation.optionsFrom
  cases i.config <;> rfl

/-- Text goes to standard output, and the files stay as they are; or to the file that a path leads
to then, nothing goes to standard output, and the other files stay as they are. -/
inductive Delivered (before : Folder) (text : String) : Option String → String → Folder → Prop
  | printed : Delivered before text none text before
  | written {path : String} {after : Folder} {names : List (List Char)}
      (hwalk : after.walk path (Folder.parts path) = .ok (.inside names))
      (hdiffers : Folder.Differs before after names text) (hread : after.read path = .ok text) :
      Delivered before text (some path) "" after

/-- A run of an invocation fails and leaves nothing, or delivers. -/
inductive Ends (i : Invocation) (folder : Folder) : Report → Folder → Prop
  | failed {message : String} (h : i.outputFrom folder = .error message) :
      Ends i folder { exitCode := 1, stderr := [message] } folder
  | printed {output : Output} (h : i.outputFrom folder = .ok output) (houtput : i.output = none) :
      Ends i folder
        { exitCode := 0, stdout := render output, stderr := output.diagnostics.map warning } folder
  | written {output : Output} {path : String} {after : Folder}
      (h : i.outputFrom folder = .ok output) (houtput : i.output = some path)
      (hwrite : folder.write path (render output) = .ok after) :
      Ends i folder { exitCode := 0, stderr := output.diagnostics.map warning } after
  | refused {output : Output} {path : String} {e : FileError}
      (h : i.outputFrom folder = .ok output) (houtput : i.output = some path)
      (hwrite : folder.write path (render output) = .error e) :
      Ends i folder
        { exitCode := 1
          stderr := output.diagnostics.map warning ++
            ["Failed to write " ++ path ++ ": " ++ e.message] } folder

theorem ends_of_deliver (houtput : i.outputFrom folder = .ok output)
    (h : (deliver Folder.disk i output).run folder = (report, after)) :
    Ends i folder report after := by
  unfold deliver at h
  cases hpath : i.output with
  | none =>
      rw [hpath] at h
      cases h
      exact .printed houtput hpath
  | some path =>
      rw [hpath] at h
      change StateT.run (Folder.disk.write path (render output) >>= _) folder = _ at h
      rw [StateT.run_bind] at h
      cases hwrite : folder.write path (render output) with
      | ok written =>
          rw [disk_write_of_ok hwrite] at h
          cases h
          exact .written houtput hpath hwrite
      | error e =>
          rw [disk_write_of_error hwrite] at h
          cases h
          exact .refused houtput hpath hwrite

theorem ends_of_execute (h : (execute Folder.disk i).run folder = (report, after)) :
    Ends i folder report after := by
  unfold execute at h
  rw [StateT.run_bind, loadOptions_disk, pure_bind] at h
  cases hoptions : i.optionsFrom folder with
  | error message =>
      rw [hoptions] at h
      cases h
      exact .failed (bind_eq_error.mpr (.inl hoptions))
  | ok options =>
      rw [hoptions] at h
      change StateT.run (Folder.disk.read i.input >>= _) folder = _ at h
      rw [StateT.run_bind, disk_read, pure_bind] at h
      cases hdocument : readDocument i.input (folder.read i.input) with
      | error message =>
          rw [hdocument] at h
          cases h
          exact .failed (bind_eq_error.mpr
            (.inr ⟨options, hoptions, bind_eq_error.mpr (.inl hdocument)⟩))
      | ok document =>
          cases hgenerate : i.generate document options with
          | error e =>
              simp only [hdocument, hgenerate] at h
              cases h
              have hmessage : (i.generate document options).mapError GenerationError.message =
                  .error e.message := by rw [hgenerate]; rfl
              exact .failed (bind_eq_error.mpr (.inr ⟨options, hoptions,
                bind_eq_error.mpr (.inr ⟨document, hdocument, hmessage⟩)⟩))
          | ok output =>
              simp only [hdocument, hgenerate] at h
              exact ends_of_deliver
                (outputFrom_eq_ok.mpr ⟨options, document, hoptions, hdocument, hgenerate⟩) h

/-- A run that succeeds delivers what is generated from the files as they were before it. -/
theorem Ends.delivered (h : Ends i folder report after) (hexit : report.exitCode = 0) :
    ∃ output, i.outputFrom folder = .ok output ∧
      Delivered folder (render output) i.output report.stdout after := by
  cases h with
  | failed h => cases hexit
  | @printed output h houtput =>
      rw [houtput]
      exact ⟨output, h, .printed⟩
  | @written output path after h houtput hwrite =>
      obtain ⟨names, hwalk, hdiffers, hread⟩ := Folder.exists_differs_of_write hwrite
      rw [houtput]
      exact ⟨output, h, .written hwalk hdiffers hread⟩
  | refused h houtput hwrite => cases hexit

/-- A run whose output is generated fails only where a write is refused. -/
theorem Ends.exitCode_eq_zero (h : Ends i folder report after)
    (houtput : i.outputFrom folder = .ok output)
    (hwrite : ∀ path, i.output = some path →
      ∃ written, folder.write path (render output) = .ok written) :
    report.exitCode = 0 := by
  cases h with
  | failed h => cases houtput.symm.trans h
  | printed h hnone => rfl
  | written h hpath hwritten => rfl
  | refused h hpath hrefused =>
      cases houtput.symm.trans h
      obtain ⟨written, hwritten⟩ := hwrite _ hpath
      cases hwritten.symm.trans hrefused

/-- What a run writes is what the same run prints where it has no output. -/
theorem Ends.read_eq {path : String} {report' : Report} {after' : Folder}
    (h : Ends i folder report after) (h' : Ends { i with output := none } folder report' after')
    (hpath : i.output = some path) (hexit : report.exitCode = 0) (hexit' : report'.exitCode = 0) :
    report.stdout = "" ∧ after.read path = .ok report'.stdout ∧ after' = folder := by
  obtain ⟨output, houtput, hdelivered⟩ := h.delivered hexit
  obtain ⟨output', houtput', hdelivered'⟩ := h'.delivered hexit'
  rw [outputFrom_without_output, houtput] at houtput'
  cases houtput'
  rw [hpath] at hdelivered
  generalize hstdout : report.stdout = stdout at hdelivered
  generalize hstdout' : report'.stdout = stdout' at hdelivered'
  cases hdelivered with
  | written hwalk hdiffers hread =>
      cases hdelivered' with
      | printed => exact ⟨rfl, hread, rfl⟩

/-- Where the output of a command with an output is left out, there is a command that prints what
the first one writes. -/
theorem exists_run_without_output {path : String}
    (h : (run Folder.disk arguments).run folder = (report, after))
    (hparse : Command.parse arguments = .ok (.generate i)) (hpath : i.output = some path)
    (hexit : report.exitCode = 0) :
    ∃ before option rest report', arguments = before ++ (option ++ rest) ∧
      OutputOption path option ∧
      (run Folder.disk (before ++ rest)).run folder = (report', folder) ∧
      report'.exitCode = 0 ∧ after.read path = .ok report'.stdout := by
  obtain ⟨before, option, rest, heq, hoption, hparse'⟩ := exists_output_of_parse hparse hpath
  rw [run, hparse] at h
  have hends := ends_of_execute h
  obtain ⟨output, houtput, -⟩ := hends.delivered hexit
  obtain ⟨report', after', h'⟩ : ∃ report' after',
      (run Folder.disk (before ++ rest)).run folder = (report', after') := ⟨_, _, rfl⟩
  have hrun := h'
  rw [run, hparse'] at hrun
  have hends' : Ends { i with output := none } folder report' after' := ends_of_execute hrun
  have hexit' := hends'.exitCode_eq_zero ((outputFrom_without_output i folder).trans houtput)
    fun path hpath => by cases hpath
  obtain ⟨-, hread, rfl⟩ := hends.read_eq hends' hpath hexit hexit'
  exact ⟨before, option, rest, report', heq, hoption, h', hexit', hread⟩

end ApiTypings.CommandLine
