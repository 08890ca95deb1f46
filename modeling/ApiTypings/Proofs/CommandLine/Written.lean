import ApiTypings.CommandLine.Folder
import ApiTypings.Proofs.Outcome

/-! # Files after a write -/

namespace ApiTypings.CommandLine.Folder

open Outcome

variable {folder after : Folder} {path text : String} {names : List (List Char)}

/-! ## Names -/

/-- Names that can be those of files and directories. -/
def AreNames (names : List (List Char)) : Prop :=
  ∀ name ∈ names, name ≠ [] ∧ '/' ∉ name

theorem areNames_parts (path : String) : AreNames (parts path) := by
  intro name hname
  obtain ⟨hpiece, hempty⟩ := List.mem_filter.mp hname
  refine ⟨by rintro rfl; simp at hempty, fun hslash => ?_⟩
  have hno := Text.not_separator_of_mem_pieces hpiece '/' hslash
  simp at hno

theorem intercalate_cons_eq_append_flatMap (c : Char) (name : List Char)
    (more : List (List Char)) : [c].intercalate (name :: more) = name ++ more.flatMap (c :: ·) := by
  induction more generalizing name with
  | nil => simp
  | cons next more ih =>
      rw [List.intercalate_cons_cons, ih, List.flatMap_cons]
      simp

/-- The parts of names with slashes between them are the names. -/
theorem parts_intercalate (h : AreNames names) :
    parts ("/".intercalate (names.map String.ofList)) = names := by
  have hlist : ("/".intercalate (names.map String.ofList)).toList = ['/'].intercalate names := by
    simp [String.toList_intercalate, Function.comp_def]
  have hplain : ∀ name ∈ names, ∀ c ∈ name, decide (c = '/') = false := fun name hname c hc =>
    decide_eq_false fun hslash => (h name hname).2 (hslash ▸ hc)
  unfold parts
  rw [hlist]
  cases names with
  | nil => rfl
  | cons name more =>
      obtain ⟨hname, hmore⟩ := List.forall_mem_cons.mp hplain
      rw [intercalate_cons_eq_append_flatMap, Text.words,
        Text.pieces_append_flatMap_cons hname hmore (decide_eq_true rfl)]
      refine List.filter_eq_self.mpr fun n hn => ?_
      simpa using (h n hn).1

/-! ## Directories -/

theorem isDirectory_iff : folder.isDirectory names = true ↔
    names = [] ∨ ∃ file ∈ folder.files, names <+: parts file.1 ∧ parts file.1 ≠ names := by
  simp [isDirectory, List.isPrefixOf_iff_prefix]

/-- What a directory is in is a directory. -/
theorem isDirectory_of_below {more : List (List Char)} (h : folder.isDirectory more = true)
    (hbelow : names <+: more) : folder.isDirectory names = true := by
  rw [isDirectory_iff] at h ⊢
  rcases h with rfl | ⟨file, hfile, hmore, hne⟩
  · exact .inl (List.prefix_nil.mp hbelow)
  · refine .inr ⟨file, hfile, hbelow.trans hmore, fun heq => hne ?_⟩
    rw [heq] at hmore ⊢
    exact hbelow.eq_of_length_le hmore.length_le

/-! ## One file put in place -/

/-- A file keeps its name when its text is replaced. -/
theorem replace_fst (file : String × String) :
    (if parts file.1 = names then (file.1, text) else (file.1, file.2)).1 = file.1 := by
  split <;> rfl

theorem text?_put (h : AreNames names) (other : List (List Char)) :
    (folder.put names text).text? other =
      if other = names then some text else folder.text? other := by
  unfold put text?
  split
  · next hany =>
      simp only [List.find?_map, Function.comp_def, replace_fst]
      cases hfind : folder.files.find? fun file => decide (parts file.1 = other) with
      | none =>
          rw [if_neg]
          · rfl
          · rintro rfl
            obtain ⟨file, hfile, hnames⟩ := List.any_eq_true.mp hany
            exact List.find?_eq_none.mp hfind file hfile hnames
      | some file =>
          have hfile : parts file.1 = other := by simpa using List.find?_some hfind
          by_cases hother : other = names <;> simp [hfile, hother]
  · next hany =>
      have hnone : folder.files.find? (fun file => decide (parts file.1 = names)) = none :=
        List.find?_eq_none.mpr fun file hfile hnames =>
          hany (List.any_eq_true.mpr ⟨file, hfile, hnames⟩)
      simp only [List.find?_append, List.find?_singleton, parts_intercalate h]
      by_cases hother : other = names
      · simp [hother, hnone]
      · have hother' : names ≠ other := Ne.symm hother
        simp [hother, hother']

/-- A file put into a directory makes no directory. -/
theorem isDirectory_put {name : List Char} (h : AreNames (names ++ [name]))
    (hdirectory : folder.isDirectory names = true) (other : List (List Char)) :
    (folder.put (names ++ [name]) text).isDirectory other = folder.isDirectory other := by
  unfold put
  split
  · simp only [isDirectory, List.any_map, Function.comp_def, replace_fst]
  · rw [Bool.eq_iff_iff, isDirectory_iff, isDirectory_iff]
    constructor
    · rintro (hnil | ⟨file, hfile, hbelow, hne⟩)
      · exact .inl hnil
      · rcases List.mem_append.mp hfile with hfile | hfile
        · exact .inr ⟨file, hfile, hbelow, hne⟩
        · rw [List.mem_singleton.mp hfile, parts_intercalate h] at hbelow hne
          rcases List.prefix_concat_iff.mp hbelow with heq | hbelow
          · exact absurd heq.symm hne
          · exact isDirectory_iff.mp (isDirectory_of_below hdirectory hbelow)
    · rintro (hnil | ⟨file, hfile, hbelow, hne⟩)
      · exact .inl hnil
      · exact .inr ⟨file, List.mem_append_left _ hfile, hbelow, hne⟩

/-! ## Steps along a path -/

/-- A part of a path leads on from a directory: it stays there, leaves it, or is a name in it. -/
inductive Leads (folder : Folder) (names : List (List Char)) : List Char → Place → Prop
  | stay : Leads folder names ['.'] (.inside names)
  | leave : Leads folder names ['.', '.'] (if names.isEmpty then .above else .inside names.dropLast)
  | enter {part : List Char} (hdots : isDots part = false) (hlong : isTooLong part = false)
      (h : (folder.text? (names ++ [part])).isSome ∨ folder.isDirectory (names ++ [part]) = true) :
      Leads folder names part (.inside (names ++ [part]))

theorem step_inside_eq_ok {part : List Char} {next : Place} :
    folder.step (.inside names) part = .ok next ↔
      folder.isDirectory names = true ∧ Leads folder names part next := by
  constructor
  · intro h
    rw [step] at h
    split at h
    · cases h
    · next hdirectory =>
        refine ⟨by simpa using hdirectory, ?_⟩
        split at h
        · next hpart =>
            cases h
            subst hpart
            exact .stay
        · next hstay =>
            split at h
            · next hpart =>
                cases h
                subst hpart
                exact .leave
            · next hleave =>
                split at h
                · cases h
                · next hlong =>
                    split at h
                    · next hthere =>
                        cases h
                        exact .enter (by simp [isDots, hstay, hleave]) (by simpa using hlong)
                          (by simpa using hthere)
                    · cases h
  · rintro ⟨hdirectory, hleads⟩
    rw [step]
    cases hleads with
    | stay => simp [hdirectory, pure, Except.pure]
    | leave => simp [hdirectory, pure, Except.pure]
    | enter hdots hlong h =>
        simp only [isDots, Bool.or_eq_false_iff, decide_eq_false_iff_not] at hdots
        simp [hdirectory, hdots, hlong, h, pure, Except.pure]

/-- A place is above the folder, or names lead to it. -/
def Place.IsNamed : Place → Prop
  | .above => True
  | .inside names => AreNames names

theorem Place.IsNamed.step {place next : Place} {part : List Char} (h : place.IsNamed)
    (hpart : part ≠ [] ∧ '/' ∉ part) (hstep : folder.step place part = .ok next) :
    next.IsNamed := by
  cases place with
  | above =>
      rw [Folder.step] at hstep
      split at hstep
      · cases hstep
        trivial
      · split at hstep <;> cases hstep
  | inside names =>
      obtain ⟨-, hleads⟩ := step_inside_eq_ok.mp hstep
      cases hleads with
      | stay => exact h
      | leave =>
          split
          · trivial
          · exact fun name hname => h name ((List.dropLast_sublist _).mem hname)
      | enter =>
          intro name hname
          rcases List.mem_append.mp hname with hname | hname
          · exact h name hname
          · rw [List.mem_singleton.mp hname]
            exact hpart

/-- Along names a path leads to names. -/
theorem isNamed_of_walk {place : Place} (h : folder.walk path names = .ok place)
    (hnames : AreNames names) : place.IsNamed := by
  unfold walk at h
  split at h
  · cases h
  · split at h
    · cases h
    · refine foldlM_preserves h ?_ fun name hname _ _ hplace => hplace.step (hnames name hname)
      unfold start
      split
      · trivial
      · exact fun _ hname => absurd hname List.not_mem_nil

/-- A folder has the same directories as another one and all of its files, with any texts. -/
structure Keeps (before after : Folder) : Prop where
  directories : ∀ names, after.isDirectory names = before.isDirectory names
  files : ∀ names, (before.text? names).isSome → (after.text? names).isSome

/-- A path that leads somewhere leads there when there are more files. -/
theorem Keeps.step {place next : Place} {part : List Char} (h : Keeps folder after)
    (hstep : folder.step place part = .ok next) : after.step place part = .ok next := by
  cases place with
  | above => exact hstep
  | inside names =>
      obtain ⟨hdirectory, hleads⟩ := step_inside_eq_ok.mp hstep
      rw [← h.directories] at hdirectory
      refine step_inside_eq_ok.mpr ⟨hdirectory, ?_⟩
      cases hleads with
      | stay => exact .stay
      | leave => exact .leave
      | enter hdots hlong hthere =>
          rw [← h.directories] at hthere
          exact .enter hdots hlong (hthere.imp_left (h.files _))

theorem Keeps.walk {place : Place} (h : Keeps folder after)
    (hwalk : folder.walk path names = .ok place) : after.walk path names = .ok place := by
  unfold Folder.walk at hwalk ⊢
  split at hwalk
  · cases hwalk
  · next hempty =>
      split at hwalk
      · cases hwalk
      · next hlong =>
          rw [if_neg hempty, if_neg hlong]
          generalize start path = place' at hwalk ⊢
          induction names generalizing place' with
          | nil => exact hwalk
          | cons name names ih =>
              rw [List.foldlM_cons] at hwalk ⊢
              obtain ⟨next, hnext, hwalk⟩ := bind_eq_ok.mp hwalk
              rw [bind_eq_of_ok (h.step hnext)]
              exact ih next hwalk

theorem walk_concat {place next : Place} {name : List Char}
    (h : folder.walk path names = .ok place) (hstep : folder.step place name = .ok next) :
    folder.walk path (names ++ [name]) = .ok next := by
  unfold walk at h ⊢
  split at h
  · cases h
  · next hempty =>
      split at h
      · cases h
      · next hlong =>
          rw [if_neg hempty, if_neg hlong, List.foldlM_append, bind_eq_of_ok h, List.foldlM_cons,
            bind_eq_of_ok hstep]
          rfl

/-! ## What a write does -/

theorem writeAt_eq_ok {place : Place} {name : List Char} {slash : Bool}
    (h : folder.writeAt place name slash text = .ok after) :
    slash = false ∧ isTooLong name = false ∧ ∃ names, place = .inside names ∧
      folder.isDirectory names = true ∧ folder.put (names ++ [name]) text = after := by
  cases place with
  | above =>
      rw [writeAt] at h
      split at h
      · cases h
      · split at h <;> cases h
  | inside names =>
      rw [writeAt] at h
      split at h
      · cases h
      · next hdirectory =>
          split at h
          · cases h
          · next hslash =>
              split at h
              · cases h
              · next hlong =>
                  split at h
                  · cases h
                  · cases h
                    exact ⟨by simpa using hslash, by simpa using hlong, names, rfl,
                      by simpa using hdirectory, rfl⟩

/-- A file is written in a directory, by the name that its path ends with. -/
theorem exists_put_of_write (h : folder.write path text = .ok after) :
    ∃ before name names, parts path = before ++ [name] ∧ isDots name = false ∧
      isTooLong name = false ∧ endsInSlash path = false ∧
      folder.walk path before = .ok (.inside names) ∧ folder.isDirectory names = true ∧
      folder.put (names ++ [name]) text = after := by
  unfold write at h
  obtain ⟨place, hplace, h⟩ := bind_eq_ok.mp h
  split at h
  · cases h
  · next name hlast =>
      split at h
      · obtain ⟨_, _, h⟩ := bind_eq_ok.mp h
        cases h
      · next hdots =>
          obtain ⟨hslash, hlong, names, rfl, hdirectory, hput⟩ := writeAt_eq_ok h
          have hparts := List.dropLast_append_getLast? name hlast
          exact ⟨(parts path).dropLast, name, names, hparts.symm, by simpa using hdots, hlong, hslash,
            hplace, hdirectory, hput⟩

/-- The file of some names has a text, and nothing else differs. -/
structure Differs (before after : Folder) (names : List (List Char)) (text : String) : Prop where
  text_eq : after.text? names = some text
  others : ∀ other ≠ names, after.text? other = before.text? other
  directories : ∀ other, after.isDirectory other = before.isDirectory other

theorem differs_put {name : List Char} (h : AreNames (names ++ [name]))
    (hdirectory : folder.isDirectory names = true) :
    Differs folder (folder.put (names ++ [name]) text) (names ++ [name]) text where
  text_eq := by rw [text?_put h, if_pos rfl]
  others other hother := by rw [text?_put h, if_neg hother]
  directories := isDirectory_put h hdirectory

theorem Differs.keeps (h : Differs folder after names text) : Keeps folder after where
  directories := h.directories
  files other hother := by
    by_cases heq : other = names
    · rw [heq, h.text_eq]
      rfl
    · rw [h.others other heq]
      exact hother

/-- A write changes the file that the path leads to afterwards and no other one, and what was
written can be read there. -/
theorem exists_differs_of_write (h : folder.write path text = .ok after) :
    ∃ names, after.walk path (parts path) = .ok (.inside names) ∧
      Differs folder after names text ∧ after.read path = .ok text := by
  obtain ⟨before, name, names, hparts, hdots, hlong, hslash, hwalk, hdirectory, rfl⟩ :=
    exists_put_of_write h
  have hall : AreNames (before ++ [name]) := hparts ▸ areNames_parts path
  obtain ⟨hbefore, hname⟩ := List.forall_mem_append.mp hall
  have hnames : AreNames names := isNamed_of_walk hwalk hbefore
  have hdiffers : Differs folder (folder.put (names ++ [name]) text) (names ++ [name]) text :=
    differs_put (List.forall_mem_append.mpr ⟨hnames, hname⟩) hdirectory
  have hthere : (folder.put (names ++ [name]) text).walk path (parts path) =
      .ok (.inside (names ++ [name])) := by
    rw [hparts]
    refine walk_concat (hdiffers.keeps.walk hwalk) (step_inside_eq_ok.mpr ⟨?_, ?_⟩)
    · rw [hdiffers.directories]
      exact hdirectory
    · exact .enter hdots hlong (.inl (by rw [hdiffers.text_eq]; rfl))
  refine ⟨names ++ [name], hthere, hdiffers, ?_⟩
  rw [read, bind_eq_of_ok hthere]
  simp only [hdiffers.text_eq, hslash]
  rfl

end ApiTypings.CommandLine.Folder
