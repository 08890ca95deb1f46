import ApiTypings.Text.Identifier

/-! # The shape of made identifiers

Pascal case gives a capital letter, or a digit behind an underscore, followed by letters and
digits. A sanitized text is an identifier that TypeScript does not reserve.
-/

namespace ApiTypings.Text

/-! ## Letters and digits of ASCII -/

theorem isAlphanum_iff {c : Char} :
    c.isAlphanum = true ↔ (c.isUpper = true ∨ c.isLower = true) ∨ c.isDigit = true := by
  rw [← Bool.or_eq_true, ← Bool.or_eq_true]
  rfl

theorem toNat_lt_of_isAlphanum {c : Char} (h : c.isAlphanum = true) : c.toNat < 0x80 := by
  have hupper (h : c.isUpper = true) : c.val ≥ 'A'.val ∧ c.val ≤ 'Z'.val := of_decide_eq_true h
  have hlower (h : c.isLower = true) : c.val ≥ 'a'.val ∧ c.val ≤ 'z'.val :=
    (Bool.and_eq_true_iff.mp h).imp of_decide_eq_true of_decide_eq_true
  have hcases : (65 ≤ c.toNat ∧ c.toNat ≤ 90 ∨ 97 ≤ c.toNat ∧ c.toNat ≤ 122) ∨
      48 ≤ c.toNat ∧ c.toNat ≤ 57 :=
    (isAlphanum_iff.mp h).imp (Or.imp hupper hlower) Char.isDigit_iff_toNat.mp
  omega

/-- What holds of the letters and digits among the first 128 characters holds of all of them. -/
theorem of_isAlphanum {P : Char → Prop}
    (hP : ∀ n : Fin 0x80, (Char.ofNat n).isAlphanum = true → P (Char.ofNat n)) {c : Char}
    (h : c.isAlphanum = true) : P c := by
  have hc := hP ⟨c.toNat, toNat_lt_of_isAlphanum h⟩
  rw [Char.ofNat_toNat] at hc
  exact hc h

theorem isAlphanum_of_isUpper {c : Char} (h : c.isUpper = true) : c.isAlphanum = true :=
  isAlphanum_iff.mpr (.inl (.inl h))

theorem isAlphanum_of_isDigit {c : Char} (h : c.isDigit = true) : c.isAlphanum = true :=
  isAlphanum_iff.mpr (.inr h)

theorem not_isDigit_of_isUpper {c : Char} (h : c.isUpper = true) : c.isDigit = false :=
  of_isAlphanum (P := fun c => c.isUpper = true → c.isDigit = false) (by decide +kernel)
    (isAlphanum_of_isUpper h) h

theorem isUpper_or_isDigit_toUpper {c : Char} (h : c.isAlphanum = true) :
    c.toUpper.isUpper = true ∨ c.toUpper.isDigit = true :=
  of_isAlphanum (P := fun c => c.toUpper.isUpper = true ∨ c.toUpper.isDigit = true)
    (by decide +kernel) h

theorem upperChar_of_isAlphanum {c : Char} (h : c.isAlphanum = true) : upperChar c = [c.toUpper] :=
  upperChar_of_ascii (toNat_lt_of_isAlphanum h)

/-! ## Pascal case -/

/-- A capital letter of ASCII, or an underscore and a digit, followed by letters and digits. -/
inductive IsPascal : List Char → Prop
  | letter {c : Char} {rest : List Char} (hc : c.isUpper = true)
      (hrest : ∀ d ∈ rest, d.isAlphanum = true) : IsPascal (c :: rest)
  | digit {c : Char} {rest : List Char} (hc : c.isDigit = true)
      (hrest : ∀ d ∈ rest, d.isAlphanum = true) : IsPascal ('_' :: c :: rest)

/-- Letters, digits and underscores of ASCII. -/
def IsWord (cs : List Char) : Prop :=
  ∀ c ∈ cs, c.isAlphanum = true ∨ c = '_'

/-- Decided along the characters of the text, not over all characters. -/
instance : DecidablePred IsWord := fun cs =>
  (List.decidableBAll (fun c : Char => c.isAlphanum = true ∨ c = '_') cs :
    Decidable (∀ c ∈ cs, c.isAlphanum = true ∨ c = '_'))

theorem isWord_append {cs ds : List Char} (h : IsWord cs) (h' : IsWord ds) : IsWord (cs ++ ds) :=
  List.forall_mem_append.mpr ⟨h, h'⟩

theorem IsPascal.isWord {cs : List Char} (h : IsPascal cs) : IsWord cs := by
  cases h with
  | letter hc hrest =>
      refine List.forall_mem_cons.mpr ⟨.inl (isAlphanum_of_isUpper hc), ?_⟩
      exact fun d hd => .inl (hrest d hd)
  | digit hc hrest =>
      refine List.forall_mem_cons.mpr ⟨.inr rfl, ?_⟩
      refine List.forall_mem_cons.mpr ⟨.inl (isAlphanum_of_isDigit hc), ?_⟩
      exact fun d hd => .inl (hrest d hd)

/-- What follows the first character of a word is kept, and the first one is raised. -/
theorem mapFirst_upperChar_word {word : List Char} (hne : word ≠ [])
    (hword : ∀ c ∈ word, c.isAlphanum = true) :
    ∃ c rest, mapFirst upperChar word = c :: rest ∧ (c.isUpper = true ∨ c.isDigit = true) ∧
      ∀ d ∈ rest, d.isAlphanum = true := by
  obtain ⟨c, rest, rfl⟩ := List.exists_cons_of_ne_nil hne
  have hc := hword c List.mem_cons_self
  refine ⟨c.toUpper, rest, ?_, isUpper_or_isDigit_toUpper hc, ?_⟩
  · rw [mapFirst, upperChar_of_isAlphanum hc, List.singleton_append]
  · exact fun d hd => hword d (List.mem_cons_of_mem c hd)

/-- Words of letters and digits, run together with capitals. -/
theorem capitalized_words (ws : List (List Char))
    (hws : ∀ w ∈ ws, w ≠ [] ∧ ∀ c ∈ w, c.isAlphanum = true) :
    ws = [] ∨ ∃ c rest, ws.flatMap (mapFirst upperChar) = c :: rest ∧
      (c.isUpper = true ∨ c.isDigit = true) ∧ ∀ d ∈ rest, d.isAlphanum = true := by
  induction ws with
  | nil => exact .inl rfl
  | cons w ws ih =>
      right
      obtain ⟨hne, hw⟩ := hws w List.mem_cons_self
      obtain ⟨c, rest, hcons, hc, hrest⟩ := mapFirst_upperChar_word hne hw
      refine ⟨c, rest ++ ws.flatMap (mapFirst upperChar), ?_, hc, ?_⟩
      · rw [List.flatMap_cons, hcons, List.cons_append]
      · intro d hd
        rcases List.mem_append.mp hd with hd | hd
        · exact hrest d hd
        · have htail := ih fun w hw => hws w (List.mem_cons_of_mem _ hw)
          rcases htail with rfl | ⟨c', rest', h', hc', hr'⟩
          · cases hd
          · rw [h'] at hd
            rcases List.mem_cons.mp hd with rfl | hd
            · exact hc'.elim isAlphanum_of_isUpper isAlphanum_of_isDigit
            · exact hr' d hd

theorem forall_mem_words {isSeparator : Char → Bool} {cs w : List Char}
    (hw : w ∈ words isSeparator cs) : w ≠ [] ∧ ∀ c ∈ w, isSeparator c = false := by
  obtain ⟨hp, hne⟩ := List.mem_filter.mp hw
  exact ⟨by simpa using hne, not_separator_of_mem_pieces hp⟩

theorem guardDigit_of_isDigit {c : Char} (hc : c.isDigit = true) (rest : List Char) :
    guardDigit (c :: rest) = '_' :: c :: rest := by
  simp [guardDigit, hc]

theorem guardDigit_of_not_isDigit {c : Char} (hc : c.isDigit = false) (rest : List Char) :
    guardDigit (c :: rest) = c :: rest := by
  simp [guardDigit, hc]

/-- The words of a text that its Pascal case runs together. -/
def pascalWords (s : String) : List (List Char) :=
  words (fun c => !c.isAlphanum) (s.toList.filter (· ≠ '\''))

theorem pascalCase_eq (s : String) :
    pascalCase s = String.ofList (guardDigit ((pascalWords s).flatMap (mapFirst upperChar))) :=
  rfl

theorem forall_mem_pascalWords {s : String} :
    ∀ w ∈ pascalWords s, w ≠ [] ∧ ∀ c ∈ w, c.isAlphanum = true := by
  intro w hw
  simpa using forall_mem_words hw

/-- The Pascal case of a text is as the name says, if anything is left of the text. -/
theorem isPascal_pascalCase {s : String} (h : pascalCase s ≠ "") :
    IsPascal (pascalCase s).toList := by
  rw [pascalCase_eq] at h ⊢
  rw [String.toList_ofList]
  rcases capitalized_words (pascalWords s) forall_mem_pascalWords with
    hnil | ⟨c, rest, hcons, hc, hrest⟩
  · rw [hnil] at h
    simp [guardDigit] at h
  · rw [hcons]
    cases hdigit : c.isDigit with
    | true =>
        rw [guardDigit_of_isDigit hdigit]
        exact .digit hdigit hrest
    | false =>
        rw [guardDigit_of_not_isDigit hdigit]
        exact .letter (hc.resolve_right (by simp [hdigit])) hrest

theorem isWord_pascalCase (s : String) : IsWord (pascalCase s).toList := by
  by_cases h : pascalCase s = ""
  · rw [h]
    exact fun c hc => by cases hc
  · exact (isPascal_pascalCase h).isWord

/-! ## Sanitized identifiers -/

/-- Letters, digits, underscores and dollar signs, of which the first is no digit. -/
def IsIdentifier (cs : List Char) : Prop :=
  cs ≠ [] ∧ (∀ c ∈ cs, isIdentifierChar c = true) ∧ ∀ c ∈ cs.head?, c.isDigit = false

theorem isIdentifier_guardDigit {cs : List Char} (hne : cs ≠ [])
    (hcs : ∀ c ∈ cs, isIdentifierChar c = true) : IsIdentifier (guardDigit cs) := by
  obtain ⟨c, rest, rfl⟩ := List.exists_cons_of_ne_nil hne
  cases hc : c.isDigit with
  | true =>
      rw [guardDigit_of_isDigit hc]
      refine ⟨List.cons_ne_nil _ _, ?_, by simp⟩
      rw [List.forall_mem_cons]
      exact ⟨by decide, hcs⟩
  | false =>
      rw [guardDigit_of_not_isDigit hc]
      exact ⟨hne, hcs, by simpa using hc⟩

theorem isIdentifier_guardReserved {cs : List Char} (h : IsIdentifier cs) :
    IsIdentifier (guardReserved cs) := by
  unfold guardReserved
  split
  · refine ⟨List.cons_ne_nil _ _, ?_, by simp⟩
    rw [List.forall_mem_cons]
    exact ⟨by decide, h.2.1⟩
  · exact h

theorem head?_ne_underscore_of_mem_reservedWords {word : String} (h : word ∈ reservedWords) :
    word.toList.head? ≠ some '_' := by
  have hall : ∀ word ∈ reservedWords, word.toList.head? ≠ some '_' := by decide +kernel
  exact hall word h

theorem guardReserved_not_mem_reservedWords (cs : List Char) :
    String.ofList (guardReserved cs) ∉ reservedWords := by
  unfold guardReserved
  split
  · intro h
    exact head?_ne_underscore_of_mem_reservedWords h (by simp)
  · assumption

theorem isIdentifier_sanitizeIdentifier (s : String) :
    IsIdentifier (sanitizeIdentifier s).toList := by
  unfold sanitizeIdentifier
  cases h : identifierChars s with
  | nil => exact ⟨by decide, by simp [isIdentifierChar], by simp⟩
  | cons c cs =>
      rw [String.toList_ofList]
      refine isIdentifier_guardReserved (isIdentifier_guardDigit (List.cons_ne_nil c cs) ?_)
      intro d hd
      rw [← h] at hd
      exact (List.mem_filter.mp hd).2

theorem sanitizeIdentifier_not_mem_reservedWords (s : String) :
    sanitizeIdentifier s ∉ reservedWords := by
  unfold sanitizeIdentifier
  cases identifierChars s with
  | nil => decide
  | cons c cs => exact guardReserved_not_mem_reservedWords _

end ApiTypings.Text
