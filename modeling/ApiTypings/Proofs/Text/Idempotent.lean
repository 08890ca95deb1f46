import ApiTypings.Proofs.Text.Identifier

/-! # Names that are kept

Sanitizing leaves alone exactly the identifiers that TypeScript does not reserve. Pascal case leaves
alone exactly the texts it can give, of which only the empty one comes from a text without ASCII
letters and digits. Neither changes what it has made once more.
-/

namespace ApiTypings.Text

/-! ## Sanitized identifiers -/

/-- A legal name that TypeScript does not keep for itself. -/
structure IsFreeIdentifier (s : String) : Prop where
  nonempty : s ≠ ""
  chars : ∀ c ∈ s.toList, c.isAlphanum = true ∨ c = '_' ∨ c = '$'
  start : ∀ c ∈ s.toList.head?, c.isDigit = false
  unreserved : s ∉ reservedWords

theorem isIdentifierChar_iff {c : Char} :
    isIdentifierChar c = true ↔ c.isAlphanum = true ∨ c = '_' ∨ c = '$' := by
  simp [isIdentifierChar, or_assoc]

theorem isFreeIdentifier_iff {s : String} :
    IsFreeIdentifier s ↔ IsIdentifier s.toList ∧ s ∉ reservedWords := by
  constructor
  · intro h
    refine ⟨⟨?_, fun c hc => isIdentifierChar_iff.mpr (h.chars c hc), h.start⟩, h.unreserved⟩
    simpa using h.nonempty
  · rintro ⟨⟨hne, hchars, hstart⟩, hunreserved⟩
    refine ⟨?_, fun c hc => isIdentifierChar_iff.mp (hchars c hc), hstart, hunreserved⟩
    simpa using hne

theorem isFreeIdentifier_sanitizeIdentifier (s : String) :
    IsFreeIdentifier (sanitizeIdentifier s) :=
  isFreeIdentifier_iff.mpr
    ⟨isIdentifier_sanitizeIdentifier s, sanitizeIdentifier_not_mem_reservedWords s⟩

/-- No character of an identifier separates words. -/
theorem not_separator_of_isIdentifierChar {c : Char} (h : isIdentifierChar c = true) :
    (c = '-' || c = '.' || c = ' ') = false := by
  rcases isIdentifierChar_iff.mp h with hc | rfl | rfl
  · exact of_isAlphanum (P := fun c => (c = '-' || c = '.' || c = ' ') = false)
      (by decide +kernel) hc
  · decide
  · decide

/-- An identifier is its own single word, without anything to remove from it. -/
theorem identifierChars_eq_toList {s : String} (hne : s.toList ≠ [])
    (h : ∀ c ∈ s.toList, isIdentifierChar c = true) : identifierChars s = s.toList := by
  have hwords : words (fun c => c = '-' || c = '.' || c = ' ') s.toList = [s.toList] :=
    words_eq_singleton hne fun c hc => not_separator_of_isIdentifierChar (h c hc)
  rw [identifierChars, hwords, camelCase, List.flatMap_nil, List.append_nil,
    List.filter_eq_self.mpr h]

theorem guardDigit_eq_self {cs : List Char} (h : ∀ c ∈ cs.head?, c.isDigit = false) :
    guardDigit cs = cs := by
  cases cs with
  | nil => rfl
  | cons c rest => exact guardDigit_of_not_isDigit (h c rfl) rest

/-- Sanitizing an identifier only looks at whether it is reserved. -/
theorem sanitizeIdentifier_of_isIdentifier {s : String} (h : IsIdentifier s.toList) :
    sanitizeIdentifier s = String.ofList (guardReserved s.toList) := by
  obtain ⟨hne, hchars, hstart⟩ := h
  obtain ⟨c, rest, hcons⟩ := List.exists_cons_of_ne_nil hne
  have hidentifier := identifierChars_eq_toList hne hchars
  rw [hcons] at hidentifier hstart ⊢
  unfold sanitizeIdentifier
  rw [hidentifier]
  simp only [guardDigit_eq_self hstart]

theorem sanitizeIdentifier_eq_self_iff {s : String} :
    sanitizeIdentifier s = s ↔ IsFreeIdentifier s := by
  constructor
  · intro h
    rw [← h]
    exact isFreeIdentifier_sanitizeIdentifier s
  · intro h
    obtain ⟨hidentifier, hunreserved⟩ := isFreeIdentifier_iff.mp h
    rw [sanitizeIdentifier_of_isIdentifier hidentifier, guardReserved, String.ofList_toList,
      if_neg hunreserved, String.ofList_toList]

/-! ## Pascal case -/

theorem toUpper_eq_self {c : Char} (h : c.isUpper = true ∨ c.isDigit = true) : c.toUpper = c :=
  of_isAlphanum (P := fun c => c.isUpper = true ∨ c.isDigit = true → c.toUpper = c)
    (by decide +kernel) (h.elim isAlphanum_of_isUpper isAlphanum_of_isDigit) h

theorem ne_apostrophe_of_isAlphanum {c : Char} (h : c.isAlphanum = true) : c ≠ '\'' := by
  rintro rfl
  cases h

/-- Apostrophes are no letters, so a text without them has no other words. -/
theorem pascalWords_eq_nil_iff {s : String} :
    pascalWords s = [] ↔ ∀ c ∈ s.toList, c.isAlphanum = false := by
  have hkept {c : Char} (hc : c.isAlphanum = true) : decide (c ≠ '\'') = true :=
    decide_eq_true (ne_apostrophe_of_isAlphanum hc)
  rw [pascalWords, words_eq_nil_iff]
  constructor
  · intro h c hc
    cases halphanum : c.isAlphanum with
    | true =>
        have hseparator := h c (List.mem_filter.mpr ⟨hc, hkept halphanum⟩)
        simp [halphanum] at hseparator
    | false => rfl
  · intro h c hc
    simp [h c (List.mem_filter.mp hc).1]

theorem guardDigit_eq_nil_iff {cs : List Char} : guardDigit cs = [] ↔ cs = [] := by
  cases cs with
  | nil => simp [guardDigit]
  | cons c rest =>
      cases hc : c.isDigit with
      | true => simp [guardDigit_of_isDigit hc]
      | false => simp [guardDigit_of_not_isDigit hc]

theorem pascalCase_eq_empty_iff {s : String} :
    pascalCase s = "" ↔ ∀ c ∈ s.toList, c.isAlphanum = false := by
  rw [← pascalWords_eq_nil_iff, pascalCase_eq, String.ofList_eq_empty_iff, guardDigit_eq_nil_iff]
  constructor
  · intro h
    rcases capitalized_words (pascalWords s) forall_mem_pascalWords with hnil | ⟨c, rest, hcons, -⟩
    · exact hnil
    · rw [h] at hcons
      cases hcons
  · intro h
    rw [h, List.flatMap_nil]

theorem isPascal_pascalCase_iff {s : String} :
    IsPascal (pascalCase s).toList ↔ ∃ c ∈ s.toList, c.isAlphanum = true := by
  have hne : pascalCase s ≠ "" ↔ ∃ c ∈ s.toList, c.isAlphanum = true := by
    simp [pascalCase_eq_empty_iff]
  rw [← hne]
  refine ⟨?_, isPascal_pascalCase⟩
  intro h hempty
  rw [hempty] at h
  cases h

/-- Letters and digits in a row are a single word. -/
theorem words_eq_singleton_of_isAlphanum {cs : List Char} (hne : cs ≠ [])
    (h : ∀ c ∈ cs, c.isAlphanum = true) :
    words (fun c => !c.isAlphanum) (cs.filter (· ≠ '\'')) = [cs] := by
  have hfilter : cs.filter (· ≠ '\'') = cs :=
    List.filter_eq_self.mpr fun c hc => by simpa using ne_apostrophe_of_isAlphanum (h c hc)
  rw [hfilter]
  exact words_eq_singleton hne fun c hc => by simp [h c hc]

/-- A single word with a capital letter or a digit in front is kept. -/
theorem pascalCase_of_pascalWords {s : String} {c : Char} {rest : List Char}
    (hwords : pascalWords s = [c :: rest]) (hc : c.isUpper = true ∨ c.isDigit = true) :
    pascalCase s = String.ofList (guardDigit (c :: rest)) := by
  have hupper : upperChar c = [c] := by
    rw [upperChar_of_isAlphanum (hc.elim isAlphanum_of_isUpper isAlphanum_of_isDigit),
      toUpper_eq_self hc]
  rw [pascalCase_eq, hwords, List.flatMap_singleton, mapFirst, hupper, List.singleton_append]

theorem pascalCase_of_isPascal {s : String} (h : IsPascal s.toList) : pascalCase s = s := by
  generalize hs : s.toList = cs at h
  cases h with
  | @letter c rest hc hrest =>
      have hwords : pascalWords s = [c :: rest] := by
        rw [pascalWords, hs]
        exact words_eq_singleton_of_isAlphanum (List.cons_ne_nil c rest)
          (List.forall_mem_cons.mpr ⟨isAlphanum_of_isUpper hc, hrest⟩)
      rw [pascalCase_of_pascalWords hwords (.inl hc),
        guardDigit_of_not_isDigit (not_isDigit_of_isUpper hc), ← hs, String.ofList_toList]
  | @digit c rest hc hrest =>
      -- the underscore separates words, so only the guard can bring it back
      have hwords : pascalWords s = [c :: rest] := by
        rw [pascalWords, hs, List.filter_cons_of_pos (by decide),
          words_cons_of_separator (by decide)]
        exact words_eq_singleton_of_isAlphanum (List.cons_ne_nil c rest)
          (List.forall_mem_cons.mpr ⟨isAlphanum_of_isDigit hc, hrest⟩)
      rw [pascalCase_of_pascalWords hwords (.inr hc), guardDigit_of_isDigit hc, ← hs,
        String.ofList_toList]

theorem pascalCase_eq_self_iff {s : String} :
    pascalCase s = s ↔ s = "" ∨ IsPascal s.toList := by
  constructor
  · intro h
    by_cases hempty : s = ""
    · exact .inl hempty
    · have hpascal : IsPascal (pascalCase s).toList := isPascal_pascalCase (by rwa [h])
      rw [h] at hpascal
      exact .inr hpascal
  · rintro (rfl | h)
    · rfl
    · exact pascalCase_of_isPascal h

/-- A sanitized text is a legal name that is not reserved. The Pascal case of a text is empty if the
text has no letters and digits of ASCII, and otherwise a capital letter, or a digit behind an
underscore, in front of letters and digits. Either keeps exactly what it can give, so to do it twice
is to do it once. -/
theorem sanitizeIdentifier_pascalCase_idempotent (s : String) :
    (IsFreeIdentifier (sanitizeIdentifier s) ∧
        (sanitizeIdentifier s = s ↔ IsFreeIdentifier s) ∧
        sanitizeIdentifier (sanitizeIdentifier s) = sanitizeIdentifier s) ∧
      (pascalCase s = "" ↔ ∀ c ∈ s.toList, c.isAlphanum = false) ∧
      (IsPascal (pascalCase s).toList ↔ ∃ c ∈ s.toList, c.isAlphanum = true) ∧
      (pascalCase s = s ↔ s = "" ∨ IsPascal s.toList) ∧
      pascalCase (pascalCase s) = pascalCase s := by
  have hpascal : pascalCase (pascalCase s) = pascalCase s := by
    rw [pascalCase_eq_self_iff]
    by_cases hempty : pascalCase s = ""
    · exact .inl hempty
    · exact .inr (isPascal_pascalCase hempty)
  exact ⟨⟨isFreeIdentifier_sanitizeIdentifier s, sanitizeIdentifier_eq_self_iff,
      sanitizeIdentifier_eq_self_iff.mpr (isFreeIdentifier_sanitizeIdentifier s)⟩,
    pascalCase_eq_empty_iff, isPascal_pascalCase_iff, pascalCase_eq_self_iff, hpascal⟩

/-- A letter beyond ASCII is dropped, but behind a separator its capitals stay if ASCII has them. -/
example : sanitizeIdentifier "ß-ß" = "SS" ∧ pascalCase "ß-ß" = "" := by
  decide +kernel

end ApiTypings.Text
