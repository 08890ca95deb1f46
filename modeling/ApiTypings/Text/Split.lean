/-! # Pieces of a text between separators -/

namespace ApiTypings.Text

/-- The pieces between separators, empty ones included: one more than there are separators. -/
def pieces (isSeparator : Char → Bool) : List Char → List (List Char)
  | [] => [[]]
  | c :: cs =>
      if isSeparator c then
        [] :: pieces isSeparator cs
      else
        match pieces isSeparator cs with
        | [] => [[c]]
        | piece :: rest => (c :: piece) :: rest

theorem pieces_ne_nil (isSeparator : Char → Bool) (cs : List Char) :
    pieces isSeparator cs ≠ [] := by
  cases cs with
  | nil => simp [pieces]
  | cons c cs =>
      unfold pieces
      split
      · simp
      · split <;> simp

/-- What follows the last separator, or the whole text without one. -/
def lastPiece (isSeparator : Char → Bool) (cs : List Char) : List Char :=
  (pieces isSeparator cs).getLast (pieces_ne_nil isSeparator cs)

/-- No piece contains a separator. -/
theorem not_separator_of_mem_pieces {isSeparator : Char → Bool} {cs piece : List Char}
    (hp : piece ∈ pieces isSeparator cs) : ∀ c ∈ piece, isSeparator c = false := by
  induction cs generalizing piece with
  | nil => simp_all [pieces]
  | cons c cs ih =>
      unfold pieces at hp
      split at hp
      · rcases List.mem_cons.mp hp with rfl | hp
        · simp
        · exact ih hp
      · next hc =>
          split at hp
          · simp_all
          · next first rest h =>
              rcases List.mem_cons.mp hp with rfl | hp
              · intro d hd
                rcases List.mem_cons.mp hd with rfl | hd
                · simpa using hc
                · exact ih (h ▸ List.mem_cons_self) d hd
              · exact ih (h ▸ List.mem_cons_of_mem _ hp)

/-- A text without separators is its own single piece. -/
theorem pieces_eq_singleton {isSeparator : Char → Bool} {cs : List Char}
    (h : ∀ c ∈ cs, isSeparator c = false) : pieces isSeparator cs = [cs] := by
  induction cs with
  | nil => rfl
  | cons c cs ih =>
      simp only [List.forall_mem_cons] at h
      simp [pieces, h.1, ih h.2]

/-- What stands before the first separator is a piece. -/
theorem pieces_append_cons {isSeparator : Char → Bool} {piece rest : List Char} {c : Char}
    (hpiece : ∀ d ∈ piece, isSeparator d = false) (hc : isSeparator c) :
    pieces isSeparator (piece ++ c :: rest) = piece :: pieces isSeparator rest := by
  induction piece with
  | nil => simp [pieces, hc]
  | cons d piece ih =>
      simp only [List.forall_mem_cons] at hpiece
      simp [pieces, hpiece.1, ih hpiece.2]

/-- Pieces with a separator in front of each but the first are the pieces of the text. -/
theorem pieces_append_flatMap_cons {isSeparator : Char → Bool} {c : Char} {piece : List Char}
    {more : List (List Char)} (hpiece : ∀ d ∈ piece, isSeparator d = false)
    (hmore : ∀ p ∈ more, ∀ d ∈ p, isSeparator d = false) (hc : isSeparator c) :
    pieces isSeparator (piece ++ more.flatMap (c :: ·)) = piece :: more := by
  induction more generalizing piece with
  | nil => simpa using pieces_eq_singleton hpiece
  | cons next more ih =>
      simp only [List.forall_mem_cons] at hmore
      rw [List.flatMap_cons, List.cons_append, pieces_append_cons hpiece hc, ih hmore.1 hmore.2]

/-- The pieces run together are the text without its separators. -/
theorem flatten_pieces (isSeparator : Char → Bool) (cs : List Char) :
    (pieces isSeparator cs).flatten = cs.filter (!isSeparator ·) := by
  induction cs with
  | nil => rfl
  | cons c cs ih =>
      obtain ⟨piece, rest, h⟩ := List.exists_cons_of_ne_nil (pieces_ne_nil isSeparator cs)
      rw [h] at ih
      cases hc : isSeparator c with
      | true => simp [pieces, hc, h, ← ih]
      | false => simp [pieces, hc, h, ← ih]

/-- The nonempty pieces between separators. -/
def words (isSeparator : Char → Bool) (cs : List Char) : List (List Char) :=
  (pieces isSeparator cs).filter (!·.isEmpty)

theorem words_cons_of_separator {isSeparator : Char → Bool} {c : Char} (hc : isSeparator c = true)
    (cs : List Char) : words isSeparator (c :: cs) = words isSeparator cs := by
  simp [words, pieces, hc]

/-- A text without separators is its own single word. -/
theorem words_eq_singleton {isSeparator : Char → Bool} {cs : List Char} (hne : cs ≠ [])
    (h : ∀ c ∈ cs, isSeparator c = false) : words isSeparator cs = [cs] := by
  rw [words, pieces_eq_singleton h]
  simpa using hne

/-- A text without words consists of separators. -/
theorem words_eq_nil_iff {isSeparator : Char → Bool} {cs : List Char} :
    words isSeparator cs = [] ↔ ∀ c ∈ cs, isSeparator c = true := by
  have hpieces : words isSeparator cs = [] ↔ (pieces isSeparator cs).flatten = [] := by
    simp [words, List.filter_eq_nil_iff, List.flatten_eq_nil_iff]
  rw [hpieces, flatten_pieces]
  simp [List.filter_eq_nil_iff]

end ApiTypings.Text
