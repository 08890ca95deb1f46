import ApiTypings.Binary64.Shortest
import ApiTypings.Text.Quoted

/-! # Tokens

A text is cut into tokens character by character. Blanks separate tokens and are dropped, and a
name together with the angle bracket right behind it is a token of its own.
-/

namespace ApiTypings.TypeScript

/-- A token of the text of a type. -/
inductive Token where
  | word (name : String)
  /-- A name that is applied to arguments, with the bracket that opens them. -/
  | application (name : String)
  | numeral (text : String)
  | quoted (value : String)
  | mark (c : Char)
  deriving DecidableEq, Repr

namespace Token

/-- Whether a character may stand in a name. Beyond ASCII every character may. -/
def isNameChar (c : Char) : Bool :=
  c.isAlphanum || c = '_' || c = '$' || 127 < c.toNat

/-- Whether a character may stand in a numeral behind its first one. -/
def isNumeralChar (c : Char) : Bool :=
  c.isDigit || c = '.'

/-- What the machine is in the middle of, with the characters read so far in reverse. -/
inductive Mode where
  | between
  | word (read : List Char)
  | numeral (read : List Char)
  | quoted (read : List Char)
  /-- In a quoted string, behind a backslash. -/
  | escaped (read : List Char)

namespace Mode

/-- Begins with a character between tokens. -/
def start (c : Char) : List Token × Mode :=
  if c = ' ' then ([], between)
  else if c = '\'' then ([], quoted [])
  else if c.isDigit || c = '-' then ([], numeral [c])
  else if isNameChar c then ([], word [c])
  else ([.mark c], between)

/-- Reads a character: the tokens that it completes and the next mode. -/
def step : Mode → Char → List Token × Mode
  | between, c => start c
  | word read, c =>
      if isNameChar c then ([], word (c :: read))
      else if c = '<' then ([.application (String.ofList read.reverse)], between)
      else (.word (String.ofList read.reverse) :: (start c).1, (start c).2)
  | numeral read, c =>
      if isNumeralChar c then ([], numeral (c :: read))
      else (.numeral (String.ofList read.reverse) :: (start c).1, (start c).2)
  | quoted read, c =>
      if c = '\\' then ([], escaped read)
      else if c = '\'' then ([.quoted (String.ofList read.reverse)], between)
      else ([], quoted (c :: read))
  | escaped read, c => ([], quoted (c :: read))

/-- The token that the end of the text completes. A quoted string does not end there. -/
def finish : Mode → Option (List Token)
  | between => some []
  | word read => some [.word (String.ofList read.reverse)]
  | numeral read => some [.numeral (String.ofList read.reverse)]
  | quoted _ | escaped _ => none

end Mode

/-- The tokens of a text from a mode on. -/
def lex : Mode → List Char → Option (List Token)
  | mode, [] => mode.finish
  | mode, c :: cs => (lex (mode.step c).2 cs).map ((mode.step c).1 ++ ·)

/-! ## Where tokens end -/

/-- The characters that stand behind words and numerals. -/
def isDelimiter (c : Char) : Bool :=
  c ∈ [' ', '>', ',', ';', ')', ':', ']']

/-- A text ends or goes on with a delimiter. -/
def Delimited (rest : List Char) : Prop :=
  ∀ c ∈ rest.head?, isDelimiter c

@[simp]
theorem delimited_nil : Delimited [] := by
  simp [Delimited]

theorem delimited_cons {c : Char} (h : isDelimiter c) (cs : List Char) : Delimited (c :: cs) := by
  simpa [Delimited] using h

theorem isNameChar_of_isDelimiter {c : Char} (h : isDelimiter c) : isNameChar c = false := by
  simp only [isDelimiter, List.mem_cons, List.not_mem_nil, or_false, decide_eq_true_eq] at h
  rcases h with rfl | rfl | rfl | rfl | rfl | rfl | rfl <;> decide

theorem isNumeralChar_of_isDelimiter {c : Char} (h : isDelimiter c) :
    isNumeralChar c = false := by
  simp only [isDelimiter, List.mem_cons, List.not_mem_nil, or_false, decide_eq_true_eq] at h
  rcases h with rfl | rfl | rfl | rfl | rfl | rfl | rfl <;> decide

theorem ne_openBracket_of_isDelimiter {c : Char} (h : isDelimiter c) : c ≠ '<' := by
  rintro rfl
  exact absurd h (by decide)

/-! ## Reading single tokens -/

theorem lex_space (cs : List Char) : lex .between (' ' :: cs) = lex .between cs := by
  simp [lex, Mode.step, Mode.start]

theorem lex_mark {c : Char} (hspace : c ≠ ' ') (hquote : c ≠ '\'') (hminus : c ≠ '-')
    (hdigit : c.isDigit = false) (hname : isNameChar c = false) (cs : List Char) :
    lex .between (c :: cs) = (lex .between cs).map (.mark c :: ·) := by
  simp [lex, Mode.step, Mode.start, hspace, hquote, hminus, hdigit, hname]

/-- What a mode completes in front of a delimiter is one token. -/
theorem lex_delimited {mode : Mode} {token : Token} {rest : List Char} (hrest : Delimited rest)
    (hfinish : mode.finish = some [token])
    (hstep : ∀ c, isDelimiter c → mode.step c = (token :: (Mode.start c).1, (Mode.start c).2)) :
    lex mode rest = (lex .between rest).map (token :: ·) := by
  cases rest with
  | nil =>
      simp only [lex, hfinish]
      rfl
  | cons c cs =>
      have hc : isDelimiter c := hrest c rfl
      simp only [lex, hstep c hc, Option.map_map]
      rfl

theorem lex_word_delimited (read : List Char) {rest : List Char} (hrest : Delimited rest) :
    lex (.word read) rest =
      (lex .between rest).map (.word (String.ofList read.reverse) :: ·) := by
  refine lex_delimited hrest rfl fun c hc => ?_
  simp [Mode.step, isNameChar_of_isDelimiter hc, ne_openBracket_of_isDelimiter hc]

theorem lex_numeral_delimited (read : List Char) {rest : List Char} (hrest : Delimited rest) :
    lex (.numeral read) rest =
      (lex .between rest).map (.numeral (String.ofList read.reverse) :: ·) := by
  refine lex_delimited hrest rfl fun c hc => ?_
  simp [Mode.step, isNumeralChar_of_isDelimiter hc]

theorem lex_word_append (read : List Char) {cs : List Char} (hcs : ∀ c ∈ cs, isNameChar c)
    (rest : List Char) : lex (.word read) (cs ++ rest) = lex (.word (cs.reverse ++ read)) rest := by
  induction cs generalizing read with
  | nil => rfl
  | cons c cs ih =>
      simp only [List.forall_mem_cons] at hcs
      simp [lex, Mode.step, hcs.1, ih (c :: read) hcs.2]

theorem lex_numeral_append (read : List Char) {cs : List Char}
    (hcs : ∀ c ∈ cs, isNumeralChar c) (rest : List Char) :
    lex (.numeral read) (cs ++ rest) = lex (.numeral (cs.reverse ++ read)) rest := by
  induction cs generalizing read with
  | nil => rfl
  | cons c cs ih =>
      simp only [List.forall_mem_cons] at hcs
      simp [lex, Mode.step, hcs.1, ih (c :: read) hcs.2]

/-! ## Names -/

/-- A name: characters of names, the first of them no digit. -/
structure IsName (name : String) : Prop where
  ne_empty : name.toList ≠ []
  head : ∀ c ∈ name.toList.head?, c.isDigit = false
  all : ∀ c ∈ name.toList, isNameChar c

theorem isName_iff {name : String} :
    IsName name ↔ name.toList ≠ [] ∧ name.toList.head?.all (fun c => !c.isDigit) ∧
      name.toList.all isNameChar := by
  constructor
  · intro h
    refine ⟨h.ne_empty, ?_, List.all_eq_true.mpr h.all⟩
    rw [Option.all_eq_true]
    intro c hc
    rw [h.head c hc]
    rfl
  · intro h
    obtain ⟨hne, hhead, hall⟩ := h
    rw [Option.all_eq_true] at hhead
    exact ⟨hne, fun c hc => by simpa using hhead c hc, List.all_eq_true.mp hall⟩

-- Found by instance search, the bounds on characters would run over all characters there are.
instance (name : String) : Decidable (IsName name) :=
  decidable_of_iff' _ isName_iff

theorem start_of_isNameChar {c : Char} (h : isNameChar c) (hdigit : c.isDigit = false) :
    Mode.start c = ([], .word [c]) := by
  have hspace : c ≠ ' ' := by
    rintro rfl
    exact absurd h (by decide)
  have hquote : c ≠ '\'' := by
    rintro rfl
    exact absurd h (by decide)
  have hminus : c ≠ '-' := by
    rintro rfl
    exact absurd h (by decide)
  simp [Mode.start, hspace, hquote, hminus, hdigit, h]

/-- A name is read up to its end. -/
theorem lex_name {name : String} (h : IsName name) (rest : List Char) :
    lex .between (name.toList ++ rest) = lex (.word name.toList.reverse) rest := by
  obtain ⟨hne, hhead, hall⟩ := h
  cases hname : name.toList with
  | nil => exact absurd hname hne
  | cons c cs =>
      rw [hname] at hhead hall
      simp only [List.forall_mem_cons] at hall
      simp [lex, Mode.step, start_of_isNameChar hall.1 (hhead c rfl), lex_word_append _ hall.2]

theorem lex_word {name : String} (h : IsName name) {rest : List Char} (hrest : Delimited rest) :
    lex .between (name.toList ++ rest) = (lex .between rest).map (.word name :: ·) := by
  rw [lex_name h, lex_word_delimited _ hrest, List.reverse_reverse, String.ofList_toList]

theorem lex_application {name : String} (h : IsName name) (rest : List Char) :
    lex .between (name.toList ++ '<' :: rest) =
      (lex .between rest).map (.application name :: ·) := by
  have hbracket : isNameChar '<' = false := by decide
  rw [lex_name h]
  simp [lex, Mode.step, hbracket]

/-! ## Numerals -/

/-- A numeral: a digit or a sign, and then digits and points. -/
structure IsNumeral (text : String) : Prop where
  ne_empty : text.toList ≠ []
  head : ∀ c ∈ text.toList.head?, c.isDigit ∨ c = '-'
  tail : ∀ c ∈ text.toList.tail, isNumeralChar c

theorem lex_numeral {text : String} (h : IsNumeral text) {rest : List Char}
    (hrest : Delimited rest) :
    lex .between (text.toList ++ rest) = (lex .between rest).map (.numeral text :: ·) := by
  obtain ⟨hne, hhead, htail⟩ := h
  have htext : text = String.ofList text.toList := String.ofList_toList.symm
  cases hcs : text.toList with
  | nil => exact absurd hcs hne
  | cons c cs =>
      rw [hcs] at hhead htail htext
      have hc := hhead c rfl
      have hdigits : ∀ d ∈ cs, isNumeralChar d := htail
      have hspace : c ≠ ' ' := by
        rintro rfl
        simp at hc
      have hquote : c ≠ '\'' := by
        rintro rfl
        simp at hc
      have hstart : Mode.start c = ([], .numeral [c]) := by
        simp [Mode.start, hspace, hquote, hc]
      rw [List.cons_append]
      simp only [lex, Mode.step, hstart, List.nil_append, Option.map_id']
      rw [lex_numeral_append _ hdigits, lex_numeral_delimited _ hrest, htext]
      simp

/-- Digits and points, the first of them a digit. -/
structure IsUnsigned (cs : List Char) : Prop where
  ne_nil : cs ≠ []
  head : ∀ c ∈ cs.head?, c.isDigit
  all : ∀ c ∈ cs, isNumeralChar c

theorem isUnsigned_of_digits {cs : List Char} (hne : cs ≠ []) (h : ∀ c ∈ cs, c.isDigit) :
    IsUnsigned cs where
  ne_nil := hne
  head c hc := h c (List.mem_of_head? hc)
  all c hc := by simp [isNumeralChar, h c hc]

/-- A point may stand anywhere behind the first digit. -/
theorem isUnsigned_point {cs : List Char} {k : Nat} (hne : cs ≠ []) (hk : 0 < k)
    (h : ∀ c ∈ cs, c.isDigit) : IsUnsigned (cs.take k ++ '.' :: cs.drop k) where
  ne_nil := by simp
  head := by
    obtain ⟨k, rfl⟩ := Nat.exists_eq_add_one.mpr hk
    cases cs with
    | nil => exact absurd rfl hne
    | cons d ds =>
        intro c hc
        cases hc
        exact h _ List.mem_cons_self
  all := by
    intro c hc
    simp only [List.mem_append, List.mem_cons] at hc
    rcases hc with hc | rfl | hc
    · simp [isNumeralChar, h c (List.mem_of_mem_take hc)]
    · decide
    · simp [isNumeralChar, h c (List.mem_of_mem_drop hc)]

theorem isUnsigned_toDigits (n : Nat) : IsUnsigned (Nat.toDigits 10 n) :=
  isUnsigned_of_digits Nat.toDigits_ne_nil fun _ hc =>
    Nat.isDigit_of_mem_toDigits (by decide) (by decide) hc

theorem IsUnsigned.isNumeral {cs : List Char} (h : IsUnsigned cs) :
    IsNumeral (String.ofList cs) where
  ne_empty := by simpa using h.ne_nil
  head c hc := .inl (h.head c (by simpa using hc))
  tail c hc := h.all c (List.mem_of_mem_tail (by simpa using hc))

theorem IsUnsigned.isNumeral_neg {cs : List Char} (h : IsUnsigned cs) :
    IsNumeral ("-" ++ String.ofList cs) where
  ne_empty := by simp
  head c hc := by
    right
    simpa using hc.symm
  tail c hc := h.all c (by simpa using hc)

theorem isNumeral_toString (i : Int) : IsNumeral (toString i) := by
  rw [Int.toString_eq_repr]
  cases i with
  | ofNat n =>
      rw [Int.repr, Nat.repr_eq_ofList_toDigits]
      exact (isUnsigned_toDigits n).isNumeral
  | negSucc n =>
      rw [Int.repr, Nat.repr_eq_ofList_toDigits]
      exact (isUnsigned_toDigits (n + 1)).isNumeral_neg

theorem positional_eq_ofList (d : Binary64.Decimal) :
    ∃ cs, d.positional = String.ofList cs ∧ IsUnsigned cs := by
  obtain ⟨coefficient, exponent⟩ := d
  have hdigits := Nat.toDigits_ne_nil (n := coefficient) (b := 10)
  have hdigit : ∀ c ∈ Nat.toDigits 10 coefficient, c.isDigit := fun _ hc =>
    Nat.isDigit_of_mem_toDigits (by decide) (by decide) hc
  unfold Binary64.Decimal.positional
  cases exponent with
  | ofNat zeros =>
      refine ⟨_, rfl, isUnsigned_of_digits (by simp [hdigits]) fun c hc => ?_⟩
      rcases List.mem_append.mp hc with hc | hc
      · exact hdigit c hc
      · rw [List.eq_of_mem_replicate hc]
        decide
  | negSucc n =>
      refine ⟨_, rfl, ?_⟩
      generalize hpadded :
        List.replicate (n + 1 + 1 - (Nat.toDigits 10 coefficient).length) '0' ++
          Nat.toDigits 10 coefficient = padded
      have hlength : n + 1 < padded.length := by
        rw [← hpadded, List.length_append, List.length_replicate]
        omega
      have hall : ∀ c ∈ padded, c.isDigit := by
        intro c hc
        rw [← hpadded] at hc
        rcases List.mem_append.mp hc with hc | hc
        · rw [List.eq_of_mem_replicate hc]
          decide
        · exact hdigit c hc
      refine isUnsigned_point ?_ (Nat.sub_pos_of_lt hlength) hall
      exact List.ne_nil_of_length_pos (Nat.zero_lt_of_lt hlength)

/-- The text of a double is a numeral. -/
theorem isNumeral_render (x : Binary64) : IsNumeral x.render := by
  obtain ⟨cs, hcs, h⟩ := positional_eq_ofList (x.shortest .greater)
  unfold Binary64.render Binary64.signText
  rw [hcs]
  cases x.negative with
  | false => simpa using h.isNumeral
  | true => exact h.isNumeral_neg

/-! ## Quoted strings -/

theorem lex_quoted_append (read cs rest : List Char) :
    lex (.quoted read) (cs.flatMap Text.escapeChar ++ '\'' :: rest) =
      (lex .between rest).map (.quoted (String.ofList (read.reverse ++ cs)) :: ·) := by
  induction cs generalizing read with
  | nil => simp [lex, Mode.step]
  | cons c cs ih =>
      have hcons : read.reverse ++ c :: cs = (c :: read).reverse ++ cs := by simp
      rw [List.flatMap_cons, List.append_assoc, hcons, ← ih]
      by_cases hbackslash : c = '\\'
      · subst hbackslash
        simp [Text.escapeChar, lex, Mode.step]
      · by_cases hquote : c = '\''
        · subst hquote
          simp [Text.escapeChar, lex, Mode.step]
        · simp [Text.escapeChar, lex, Mode.step, hbackslash, hquote]

/-- A quoted text is read as one string, whatever its characters. -/
theorem lex_quote (s : String) (rest : List Char) :
    lex .between ((Text.quote s).toList ++ rest) = (lex .between rest).map (.quoted s :: ·) := by
  rw [Text.toList_quote]
  simp only [List.cons_append, List.append_assoc, List.nil_append]
  have hread := lex_quoted_append [] s.toList rest
  rw [List.reverse_nil, List.nil_append, String.ofList_toList] at hread
  rw [← hread]
  simp [lex, Mode.step, Mode.start]

end Token

end ApiTypings.TypeScript
