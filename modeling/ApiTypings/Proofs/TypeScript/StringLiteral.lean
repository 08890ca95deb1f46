import ApiTypings.OpenApi.Schema.Typing
import ApiTypings.TypeScript.Render

/-! # Quoted text as a string literal

String literals between single quotes, with what may stand in them raw and behind a backslash, and
the code units that they stand for. Quoted text always ends at its last quote. It is a string
literal, of the text itself, unless the text has line feeds or carriage returns, which stay raw.
-/

namespace ApiTypings.TypeScript

/-! ## String literals -/

/-- The UTF-16 code units of a code point. -/
def codeUnits (n : Nat) : List UInt16 :=
  if n < 0x10000 then [n.toUInt16]
  else [(0xD800 + (n - 0x10000) / 0x400).toUInt16, (0xDC00 + (n - 0x10000) % 0x400).toUInt16]

def codeUnitsOf (cs : List Char) : List UInt16 :=
  cs.flatMap fun c => codeUnits c.toNat

def isLineTerminator (c : Char) : Bool :=
  c = '\n' || c = '\r' || c = '\u2028' || c = '\u2029'

namespace StringLiteral

/-- What the letters and marks that have a meaning behind a backslash stand for. -/
def escaped? : Char → Option Char
  | '\'' => some '\''
  | '"' => some '"'
  | '\\' => some '\\'
  | 'b' => some '\x08'
  | 't' => some '\t'
  | 'n' => some '\n'
  | 'v' => some '\x0b'
  | 'f' => some '\x0c'
  | 'r' => some '\r'
  | _ => none

/-- Whether a character stands for itself behind a backslash. -/
def isUnaffected (c : Char) : Bool :=
  escaped? c = none && !c.isDigit && c ≠ 'x' && c ≠ 'u' && !isLineTerminator c

def hexDigit? (c : Char) : Option Nat :=
  if c.isDigit then some (c.toNat - '0'.toNat)
  else if 'a' ≤ c ∧ c ≤ 'f' then some (10 + c.toNat - 'a'.toNat)
  else if 'A' ≤ c ∧ c ≤ 'F' then some (10 + c.toNat - 'A'.toNat)
  else none

def hexNumber? (digits : List Char) : Option Nat :=
  digits.foldlM (fun n c => (hexDigit? c).map (16 * n + ·)) 0

/-- What may stand behind a backslash, with the code units that it stands for. -/
inductive Escape : List Char → List UInt16 → Prop
  | meaning {c d : Char} (h : escaped? c = some d) : Escape [c] (codeUnits d.toNat)
  | unaffected {c : Char} (h : isUnaffected c) : Escape [c] (codeUnits c.toNat)
  | zero : Escape ['0'] [0]
  | twoDigits {digits : List Char} {n : Nat} (hlength : digits.length = 2)
      (h : hexNumber? digits = some n) : Escape ('x' :: digits) [n.toUInt16]
  | fourDigits {digits : List Char} {n : Nat} (hlength : digits.length = 4)
      (h : hexNumber? digits = some n) : Escape ('u' :: digits) [n.toUInt16]
  | codePoint {digits : List Char} {n : Nat} (hne : digits ≠ [])
      (h : hexNumber? digits = some n) (hn : n < 0x110000) :
      Escape ('u' :: '\x7b' :: (digits ++ ['\x7d'])) (codeUnits n)
  /-- A line that goes on. -/
  | lineEnd {c : Char} (h : isLineTerminator c) : Escape [c] []
  | longLineEnd : Escape ['\r', '\n'] []

/-- The characters between the quotes of a literal, with the code units that they stand for. A zero
behind a backslash has no digit behind it, and the two characters of a line end belong together. -/
inductive Denotes : List Char → List UInt16 → Prop
  | nil : Denotes [] []
  | raw {c : Char} {cs : List Char} {units : List UInt16} (hquote : c ≠ '\'')
      (hbackslash : c ≠ '\\') (hfeed : c ≠ '\n') (hreturn : c ≠ '\r') (h : Denotes cs units) :
      Denotes (c :: cs) (codeUnits c.toNat ++ units)
  | escape {e cs : List Char} {unit units : List UInt16} (he : Escape e unit)
      (hzero : e = ['0'] → ∀ c ∈ cs.head?, c.isDigit = false)
      (hreturn : e = ['\r'] → cs.head? ≠ some '\n') (h : Denotes cs units) :
      Denotes ('\\' :: (e ++ cs)) (unit ++ units)

/-- What stands behind the first quote that no backslash escapes. -/
def behindQuote? : List Char → Option (List Char)
  | [] => none
  | '\\' :: _ :: rest => behindQuote? rest
  | '\'' :: rest => some rest
  | _ :: rest => behindQuote? rest

end StringLiteral

/-- A text is a string literal between single quotes with the value given by its code units. -/
def IsStringLiteral (text : String) (units : List UInt16) : Prop :=
  ∃ body, text.toList = '\'' :: (body ++ ['\'']) ∧ StringLiteral.Denotes body units

namespace StringLiteral

variable {c d : Char} {cs rest : List Char} {units : List UInt16}

/-! ## Inversion -/

theorem escaped?_eq_none_of_isLineTerminator (h : isLineTerminator c) : escaped? c = none := by
  simp only [isLineTerminator, Bool.or_eq_true, decide_eq_true_eq] at h
  rcases h with ((rfl | rfl) | rfl) | rfl <;> rfl

/-- A character with a meaning behind a backslash stands there alone, and has no other one. -/
theorem escape_of_escaped? (hc : escaped? c = some d) {e : List Char} {unit : List UInt16}
    (h : e ++ cs = c :: rest) (he : Escape e unit) :
    e = [c] ∧ cs = rest ∧ unit = codeUnits d.toNat := by
  cases he with
  | meaning hmeaning =>
      obtain ⟨rfl, rfl⟩ := List.cons.inj h
      rw [hc] at hmeaning
      obtain rfl := Option.some.inj hmeaning
      exact ⟨rfl, rfl, rfl⟩
  | unaffected hunaffected =>
      obtain ⟨rfl, -⟩ := List.cons.inj h
      simp [isUnaffected, hc] at hunaffected
  | lineEnd hend =>
      obtain ⟨rfl, -⟩ := List.cons.inj h
      rw [escaped?_eq_none_of_isLineTerminator hend] at hc
      cases hc
  | _ =>
      obtain ⟨rfl, -⟩ := List.cons.inj h
      cases hc

theorem denotes_nil_iff : Denotes [] units ↔ units = [] := by
  constructor
  · intro h
    cases h
    rfl
  · rintro rfl
    exact .nil

theorem denotes_escaped_iff (hc : escaped? c = some d) :
    Denotes ('\\' :: c :: rest) units ↔
      ∃ more, Denotes rest more ∧ units = codeUnits d.toNat ++ more := by
  constructor
  · generalize htext : '\\' :: c :: rest = text
    intro h
    cases h with
    | nil => cases htext
    | raw _ hbackslash => exact absurd (List.cons.inj htext).1.symm hbackslash
    | escape he _ _ hmore =>
        obtain ⟨rfl, rfl, rfl⟩ := escape_of_escaped? hc (List.cons.inj htext).2.symm he
        exact ⟨_, hmore, rfl⟩
  · rintro ⟨more, hmore, rfl⟩
    refine Denotes.escape (.meaning hc) ?_ ?_ hmore
    · intro hzero
      obtain ⟨rfl, -⟩ := List.cons.inj hzero
      cases hc
    · intro hreturn
      obtain ⟨rfl, -⟩ := List.cons.inj hreturn
      cases hc

theorem denotes_raw_iff (hquote : c ≠ '\'') (hbackslash : c ≠ '\\') :
    Denotes (c :: rest) units ↔
      (c ≠ '\n' ∧ c ≠ '\r') ∧ ∃ more, Denotes rest more ∧ units = codeUnits c.toNat ++ more := by
  constructor
  · generalize htext : c :: rest = text
    intro h
    cases h with
    | nil => cases htext
    | raw _ _ hfeed hreturn hmore =>
        obtain ⟨rfl, rfl⟩ := List.cons.inj htext
        exact ⟨⟨hfeed, hreturn⟩, _, hmore, rfl⟩
    | escape => exact absurd (List.cons.inj htext).1 hbackslash
  · rintro ⟨⟨hfeed, hreturn⟩, more, hmore, rfl⟩
    exact .raw hquote hbackslash hfeed hreturn hmore

/-! ## Escaped text -/

theorem denotes_escapeChar_iff :
    Denotes (Text.escapeChar c ++ rest) units ↔
      (c ≠ '\n' ∧ c ≠ '\r') ∧ ∃ more, Denotes rest more ∧ units = codeUnits c.toNat ++ more := by
  unfold Text.escapeChar
  split
  · next h =>
      subst h
      simpa using denotes_escaped_iff (c := '\\') rfl
  · next hbackslash =>
      split
      · next h =>
          subst h
          simpa using denotes_escaped_iff (c := '\'') rfl
      · next hquote => exact denotes_raw_iff hquote hbackslash

/-- Escaped text denotes the text, and nothing else. It denotes nothing if a line ends in it. -/
theorem denotes_flatMap_escapeChar_iff :
    Denotes (cs.flatMap Text.escapeChar) units ↔
      ('\n' ∉ cs ∧ '\r' ∉ cs) ∧ units = codeUnitsOf cs := by
  induction cs generalizing units with
  | nil => simp [denotes_nil_iff, codeUnitsOf]
  | cons c cs ih =>
      rw [List.flatMap_cons, denotes_escapeChar_iff]
      simp only [ih, List.mem_cons, not_or, codeUnitsOf, List.flatMap_cons]
      constructor
      · rintro ⟨⟨hfeed, hreturn⟩, more, ⟨⟨hfeeds, hreturns⟩, rfl⟩, rfl⟩
        exact ⟨⟨⟨Ne.symm hfeed, hfeeds⟩, Ne.symm hreturn, hreturns⟩, rfl⟩
      · rintro ⟨⟨⟨hfeed, hfeeds⟩, hreturn, hreturns⟩, rfl⟩
        exact ⟨⟨Ne.symm hfeed, Ne.symm hreturn⟩, _, ⟨⟨hfeeds, hreturns⟩, rfl⟩, rfl⟩

theorem behindQuote?_raw (hquote : c ≠ '\'') (hbackslash : c ≠ '\\') :
    behindQuote? (c :: rest) = behindQuote? rest := by
  rw [behindQuote?.eq_def]
  split <;> simp_all

/-- No quote in escaped text ends it. -/
theorem behindQuote?_flatMap_escapeChar (cs rest : List Char) :
    behindQuote? (cs.flatMap Text.escapeChar ++ '\'' :: rest) = some rest := by
  induction cs with
  | nil => rfl
  | cons c cs ih =>
      rw [List.flatMap_cons, List.append_assoc, ← ih]
      unfold Text.escapeChar
      split
      · rfl
      · next hbackslash =>
          split
          · rfl
          · next hquote => exact behindQuote?_raw hquote hbackslash

/-- What is not escaped stays raw. -/
theorem mem_flatMap_escapeChar (hquote : c ≠ '\'') (hbackslash : c ≠ '\\') :
    c ∈ cs.flatMap Text.escapeChar ↔ c ∈ cs := by
  have hself (d : Char) : c ∈ Text.escapeChar d ↔ c = d := by
    unfold Text.escapeChar
    split
    · next h => simp [h, hbackslash]
    · split
      · next h => simp [h, hquote, hbackslash]
      · simp
  simp [List.mem_flatMap, hself]

end StringLiteral

theorem isStringLiteral_quote_iff {s : String} {units : List UInt16} :
    IsStringLiteral (Text.quote s) units ↔
      ('\n' ∉ s.toList ∧ '\r' ∉ s.toList) ∧ units = codeUnitsOf s.toList := by
  rw [← StringLiteral.denotes_flatMap_escapeChar_iff]
  constructor
  · rintro ⟨body, htext, h⟩
    rw [Text.toList_quote, List.cons.injEq, List.append_cancel_right_eq] at htext
    rwa [htext.2]
  · exact fun h => ⟨_, Text.toList_quote s, h⟩

theorem mem_quote_iff {c : Char} (hquote : c ≠ '\'') (hbackslash : c ≠ '\\') (s : String) :
    c ∈ (Text.quote s).toList ↔ c ∈ s.toList := by
  simp [Text.toList_quote, StringLiteral.mem_flatMap_escapeChar hquote hbackslash, hquote]

/-- The text of a string literal, which stands in front of property types as well, ends at the first
quote in it that no backslash escapes. It is a literal whose value is the string if and only if no
line feed and no carriage return are in the string; these are in the text as well. -/
theorem render_string_isStringLiteral_iff (s : String) :
    (∀ units, IsStringLiteral (TypeExpr.literal (.string s)).render units ↔
        ('\n' ∉ s.toList ∧ '\r' ∉ s.toList) ∧ units = codeUnitsOf s.toList) ∧
      (∀ type optional, ({ name := s, type, optional } : Property TypeExpr).render =
        (TypeExpr.literal (.string s)).render ++
          (optionalMark optional ++ (": " ++ type.render))) ∧
      StringLiteral.behindQuote? (TypeExpr.literal (.string s)).render.toList.tail = some [] ∧
      ('\n' ∈ (TypeExpr.literal (.string s)).render.toList ↔ '\n' ∈ s.toList) ∧
      ('\r' ∈ (TypeExpr.literal (.string s)).render.toList ↔ '\r' ∈ s.toList) := by
  have hrender : (TypeExpr.literal (.string s)).render = Text.quote s := rfl
  rw [hrender]
  refine ⟨fun units => isStringLiteral_quote_iff, fun type optional => ?_, ?_,
    mem_quote_iff (by decide) (by decide) s, mem_quote_iff (by decide) (by decide) s⟩
  · simp only [Property.render, String.append_assoc]
  · rw [Text.toList_quote, List.tail_cons]
    exact StringLiteral.behindQuote?_flatMap_escapeChar s.toList []

/-- A property name with a line feed is written over two lines. -/
theorem exists_property_name_not_isStringLiteral :
    let value : Json := .object [("properties", .object [("first\nlast", .object [])])]
    let s : OpenApi.Schema := { properties := some [("first\nlast", {})] }
    let p : Property TypeExpr := { name := "first\nlast", type := .unknown, optional := true }
    OpenApi.Schema.read value = .ok s ∧
      (OpenApi.Document.ofJson value).typeOf .response s =
        .ok (.object { properties := [p] }) ∧
      (TypeExpr.object { properties := [p] }).render = "\x7b 'first\nlast'?: unknown \x7d" ∧
      (TypeExpr.literal (.string p.name)).render = "'first\nlast'" ∧
      ¬∃ units, IsStringLiteral (TypeExpr.literal (.string p.name)).render units := by
  intro value s p
  refine ⟨rfl, rfl, by decide, by decide, ?_⟩
  rintro ⟨units, h⟩
  exact (isStringLiteral_quote_iff.mp h).1.1 (by decide)

end ApiTypings.TypeScript
