import ApiTypings.Proofs.TypeScript.Token
import ApiTypings.TypeScript.TypeExpr

/-! # The grammar of types

A type is a union of intersections of atoms, and a union stands inside of an intersection only
between parentheses. A machine with a stack reads the tokens one after the other.
-/

namespace ApiTypings.TypeScript

/-! ## Syntax -/

/-- An operand of the grammar. Types inside of it are lists of alternatives, and an alternative is
the list of its operands. -/
inductive Atom where
  | word (name : String)
  | numeral (text : String)
  | quoted (value : String)
  | application (name : String) (arguments : List (List (List Atom)))
  | object (shape : Shape (List (List Atom)))
  | group (alternatives : List (List Atom))
  deriving Repr

/-- The syntax of a type: its alternatives, each with its operands. -/
abbrev Form : Type := List (List Atom)

namespace Grammar

/-! ## The machine -/

/-- A type that is being read: the alternatives before the current one, and its operands so
far. -/
structure Level where
  alternatives : Form := []
  operands : List Atom := []

namespace Level

def push (level : Level) (atom : Atom) : Level :=
  { level with operands := level.operands ++ [atom] }

def form (level : Level) : Form :=
  level.alternatives ++ [level.operands]

end Level

/-- What is open around a type, each with the level that it is an operand of. -/
inductive Frame where
  | group (outer : Level)
  /-- An argument, behind others. -/
  | argument (outer : Level) (name : String) (done : List Form)
  /-- The type of a property, behind other properties. -/
  | property (outer : Level) (done : List (Property Form)) (name : String) (optional : Bool)
  | index (outer : Level) (done : List (Property Form))

/-- What the machine waits for. -/
inductive State where
  | operand (stack : List Frame) (level : Level)
  | operator (stack : List Frame) (level : Level)
  /-- A member of an object. -/
  | member (stack : List Frame) (level : Level) (done : List (Property Form))
  /-- The rest of a property behind its name. -/
  | name (stack : List Frame) (level : Level) (done : List (Property Form)) (name : String)
    (optional : Bool)
  /-- The rest of what stands in front of the type of an index signature. -/
  | key (rest : List Token) (stack : List Frame) (level : Level) (done : List (Property Form))

/-- The tokens between the opening bracket and the type of an index signature. -/
def keyTokens : List Token :=
  [.word "key", .mark ':', .word "string", .mark ']', .mark ':']

def closeObject (stack : List Frame) (outer : Level) (shape : Shape Form) : State :=
  .operator stack (outer.push (.object shape))

/-- Reads a token behind an operand: an operator, or the end of what is open. -/
def stepOperator (stack : List Frame) (level : Level) : Token → Option State
  | .mark '&' => some (.operand stack level)
  | .mark '|' => some (.operand stack { alternatives := level.form })
  | .mark ')' =>
      match stack with
      | .group outer :: rest => some (.operator rest (outer.push (.group level.form)))
      | _ => none
  | .mark ',' =>
      match stack with
      | .argument outer name done :: rest =>
          some (.operand (.argument outer name (done ++ [level.form]) :: rest) {})
      | _ => none
  | .mark '>' =>
      match stack with
      | .argument outer name done :: rest =>
          some (.operator rest (outer.push (.application name (done ++ [level.form]))))
      | _ => none
  | .mark ';' =>
      match stack with
      | .property outer done name optional :: rest =>
          some (.member rest outer (done ++ [{ name, type := level.form, optional }]))
      | _ => none
  | .mark '\x7d' =>
      match stack with
      | .property outer done name optional :: rest =>
          some (closeObject rest outer
            { properties := done ++ [{ name, type := level.form, optional }] })
      | .index outer done :: rest =>
          some (closeObject rest outer { properties := done, index := some level.form })
      | _ => none
  | _ => none

/-- Reads a token. -/
def step : State → Token → Option State
  | .operand stack level, .word name => some (.operator stack (level.push (.word name)))
  | .operand stack level, .numeral text => some (.operator stack (level.push (.numeral text)))
  | .operand stack level, .quoted value => some (.operator stack (level.push (.quoted value)))
  | .operand stack level, .application name => some (.operand (.argument level name [] :: stack) {})
  | .operand stack level, .mark '(' => some (.operand (.group level :: stack) {})
  | .operand stack level, .mark '\x7b' => some (.member stack level [])
  | .operator stack level, token => stepOperator stack level token
  | .member stack level done, .quoted name => some (.name stack level done name false)
  | .member stack level done, .mark '[' => some (.key keyTokens stack level done)
  | .member stack level [], .mark '\x7d' => some (closeObject stack level {})
  | .name stack level done name false, .mark '?' => some (.name stack level done name true)
  | .name stack level done name optional, .mark ':' =>
      some (.operand (.property level done name optional :: stack) {})
  | .key [last] stack level done, token =>
      if token = last then some (.operand (.index level done :: stack) {}) else none
  | .key (next :: rest) stack level done, token =>
      if token = next then some (.key rest stack level done) else none
  | _, _ => none

/-- The type that has been read when the text ends: nothing may be open. -/
def finish : State → Option Form
  | .operator [] level => some level.form
  | _ => none

def run : State → List Token → Option Form
  | state, [] => finish state
  | state, token :: rest => (step state token).bind (run · rest)

def read (state : State) (cs : List Char) : Option Form :=
  (Token.lex .between cs).bind (run state)

end Grammar

/-- The syntax of the type that a text consists of. -/
def parse (source : String) : Option Form :=
  Grammar.read (.operand [] {}) source.toList

namespace Grammar

open Token

/-! ## Reading one token -/

variable {state next : State} {rest : List Char}

theorem read_nil (state : State) : read state [] = finish state := rfl

/-- A text that starts with a token is read by a step. -/
theorem read_of_lex {cs rest : List Char} {token : Token}
    (hlex : lex .between cs = (lex .between rest).map (token :: ·))
    (hstep : step state token = some next) : read state cs = read next rest := by
  unfold read
  rw [hlex]
  cases lex .between rest with
  | none => rfl
  | some tokens => simp [run, hstep]

theorem read_space (state : State) (rest : List Char) :
    read state (' ' :: rest) = read state rest := by
  unfold read
  rw [lex_space]

theorem read_word {name : String} (h : IsName name) (hrest : Delimited rest)
    (hstep : step state (.word name) = some next) :
    read state (name.toList ++ rest) = read next rest :=
  read_of_lex (lex_word h hrest) hstep

theorem read_application {name : String} (h : IsName name) (rest : List Char)
    (hstep : step state (.application name) = some next) :
    read state (name.toList ++ '<' :: rest) = read next rest :=
  read_of_lex (lex_application h rest) hstep

theorem read_numeral {text : String} (h : IsNumeral text) (hrest : Delimited rest)
    (hstep : step state (.numeral text) = some next) :
    read state (text.toList ++ rest) = read next rest :=
  read_of_lex (lex_numeral h hrest) hstep

theorem read_quote (s : String) (rest : List Char) (hstep : step state (.quoted s) = some next) :
    read state ((Text.quote s).toList ++ rest) = read next rest :=
  read_of_lex (lex_quote s rest) hstep

def isMark (c : Char) : Bool :=
  c ∈ ['(', ')', '\x7b', '\x7d', '[', ']', '>', ',', ';', ':', '?', '&', '|']

theorem read_mark {c : Char} (h : isMark c) (rest : List Char)
    (hstep : step state (.mark c) = some next) : read state (c :: rest) = read next rest := by
  refine read_of_lex ?_ hstep
  simp only [isMark, List.mem_cons, List.not_mem_nil, or_false, decide_eq_true_eq] at h
  rcases h with rfl | rfl | rfl | rfl | rfl | rfl | rfl | rfl | rfl | rfl | rfl | rfl | rfl <;>
    exact lex_mark (by decide) (by decide) (by decide) (by decide) (by decide) rest

end Grammar

end ApiTypings.TypeScript
