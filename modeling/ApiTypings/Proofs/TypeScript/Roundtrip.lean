import ApiTypings.Proofs.TypeScript.Grammar
import ApiTypings.TypeScript.Render

/-! # Types are read back from their text

The syntax of a type is what the machine reads from its text, whatever stands around it.
-/

namespace ApiTypings.TypeScript

open Token Grammar

/-! ## The syntax of a type -/

def Literal.atom : Literal → Atom
  | .string s => .quoted s
  | .number d => .numeral d.render
  | .integer i => .numeral (toString i)
  | .boolean b => .word (if b then "true" else "false")
  | .null => .word "null"

namespace TypeExpr

/-- The operands of an intersection that a type with some alternatives stands for. -/
def operandsOf : TypeExpr → Form → List Atom
  | .union _, form => [.group form]
  | _, form => form.flatten

mutual

/-- The syntax of a type. -/
def form : TypeExpr → Form
  | .primitive p => [[.word p.render]]
  | .literal l => [[l.atom]]
  | .array item => [[.application "Array" [item.form]]]
  | .union members => (forms members).flatten
  | .intersection members => [(operandForms members).flatten]
  | .object ⟨properties, index⟩ =>
      [[.object { properties := propertyForms properties, index := indexForm index }]]
  | .record value => [[.application "Record" [[[.word "string"]], value.form]]]
  | .named name => [[.word name]]
  | .generic name arguments => [[.application name (forms arguments)]]

def forms : List TypeExpr → List Form
  | [] => []
  | t :: rest => t.form :: forms rest

/-- The operands that types stand for. -/
def operandForms : List TypeExpr → List (List Atom)
  | [] => []
  | t :: rest => t.operandsOf t.form :: operandForms rest

def propertyForms : List (Property TypeExpr) → List (Property Form)
  | [] => []
  | ⟨name, type, optional⟩ :: rest => ⟨name, type.form, optional⟩ :: propertyForms rest

/-- The syntax of the type of an index signature. -/
def indexForm : Option TypeExpr → Option Form
  | none => none
  | some value => some value.form

end

theorem forms_eq_map (ts : List TypeExpr) : forms ts = ts.map form := by
  induction ts with
  | nil => rfl
  | cons t ts ih => simp [forms, ih]

theorem operandForms_eq_map (ts : List TypeExpr) :
    operandForms ts = ts.map fun t => t.operandsOf t.form := by
  induction ts with
  | nil => rfl
  | cons t ts ih => simp [operandForms, ih]

/-! ## Legible types -/

/-- Names that mean something else than a declared type. -/
def predefinedNames : List String :=
  ["string", "number", "boolean", "null", "undefined", "unknown", "object", "true", "false",
   "Array", "Record"]

/-- A name for a declared type. -/
structure IsDeclaredName (name : String) : Prop extends IsName name where
  not_predefined : name ∉ predefinedNames

/-- A type whose unions, intersections and arguments are not empty and whose names are names of
declared types. -/
inductive Legible : TypeExpr → Prop
  | primitive (p : Primitive) : Legible (.primitive p)
  | literal (l : Literal) : Legible (.literal l)
  | array {item : TypeExpr} (h : Legible item) : Legible (.array item)
  | union {members : List TypeExpr} (hne : members ≠ []) (h : ∀ t ∈ members, Legible t) :
      Legible (.union members)
  | intersection {members : List TypeExpr} (hne : members ≠ []) (h : ∀ t ∈ members, Legible t) :
      Legible (.intersection members)
  | object {shape : Shape TypeExpr} (hproperties : ∀ p ∈ shape.properties, Legible p.type)
      (hindex : ∀ t, shape.index = some t → Legible t) : Legible (.object shape)
  | record {value : TypeExpr} (h : Legible value) : Legible (.record value)
  | named {name : String} (hname : IsDeclaredName name) : Legible (.named name)
  | generic {name : String} {arguments : List TypeExpr} (hname : IsDeclaredName name)
      (hne : arguments ≠ []) (h : ∀ t ∈ arguments, Legible t) : Legible (.generic name arguments)

/-! ## Reading a type -/

/-- In front of a delimiter, the text of a type is read as its alternatives, behind others. -/
def ReadsBack (t : TypeExpr) : Prop :=
  ∀ stack alternatives rest, Delimited rest → ∃ level : Level,
    level.form = alternatives ++ t.form ∧
      read (.operand stack { alternatives }) (t.render.toList ++ rest) =
        read (.operator stack level) rest

/-- In front of a delimiter, the text of a type is read as its operands, behind others. -/
def ReadsBackOperand (t : TypeExpr) : Prop :=
  ∀ stack alternatives operands rest, Delimited rest →
    read (.operand stack { alternatives, operands })
        ((t.parenthesized t.render).toList ++ rest) =
      read (.operator stack { alternatives, operands := operands ++ t.operandsOf t.form }) rest

theorem ReadsBackOperand.readsBack {t : TypeExpr} (h : t.ReadsBackOperand)
    (hrender : t.parenthesized t.render = t.render) (hform : [t.operandsOf t.form] = t.form) :
    t.ReadsBack := by
  intro stack alternatives rest hrest
  refine ⟨{ alternatives, operands := t.operandsOf t.form }, ?_, ?_⟩
  · rw [Level.form, hform]
  · have hread := h stack alternatives [] rest hrest
    rwa [hrender] at hread

/-- A type of a single atom is read back if its text is read as that atom. -/
theorem readsBack_of_atom {t : TypeExpr} {atom : Atom} (hform : t.form = [[atom]])
    (hrender : ∀ text, t.parenthesized text = text)
    (hoperands : ∀ form, t.operandsOf form = form.flatten)
    (h : ∀ stack level rest, Delimited rest →
      read (.operand stack level) (t.render.toList ++ rest) =
        read (.operator stack (level.push atom)) rest) : t.ReadsBack ∧ t.ReadsBackOperand := by
  have hatom : t.operandsOf t.form = [atom] := by
    rw [hoperands, hform]
    rfl
  have hoperand : t.ReadsBackOperand := by
    intro stack alternatives operands rest hrest
    rw [hrender, hatom]
    exact h stack { alternatives, operands } rest hrest
  exact ⟨hoperand.readsBack (hrender _) (by rw [hatom, hform]), hoperand⟩

/-! ## Unions and intersections -/

theorem delimited_bar (rest : List Char) : Delimited (" | ".toList ++ rest) :=
  delimited_cons (by decide) _

theorem delimited_ampersand (rest : List Char) : Delimited (" & ".toList ++ rest) :=
  delimited_cons (by decide) _

theorem read_bar (stack : List Frame) (level : Level) (rest : List Char) :
    read (.operator stack level) (" | ".toList ++ rest) =
      read (.operand stack { alternatives := level.form }) rest := by
  have htext : " | ".toList ++ rest = ' ' :: '|' :: ' ' :: rest := rfl
  rw [htext, read_space, read_mark (by decide) _ rfl, read_space]

theorem read_ampersand (stack : List Frame) (level : Level) (rest : List Char) :
    read (.operator stack level) (" & ".toList ++ rest) = read (.operand stack level) rest := by
  have htext : " & ".toList ++ rest = ' ' :: '&' :: ' ' :: rest := rfl
  rw [htext, read_space, read_mark (by decide) _ rfl, read_space]

theorem read_union {members : List TypeExpr} (hne : members ≠ [])
    (h : ∀ t ∈ members, t.ReadsBack) (stack : List Frame) (alternatives : Form)
    {rest : List Char} (hrest : Delimited rest) :
    ∃ level : Level, level.form = alternatives ++ (members.map form).flatten ∧
      read (.operand stack { alternatives })
          ((" | ".intercalate (members.map render)).toList ++ rest) =
        read (.operator stack level) rest := by
  induction members generalizing alternatives with
  | nil => exact absurd rfl hne
  | cons t members ih =>
      rw [List.forall_mem_cons] at h
      cases members with
      | nil => simpa using h.1 stack alternatives rest hrest
      | cons u members =>
          simp only [List.map_cons, String.intercalate_cons_cons, String.toList_append,
            List.append_assoc]
          obtain ⟨level, hform, hread⟩ := h.1 stack alternatives _ (delimited_bar _)
          obtain ⟨level', hform', hread'⟩ := ih (by simp) h.2 level.form
          refine ⟨level', ?_, ?_⟩
          · rw [hform', hform]
            simp
          · rw [hread, read_bar]
            exact hread'

theorem read_intersection {members : List TypeExpr} (hne : members ≠ [])
    (h : ∀ t ∈ members, t.ReadsBackOperand) (stack : List Frame) (alternatives : Form)
    (operands : List Atom) {rest : List Char} (hrest : Delimited rest) :
    read (.operand stack { alternatives, operands })
        ((" & ".intercalate (members.map fun t => t.parenthesized t.render)).toList ++ rest) =
      read (.operator stack
        { alternatives
          operands := operands ++ (members.map fun t => t.operandsOf t.form).flatten }) rest := by
  induction members generalizing operands with
  | nil => exact absurd rfl hne
  | cons t members ih =>
      rw [List.forall_mem_cons] at h
      cases members with
      | nil => simpa using h.1 stack alternatives operands rest hrest
      | cons u members =>
          simp only [List.map_cons, String.intercalate_cons_cons, String.toList_append,
            List.append_assoc]
          rw [h.1 stack alternatives operands _ (delimited_ampersand _), read_ampersand]
          have hread := ih (by simp) h.2 (operands ++ t.operandsOf t.form)
          simpa using hread

/-- A union between parentheses is one operand. -/
theorem ReadsBack.readsBackOperand_union {members : List TypeExpr}
    (h : (union members).ReadsBack) : (union members).ReadsBackOperand := by
  intro stack alternatives operands rest hrest
  have htext : ((union members).parenthesized (union members).render).toList ++ rest =
      '(' :: ((union members).render.toList ++ ')' :: rest) := by
    simp [parenthesized]
  obtain ⟨level, hform, hread⟩ := h (.group { alternatives, operands } :: stack) [] (')' :: rest)
    (delimited_cons (by decide) _)
  rw [htext, read_mark (by decide) _ rfl]
  refine hread.trans ?_
  rw [read_mark (by decide) _ rfl, hform]
  rfl

/-! ## Arguments -/

theorem delimited_comma (rest : List Char) : Delimited (", ".toList ++ rest) :=
  delimited_cons (by decide) _

theorem read_comma {stack : List Frame} {outer level : Level} {name : String} {done : List Form}
    (rest : List Char) :
    read (.operator (.argument outer name done :: stack) level) (", ".toList ++ rest) =
      read (.operand (.argument outer name (done ++ [level.form]) :: stack) {}) rest := by
  have htext : ", ".toList ++ rest = ',' :: ' ' :: rest := rfl
  rw [htext, read_mark (by decide) _ rfl, read_space]

theorem read_arguments {arguments : List TypeExpr} (hne : arguments ≠ [])
    (h : ∀ t ∈ arguments, t.ReadsBack) (stack : List Frame) (outer : Level) (name : String)
    (done : List Form) (rest : List Char) :
    read (.operand (.argument outer name done :: stack) {})
        ((", ".intercalate (arguments.map render)).toList ++ '>' :: rest) =
      read (.operator stack (outer.push (.application name (done ++ arguments.map form))))
        rest := by
  induction arguments generalizing done with
  | nil => exact absurd rfl hne
  | cons t arguments ih =>
      rw [List.forall_mem_cons] at h
      cases arguments with
      | nil =>
          simp only [List.map_cons, List.map_nil, String.intercalate_singleton]
          obtain ⟨level, hform, hread⟩ := h.1 (.argument outer name done :: stack) []
            ('>' :: rest) (delimited_cons (by decide) _)
          refine hread.trans ?_
          rw [read_mark (by decide) _ rfl, hform]
          rfl
      | cons u arguments =>
          simp only [List.map_cons, String.intercalate_cons_cons, String.toList_append,
            List.append_assoc]
          obtain ⟨level, hform, hread⟩ := h.1 (.argument outer name done :: stack) [] _
            (delimited_comma _)
          refine hread.trans ?_
          rw [read_comma, hform]
          have hread' := ih (by simp) h.2 (done ++ [t.form])
          simpa using hread'

theorem read_generic {name : String} (hname : IsName name) {arguments : List TypeExpr}
    (hne : arguments ≠ []) (h : ∀ t ∈ arguments, t.ReadsBack) (stack : List Frame) (level : Level)
    (rest : List Char) :
    read (.operand stack level) ((generic name arguments).render.toList ++ rest) =
      read (.operator stack (level.push (.application name (arguments.map form)))) rest := by
  have htext : (generic name arguments).render.toList ++ rest =
      name.toList ++ '<' :: ((", ".intercalate (arguments.map render)).toList ++ '>' :: rest) := by
    simp [render, renderAll_eq_map]
  rw [htext, read_application hname _ rfl, read_arguments hne h]
  rfl

theorem isName_array : IsName "Array" := by
  decide

theorem isName_record : IsName "Record" := by
  decide

theorem isName_key : IsName "key" := by
  decide

theorem isName_string : IsName "string" := by
  decide

theorem read_array {item : TypeExpr} (h : item.ReadsBack) (stack : List Frame) (level : Level)
    (rest : List Char) :
    read (.operand stack level) ((array item).render.toList ++ rest) =
      read (.operator stack (level.push (.application "Array" [item.form]))) rest := by
  have htext : (array item).render.toList ++ rest =
      "Array".toList ++ '<' :: ((", ".intercalate ([item].map render)).toList ++ '>' :: rest) := by
    simp [render]
  rw [htext, read_application isName_array _ rfl, read_arguments (by simp) (by simpa using h)]
  rfl

theorem read_record {value : TypeExpr} (h : value.ReadsBack) (stack : List Frame) (level : Level)
    (rest : List Char) :
    read (.operand stack level) ((record value).render.toList ++ rest) =
      read (.operator stack
        (level.push (.application "Record" [[[.word "string"]], value.form]))) rest := by
  have htext : (record value).render.toList ++ rest =
      "Record".toList ++ '<' :: ("string".toList ++ (", ".toList ++
        ((", ".intercalate ([value].map render)).toList ++ '>' :: rest))) := by
    simp [render]
  rw [htext, read_application isName_record _ rfl,
    read_word isName_string (delimited_comma _) rfl, read_comma,
    read_arguments (by simp) (by simpa using h)]
  rfl

/-! ## Objects -/

theorem read_colon (stack : List Frame) (level : Level) (done : List (Property Form))
    (name : String) (optional : Bool) (rest : List Char) :
    read (.name stack level done name optional) (": ".toList ++ rest) =
      read (.operand (.property level done name optional :: stack) {}) rest := by
  have htext : ": ".toList ++ rest = ':' :: ' ' :: rest := rfl
  have hstep : step (.name stack level done name optional) (.mark ':') =
      some (.operand (.property level done name optional :: stack) {}) := by
    cases optional <;> rfl
  rw [htext, read_mark (by decide) _ hstep, read_space]

/-- A property is read up to the end of its type. -/
theorem read_property {p : Property TypeExpr} (h : p.type.ReadsBack) (stack : List Frame)
    (outer : Level) (done : List (Property Form)) {rest : List Char} (hrest : Delimited rest) :
    ∃ level : Level, level.form = p.type.form ∧
      read (.member stack outer done) (p.render.toList ++ rest) =
        read (.operator (.property outer done p.name p.optional :: stack) level) rest := by
  obtain ⟨level, hform, hread⟩ :=
    h (.property outer done p.name p.optional :: stack) [] rest hrest
  refine ⟨level, hform, ?_⟩
  rw [← hread]
  have htext : p.render.toList ++ rest = (Text.quote p.name).toList ++
      ((optionalMark p.optional).toList ++ (": ".toList ++ (p.type.render.toList ++ rest))) := by
    simp [Property.render]
  rw [htext, read_quote _ _ rfl]
  cases p.optional with
  | false => exact read_colon stack outer done p.name false _
  | true =>
      have hmark : (optionalMark true).toList = ['?'] := rfl
      rw [hmark, List.singleton_append, read_mark (by decide) _ rfl, read_colon]

/-- An index signature is read up to the end of its type. -/
theorem read_index {value : TypeExpr} (h : value.ReadsBack) (stack : List Frame) (outer : Level)
    (done : List (Property Form)) {rest : List Char} (hrest : Delimited rest) :
    ∃ level : Level, level.form = value.form ∧
      read (.member stack outer done) (("[key: string]: " ++ value.render).toList ++ rest) =
        read (.operator (.index outer done :: stack) level) rest := by
  obtain ⟨level, hform, hread⟩ := h (.index outer done :: stack) [] rest hrest
  refine ⟨level, hform, ?_⟩
  rw [← hread]
  have htext : ("[key: string]: " ++ value.render).toList ++ rest =
      '[' :: ("key".toList ++ ':' :: ' ' :: ("string".toList ++ ']' :: ':' :: ' ' ::
        (value.render.toList ++ rest))) := by
    rw [String.toList_append, List.append_assoc]
    rfl
  rw [htext, read_mark (by decide) _ rfl, read_word isName_key (delimited_cons (by decide) _) rfl,
    read_mark (by decide) _ rfl, read_space,
    read_word isName_string (delimited_cons (by decide) _) rfl, read_mark (by decide) _ rfl,
    read_mark (by decide) _ rfl, read_space]

theorem read_semicolon {stack : List Frame} {outer level : Level} {done : List (Property Form)}
    {name : String} {optional : Bool} (rest : List Char) :
    read (.operator (.property outer done name optional :: stack) level) ("; ".toList ++ rest) =
      read (.member stack outer (done ++ [{ name, type := level.form, optional }])) rest := by
  have htext : "; ".toList ++ rest = ';' :: ' ' :: rest := rfl
  rw [htext, read_mark (by decide) _ rfl, read_space]

theorem delimited_semicolon (rest : List Char) : Delimited ("; ".toList ++ rest) :=
  delimited_cons (by decide) _

/-- Only an object without members has no text between its braces. -/
theorem eq_nil_of_renderMembers_eq_nil {properties : List (Property TypeExpr)}
    {index : Option TypeExpr} (h : properties.map Property.render ++ renderIndex index = []) :
    properties = [] ∧ index = none := by
  rw [List.append_eq_nil_iff, List.map_eq_nil_iff] at h
  refine ⟨h.1, ?_⟩
  cases index with
  | none => rfl
  | some value => exact absurd h.2 (by simp [renderIndex])

/-- The members of an object are read up to its closing brace. -/
theorem read_members {properties : List (Property TypeExpr)} {index : Option TypeExpr}
    (hne : properties.map Property.render ++ renderIndex index ≠ [])
    (hproperties : ∀ p ∈ properties, p.type.ReadsBack)
    (hindex : ∀ t, index = some t → t.ReadsBack) (stack : List Frame) (outer : Level)
    (done : List (Property Form)) (rest : List Char) :
    read (.member stack outer done)
        (("; ".intercalate (properties.map Property.render ++ renderIndex index)).toList ++
          ' ' :: '\x7d' :: rest) =
      read (closeObject stack outer
        { properties := done ++ propertyForms properties, index := indexForm index }) rest := by
  have hend : Delimited (' ' :: '\x7d' :: rest) := delimited_cons (by decide) _
  induction properties generalizing done with
  | nil =>
      cases index with
      | none => exact absurd rfl hne
      | some value =>
          obtain ⟨level, hform, hread⟩ := read_index (hindex value rfl) stack outer done hend
          simp only [List.map_nil, renderIndex, List.nil_append, String.intercalate_singleton]
          rw [hread, read_space, read_mark (by decide) _ rfl, hform]
          simp [propertyForms, indexForm]
  | cons p properties ih =>
      rw [List.forall_mem_cons] at hproperties
      have hforms : propertyForms (p :: properties) =
          { name := p.name, type := p.type.form, optional := p.optional } ::
            propertyForms properties := rfl
      rw [List.map_cons, List.cons_append, hforms]
      by_cases hlast : properties.map Property.render ++ renderIndex index = []
      · obtain ⟨level, hform, hread⟩ := read_property hproperties.1 stack outer done hend
        rw [hlast, String.intercalate_singleton, hread, read_space, read_mark (by decide) _ rfl,
          hform]
        obtain ⟨rfl, rfl⟩ := eq_nil_of_renderMembers_eq_nil hlast
        rfl
      · rw [String.intercalate_cons_of_ne_nil hlast, String.toList_append, String.toList_append,
          List.append_assoc, List.append_assoc]
        obtain ⟨level, hform, hread⟩ :=
          read_property hproperties.1 stack outer done (delimited_semicolon _)
        rw [hread, read_semicolon, hform, ih hlast hproperties.2]
        simp

theorem read_object {shape : Shape TypeExpr}
    (hproperties : ∀ p ∈ shape.properties, p.type.ReadsBack)
    (hindex : ∀ t, shape.index = some t → t.ReadsBack) (stack : List Frame) (level : Level)
    (rest : List Char) :
    read (.operand stack level) ((object shape).render.toList ++ rest) =
      read (.operator stack (level.push (.object
        { properties := propertyForms shape.properties, index := indexForm shape.index })))
        rest := by
  obtain ⟨properties, index⟩ := shape
  rw [render, renderProperties_eq_map]
  split
  · next hnil =>
      obtain ⟨rfl, rfl⟩ := eq_nil_of_renderMembers_eq_nil hnil
      have htext : "\x7b\x7d".toList ++ rest = '\x7b' :: '\x7d' :: rest := rfl
      rw [htext, read_mark (by decide) _ rfl, read_mark (by decide) _ rfl]
      rfl
  · next hne =>
      have htext (text : String) : ("\x7b " ++ text ++ " \x7d").toList ++ rest =
          '\x7b' :: ' ' :: (text.toList ++ ' ' :: '\x7d' :: rest) := by
        simp
      rw [htext, read_mark (by decide) _ rfl, read_space, read_members hne hproperties hindex]
      rfl

/-! ## Legible types -/

theorem isName_primitive (p : Primitive) : IsName p.render := by
  cases p <;> decide

theorem read_literal (l : Literal) (stack : List Frame) (level : Level) {rest : List Char}
    (hrest : Delimited rest) :
    read (.operand stack level) (l.render.toList ++ rest) =
      read (.operator stack (level.push l.atom)) rest := by
  cases l with
  | string s => exact read_quote s rest rfl
  | number d => exact read_numeral (isNumeral_render d) hrest rfl
  | integer i => exact read_numeral (isNumeral_toString i) hrest rfl
  | boolean b =>
      have hname : IsName (if b then "true" else "false") := by
        cases b <;> decide
      exact read_word hname hrest rfl
  | null =>
      have hname : IsName "null" := isName_primitive .null
      exact read_word hname hrest rfl

/-- Every legible type is read back, as a type and as an operand. -/
theorem Legible.readsBack {t : TypeExpr} (h : t.Legible) : t.ReadsBack ∧ t.ReadsBackOperand := by
  -- Both at once: an intersection reads its members as operands, and everything else as types.
  induction h with
  | primitive p =>
      refine readsBack_of_atom rfl (fun _ => rfl) (fun _ => rfl) ?_
      exact fun _ _ _ hrest => read_word (isName_primitive p) hrest rfl
  | literal l =>
      refine readsBack_of_atom rfl (fun _ => rfl) (fun _ => rfl) ?_
      exact fun stack level _ hrest => read_literal l stack level hrest
  | array _ ih =>
      refine readsBack_of_atom rfl (fun _ => rfl) (fun _ => rfl) ?_
      exact fun stack level rest _ => read_array ih.1 stack level rest
  | @union members hne _ ih =>
      have hread : (TypeExpr.union members).ReadsBack := by
        intro stack alternatives rest hrest
        rw [form, forms_eq_map, render, renderAll_eq_map]
        exact read_union hne (fun t ht => (ih t ht).1) stack alternatives hrest
      exact ⟨hread, hread.readsBackOperand_union⟩
  | @intersection members hne _ ih =>
      have hform : (TypeExpr.intersection members).form =
          [(members.map fun t => t.operandsOf t.form).flatten] := by
        rw [form, operandForms_eq_map]
      have hoperands : (TypeExpr.intersection members).operandsOf
          (TypeExpr.intersection members).form =
            (members.map fun t => t.operandsOf t.form).flatten := by
        rw [hform]
        exact List.append_nil _
      have hread : (TypeExpr.intersection members).ReadsBackOperand := by
        intro stack alternatives operands rest hrest
        rw [hoperands]
        simp only [parenthesized, render, renderOperands_eq_map]
        exact read_intersection hne (fun t ht => (ih t ht).2) stack alternatives operands hrest
      exact ⟨hread.readsBack rfl (by rw [hoperands, hform]), hread⟩
  | @object shape _ _ ihproperties ihindex =>
      refine readsBack_of_atom rfl (fun _ => rfl) (fun _ => rfl) ?_
      exact fun stack level rest _ => read_object (fun p hp => (ihproperties p hp).1)
        (fun t ht => (ihindex t ht).1) stack level rest
  | record _ ih =>
      refine readsBack_of_atom rfl (fun _ => rfl) (fun _ => rfl) ?_
      exact fun stack level rest _ => read_record ih.1 stack level rest
  | named hname =>
      refine readsBack_of_atom rfl (fun _ => rfl) (fun _ => rfl) ?_
      exact fun _ _ _ hrest => read_word hname.toIsName hrest rfl
  | @generic name arguments hname hne _ ih =>
      have hform : (TypeExpr.generic name arguments).form =
          [[.application name (arguments.map form)]] := by
        rw [form, forms_eq_map]
      refine readsBack_of_atom hform (fun _ => rfl) (fun _ => rfl) ?_
      exact fun stack level rest _ =>
        read_generic hname.toIsName hne (fun t ht => (ih t ht).1) stack level rest

/-- The syntax of a legible type is what its text is parsed to. -/
theorem parse_render {t : TypeExpr} (h : t.Legible) : parse t.render = some t.form := by
  obtain ⟨level, hform, hread⟩ := h.readsBack.1 [] [] [] delimited_nil
  rw [List.append_nil] at hread
  rw [parse, hread, read_nil, finish, hform, List.nil_append]

end TypeExpr

end ApiTypings.TypeScript
