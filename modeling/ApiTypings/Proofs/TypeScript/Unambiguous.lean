import ApiTypings.Proofs.TypeScript.Roundtrip
import Mathlib.Data.List.Forall2

/-! # The text of a type is unambiguous

Two legible types with one text differ at most in the nesting of their unions and intersections
and in literals that are written alike.
-/

namespace ApiTypings.TypeScript

namespace TypeExpr

/-! ## Types that are written alike -/

/-- The least congruence that ignores how unions and intersections are nested and which of several
literals with one text is meant. -/
inductive Equiv : TypeExpr → TypeExpr → Prop
  | refl (t : TypeExpr) : Equiv t t
  | symm {t u : TypeExpr} (h : Equiv t u) : Equiv u t
  | trans {t u v : TypeExpr} (h : Equiv t u) (h' : Equiv u v) : Equiv t v
  | literal {l m : Literal} (h : l.render = m.render) : Equiv (.literal l) (.literal m)
  | null : Equiv (.literal .null) (.primitive .null)
  | spliceUnion (ts us vs : List TypeExpr) :
      Equiv (.union (ts ++ .union us :: vs)) (.union (ts ++ us ++ vs))
  | spliceIntersection (ts us vs : List TypeExpr) :
      Equiv (.intersection (ts ++ .intersection us :: vs)) (.intersection (ts ++ us ++ vs))
  | singleUnion (t : TypeExpr) : Equiv (.union [t]) t
  | singleIntersection (t : TypeExpr) : Equiv (.intersection [t]) t
  | array {t u : TypeExpr} (h : Equiv t u) : Equiv (.array t) (.array u)
  | record {t u : TypeExpr} (h : Equiv t u) : Equiv (.record t) (.record u)
  | union {t u : TypeExpr} (ts vs : List TypeExpr) (h : Equiv t u) :
      Equiv (.union (ts ++ t :: vs)) (.union (ts ++ u :: vs))
  | intersection {t u : TypeExpr} (ts vs : List TypeExpr) (h : Equiv t u) :
      Equiv (.intersection (ts ++ t :: vs)) (.intersection (ts ++ u :: vs))
  | generic {t u : TypeExpr} (name : String) (ts vs : List TypeExpr) (h : Equiv t u) :
      Equiv (.generic name (ts ++ t :: vs)) (.generic name (ts ++ u :: vs))
  | property {t u : TypeExpr} (ps qs : List (Property TypeExpr)) (name : String) (optional : Bool)
      (index : Option TypeExpr) (h : Equiv t u) :
      Equiv (.object ⟨ps ++ ⟨name, t, optional⟩ :: qs, index⟩)
        (.object ⟨ps ++ ⟨name, u, optional⟩ :: qs, index⟩)
  | index {t u : TypeExpr} (ps : List (Property TypeExpr)) (h : Equiv t u) :
      Equiv (.object ⟨ps, some t⟩) (.object ⟨ps, some u⟩)

/-- A context that may replace one of its members may replace all of them. -/
theorem Equiv.of_forall₂ {context : List TypeExpr → TypeExpr}
    (hcontext : ∀ {t u : TypeExpr} (ts vs : List TypeExpr), Equiv t u →
      Equiv (context (ts ++ t :: vs)) (context (ts ++ u :: vs)))
    {ts us : List TypeExpr} (h : List.Forall₂ Equiv ts us) : Equiv (context ts) (context us) := by
  have hbehind (before : List TypeExpr) :
      Equiv (context (before ++ ts)) (context (before ++ us)) := by
    -- Members that are replaced already move in front, so that one is replaced at a time.
    induction h generalizing before with
    | nil => exact .refl _
    | @cons t u ts us htu _ ih =>
        refine (hcontext before ts htu).trans ?_
        simpa using ih (before ++ [u])
  exact hbehind []

theorem union_flatten_equiv (before : List TypeExpr) (groups : List (List TypeExpr)) :
    Equiv (.union (before ++ groups.flatten)) (.union (before ++ groups.map .union)) := by
  induction groups generalizing before with
  | nil => exact .refl _
  | cons us groups ih =>
      have hrest := ih (before ++ us)
      rw [List.flatten_cons, List.map_cons, ← List.append_assoc]
      exact hrest.trans (Equiv.spliceUnion before us _).symm

theorem intersection_flatten_equiv (before : List TypeExpr) (groups : List (List TypeExpr)) :
    Equiv (.intersection (before ++ groups.flatten))
      (.intersection (before ++ groups.map .intersection)) := by
  induction groups generalizing before with
  | nil => exact .refl _
  | cons us groups ih =>
      have hrest := ih (before ++ us)
      rw [List.flatten_cons, List.map_cons, ← List.append_assoc]
      exact hrest.trans (Equiv.spliceIntersection before us _).symm

/-! ## The type of a syntax -/

def ofWord : String → TypeExpr
  | "string" => .primitive .string
  | "number" => .primitive .number
  | "boolean" => .primitive .boolean
  | "null" => .primitive .null
  | "undefined" => .primitive .undefined
  | "unknown" => .primitive .unknown
  | "object" => .primitive .object
  | "true" => .literal (.boolean true)
  | "false" => .literal (.boolean false)
  | name => .named name

/-- The type that a name stands for with arguments. -/
def ofApplication : String → List TypeExpr → TypeExpr
  | "Array", [item] => .array item
  | "Record", [_, value] => .record value
  | name, arguments => .generic name arguments

open Classical in
/-- A literal that is written as a numeral. -/
noncomputable def ofNumeral (text : String) : Literal :=
  if h : ∃ l : Literal, l.atom = .numeral text then h.choose else .null

end TypeExpr

open TypeExpr

mutual

noncomputable def Atom.toType : Atom → TypeExpr
  | .word name => ofWord name
  | .numeral text => .literal (ofNumeral text)
  | .quoted value => .literal (.string value)
  | .application name arguments => ofApplication name (argumentTypes arguments)
  | .object ⟨properties, index⟩ =>
      .object { properties := propertyTypes properties, index := indexType index }
  | .group alternatives => .union (alternativeTypes alternatives)

noncomputable def operandTypes : List Atom → List TypeExpr
  | [] => []
  | atom :: rest => atom.toType :: operandTypes rest

noncomputable def alternativeTypes : List (List Atom) → List TypeExpr
  | [] => []
  | operands :: rest => .intersection (operandTypes operands) :: alternativeTypes rest

noncomputable def argumentTypes : List (List (List Atom)) → List TypeExpr
  | [] => []
  | form :: rest => .union (alternativeTypes form) :: argumentTypes rest

noncomputable def propertyTypes : List (Property (List (List Atom))) → List (Property TypeExpr)
  | [] => []
  | ⟨name, form, optional⟩ :: rest =>
      ⟨name, .union (alternativeTypes form), optional⟩ :: propertyTypes rest

noncomputable def indexType : Option (List (List Atom)) → Option TypeExpr
  | none => none
  | some form => some (.union (alternativeTypes form))

end

/-- The type that a syntax stands for. -/
noncomputable def Form.toType (form : Form) : TypeExpr :=
  .union (alternativeTypes form)

theorem operandTypes_eq_map (atoms : List Atom) : operandTypes atoms = atoms.map Atom.toType := by
  induction atoms with
  | nil => rfl
  | cons atom atoms ih => simp [operandTypes, ih]

theorem alternativeTypes_eq_map (form : Form) :
    alternativeTypes form = form.map fun operands => .intersection (operandTypes operands) := by
  induction form with
  | nil => rfl
  | cons operands form ih => simp [alternativeTypes, ih]

theorem argumentTypes_eq_map (forms : List Form) : argumentTypes forms = forms.map Form.toType := by
  induction forms with
  | nil => rfl
  | cons form forms ih => simp [argumentTypes, ih, Form.toType]

namespace TypeExpr

/-! ## The syntax stands for the type -/

theorem ofWord_render (p : Primitive) : ofWord p.render = .primitive p := by
  cases p <;> rfl

theorem ofWord_of_not_predefined {name : String} (h : name ∉ predefinedNames) :
    ofWord name = .named name := by
  simp only [predefinedNames, List.mem_cons, List.not_mem_nil, or_false, not_or] at h
  unfold ofWord
  split <;> simp_all

theorem ofApplication_of_not_predefined {name : String} (h : name ∉ predefinedNames)
    (arguments : List TypeExpr) : ofApplication name arguments = .generic name arguments := by
  simp only [predefinedNames, List.mem_cons, List.not_mem_nil, or_false, not_or] at h
  unfold ofApplication
  split <;> simp_all

theorem render_of_atom_eq_numeral {l : Literal} {text : String} (h : l.atom = .numeral text) :
    l.render = text := by
  cases l <;> simp_all [Literal.atom, Literal.render]

/-- The literal that a numeral is read as has the text of every literal that is written so. -/
theorem ofNumeral_equiv {l : Literal} {text : String} (h : l.atom = .numeral text) :
    Equiv (.literal (ofNumeral text)) (.literal l) := by
  have hexists : ∃ l : Literal, l.atom = .numeral text := ⟨l, h⟩
  refine .literal ?_
  rw [ofNumeral, dif_pos hexists, render_of_atom_eq_numeral h,
    render_of_atom_eq_numeral hexists.choose_spec]

theorem toType_atom_equiv (l : Literal) : Equiv l.atom.toType (.literal l) := by
  cases l with
  | string s => exact .refl _
  | number d => exact ofNumeral_equiv rfl
  | integer i => exact ofNumeral_equiv rfl
  | boolean b => cases b <;> exact .refl _
  | null => exact Equiv.null.symm

/-- A syntax of a single atom stands for what the atom stands for. -/
theorem toType_singleton_equiv (atom : Atom) : Equiv (Form.toType [[atom]]) atom.toType :=
  (Equiv.singleUnion _).trans (.singleIntersection _)

/-- Apart from unions, a type has one alternative. -/
theorem form_eq_singleton {t : TypeExpr} (h : ∀ members, t ≠ .union members) :
    t.form = [t.operandsOf t.form] := by
  cases t with
  | union members => exact absurd rfl (h members)
  | object shape => rfl
  | intersection members => simp [form, operandsOf]
  | _ => rfl

/-- The operands that a type contributes to an intersection stand for it. -/
theorem operands_equiv {t : TypeExpr} (h : Equiv t.form.toType t) :
    Equiv (.intersection (operandTypes (t.operandsOf t.form))) t := by
  by_cases hunion : ∃ members, t = .union members
  · obtain ⟨members, rfl⟩ := hunion
    have hoperands : operandTypes
        ((TypeExpr.union members).operandsOf (TypeExpr.union members).form) =
          [(TypeExpr.union members).form.toType] := rfl
    rw [hoperands]
    exact (Equiv.singleIntersection _).trans h
  · have hform : t.form = [t.operandsOf t.form] :=
      form_eq_singleton fun members hmembers => hunion ⟨members, hmembers⟩
    generalize t.operandsOf t.form = operands at hform ⊢
    rw [hform] at h
    exact (Equiv.singleUnion _).symm.trans h

theorem forall₂_map {ts : List TypeExpr} {f : TypeExpr → TypeExpr} (h : ∀ t ∈ ts, Equiv (f t) t) :
    List.Forall₂ Equiv (ts.map f) ts := by
  induction ts with
  | nil => exact .nil
  | cons t ts ih =>
      rw [List.forall_mem_cons] at h
      exact .cons h.1 (ih h.2)

theorem union_toType_equiv {members : List TypeExpr}
    (h : ∀ t ∈ members, Equiv t.form.toType t) :
    Equiv (TypeExpr.union members).form.toType (.union members) := by
  have hforms : (TypeExpr.union members).form.toType =
      .union ((members.map fun t => alternativeTypes t.form).flatten) := by
    rw [form, forms_eq_map, Form.toType, alternativeTypes_eq_map, List.map_flatten, List.map_map]
    simp only [alternativeTypes_eq_map]
    rfl
  rw [hforms]
  refine (union_flatten_equiv [] _).trans ?_
  rw [List.nil_append, List.map_map]
  exact Equiv.of_forall₂ .union (forall₂_map h)

theorem intersection_toType_equiv {members : List TypeExpr}
    (h : ∀ t ∈ members, Equiv t.form.toType t) :
    Equiv (TypeExpr.intersection members).form.toType (.intersection members) := by
  have hforms : (TypeExpr.intersection members).form.toType =
      .union [.intersection
        ((members.map fun t => operandTypes (t.operandsOf t.form)).flatten)] := by
    rw [form, operandForms_eq_map, Form.toType, alternativeTypes_eq_map]
    simp only [List.map_cons, List.map_nil, operandTypes_eq_map, List.map_flatten, List.map_map]
    rfl
  rw [hforms]
  refine (Equiv.singleUnion _).trans ((intersection_flatten_equiv [] _).trans ?_)
  rw [List.nil_append, List.map_map]
  exact Equiv.of_forall₂ .intersection (forall₂_map fun t ht => operands_equiv (h t ht))

theorem generic_equiv (name : String) {arguments : List TypeExpr}
    (h : ∀ t ∈ arguments, Equiv t.form.toType t) :
    Equiv (.generic name (argumentTypes (forms arguments))) (.generic name arguments) := by
  rw [forms_eq_map, argumentTypes_eq_map, List.map_map]
  exact Equiv.of_forall₂ (.generic name) (forall₂_map h)

theorem object_equiv_of_properties {ps : List (Property TypeExpr)}
    (before : List (Property TypeExpr)) (index : Option TypeExpr)
    (h : ∀ p ∈ ps, Equiv p.type.form.toType p.type) :
    Equiv (.object ⟨before ++ propertyTypes (propertyForms ps), index⟩)
      (.object ⟨before ++ ps, index⟩) := by
  induction ps generalizing before with
  | nil => exact .refl _
  | cons p ps ih =>
      obtain ⟨name, type, optional⟩ := p
      rw [List.forall_mem_cons] at h
      have hfirst :=
        Equiv.property before (propertyTypes (propertyForms ps)) name optional index h.1
      have hrest := ih (before ++ [⟨name, type, optional⟩]) h.2
      simp only [List.append_assoc, List.singleton_append] at hrest
      exact hfirst.trans hrest

theorem object_equiv {shape : Shape TypeExpr}
    (hproperties : ∀ p ∈ shape.properties, Equiv p.type.form.toType p.type)
    (hindex : ∀ t, shape.index = some t → Equiv t.form.toType t) :
    Equiv (.object ⟨propertyTypes (propertyForms shape.properties),
      indexType (indexForm shape.index)⟩) (.object shape) := by
  obtain ⟨properties, index⟩ := shape
  refine (object_equiv_of_properties [] _ hproperties).trans ?_
  cases index with
  | none => exact .refl _
  | some t => exact .index properties (hindex t rfl)

/-- The syntax of a legible type stands for the type. -/
theorem Legible.toType_form_equiv {t : TypeExpr} (h : t.Legible) : Equiv t.form.toType t := by
  induction h with
  | primitive p =>
      refine (toType_singleton_equiv _).trans ?_
      rw [Atom.toType, ofWord_render]
      exact .refl _
  | literal l => exact (toType_singleton_equiv _).trans (toType_atom_equiv l)
  | array _ ih => exact (toType_singleton_equiv _).trans (.array ih)
  | union _ _ ih => exact union_toType_equiv ih
  | intersection _ _ ih => exact intersection_toType_equiv ih
  | object _ _ ihproperties ihindex =>
      exact (toType_singleton_equiv _).trans (object_equiv ihproperties ihindex)
  | record _ ih => exact (toType_singleton_equiv _).trans (.record ih)
  | named hname =>
      refine (toType_singleton_equiv _).trans ?_
      rw [Atom.toType, ofWord_of_not_predefined hname.not_predefined]
      exact .refl _
  | generic hname _ _ ih =>
      refine (toType_singleton_equiv _).trans ?_
      rw [Atom.toType, ofApplication_of_not_predefined hname.not_predefined]
      exact generic_equiv _ ih

/-- The text of a legible type is unambiguous: it parses, what it is parsed to stands for the type,
and any other legible type with this text is equal to it up to the nesting of unions and
intersections and up to literals with one text. -/
theorem render_unambiguous (t : TypeExpr) (h : t.Legible) :
    (∃ form, parse t.render = some form ∧ Equiv form.toType t) ∧
      ∀ u : TypeExpr, u.Legible → u.render = t.render → Equiv u t := by
  refine ⟨⟨t.form, parse_render h, h.toType_form_equiv⟩, ?_⟩
  intro u hu hrender
  have hparse : some u.form = some t.form := by
    rw [← parse_render hu, ← parse_render h, hrender]
  have hform : u.form = t.form := Option.some.inj hparse
  have huform := hu.toType_form_equiv
  rw [hform] at huform
  exact huform.symm.trans h.toType_form_equiv

/-- A property whose name is full of marks, and a union that only parentheses keep inside of an
intersection. -/
theorem render_unambiguous_of_quoted_name :
    let t : TypeExpr := .intersection
      [.object
         { properties := [{ name := "a': string; '\\| \n\x7d", type := .primitive .null }] },
       .union [.literal (.string "' | '"), .generic "Page" [.named "Pet"]]]
    t.Legible ∧ (∃ form, parse t.render = some form ∧ Equiv form.toType t) ∧
      ∀ u : TypeExpr, u.Legible → u.render = t.render → Equiv u t := by
  intro t
  have hpage : IsDeclaredName "Page" := ⟨by decide, by decide⟩
  have hpet : IsDeclaredName "Pet" := ⟨by decide, by decide⟩
  have hobject : Legible (.object
      { properties := [{ name := "a': string; '\\| \n\x7d", type := .primitive .null }] }) :=
    .object (by simpa using Legible.primitive .null) (by simp)
  have hgeneric : Legible (.generic "Page" [.named "Pet"]) :=
    .generic hpage (by simp) (by simpa using Legible.named hpet)
  have hunion : Legible (.union [.literal (.string "' | '"), .generic "Page" [.named "Pet"]]) :=
    .union (by simp) (by simpa using ⟨Legible.literal (.string "' | '"), hgeneric⟩)
  have ht : t.Legible := .intersection (by simp) (by simpa using ⟨hobject, hunion⟩)
  exact ⟨ht, render_unambiguous t ht⟩

end TypeExpr

end ApiTypings.TypeScript
