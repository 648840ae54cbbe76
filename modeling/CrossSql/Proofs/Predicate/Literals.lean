import CrossSql.Proofs.Predicate.Binding
import Mathlib.Data.List.Basic

/-!
# The text between parameters

The text of a predicate is made of literal pieces with the parameters between them. The pieces come
from a template, the outline with its slots as holes, so they depend on the tree and the quotes
alone. Names and values only decide what is put into the holes.

## Main definitions

* `Template`, `Template.literals`: a text with holes, and its pieces.
* `weave`: pieces and inserts in turn.
* `Predicate.literals`: the pieces of a predicate.
-/

namespace CrossSql

/-- A text with holes. -/
abbrev Template := List (Option String)

namespace Template

/-- The texts before, between and after the holes. -/
def literals : Template → List String
  | [] => [""]
  | none :: t => "" :: literals t
  | some s :: t =>
    match literals t with
    | [] => [s]
    | l :: ls => (s ++ l) :: ls

theorem length_literals (t : Template) : (literals t).length = t.count none + 1 := by
  induction t with
  | nil => rfl
  | cons part t ih =>
    cases part with
    | none => simp [literals, ih]
    | some s =>
      cases h : literals t with
      | nil => simp [h] at ih
      | cons l ls => simpa [literals, h] using ih

end Template

/-- The pieces in order, with an insert after each but the last. -/
def weave : (pieces inserts : List String) → String
  | p :: ps, m :: ms => p ++ m ++ weave ps ms
  | ps, _ => String.join ps

theorem weave_literals_text (s : String) (t : Template) (inserts : List String) :
    weave (Template.literals (some s :: t)) inserts = s ++ weave t.literals inserts := by
  obtain ⟨l, ls, h⟩ := List.exists_cons_of_length_eq_add_one t.length_literals
  cases inserts <;> simp [Template.literals, h, weave, String.append_assoc]

theorem weave_literals_hole (t : Template) (insert : String) (inserts : List String) :
    weave (Template.literals (none :: t)) (insert :: inserts) =
      insert ++ weave t.literals inserts := by
  simp [Template.literals, weave]

/-! ## Templates of fragments -/

namespace Token

/-- What a token leaves in a template: a hole for a marker, its text otherwise. -/
def part : Token → Option String
  | .marker _ => none
  | t => some t.written

end Token

namespace Fragment

/-- The fragment with its markers as holes. -/
def template (f : Fragment) : Template := f.map Token.part

@[simp] theorem template_cons (t : Token) (f : Fragment) :
    template (t :: f) = t.part :: template f := rfl

/-- A fragment reads as its literals with its markers between them. -/
theorem text_eq_weave (f : Fragment) :
    f.text = weave f.template.literals (f.markers.map Marker.text) := by
  induction f with
  | nil => rfl
  | cons t f ih =>
    rw [text_cons, template_cons, ih, markers_cons]
    cases t with
    | marker m => simp [Token.part, Token.marker?, Token.written, weave_literals_hole]
    | _ => simp [Token.part, Token.marker?, weave_literals_text]

theorem count_none_template (f : Fragment) : f.template.count none = f.markers.length := by
  induction f with
  | nil => rfl
  | cons t f ih =>
    rw [template_cons, markers_cons, List.count_cons, ih]
    cases t <;> simp [Token.part, Token.marker?]

end Fragment

/-! ## Templates of outlines -/

def Clause.template (c : Clause) : Template :=
  some c.opening :: (c.slots.map fun _ => none).intersperse (some c.separator) ++ [some c.closing]

def Piece.template : Piece → Template
  | .text s => [some s]
  | .clause c => c.template

theorem Clause.template_tokens {c : Clause} {mark : String} {ps : List Parameter}
    (h : ps.length = c.slots.length) : (c.tokens mark ps).template = c.template := by
  have holes : (ps.map fun p => Token.marker (p.marker mark)).map Token.part =
      c.slots.map fun _ => none := by
    simp [Function.comp_def, Token.part, List.map_const', h]
  simp [Clause.tokens, Fragment.template, Clause.template, map_intersperse, ← holes, Token.part,
    Token.written]

theorem Names.template_fill (names : Names) (sc : Scope) (mark : String) (ps : List Piece) :
    (names.fill sc mark ps).template = ps.flatMap Piece.template := by
  induction ps generalizing names with
  | nil => rfl
  | cons p ps ih =>
    cases p with
    | text s =>
      simpa [fill, Fragment.template, Piece.template, Token.part, Token.written] using ih names
    | clause c =>
      have filled : (c.tokens mark (names.bind sc c).1).template = c.template :=
        Clause.template_tokens (by simp [fst_bind, parameters])
      simp only [fill, Fragment.template, List.map_append, List.flatMap_cons, Piece.template] at *
      rw [filled, ih]

namespace Predicate

/-- The literal pieces of the text, which depend on the tree and the quotes only. -/
def literals (p : Predicate) (q : Quotes) : Except Error (List String) :=
  (p.outline q).map fun ps => Template.literals (ps.flatMap Piece.template)

/-- A predicate has a text exactly if it has parameters. The text is the literal pieces with the
parameters between them in order, and their values are the operands of the comparisons, which come
in the order of the fields of the predicate. -/
theorem render_eq_weave_parameters (p : Predicate) (sc : Scope) (s : Setting) :
    (∃ e, p.render sc s = .error e ∧ p.parameters sc s = .error e ∧
      p.literals s.quotes = .error e) ∨
    ∃ text ps pieces, p.render sc s = .ok text ∧ p.parameters sc s = .ok ps ∧
      p.literals s.quotes = .ok pieces ∧ pieces.length = ps.length + 1 ∧
      text = weave pieces (ps.map fun x => s.parameterMark ++ x.name) ∧
      ps.map Parameter.value = p.comparisons.flatMap Comparison.operands := by
  cases ho : p.outline s.quotes with
  | error e => exact .inl ⟨e, by simp [render, parameters, literals, tokens, ho, Except.map]⟩
  | ok ps =>
    let f := Names.empty.fill sc s.parameterMark ps
    have ht : p.tokens sc s = .ok f := by rw [tokens, ho]; rfl
    have hf : f.template = ps.flatMap Piece.template := Names.template_fill ..
    obtain ⟨cs, -, hm⟩ := tokens_ok ht
    refine .inr ⟨f.text, f.parameters, f.template.literals, by rw [render, ht]; rfl,
      by rw [parameters, ht]; rfl, by rw [literals, ho, hf]; rfl, ?_, ?_, values_parameters ht⟩
    · rw [Template.length_literals, Fragment.count_none_template, Fragment.parameters_of_markers hm,
        hm, List.length_map]
    · rw [Fragment.text_eq_weave, Fragment.parameters_of_markers hm, hm, List.map_map]
      rfl

end Predicate

end CrossSql
