import CrossSql.Parameter
import CrossSql.Proofs.Text.Pieces

/-!
# Plain names

A parameter is named after its column, by what is left of the name without the quoting marks and
without all but letters, digits and underscores. Of a name that has nothing else to it, only the
blanks around it are lost.

## Main definitions

* `Parameter.IsPlain`: a name of letters, digits and underscores.
* `Quotes.Foreign`: quoting marks that do not occur in plain names.
* `Parameter.baseName_eq_trim`: what parameters for a plain name are called.
-/

namespace CrossSql

namespace Text

/-- A pattern with a character that the text is without does not occur in it. -/
theorem erase_eq_self {pattern cs : List Char} (h : pattern = [] ∨ ∃ c ∈ pattern, c ∉ cs) :
    erase pattern cs = cs := by
  obtain rfl | ⟨c, hc, absent⟩ := h
  · exact erase_nil_pattern cs
  · unfold erase
    induction cs with
    | nil => rfl
    | cons d r ih =>
      have other : pattern.isPrefixOf (d :: r) = false := by
        refine Bool.eq_false_iff.2 fun front => absent ?_
        exact (List.isPrefixOf_iff_prefix.1 front).subset hc
      rw [eraseFrom, other, Bool.and_false, if_neg Bool.false_ne_true,
        ih fun hr => absent (List.mem_cons_of_mem d hr)]

end Text

open Text

/-- A mark is empty, or it holds a character that names of parameters are without. -/
def Quotes.Foreign (q : Quotes) : Prop :=
  ∀ mark ∈ [q.opening, q.closing], mark = "" ∨ mark.toList.any (!Parameter.isNameChar ·)

instance (q : Quotes) : Decidable q.Foreign :=
  inferInstanceAs (Decidable (∀ mark ∈ [q.opening, q.closing], _ ∨ _))

namespace Parameter

/-- Between its outer blanks the name has only letters, digits and underscores. -/
def IsPlain (name : String) : Prop := (trimChars name.toList).all isNameChar

instance (name : String) : Decidable (IsPlain name) :=
  inferInstanceAs (Decidable (_ = true))

theorem isPlain_iff {name : String} : IsPlain name ↔ ∀ c ∈ trimChars name.toList, isNameChar c :=
  List.all_eq_true

variable {q : Quotes} {name : String}

/-- Parameters for a plain name are called like it. -/
theorem baseName_eq_trim (foreign : q.Foreign) (plain : IsPlain name) :
    baseName q name = trim name := by
  rw [isPlain_iff] at plain
  have undotted : q.unquoteChars true name.toList = q.unquotePart true name.toList := by
    have dots : ∀ c ∈ name.toList, (c == '.') = false := by
      intro c hc
      refine beq_eq_false_iff_ne.2 ?_
      rintro rfl
      exact absurd (plain '.' (mem_trimChars hc (by decide))) (by decide)
    simp [Quotes.unquoteChars, Quotes.parts, splitWhere_eq_singleton dots, Quotes.joinParts]
  have unmarked (mark : String) (hm : mark ∈ [q.opening, q.closing]) :
      erase mark.toList (trimChars name.toList) = trimChars name.toList := by
    refine erase_eq_self ((foreign mark hm).imp (by rintro rfl; rfl) fun other => ?_)
    obtain ⟨c, hc, other⟩ := List.any_eq_true.1 other
    refine ⟨c, hc, fun inside => ?_⟩
    rw [plain c inside] at other
    cases other
  have unquoted : q.unquotePart true name.toList = trimChars name.toList := by
    simp [Quotes.unquotePart, Quotes.trimIf, unmarked, trimChars_trimChars]
  refine String.toList_inj.1 ?_
  rw [baseName, toList_nameChars, Quotes.toList_unquote, undotted, unquoted, toList_trim,
    List.filter_eq_self]
  exact plain

end Parameter

end CrossSql
