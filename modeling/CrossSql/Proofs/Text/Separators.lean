import CrossSql.Text.Join

/-!
# Separators of a list

The separator in front of an item answers to the item before it. So an item without a text brings no
separator of its own, at the front and between others, but the one in front of it is written before
it is known whether anything follows. A list that ends in such items keeps one separator too many.

## Main definitions

* `written`: the items that have a text.
* `Dangles`: the lists that keep a separator behind their last text.
* `joinFrom_false`: a list is its written items, joined, and the separator that dangles.
-/

namespace CrossSql.Text

/-- The items that have a text. -/
def written (items : List String) : List String := items.filter (· != "")

@[simp] theorem written_nil : written [] = [] := rfl

@[simp] theorem written_cons_empty (r : List String) : written ("" :: r) = written r := rfl

theorem written_cons_of_ne {x : String} (h : x ≠ "") (r : List String) :
    written (x :: r) = x :: written r :=
  List.filter_cons_of_pos (bne_iff_ne.2 h)

theorem written_eq_nil_iff {items : List String} : written items = [] ↔ ∀ x ∈ items, x = "" := by
  simp [written]

/-- The last item has no text, and one before it has. -/
def Dangles (items : List String) : Prop := items.getLast? = some "" ∧ written items ≠ []

instance (items : List String) : Decidable (Dangles items) :=
  inferInstanceAs (Decidable (_ ∧ _))

theorem not_dangles_nil : ¬ Dangles [] := fun h => h.2 rfl

theorem dangles_cons_empty {r : List String} : Dangles ("" :: r) ↔ Dangles r := by
  cases r with
  | nil => simp [Dangles]
  | cons y r => simp [Dangles]

/-- Behind a text the separator dangles as soon as another item follows and the last is empty. -/
theorem dangles_cons_of_ne {x : String} (h : x ≠ "") {r : List String} :
    Dangles (x :: r) ↔ r.getLast? = some "" := by
  cases r with
  | nil => simp [Dangles, h]
  | cons y r => simp [Dangles, written_cons_of_ne h]

/-! ## Joined items -/

/-- Right behind a text the first item gets a separator. The others do as they would without it. -/
theorem joinFrom_true (separator : String) {items : List String} (h : items ≠ []) :
    joinFrom separator true items = separator ++ joinFrom separator false items := by
  cases items with
  | nil => exact absurd rfl h
  | cons x r => simp [joinFrom, String.append_assoc]

theorem joinFrom_cons_empty (separator : String) (r : List String) :
    joinFrom separator false ("" :: r) = joinFrom separator false r := by
  simp [joinFrom]

theorem joinFrom_cons_of_ne (separator : String) {x : String} (h : x ≠ "") (r : List String) :
    joinFrom separator false (x :: r) = x ++ joinFrom separator true r := by
  rw [joinFrom, bne_iff_ne.2 h]
  simp

/-- Joined items are the written ones with the separator between them, and once more behind them if
it dangles. -/
theorem joinFrom_false (separator : String) (items : List String) :
    joinFrom separator false items =
      separator.intercalate (written items) ++ if Dangles items then separator else "" := by
  induction items with
  | nil => simp [joinFrom, not_dangles_nil]
  | cons x r ih =>
    by_cases hx : x = ""
    · subst hx
      rw [joinFrom_cons_empty, ih, written_cons_empty]
      simp only [dangles_cons_empty]
    · rw [joinFrom_cons_of_ne separator hx, written_cons_of_ne hx]
      simp only [dangles_cons_of_ne hx]
      cases r with
      | nil => simp [joinFrom]
      | cons y r =>
        rw [joinFrom_true separator (List.cons_ne_nil y r), ih]
        by_cases more : written (y :: r) = []
        · -- Nothing is written any more, so the separator behind `x` is the one that dangles.
          have last : (y :: r).getLast? = some "" := by
            rw [List.getLast?_eq_some_getLast (List.cons_ne_nil y r),
              written_eq_nil_iff.1 more _ (List.getLast_mem _)]
          simp [more, last, Dangles]
        · have same : Dangles (y :: r) ↔ (y :: r).getLast? = some "" := and_iff_left more
          rw [String.intercalate_cons_of_ne_nil more]
          simp only [same, String.append_assoc]

/-! ## The output -/

/-- Listing items leaves the output with the written ones behind it, joined by the separator, and
the separator again if it dangles. The latter makes the difference exactly if the separator has a
text. -/
theorem separatedBy_joined_iff (start : String) (items : List String) (separator : String) :
    separatedBy start items separator =
        start ++ separator.intercalate (written items) ++
          (if Dangles items then separator else "") ∧
      (separatedBy start items separator = start ++ separator.intercalate (written items) ↔
        separator = "" ∨ ¬ Dangles items) := by
  have whole : separatedBy start items separator =
      start ++ separator.intercalate (written items) ++
        (if Dangles items then separator else "") := by
    rw [separatedBy_eq, joinFrom_false, String.append_assoc]
  refine ⟨whole, ?_⟩
  rw [whole, String.append_eq_left_iff]
  by_cases dangling : Dangles items <;> simp [dangling]

/-- An empty item at the end leaves a separator behind. -/
theorem separatedBy_keeps_separator :
    separatedBy "" ["a", ""] ", " = "a, " ∧ ", ".intercalate (written ["a", ""]) = "a" := by
  decide +kernel

end CrossSql.Text
