import CrossSql.Proofs.Predicate.FreshNames

/-!
# The number of a clause

The number that a clause gets is sought upwards from the count of its field, one number after
another, and nothing but a free number ends the search. It ends all the same, within one try more
than there are names taken: the bound that the search is given is never reached.

## Main definitions

* `Names.after`: the names once some pieces are filled.
* `Names.Numbered`: what it means for a clause to get a number.
* `Names.exists_numbered`: every clause with slots gets one.
-/

namespace CrossSql.Names

open Text

/-! ## Names on the way through an outline -/

/-- The names once the pieces are filled. -/
def after (sc : Scope) : Names → List Piece → Names
  | names, [] => names
  | names, .text _ :: ps => after sc names ps
  | names, .clause c :: ps => after sc (names.bind sc c).2 ps

theorem after_append (sc : Scope) (names : Names) (ps qs : List Piece) :
    names.after sc (ps ++ qs) = (names.after sc ps).after sc qs := by
  induction ps generalizing names with
  | nil => rfl
  | cons p ps ih => cases p <;> exact ih _

theorem fill_append (sc : Scope) (mark : String) (names : Names) (ps qs : List Piece) :
    names.fill sc mark (ps ++ qs) =
      names.fill sc mark ps ++ (names.after sc ps).fill sc mark qs := by
  induction ps generalizing names with
  | nil => rfl
  | cons p ps ih => cases p <;> simp [fill, after, ih]

theorem parameters_fill_clause (sc : Scope) (mark : String) (names : Names) (c : Clause)
    (ps : List Piece) :
    (names.fill sc mark (.clause c :: ps)).parameters =
      (names.bind sc c).1 ++ ((names.bind sc c).2.fill sc mark ps).parameters := by
  rw [fill, Fragment.parameters_append, Fragment.parameters_of_markers (c.markers_tokens mark _)]

/-- The names that are taken are those of the parameters so far. -/
theorem mem_taken_after {sc : Scope} {names : Names} {ps : List Piece} (mark : String)
    {x : String} :
    x ∈ (names.after sc ps).taken ↔
      x ∈ names.taken ∨ ∃ p ∈ (names.fill sc mark ps).parameters, lower p.name = x := by
  induction ps generalizing names with
  | nil => simp [after, fill, Fragment.parameters]
  | cons p ps ih =>
    cases p with
    | text s => exact ih
    | clause c =>
      rw [after, ih, mem_taken_bind, parameters_fill_clause, List.mem_map, or_assoc]
      simp only [List.mem_append, or_and_right, exists_or]

/-- A clause counts the uses of its field, and those of no other. -/
theorem start_bind (names : Names) (sc : Scope) {c : Clause} (h : c.slots ≠ []) (base : String) :
    (names.bind sc c).2.start base =
      if lower base = lower c.base then names.choose sc c.base c.slots + 1
      else names.start base := by
  rw [bind, if_neg (by simpa using h), start, Std.HashMap.getD_insert]
  by_cases same : lower base = lower c.base
  · rw [if_pos same, if_pos (beq_iff_eq.2 same.symm)]
  · rw [if_neg same, if_neg (by simpa using Ne.symm same), start]

/-! ## The number of a clause -/

/-- In the state behind the pieces `before`, the clause gets the number `n` at the try `tries`. -/
structure Numbered (sc : Scope) (mark : String) (before : List Piece) (c : Clause)
    (n tries : Nat) : Prop where
  /-- The search starts from the count of the field and has no bound of its own. -/
  finds : Finds (fun m => (empty.after sc before).isFree (sc.candidate c.base m) c.slots)
    ((empty.after sc before).start c.base) tries n
  tries_le : tries ≤ (empty.after sc before).taken.size + 1
  /-- The number is the least from the count on with which no name was given before. -/
  least : IsLeast {m | (empty.after sc before).start c.base ≤ m ∧
    ∀ slot ∈ c.slots, ∀ p ∈ (empty.fill sc mark before).parameters,
      lower (sc.candidate c.base m ++ slot.suffix) ≠ lower p.name} n
  /-- The parameters of the clause are called after the number. -/
  named : (empty.fill sc mark (before ++ [.clause c])).parameters =
    (empty.fill sc mark before).parameters ++ parameters (sc.candidate c.base n) c.slots
  /-- The field counts on from the number, and other fields as before. -/
  count : ∀ base, (empty.after sc (before ++ [.clause c])).start base =
    if lower base = lower c.base then n + 1 else (empty.after sc before).start base

theorem isFree_after_iff {sc : Scope} {before : List Piece} (mark : String) {name : String}
    {slots : List Slot} :
    (empty.after sc before).isFree name slots ↔
      ∀ slot ∈ slots, ∀ p ∈ (empty.fill sc mark before).parameters,
        lower (name ++ slot.suffix) ≠ lower p.name := by
  have none (x : String) : x ∉ empty.taken := by simp [empty]
  simp only [isFree_iff, mem_taken_after mark, none, false_or, not_exists, not_and]
  exact forall₄_congr fun slot _ p _ => ne_comm

/-- Whatever was filled before, a clause with slots gets the first free number for its field, after
at most one try more than there are names taken. -/
theorem exists_numbered (sc : Scope) (mark : String) (before : List Piece) {c : Clause}
    (form : SlotForm c.slots) : ∃ n tries, Numbered sc mark before c n tries := by
  have slots : c.slots ≠ [] := by
    intro none
    rw [none] at form
    cases form
  obtain ⟨tries, tries_le, finds⟩ :=
    (empty.after sc before).finds_choose sc c.base (.inr form)
  refine ⟨_, tries, finds, tries_le, ?_, ?_, ?_⟩
  · simpa only [isFree_after_iff mark] using finds.isLeast
  · rw [fill_append, Fragment.parameters_append, parameters_fill_clause, fst_bind]
    simp [fill, Fragment.parameters]
  · intro base
    rw [after_append, after, after, start_bind _ sc slots]

/-- A comparison of a field. -/
def idClause : Clause := ⟨"\"Id\" = ", "Id", [⟨"", .ofString "a"⟩], "", ""⟩

/-- A list of a field that is called like a second use of the other one. -/
def otherClause : Clause :=
  ⟨"\"Id_1\" IN (", "Id_1", Comparison.listSlots 0 [.ofString "b"], ", ", ")"⟩

def contested : List Piece :=
  [.clause idClause, .text " AND ", .clause otherClause, .text " AND "]

/-- Both clauses get the number zero. -/
theorem choose_contested :
    (empty.bind ⟨1, "_"⟩ idClause).2.choose ⟨1, "_"⟩ otherClause.base otherClause.slots = 0 := by
  let sc : Scope := ⟨1, "_"⟩
  have uncounted : (empty.bind sc idClause).2.start otherClause.base = 0 := by
    rw [start_bind empty sc (by decide), if_neg (by decide +kernel)]
    exact Std.HashMap.getD_empty
  have apart : ∀ slot ∈ otherClause.slots, lower (sc.candidate otherClause.base 0 ++ slot.suffix) ∉
      (parameters (sc.candidate idClause.base 0) idClause.slots).map fun p => lower p.name := by
    decide +kernel
  refine (choose_of_isFree (isFree_iff.2 fun slot hs => ?_)).trans uncounted
  rw [uncounted, mem_taken_bind, fst_bind, choose_empty]
  exact not_or.2 ⟨Std.HashSet.not_mem_empty, apart slot hs⟩

theorem start_contested (sc : Scope) : (empty.after sc contested).start "id" = 1 := by
  change ((empty.bind sc idClause).2.bind sc otherClause).2.start "id" = 1
  rw [start_bind _ sc (by decide), if_neg (by decide +kernel), start_bind _ sc (by decide),
    if_pos (by decide +kernel), choose_empty]

theorem parameters_contested :
    (empty.fill ⟨1, "_"⟩ "@" contested).parameters =
      [⟨"_Id_1", .ofString "a"⟩, ⟨"_Id_1_1_In_0", .ofString "b"⟩] := by
  rw [Fragment.parameters_of_markers (markers_fill empty _ "@" contested)]
  change (empty.bind _ idClause).1 ++ ((empty.bind _ idClause).2.bind _ otherClause).1 ++ [] = _
  rw [fst_bind, fst_bind, choose_empty, choose_contested]
  decide +kernel

/-- A list of the first field in other letters starts from its count. This number is the one that
the other list is called after, so the list gets the next one, at its second try. -/
theorem exists_numbered_contested :
    let c : Clause := ⟨"\"id\" IN (", "id",
      Comparison.listSlots 0 [.ofString "c", .ofString "d"], ", ", ")"⟩
    SlotForm c.slots ∧ Numbered ⟨1, "_"⟩ "@" contested c 2 2 := by
  intro c
  have form : SlotForm c.slots := .list _ _
  refine ⟨form, ?_⟩
  obtain ⟨n, tries, numbered⟩ := exists_numbered ⟨1, "_"⟩ "@" contested form
  have least := numbered.least
  rw [start_contested, parameters_contested] at least
  obtain rfl : n = 2 := by
    refine least.unique ⟨⟨by decide, by decide +kernel⟩, fun m hm => ?_⟩
    obtain ⟨counted, free⟩ := hm
    have : m ≠ 1 := by
      rintro rfl
      revert free
      decide +kernel
    omega
  have tried := numbered.finds.found_add_one
  rw [start_contested] at tried
  obtain rfl : tries = 2 := by omega
  exact numbered

end CrossSql.Names
