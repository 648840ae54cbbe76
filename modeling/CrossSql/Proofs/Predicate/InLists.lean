import CrossSql.Proofs.Predicate.Binding
import CrossSql.Proofs.Text.Pieces

/-!
# The lists of a rendered predicate

An `IN` list of a fragment stands behind a text that opens it, and its items are the parameters up
to the parenthesis that closes it. A rendered predicate has one for every comparison with a list, as
long as the list of the comparison.

## Main definitions

* `Fragment.lists`: the lists of a fragment, each with its items.
* `Fragment.Quiet`: fragments that open no list.
* `Comparison.listLength?`: the length of the list that a comparison asks for.
* `Predicate.lists_tokens`: the lists of a rendered predicate.
-/

namespace CrossSql

namespace Token

/-- Whether the token is a text at the end of which a list begins. -/
def opensList : Token → Bool
  | .text s => " IN (".toList.isSuffixOf s.toList
  | _ => false

@[simp] theorem opensList_marker (m : Marker) : (marker m).opensList = false := rfl

@[simp] theorem opensList_column (quoted : String) : (column quoted).opensList = false := rfl

@[simp] theorem opensList_label (quoted : String) : (label quoted).opensList = false := rfl

/-- Whether the token can stand in a list: a parameter, or the comma behind one. -/
def isItem : Token → Bool
  | .marker _ => true
  | .text s => s == ", "
  | _ => false

end Token

namespace Fragment

/-- The parameters in front of the first token that cannot stand in a list. -/
def items (f : Fragment) : List Marker := markers (f.takeWhile Token.isItem)

/-- The lists of a fragment, each with its items. -/
def lists : Fragment → List (List Marker)
  | [] => []
  | t :: f => (if t.opensList && !(items f).isEmpty then [items f] else []) ++ lists f

/-- No token of the fragment opens a list. -/
def Quiet (f : Fragment) : Prop := ∀ t ∈ f, t.opensList = false

@[simp] theorem quiet_nil : Quiet [] := by simp [Quiet]

@[simp] theorem quiet_cons {t : Token} {f : Fragment} :
    Quiet (t :: f) ↔ t.opensList = false ∧ Quiet f :=
  List.forall_mem_cons

@[simp] theorem quiet_append {f g : Fragment} : Quiet (f ++ g) ↔ Quiet f ∧ Quiet g :=
  List.forall_mem_append

theorem lists_append {f : Fragment} (h : Quiet f) (g : Fragment) : lists (f ++ g) = lists g := by
  induction f with
  | nil => rfl
  | cons t f ih =>
    obtain ⟨first, rest⟩ := quiet_cons.1 h
    rw [List.cons_append, lists, first, ih rest]
    rfl

theorem lists_eq_nil {f : Fragment} (h : Quiet f) : lists f = [] := by
  rw [← List.append_nil f, lists_append h, lists]

/-- Without parameters there are no items. -/
theorem lists_of_markers {f : Fragment} (h : markers f = []) : lists f = [] := by
  have none (g : Fragment) (hg : markers g = []) : items g = [] := by
    rw [markers, List.filterMap_eq_nil_iff] at hg
    rw [items, markers, List.filterMap_eq_nil_iff]
    exact fun t ht => hg t (List.takeWhile_subset _ ht)
  induction f with
  | nil => rfl
  | cons t f ih =>
    rw [markers_cons, List.append_eq_nil_iff] at h
    rw [lists, none f h.2, ih h.2]
    simp

theorem quiet_intersperse {separator : Token} (h : separator.opensList = false) {f : Fragment}
    (quiet : Quiet f) : Quiet (f.intersperse separator) := by
  intro t ht
  obtain rfl | ht := Text.eq_of_mem_intersperse ht
  · exact h
  · exact quiet t ht

/-- The items of a list end at its parenthesis. -/
theorem items_run (ms : List Marker) (rest : Fragment) :
    items ((ms.map Token.marker).intersperse (.text ", ") ++ .text ")" :: rest) = ms := by
  have run : ∀ t ∈ (ms.map Token.marker).intersperse (.text ", "), t.isItem := by
    intro t ht
    obtain rfl | ht := Text.eq_of_mem_intersperse ht
    · decide
    · obtain ⟨m, -, rfl⟩ := List.mem_map.1 ht
      rfl
  have close : (Token.text ")").isItem = false := by decide
  rw [items, List.takeWhile_append_of_pos run, List.takeWhile_cons_of_neg (by simp [close]),
    List.append_nil, markers_intersperse]

end Fragment

/-! ## Clauses -/

namespace Token

variable {s t : String}

theorem opensList_append (h : (text t).opensList) : (text (s ++ t)).opensList := by
  simp only [opensList, List.isSuffixOf_iff_suffix, String.toList_append] at h ⊢
  exact h.trans (List.suffix_append _ _)

/-- A text that opens a list ends with a parenthesis. -/
theorem opensList_of_last {x : Char} (last : t.toList.getLast? = some x) (other : x ≠ '(') :
    (text (s ++ t)).opensList = false := by
  rw [Bool.eq_false_iff, opensList, ne_eq, List.isSuffixOf_iff_suffix]
  rintro ⟨front, whole⟩
  have ends := congrArg List.getLast? whole
  rw [String.toList_append, List.getLast?_append, List.getLast?_append, last] at ends
  exact other (Option.some.inj ends).symm

end Token

namespace Clause

/-- The clause of a comparison with a list. -/
structure Lists (cl : Clause) : Prop where
  opening : (Token.text cl.opening).opensList
  separator : cl.separator = ", "
  closing : cl.closing = ")"
  slots : cl.slots ≠ []

/-- The clause of any other comparison. -/
structure Plain (cl : Clause) : Prop where
  opening : (Token.text cl.opening).opensList = false
  separator : (Token.text cl.separator).opensList = false
  closing : (Token.text cl.closing).opensList = false

end Clause

namespace Comparison

/-- The length of the list that a comparison asks for. -/
def listLength? (c : Comparison) : Option Nat :=
  match c.operand with
  | .list values => some values.length
  | _ => none

variable {c : Comparison} {q : Quotes} {cl : Clause}

/-- Only the heading of a list ends with a parenthesis. -/
theorem plain_of_slotted {slots : List Slot} {separator : String}
    (h : c.slotted q slots " " separator "" = .ok cl)
    (quiet : (Token.text separator).opensList = false) : cl.Plain := by
  obtain ⟨rfl, -⟩ := slotted_ok h
  exact ⟨Token.opensList_of_last (x := ' ') rfl (by decide), quiet, rfl⟩

theorem plain_nullClause (c : Comparison) (q : Quotes) {test : String}
    (last : test.toList.getLast? = some 'L') : (c.nullClause q test).Plain :=
  ⟨Token.opensList_of_last last (by decide), rfl, rfl⟩

/-- A comparison with a list has the clause of one, any other comparison another clause. -/
theorem clause_lists (h : c.clause q = .ok cl) :
    (cl.Lists ∧ c.listLength? = some cl.slots.length) ∨ (cl.Plain ∧ c.listLength? = none) := by
  simp only [clause] at h
  split at h
  · cases h
  · cases ho : c.operand with
    | single v =>
      refine .inr ⟨?_, by rw [listLength?, ho]⟩
      rw [operandClause_single ho] at h
      split_ifs at h
      · exact Except.ok.inj h ▸ plain_nullClause c q (by decide)
      · exact Except.ok.inj h ▸ plain_nullClause c q (by decide)
      · exact plain_of_slotted h (by decide)
    | range l r =>
      refine .inr ⟨?_, by rw [listLength?, ho]⟩
      rw [operandClause_range ho] at h
      split_ifs at h
      exact plain_of_slotted h (by decide)
    | list vs =>
      rw [operandClause_list ho] at h
      split_ifs at h with operation empty
      obtain ⟨rfl, -⟩ := slotted_ok h
      have count : (listSlots 0 vs).length = vs.length := by
        simpa using congrArg List.length (values_listSlots 0 vs)
      refine .inl ⟨⟨?_, rfl, rfl, fun none => ?_⟩, by simp [listLength?, ho, count]⟩
      · rw [String.append_assoc, String.append_assoc]
        refine Token.opensList_append ?_
        rcases operation with isIn | notIn
        · rw [isIn]; decide
        · rw [notIn]; decide
      · rw [show listSlots 0 vs = [] from none] at count
        exact empty (by simpa using count.symm)

end Comparison

/-! ## Rendered predicates -/

namespace Clause

/-- The length of the list of a clause. -/
def listLength? (cl : Clause) : Option Nat :=
  if (Token.text cl.opening).opensList then some cl.slots.length else none

variable {cl : Clause} {mark : String}

theorem lists_run (quiet : (Token.text cl.separator).opensList = false)
    (closed : (Token.text cl.closing).opensList = false) (ps : List Parameter) (f : Fragment) :
    Fragment.lists ((ps.map fun p => Token.marker (p.marker mark)).intersperse
      (.text cl.separator) ++ .text cl.closing :: f) = f.lists := by
  rw [List.append_cons, Fragment.lists_append]
  refine Fragment.quiet_append.2 ⟨?_, by simpa using closed⟩
  refine Fragment.quiet_intersperse quiet fun t ht => ?_
  obtain ⟨p, -, rfl⟩ := List.mem_map.1 ht
  rfl

/-- A clause adds its list, as long as it has slots, or no list at all. -/
theorem lists_tokens (form : cl.Lists ∨ cl.Plain) {ps : List Parameter}
    (bound : ps.length = cl.slots.length) (f : Fragment) :
    (Fragment.lists (cl.tokens mark ps ++ f)).map List.length =
      cl.listLength?.toList ++ f.lists.map List.length := by
  rw [tokens, List.append_assoc, List.singleton_append, List.cons_append, Fragment.lists]
  rcases form with list | plain
  · have items : Fragment.items ((ps.map fun p => Token.marker (p.marker mark)).intersperse
        (.text cl.separator) ++ .text cl.closing :: f) = ps.map (Parameter.marker mark) := by
      have run := Fragment.items_run (ps.map (Parameter.marker mark)) f
      rwa [List.map_map, ← list.separator, ← list.closing] at run
    have some : ps ≠ [] := by
      intro none
      rw [none] at bound
      exact list.slots (List.eq_nil_of_length_eq_zero bound.symm)
    have quiet : (Token.text cl.separator).opensList = false := by rw [list.separator]; decide
    have closed : (Token.text cl.closing).opensList = false := by rw [list.closing]; decide
    rw [items, lists_run quiet closed, listLength?, list.opening]
    simp [some, bound]
  · rw [lists_run plain.separator plain.closing, listLength?, plain.opening]
    rfl

end Clause

theorem Comparison.clauses_lists {q : Quotes} {cs : List Comparison} {cls : List Clause}
    (h : Comparison.clauses q cs = .ok cls) :
    (∀ cl ∈ cls, cl.Lists ∨ cl.Plain) ∧
      cls.filterMap Clause.listLength? = cs.filterMap Comparison.listLength? := by
  induction cs generalizing cls with
  | nil =>
    cases h
    exact ⟨by simp, rfl⟩
  | cons c cs ih =>
    obtain ⟨first, hc, h⟩ := bind_eq_ok_iff.1 h
    obtain ⟨rest, hr, h⟩ := bind_eq_ok_iff.1 h
    cases h
    obtain ⟨forms, lengths⟩ := ih hr
    obtain ⟨list, length⟩ | ⟨plain, none⟩ := clause_lists hc
    · have own : first.listLength? = some first.slots.length := by
        rw [Clause.listLength?, list.opening, if_pos rfl]
      refine ⟨List.forall_mem_cons.2 ⟨.inl list, forms⟩, ?_⟩
      rw [List.filterMap_cons, List.filterMap_cons, own, length, lengths]
    · have own : first.listLength? = Option.none := by
        rw [Clause.listLength?, plain.opening, if_neg Bool.false_ne_true]
      refine ⟨List.forall_mem_cons.2 ⟨.inr plain, forms⟩, ?_⟩
      rw [List.filterMap_cons, List.filterMap_cons, own, none, lengths]

namespace Predicate

/-- The texts between the clauses of an outline open no list. -/
def QuietTexts (ps : List Piece) : Prop :=
  ∀ s, .text s ∈ ps → (Token.text s).opensList = false

theorem quietTexts_enclose {conjunction : Conjunction} {negated : Bool}
    {members : List (List Piece)} (h : ∀ ps ∈ members, QuietTexts ps) :
    QuietTexts (enclose conjunction negated members) := by
  intro s hs
  rcases List.mem_cons.1 hs with opening | hs
  · obtain rfl := Piece.text.inj opening
    cases negated <;> decide
  · rcases List.mem_append.1 hs with hs | hs
    · obtain separator | ⟨ps, member, hs⟩ := Text.eq_or_exists_of_mem_intercalate hs
      · obtain rfl := Piece.text.inj separator
        cases conjunction <;> decide
      · exact h ps member s hs
    · obtain rfl := Piece.text.inj (List.mem_singleton.1 hs)
      decide

mutual

theorem quietTexts_outline (q : Quotes) :
    (p : Predicate) → {ps : List Piece} → p.outline q = .ok ps → QuietTexts ps
  | group comparisons groups conjunction negated, ps, h => by
    obtain ⟨clauses, -, h⟩ := bind_eq_ok_iff.1 h
    obtain ⟨members, hm, h⟩ := bind_eq_ok_iff.1 h
    rw [← Except.ok.inj h]
    refine quietTexts_enclose fun ps hps => ?_
    rcases List.mem_append.1 hps with hps | hps
    · obtain ⟨cl, -, rfl⟩ := List.mem_map.1 hps
      intro s hs
      cases List.mem_singleton.1 hs
    · exact quietTexts_outlines q groups hm ps hps

theorem quietTexts_outlines (q : Quotes) :
    (ps : List Predicate) → {members : List (List Piece)} → outlines q ps = .ok members →
      ∀ m ∈ members, QuietTexts m
  | [], members, h => by
    cases h
    simp
  | p :: ps, members, h => by
    rw [outlines] at h
    split at h
    · exact quietTexts_outlines q ps h
    · obtain ⟨first, hp, h⟩ := bind_eq_ok_iff.1 h
      obtain ⟨rest, hr, h⟩ := bind_eq_ok_iff.1 h
      rw [← Except.ok.inj h]
      exact List.forall_mem_cons.2 ⟨quietTexts_outline q p hp, quietTexts_outlines q ps hr⟩

end

theorem lists_fill {sc : Scope} {mark : String} {ps : List Piece} (texts : QuietTexts ps)
    (forms : ∀ cl ∈ Piece.clauses ps, cl.Lists ∨ cl.Plain) (names : Names) :
    (Fragment.lists (names.fill sc mark ps)).map List.length =
      (Piece.clauses ps).filterMap Clause.listLength? := by
  induction ps generalizing names with
  | nil => rfl
  | cons p ps ih =>
    have rest : QuietTexts ps := fun s hs => texts s (List.mem_cons_of_mem p hs)
    cases p with
    | text s =>
      have quiet : (Token.text s).opensList = false := texts s List.mem_cons_self
      rw [Names.fill, Fragment.lists, quiet]
      exact ih rest forms names
    | clause cl =>
      have bound : (names.bind sc cl).1.length = cl.slots.length := by
        simpa using congrArg List.length (names.values_bind sc cl)
      obtain ⟨form, forms⟩ := List.forall_mem_cons.1 forms
      rw [Names.fill, Clause.lists_tokens form bound, ih rest forms, Piece.clauses_clause,
        List.filterMap_cons]
      cases cl.listLength? <;> rfl

/-- A rendered predicate has a list for every comparison with one, and it is as long. -/
theorem lists_tokens {p : Predicate} {sc : Scope} {s : Setting} {f : Fragment}
    (h : p.tokens sc s = .ok f) :
    f.lists.map List.length = p.comparisons.filterMap Comparison.listLength? := by
  obtain ⟨ps, outline, rfl⟩ := map_eq_ok_iff.1 h
  obtain ⟨forms, lengths⟩ := Comparison.clauses_lists (outline_ok outline)
  rw [lists_fill (quietTexts_outline s.quotes p outline) forms, lengths]

end Predicate

end CrossSql
