import CrossSql.Proofs.Predicate.Clauses

/-!
# The parameters of a rendered predicate

The markers of a rendered predicate are what its clauses are bound to, one clause after another. The
text around them has no part in it, so names and values of the parameters are facts about a list of
clauses.

## Main definitions

* `Names.bindAll`: the parameters of some clauses.
* `Predicate.tokens_ok`: the markers of a fragment that a predicate renders to.
-/

namespace CrossSql

namespace Names

/-- The parameters of some clauses, which get their names in order. -/
def bindAll (sc : Scope) : Names → List Clause → List Parameter
  | _, [] => []
  | names, c :: cs => (names.bind sc c).1 ++ bindAll sc (names.bind sc c).2 cs

/-- A clause without slots gets no parameter, as if its slots had been named. -/
theorem fst_bind (names : Names) (sc : Scope) (c : Clause) :
    (names.bind sc c).1 =
      parameters (sc.candidate c.base (names.choose sc c.base c.slots)) c.slots := by
  unfold bind
  split
  case isTrue h => simp [parameters, List.isEmpty_iff.1 h]
  case isFalse => rfl

theorem values_bind (names : Names) (sc : Scope) (c : Clause) :
    (names.bind sc c).1.map Parameter.value = c.slots.map Slot.value := by
  simp [fst_bind, parameters]

theorem values_bindAll (names : Names) (sc : Scope) (cs : List Clause) :
    (names.bindAll sc cs).map Parameter.value = cs.flatMap fun c => c.slots.map Slot.value := by
  induction cs generalizing names with
  | nil => rfl
  | cons c cs ih => simp [bindAll, values_bind, ih]

end Names

/-! ## Markers -/

theorem map_intersperse {α β : Type} (g : α → β) (separator : α) (xs : List α) :
    (xs.intersperse separator).map g = (xs.map g).intersperse (g separator) := by
  induction xs with
  | nil => rfl
  | cons x xs ih => cases xs <;> simp_all

namespace Fragment

@[simp] theorem markers_cons (t : Token) (f : Fragment) :
    markers (t :: f) = t.marker?.toList ++ markers f := by
  cases h : t.marker? <;> simp [markers, h]

theorem markers_intersperse (s : String) (ms : List Marker) :
    markers ((ms.map Token.marker).intersperse (.text s)) = ms := by
  induction ms with
  | nil => rfl
  | cons m ms ih =>
    cases ms with
    | nil => rfl
    | cons m' ms => simpa [Token.marker?] using ih

/-- A fragment whose markers all stand for parameters of predicates. -/
theorem parameters_of_markers {f : Fragment} {mark : String} {ps : List Parameter}
    (h : f.markers = ps.map (Parameter.marker mark)) : f.parameters = ps := by
  unfold parameters
  rw [h, List.filterMap_map]
  exact List.filterMap_some

end Fragment

theorem Clause.markers_tokens (c : Clause) (mark : String) (ps : List Parameter) :
    (c.tokens mark ps).markers = ps.map (Parameter.marker mark) := by
  have slots := Fragment.markers_intersperse c.separator (ps.map (Parameter.marker mark))
  rw [List.map_map] at slots
  simpa [Clause.tokens, Token.marker?, Function.comp_def] using slots

theorem Names.markers_fill (names : Names) (sc : Scope) (mark : String) (ps : List Piece) :
    (names.fill sc mark ps).markers =
      (names.bindAll sc (Piece.clauses ps)).map (Parameter.marker mark) := by
  induction ps generalizing names with
  | nil => rfl
  | cons p ps ih =>
    cases p with
    | text s => simpa [fill, Token.marker?] using ih names
    | clause c => simp [fill, bindAll, Clause.markers_tokens, ih]

namespace Predicate

/-- The markers of a rendered predicate are its clauses, bound in order. -/
theorem tokens_ok {p : Predicate} {sc : Scope} {s : Setting} {f : Fragment}
    (h : p.tokens sc s = .ok f) :
    ∃ cs, p.clauses s.quotes = .ok cs ∧
      f.markers = (Names.empty.bindAll sc cs).map (Parameter.marker s.parameterMark) := by
  obtain ⟨ps, ho, rfl⟩ := map_eq_ok_iff.1 h
  exact ⟨_, outline_ok ho, Names.markers_fill ..⟩

theorem parameters_ok {p : Predicate} {sc : Scope} {s : Setting} {ps : List Parameter}
    (h : p.parameters sc s = .ok ps) : ∃ f, p.tokens sc s = .ok f ∧ f.parameters = ps :=
  map_eq_ok_iff.1 h

/-- The values of the parameters are the operands of the comparisons in the order of the tree. -/
theorem values_parameters {p : Predicate} {sc : Scope} {s : Setting} {f : Fragment}
    (h : p.tokens sc s = .ok f) :
    f.parameters.map Parameter.value = p.comparisons.flatMap Comparison.operands := by
  obtain ⟨cs, hc, hm⟩ := tokens_ok h
  rw [Fragment.parameters_of_markers hm, Names.values_bindAll]
  exact (Comparison.clauses_ok hc).2

/-- A predicate renders if every comparison of it has a clause. -/
theorem exists_tokens_iff {p : Predicate} {sc : Scope} {s : Setting} :
    (∃ f, p.tokens sc s = .ok f) ↔ ∀ m ∈ p.comparisons, ∃ cl, m.clause s.quotes = .ok cl := by
  rw [← Comparison.exists_clauses_iff, ← clauses, ← clauses_outline, tokens]
  cases p.outline s.quotes <;> simp [Except.map]

theorem render_eq_error_iff {p : Predicate} {sc : Scope} {s : Setting} {e : Error} :
    p.render sc s = .error e ↔ p.tokens sc s = .error e := by
  unfold render
  cases p.tokens sc s <;> simp [Except.map]

end Predicate

end CrossSql
