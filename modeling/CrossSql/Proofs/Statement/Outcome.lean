import CrossSql.Proofs.Statement.Framed

/-!
# Outcomes of writing

What a statement adds to a draft, or the error that stops it, is computed here without the draft:
the fragments of a filter from the row alone, and those of a batch from its rows. So runs that start
from different drafts can be compared.

## Main definitions

* `Written.Yields`: writing with its outcome.
* `filterFragments`: the outcome of a filter.
* `Compiler.writeBatch_yields`: the outcome of a batch from the outcomes of its rows.
-/

namespace CrossSql

/-! ## Writing with its outcome -/

/-- The outcome of writing on a draft: some fragments behind those that are there, or an error. -/
inductive Written.Yields (d : Draft) : Except Error (List Fragment) → Written → Prop
  | written {fs : List Fragment} {d' : Draft}
      (fragments : d'.fragments.toList = d.fragments.toList ++ fs) : Yields d (.ok fs) (.ok d')
  | stopped (e : Error) (d' : Draft) : Yields d (.error e) (.error ⟨e, d'⟩)

namespace Written.Yields

variable {d d' : Draft} {x : Except Error (List Fragment)} {w : Written} {fs : List Fragment}

/-- What is written behind some fragments is written behind what they are written behind. -/
theorem behind (h : Yields d' x w)
    (fragments : d'.fragments.toList = d.fragments.toList ++ fs) :
    Yields d (x.map (fs ++ ·)) w := by
  cases h with
  | written more => exact .written (by rw [more, fragments, List.append_assoc])
  | stopped e stop => exact .stopped e stop

/-- Writing that goes on with some fragments. -/
theorem and_then (h : Yields d x w) {op : Draft → Draft} (adds : ∀ d, op d = d.append fs) :
    Yields d (x.map (· ++ fs)) (do let d ← w; return op d) := by
  cases h with
  | written fragments =>
    exact .written (by rw [adds, Draft.toList_append, fragments, List.append_assoc])
  | stopped e stop => exact .stopped e stop

end Written.Yields

/-! ## Filters -/

/-- The condition of a filter; one that is absent or empty has none. -/
def filterFragments (filter : Option Predicate) (sc : Scope) (s : Setting) :
    Except Error (List Fragment) :=
  match filter with
  | none => .ok []
  | some p => if p.isEmpty then .ok [] else (p.tokens sc s).map condition

theorem Draft.filtered_yields (d : Draft) (filter : Option Predicate) (leading : String)
    (s : Setting) :
    Written.Yields d (filterFragments filter ⟨d.row, leading⟩ s) (d.filtered filter leading s) := by
  have unfiltered : Written.Yields d (.ok []) (.ok d) := .written (List.append_nil _).symm
  cases filter with
  | none => exact unfiltered
  | some p =>
    unfold filterFragments filtered filter?
    dsimp only
    split
    · exact unfiltered
    · cases rendered : p.tokens ⟨d.row, leading⟩ s with
      | error e => exact .stopped e d
      | ok f =>
        have conditioned : (d.write "WHERE").add f = d.append (condition f) :=
          d.write_where_add (Predicate.text_tokens_ne rendered)
        exact .written (by rw [conditioned, toList_append])

theorem Frame.write_yields (fr : Frame) (s : Setting) {finish : Draft → Draft}
    {ending : List Fragment} (adds : ∀ d, finish d = d.append ending) :
    Written.Yields .empty
      ((filterFragments fr.filter ⟨0, fr.leading⟩ s).map fun f => fr.before ++ f ++ ending)
      (fr.write s finish) := by
  have filtered := (Draft.empty.append fr.before).filtered_yields fr.filter fr.leading s
  have whole := (filtered.behind (Draft.toList_append ..)).and_then adds
  rw [map_map_eq] at whole
  exact whole

/-! ## Batches -/

namespace Compiler

variable (c : Compiler) (hints : Option String) {α β : Type} {write : α → RowWriter}
  {outcome : α × Nat → Except Error β} {out : β → List Fragment} {as : List α}

/-- The rows of a batch are written one after another, up to the first that is stopped. -/
theorem writeRows_yields (several : Bool)
    (spec : ∀ a ∈ as, ∀ d, Written.Yields d ((outcome (a, d.row)).map out) (write a d))
    (keeps : ∀ a ∈ as, ∀ d d', write a d = .ok d' → d'.row = d.row) (d : Draft) :
    Written.Yields d
      (((as.zipIdx d.row).mapM outcome).map fun bs =>
        (bs.map out).flatMap (· ++ c.rowEnd hints several))
      (c.writeRows hints several (as.map write) d) := by
  induction as generalizing d with
  | nil => exact .written (List.append_nil _).symm
  | cons a as ih =>
    have first := spec a List.mem_cons_self d
    have keep := keeps a List.mem_cons_self d
    rw [List.zipIdx_cons, mapM_cons_eq, List.map_cons]
    generalize outcome (a, d.row) = x at first ⊢
    generalize here : write a d = w at first keep
    cases x with
    | error e =>
      cases first with
      | stopped e stop =>
        rw [c.writeRows_of_error here]
        exact .stopped e stop
    | ok b =>
      cases first with
      | @written _ written fragments =>
        have closed : (c.closeRow hints several written).fragments.toList =
            d.fragments.toList ++ (out b ++ c.rowEnd hints several) := by
          rw [closeRow_eq, Draft.toList_append, fragments, List.append_assoc]
        cases as with
        | nil =>
          rw [List.map_nil, writeRows, here]
          exact .written (by simpa using closed)
        | cons next as =>
          have row : (c.closeRow hints several written).nextRow.row = d.row + 1 := by
            rw [Draft.row_nextRow, closeRow_eq, Draft.row_append, keep _ rfl]
          have rest := (ih (fun a ha => spec a (List.mem_cons_of_mem _ ha))
            (fun a ha => keeps a (List.mem_cons_of_mem _ ha))
            (c.closeRow hints several written).nextRow).behind closed
          rw [map_map_eq, row] at rest
          rw [List.map_cons, writeRows, here]
          · change Written.Yields d (((List.mapM outcome _).map (b :: ·)).map _) _
            rw [map_map_eq]
            exact rest
          · exact List.cons_ne_nil _ _

theorem writeBatch_yields
    (spec : ∀ a ∈ as, ∀ d, Written.Yields d ((outcome (a, d.row)).map out) (write a d))
    (keeps : ∀ a ∈ as, ∀ d d', write a d = .ok d' → d'.row = d.row) (d : Draft) :
    Written.Yields d
      (((as.zipIdx d.row).mapM outcome).map fun bs => c.batch hints (bs.map out))
      (c.writeBatch hints (as.map write) d) := by
  have shape : ((as.zipIdx d.row).mapM outcome).map (fun bs => c.batch hints (bs.map out)) =
      ((as.zipIdx d.row).mapM outcome).map fun bs =>
        if as.length > 1 then
          c.batchBegin ++ (bs.map out).flatMap (· ++ c.rowEnd hints true) ++ c.batchEnd
        else (bs.map out).flatMap (· ++ c.rowEnd hints false) := by
    refine map_congr_of_ok fun bs h => ?_
    rw [batch, List.length_map, (mapM_ok h).1, List.length_zipIdx]
  rw [shape]
  unfold writeBatch
  by_cases several : as.length > 1
  · have row : (c.beginBatch d).row = d.row := by rw [beginBatch_eq, Draft.row_append]
    have began : (c.beginBatch d).fragments.toList = d.fragments.toList ++ c.batchBegin := by
      rw [beginBatch_eq, Draft.toList_append]
    have rows := c.writeRows_yields hints true spec keeps (c.beginBatch d)
    have whole := (rows.behind began).and_then c.endBatch_eq
    rw [row, map_map_eq, map_map_eq] at whole
    simpa only [if_pos several, List.length_map] using whole
  · have rows := c.writeRows_yields hints false spec keeps d
    simpa only [if_neg several, List.length_map] using rows

end Compiler

end CrossSql
