import CrossSql.Proofs.Predicate.InLists
import CrossSql.Proofs.Statement.RepeatedRow
import CrossSql.Proofs.Statement.RowBatch
import Mathlib.Algebra.Group.Defs
import Mathlib.Algebra.BigOperators.Group.List.Basic

/-!
# What statements ask for

A statement asks for parameters, and for lists of some lengths. What a draft asks for is known
fragment by fragment, and adds up. Only cells, filters and the output of an insert ask for anything;
what stands around them is idle.

## Main definitions

* `Load`: how many parameters are bound, and how long the lists are.
* `Draft.loads`: what each statement of a draft asks for.
* `Idle`, `IsBody`: fragments that ask for nothing, and a statement before its end.
* `Draft.Holds`: a draft whose statements ask for some loads.
* `Frame.holds_of_write`: what a statement around a filter asks for.
-/

namespace CrossSql

/-- What a statement asks for. -/
@[ext] structure Load where
  /-- How many parameters are bound. -/
  parameters : Nat
  /-- How long the lists are. -/
  lists : List Nat
  deriving DecidableEq

namespace Load

instance : Zero Load := ⟨⟨0, []⟩⟩

instance : Add Load := ⟨fun l m => ⟨l.parameters + m.parameters, l.lists ++ m.lists⟩⟩

instance : AddMonoid Load where
  add_assoc l m n := Load.ext (Nat.add_assoc ..) (List.append_assoc ..)
  zero_add l := Load.ext (Nat.zero_add _) rfl
  add_zero l := Load.ext rfl (List.append_nil _)
  nsmul := nsmulRec

end Load

/-- What a fragment asks for. -/
def Fragment.load (f : Fragment) : Load := ⟨f.markers.length, f.lists.map List.length⟩

/-- What some fragments ask for together. -/
def Load.of (fs : List Fragment) : Load := (fs.map Fragment.load).sum

/-- What each of some statements asks for; a statement ends with its terminator. -/
def Load.each (fs : List Fragment) : List Load :=
  (fs.splitOn [.keyword .terminator]).map Load.of

/-- What each statement of a draft asks for. -/
def Draft.loads (d : Draft) : List Load := Load.each d.fragments.toList

namespace Fragment

variable {f : Fragment}

theorem load_of_markers (h : f.markers = []) : f.load = 0 := by
  rw [load, h, lists_of_markers h]
  rfl

/-- Without an opening, a fragment asks for its parameters only. -/
theorem load_of_quiet (h : f.Quiet) : f.load = ⟨f.markers.length, []⟩ := by
  rw [load, lists_eq_nil h]
  rfl

end Fragment

namespace Load

@[simp] theorem of_nil : of [] = 0 := rfl

@[simp] theorem of_append (fs gs : List Fragment) : of (fs ++ gs) = of fs + of gs := by
  simp [of]

theorem of_cons (f : Fragment) (fs : List Fragment) : of (f :: fs) = f.load + of fs := by
  simp [of]

theorem of_singleton (f : Fragment) : of [f] = f.load := by
  simp [of]

/-- A fragment is kept unless it has no text, and then it asks for nothing. -/
theorem of_kept {f : Fragment} (h : f.text = "" → f.load = 0) : of f.kept = f.load := by
  unfold Fragment.kept
  split
  case isTrue none => rw [h none, of_nil]
  case isFalse => exact of_singleton f

end Load

/-! ## Idle fragments -/

/-- The fragment neither ends a statement nor asks for anything. -/
def Fragment.Idle (f : Fragment) : Prop := .keyword .terminator ∉ f ∧ f.markers = []

/-- None of the fragments ends a statement or asks for anything. -/
def Idle (fs : List Fragment) : Prop := ∀ f ∈ fs, f.Idle

namespace Idle

@[simp] theorem nil : Idle [] := nofun

@[simp] theorem append_iff {fs gs : List Fragment} : Idle (fs ++ gs) ↔ Idle fs ∧ Idle gs :=
  List.forall_mem_append

@[simp] theorem cons_iff {f : Fragment} {fs : List Fragment} :
    Idle (f :: fs) ↔ f.Idle ∧ Idle fs :=
  List.forall_mem_cons

@[simp] theorem kept {f : Fragment} (h : f.Idle) : Idle f.kept :=
  fun _ hg => Fragment.mem_kept hg ▸ h

@[simp] theorem hintsAt (c : Compiler) (place : Placement) (hints : Option String) :
    Idle (c.hintsAt place hints) := by
  intro f hf
  obtain ⟨_, -, rfl⟩ := c.mem_hintsAt hf
  exact ⟨by simp, rfl⟩

end Idle

namespace Fragment

@[simp] theorem idle_keyword {k : Keyword} : Fragment.Idle [.keyword k] ↔ k ≠ .terminator := by
  simp [Fragment.Idle, Token.marker?, eq_comm]

@[simp] theorem idle_text (s : String) : Fragment.Idle [.text s] := ⟨by simp, rfl⟩

@[simp] theorem idle_label (quoted : String) : Fragment.Idle [.label quoted] := ⟨by simp, rfl⟩

theorem idle_join {α : Type} {item : α → Fragment} (h : ∀ x, (item x).Idle) (separator : String)
    (xs : List α) : Fragment.Idle (join separator (xs.map item)) := by
  refine ⟨keyword_notMem_join fun x => (h x).1, ?_⟩
  rw [markers_join, List.flatMap_map, List.flatMap_eq_nil_iff]
  exact fun x _ => (h x).2

end Fragment

/-! ## Statements before their ends -/

/-- A statement before its end: it asks for the load, and nothing in it ends a statement. -/
structure IsBody (l : Load) (fs : List Fragment) : Prop where
  unended : .keyword .terminator ∉ fs.flatten
  load : Load.of fs = l

namespace IsBody

variable {l m : Load} {fs gs : List Fragment}

theorem append (h : IsBody l fs) (h' : IsBody m gs) : IsBody (l + m) (fs ++ gs) := by
  refine ⟨?_, by rw [Load.of_append, h.load, h'.load]⟩
  rw [List.flatten_append, List.mem_append]
  exact not_or_intro h.unended h'.unended

theorem of_idle (h : Idle fs) : IsBody 0 fs := by
  refine ⟨fun ended => ?_, List.sum_eq_zero fun l hl => ?_⟩
  · obtain ⟨f, hf, ht⟩ := List.mem_flatten.1 ended
    exact (h f hf).1 ht
  · obtain ⟨f, hf, rfl⟩ := List.mem_map.1 hl
    exact Fragment.load_of_markers (h f hf).2

theorem append_idle (h : IsBody l fs) (h' : Idle gs) : IsBody l (fs ++ gs) := by
  have both := h.append (of_idle h')
  rwa [add_zero] at both

theorem idle_append (h' : Idle gs) (h : IsBody l fs) : IsBody l (gs ++ fs) := by
  have both := (of_idle h').append h
  rwa [zero_add] at both

/-- A fragment is kept unless it has no text. -/
theorem kept {f : Fragment} (unended : .keyword .terminator ∉ f) (load : f.load = l)
    (blank : f.text = "" → l = 0) : IsBody l f.kept :=
  ⟨Fragment.notMem_kept unended, by rw [Load.of_kept fun h => load.trans (blank h), load]⟩

end IsBody

/-! ### Batches -/

namespace Load

theorem each_nil : each [] = [0] := rfl

/-- Idle fragments make no difference to the statement that they are the beginning of. -/
theorem each_idle_append {fs : List Fragment} (h : Idle fs) (gs : List Fragment) :
    each (fs ++ gs) = each gs := by
  induction fs with
  | nil => rfl
  | cons f fs ih =>
    obtain ⟨first, rest⟩ := Idle.cons_iff.1 h
    have other : (f == [.keyword .terminator]) = false := by
      refine beq_eq_false_iff_ne.2 fun same => first.1 ?_
      rw [same]
      exact List.mem_singleton_self _
    have load : f.load = 0 := Fragment.load_of_markers first.2
    rw [← ih rest, each, each, List.cons_append, List.splitOn_cons_eq_if_modifyHead, other]
    cases (fs ++ gs).splitOn [.keyword .terminator] with
    | nil => rfl
    | cons part parts => simp [of_cons, load]

variable {l : Load} {loads : List Load} {body : List Fragment} {bodies : List (List Fragment)}

theorem each_body (h : IsBody l body) : each body = [l] := by
  have unended : [.keyword .terminator] ∉ body := fun ended =>
    h.unended (List.mem_flatten.2 ⟨_, ended, List.mem_singleton_self _⟩)
  rw [each, List.splitOn_eq_singleton unended, List.map_singleton, h.load]

/-- A statement ends with its terminator. -/
theorem each_ended (h : IsBody l body) (gs : List Fragment) :
    each (body ++ [.keyword .terminator] :: gs) = l :: each gs := by
  have unended : [.keyword .terminator] ∉ body := fun ended =>
    h.unended (List.mem_flatten.2 ⟨_, ended, List.mem_singleton_self _⟩)
  rw [each, List.splitOn_append_cons_self_of_not_mem unended, List.map_cons, h.load, each]

theorem each_flatMap {fs : List Fragment} (idle : Idle fs) (h : List.Forall₂ IsBody loads bodies)
    (gs : List Fragment) :
    each (bodies.flatMap (· ++ (fs ++ [[.keyword .terminator]])) ++ gs) = loads ++ each gs := by
  induction h with
  | nil => rfl
  | @cons l body loads bodies first _ ih =>
    have ended := each_ended (first.append_idle idle)
    rw [List.flatMap_cons, List.cons_append, ← ih, ← ended]
    simp only [List.append_assoc, List.cons_append, List.nil_append]

end Load

/-- A batch asks for what its statements ask for, and for nothing in its delimiters. -/
theorem Compiler.each_batch (c : Compiler) {hints : Option String} {loads : List Load}
    {bodies : List (List Fragment)} (h : List.Forall₂ IsBody loads bodies) :
    ∃ k, Load.each (c.batch hints bodies) = loads ++ List.replicate k 0 := by
  have idle := Idle.hintsAt c .statementEnd hints
  have begins : Idle c.batchBegin := by
    unfold batchBegin
    cases c.dialect <;> simp
  have ends : ∃ k, Load.each c.batchEnd = List.replicate k 0 := by
    unfold batchEnd
    cases c.dialect with
    | oracle =>
      have ending : IsBody 0 [[.text "END"]] := .of_idle (by simp)
      exact ⟨2, Load.each_ended ending []⟩
    | _ => exact ⟨1, rfl⟩
  unfold batch rowEnd terminator
  split
  case isTrue several =>
    obtain ⟨k, ends⟩ := ends
    refine ⟨k, ?_⟩
    rw [List.append_assoc, Load.each_idle_append begins, if_pos rfl, Load.each_flatMap idle h, ends]
  case isFalse one =>
    cases h with
    | nil => exact ⟨1, rfl⟩
    | @cons l body loads bodies first rest =>
      cases rest with
      | cons => simp at one
      | nil =>
        cases c.dialect with
        | oracle => exact ⟨0, by simpa using Load.each_body (first.append_idle idle)⟩
        | _ =>
          exact ⟨1, by simpa [Load.each_nil] using Load.each_ended (first.append_idle idle) []⟩

/-- The draft holds statements that ask for the loads. -/
def Draft.Holds (c : Compiler) (loads : List Load) (d : Draft) : Prop :=
  ∃ hints bodies, List.Forall₂ IsBody loads bodies ∧
    d.fragments.toList = c.batch hints bodies

namespace Draft.Holds

variable {c : Compiler} {d : Draft}

theorem single {l m : Load} {body : List Fragment} (h : IsBody l body) (same : m = l)
    (hints : Option String) (fragments : d.fragments.toList = body ++ c.rowEnd hints false) :
    d.Holds c [m] := by
  refine ⟨hints, [body], .cons (same ▸ h) .nil, ?_⟩
  rw [fragments, c.batch_singleton]

/-- Besides its statements, a draft holds nothing that asks for anything. -/
theorem loads_eq {loads : List Load} (h : d.Holds c loads) :
    ∃ k, d.loads = loads ++ List.replicate k 0 := by
  obtain ⟨hints, bodies, h, fragments⟩ := h
  rw [Draft.loads, fragments]
  exact c.each_batch h

end Draft.Holds

/-! ### Cells -/

/-- The fragment asks for one parameter. -/
structure Fragment.IsCell (f : Fragment) : Prop where
  one : f.markers.length = 1
  quiet : f.Quiet
  unended : .keyword .terminator ∉ f

namespace Fragment

theorem isCell_marker (m : Marker) : IsCell [.marker m] := ⟨rfl, by simp, by simp⟩

theorem isCell_assignment (s : Setting) (row : Nat) (f : Field) :
    IsCell (Draft.assignment s row f) := by
  have equal : (Token.text " = ").opensList = false := by decide
  exact ⟨rfl, by simp [Draft.assignment, equal], by simp [Draft.assignment]⟩

theorem isCell_namedCell (s : Setting) (row : Nat) (f : Field) :
    IsCell (Draft.namedCell s row f) := by
  have space : (Token.text " ").opensList = false := by decide
  exact ⟨rfl, by simp [Draft.namedCell, space], by simp [Draft.namedCell]⟩

variable {α : Type} {item : α → Fragment} (cell : ∀ x, (item x).IsCell)
include cell

theorem quiet_join {separator : String} (h : (Token.text separator).opensList = false)
    (xs : List α) : Quiet (join separator (xs.map item)) := by
  intro t ht
  obtain rfl | ⟨f, hf, ht⟩ := mem_of_mem_joinFrom ht
  · exact h
  · obtain ⟨x, -, rfl⟩ := List.mem_map.1 hf
    exact (cell x).quiet t ht

/-- Joined cells have as many parameters. -/
theorem length_markers_join (separator : String) (xs : List α) :
    (join separator (xs.map item)).markers.length = xs.length := by
  have one (x : α) : (item x).markers.length = 1 := (cell x).one
  rw [markers_join, List.flatMap_map, List.length_flatMap]
  simp [one]

/-- A list of cells with texts. -/
theorem isBody_cells {xs : List α} (written : ∀ x ∈ xs, (item x).text ≠ "") :
    IsBody ⟨xs.length, []⟩ (kept (commaList (xs.map item))) := by
  have comma : (Token.text ", ").opensList = false := by decide
  have load : (commaList (xs.map item)).load = ⟨xs.length, []⟩ := by
    rw [commaList, load_of_quiet (quiet_join cell comma xs), length_markers_join cell]
  refine .kept (keyword_notMem_join fun x => (cell x).unended) load fun blank => ?_
  rw [eq_nil_of_text_join written blank]
  rfl

end Fragment

/-! ## Statements with a filter -/

/-- What a filter asks for: a parameter for every operand, and the lists of its comparisons. -/
def Predicate.load (p : Predicate) : Load :=
  ⟨(p.comparisons.flatMap Comparison.operands).length,
    p.comparisons.filterMap Comparison.listLength?⟩

/-- An absent filter asks for nothing. -/
def filterLoad : Option Predicate → Load
  | none => 0
  | some p => p.load

namespace Predicate

theorem load_of_isEmpty {p : Predicate} (h : p.isEmpty) : p.load = 0 := by
  rw [load, (isEmpty_iff p).1 h]
  rfl

variable {p : Predicate} {sc : Scope} {s : Setting} {f : Fragment}

theorem load_tokens (h : p.tokens sc s = .ok f) : f.load = p.load := by
  obtain ⟨cs, -, markers⟩ := tokens_ok h
  have values := congrArg List.length (values_parameters h)
  rw [Fragment.parameters_of_markers markers, List.length_map] at values
  rw [Fragment.load, load, lists_tokens h, markers, List.length_map, values]

theorem keyword_notMem_fill (sc : Scope) (mark : String) (k : Keyword) (names : Names)
    (ps : List Piece) : .keyword k ∉ names.fill sc mark ps := by
  induction ps generalizing names with
  | nil => nofun
  | cons p ps ih =>
    cases p with
    | text s => simpa [Names.fill] using ih names
    | clause cl =>
      have own : Token.keyword k ∉ cl.tokens mark (names.bind sc cl).1 := by
        intro h
        rcases List.mem_cons.1 h with h | h
        · cases h
        · rcases List.mem_append.1 h with h | h
          · obtain h | h := Text.eq_of_mem_intersperse h
            · cases h
            · obtain ⟨_, -, h⟩ := List.mem_map.1 h
              cases h
          · cases List.mem_singleton.1 h
      rw [Names.fill, List.mem_append]
      exact not_or_intro own (ih _)

/-- A rendered predicate consists of texts and parameters. -/
theorem keyword_notMem_tokens (h : p.tokens sc s = .ok f) (k : Keyword) : .keyword k ∉ f := by
  obtain ⟨ps, -, rfl⟩ := map_eq_ok_iff.1 h
  exact keyword_notMem_fill sc _ k _ ps

theorem isBody_condition (h : p.tokens sc s = .ok f) : IsBody p.load (condition f) := by
  refine ⟨?_, ?_⟩
  · simpa [condition, whereWord] using keyword_notMem_tokens h _
  · have word : whereWord.load = 0 := Fragment.load_of_markers rfl
    rw [condition, Load.of_cons, Load.of_singleton, word, zero_add, load_tokens h]

end Predicate

/-- The operation adds the same idle fragments to every draft. -/
def AppendsIdle (op : Draft → Draft) : Prop := ∃ fs, Idle fs ∧ ∀ d : Draft, op d = d.append fs

namespace AppendsIdle

theorem id : AppendsIdle fun d => d := ⟨[], .nil, by simp⟩

theorem comp {op op' : Draft → Draft} (h' : AppendsIdle op') (h : AppendsIdle op) :
    AppendsIdle fun d => op' (op d) := by
  obtain ⟨fs, idle, hf⟩ := h
  obtain ⟨gs, idle', hg⟩ := h'
  exact ⟨fs ++ gs, Idle.append_iff.2 ⟨idle, idle'⟩, fun d => by
    simp only [hf, hg, Draft.append_append]⟩

theorem add {f : Fragment} (h : f.Idle) : AppendsIdle (·.add f) := ⟨_, .kept h, fun d => d.add_eq f⟩

theorem orderBy (order : List OrderField) (s : Setting) : AppendsIdle (·.orderBy order s) := by
  unfold Draft.orderBy
  split
  · exact id
  · refine (add (Fragment.idle_join (fun o => ?_) ", " order)).comp (add (Fragment.idle_text _))
    exact ⟨by simp [OrderField.tokens], rfl⟩

variable (c : Compiler)

theorem writeRowLimit (top : Nat) : AppendsIdle (c.writeRowLimit top) := by
  unfold Compiler.writeRowLimit
  cases c.dialect <;> exact add (Fragment.idle_text _)

theorem writeSingleRowLimit : AppendsIdle c.writeSingleRowLimit := by
  unfold Compiler.writeSingleRowLimit
  cases c.dialect with
  | oracle => exact add (Fragment.idle_text _)
  | _ => exact writeRowLimit c 1

theorem writePaging (skip take : Nat) : AppendsIdle (c.writePaging skip take) := by
  unfold Compiler.writePaging
  split
  · exact writeRowLimit c take
  · cases c.dialect <;> exact add (Fragment.idle_text _)

end AppendsIdle

/-- A statement around a filter asks for what its beginning and its filter ask for. -/
theorem Frame.holds_of_write {c : Compiler} {fr : Frame} {s : Setting} {l : Load}
    {hints : Option String} {op : Draft → Draft} {d : Draft} (before : IsBody l fr.before)
    (hop : AppendsIdle op) (h : fr.write s (fun d => c.finish hints (op d)) = .ok d) :
    d.Holds c [l + filterLoad fr.filter] := by
  obtain ⟨filtered, hf, finished⟩ := bind_eq_ok_iff.1 h
  obtain ⟨fs, idle, append⟩ := hop
  have written : c.finish hints (op filtered) = d := Except.ok.inj finished
  rw [append, c.finish_eq, Draft.append_append] at written
  obtain rfl := written
  obtain ⟨empty, rfl⟩ | ⟨p, f, filter, -, rendered, rfl⟩ := Draft.filtered_ok hf
  · have none : filterLoad fr.filter = 0 := by
      cases filter : fr.filter with
      | none => rfl
      | some p => exact p.load_of_isEmpty (empty p filter)
    refine .single (before.append_idle idle) ?_ hints ?_
    · rw [none, add_zero]
    · rw [Draft.append_append, Draft.toList_append, List.append_assoc]
      rfl
  · refine .single ((before.append (Predicate.isBody_condition rendered)).append_idle idle) ?_
      hints ?_
    · rw [filter, filterLoad]
    · simp only [Draft.append_append, Draft.toList_append, List.append_assoc]
      rfl

end CrossSql
