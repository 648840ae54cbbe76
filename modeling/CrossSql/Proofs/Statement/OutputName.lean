import CrossSql.Proofs.NumberedName
import CrossSql.Proofs.Statement.RowNames

/-!
# The name of the output parameter

An insert that gives its result back in a parameter calls that parameter `Result`, whatever the
fields are called. A field that is called so too, in any case of letters, has the parameter for both
its value and the result.

## Main definitions

* `Draft.OutputApart`: an output parameter that is none of the others.
* `Insert.output_apart_iff`: when the result of an insert has a parameter of its own.
-/

namespace CrossSql

open Text

/-- In any case of letters, no parameter that is given back reads like one that is passed. -/
def Draft.OutputApart (d : Draft) : Prop :=
  ∀ m ∈ d.markers, m.origin = .output → ∀ m' ∈ d.markers, m'.origin ≠ .output →
    ¬ sameFold m.text m'.text

instance (d : Draft) : Decidable d.OutputApart :=
  inferInstanceAs (Decidable (∀ m ∈ d.markers, m.origin = .output → ∀ m' ∈ d.markers, _ → _))

/-- Parameters read alike if their columns lend them the same name. -/
theorem Setting.sameFold_marker {s : Setting} {a b : String} :
    sameFold (s.marker a 0) (s.marker b 0) ↔
      sameFold (Parameter.baseName s.quotes a) (Parameter.baseName s.quotes b) := by
  simp only [sameFold_iff, marker, Parameter.nameOf, lower_append]
  simp

theorem Draft.outputApart_of_markers {d : Draft} {cells outputs : List Marker}
    (markers : d.markers = cells ++ outputs) (passed : ∀ m ∈ cells, m.origin ≠ .output)
    (given : ∀ m ∈ outputs, m.origin = .output) :
    d.OutputApart ↔ ∀ m ∈ outputs, ∀ m' ∈ cells, ¬ sameFold m.text m'.text := by
  unfold OutputApart
  rw [markers]
  constructor
  · intro apart m hm m' hm'
    exact apart m (List.mem_append_right _ hm) (given m hm) m' (List.mem_append_left _ hm')
      (passed m' hm')
  · intro apart m hm output m' hm' other
    have hm := (List.mem_append.1 hm).resolve_left fun h => passed m h output
    have hm' := (List.mem_append.1 hm').resolve_right fun h => other (given m' h)
    exact apart m hm m' hm'

namespace Insert

variable {c : Compiler} {i : Insert} {d d' : Draft} {sql : String}

/-- The result of an insert that is written has a parameter of its own if no field that is inserted
lends its parameter the name of the result, and only then. -/
theorem outputApart_write_iff (oracle : c.dialect = .oracle) (fields : List Field) :
    (i.write c fields d.clear).OutputApart ↔
      (c.setting.output resultName).text = "" ∨
        ∀ f ∈ fields, ¬ sameFold (Parameter.baseName c.setting.quotes f.name)
          (Parameter.baseName c.setting.quotes resultName) := by
  have markers := i.markers_write c fields d
  have reads (f : Field) : sameFold (c.setting.output resultName).text (f.cell c.setting 0).text ↔
      sameFold (Parameter.baseName c.setting.quotes f.name)
        (Parameter.baseName c.setting.quotes resultName) := by
    rw [sameFold_comm]
    exact Setting.sameFold_marker
  obtain cells | ⟨none, blank⟩ := Fragment.markers_kept_cells c.setting fields
  · rw [cells] at markers
    rw [Draft.outputApart_of_markers markers (by simp [Field.cell, Setting.cell]) c.origin_returned,
      Compiler.returned, oracle]
    dsimp only
    split
    case isTrue none => simp [none]
    case isFalse some =>
      simp only [some, false_or, List.mem_singleton, forall_eq, List.forall_mem_map, reads]
  · -- No cell has a text, so none of them reads like an output parameter that has one.
    rw [none] at markers
    rw [Draft.outputApart_of_markers markers (by simp) c.origin_returned]
    refine ⟨fun _ => ?_, fun _ => by simp⟩
    refine (em _).imp_right fun some f hf same => some ?_
    have alike := sameFold_iff.1 ((reads f).2 same)
    rw [blank f hf] at alike
    simpa using congrArg String.toList alike

/-- The result of a compiled insert has a parameter of its own exactly if no field that is inserted
lends its parameter the name of the result, unless the result has no parameter at all. Fields with
plain names must not be called like the result, in any case of letters. -/
theorem result_apart_iff (h : c.compile (.insert i) d = (.ok sql, d'))
    (oracle : c.dialect = .oracle) :
    ∃ fields, insertable i.table i.fields i.identity = .ok fields ∧
      d'.fragments.toList = c.insertRow i.table fields i.hints 0 ++
        c.returnFragments (c.insertReturn i.primary i.identity) ++ c.rowEnd i.hints false ∧
      (d'.OutputApart ↔ (c.setting.output resultName).text = "" ∨
        ∀ f ∈ fields, ¬ sameFold (Parameter.baseName c.setting.quotes f.name)
          (Parameter.baseName c.setting.quotes resultName)) ∧
      (c.setting.quotes.Foreign → (∀ f ∈ i.fields, Parameter.IsPlain f.name) →
        (d'.OutputApart ↔ ∀ f ∈ fields, ¬ sameFold (trim f.name) resultName)) := by
  obtain ⟨planned, -⟩ := Compiler.compile_eq_ok_iff.1 h
  obtain ⟨-, -, planned⟩ := bind_eq_ok_iff.1 planned
  obtain ⟨fields, inserted, planned⟩ := bind_eq_ok_iff.1 planned
  obtain rfl := Except.ok.inj (Except.ok.inj planned)
  have apart := outputApart_write_iff (i := i) (d := d) oracle fields
  refine ⟨fields, inserted, i.toList_write c fields d, apart, fun foreign plain => ?_⟩
  have result : Parameter.baseName c.setting.quotes resultName = resultName :=
    Parameter.baseName_eq_trim foreign (by decide)
  have returned : (c.setting.output resultName).text ≠ "" := by
    simp only [Setting.text_output, Setting.marker, Parameter.nameOf, result]
    simp [resultName]
  rw [apart, or_iff_right returned, result]
  refine forall₂_congr fun f hf => ?_
  rw [Parameter.baseName_eq_trim foreign (plain f (mem_of_insertable inserted f hf))]

/-- The result is returned into `:Result`, and the field is bound to `:Name`. -/
theorem result_apart_name :
    let c : Compiler := ⟨.oracle, Dialect.oracle.setting⟩
    let i : Insert := ⟨"T", [.named "Name"], none, none, none⟩
    ∃ sql d', c.compile (.insert i) .empty = (.ok sql, d') ∧
      d'.markers.map Marker.text = [":Name", ":Result"] ∧ d'.OutputApart := by
  intro c i
  obtain ⟨sql, d', h⟩ : ∃ sql d', c.compile (.insert i) .empty = (.ok sql, d') :=
    Compiler.exists_of_isOk (by decide +kernel)
  obtain ⟨fields, inserted, -, -, apart⟩ := result_apart_iff h rfl
  obtain rfl : [Field.named "Name"] = fields := Except.ok.inj inserted
  refine ⟨sql, d', h, ?_, (apart (by decide +kernel) (by decide +kernel)).2 (by decide +kernel)⟩
  obtain rfl : (c.compile (.insert i) .empty).2 = d' := by rw [h]
  decide +kernel

/-- The field `Result` is bound to `:Result`, and the result is returned into it. -/
theorem result_shared_with_field :
    let c : Compiler := ⟨.oracle, Dialect.oracle.setting⟩
    let i : Insert := ⟨"T", [.named "Result"], none, none, none⟩
    ∃ sql d', c.compile (.insert i) .empty = (.ok sql, d') ∧
      d'.markers.map Marker.text = [":Result", ":Result"] ∧ ¬ d'.OutputApart := by
  intro c i
  obtain ⟨sql, d', h⟩ : ∃ sql d', c.compile (.insert i) .empty = (.ok sql, d') :=
    Compiler.exists_of_isOk (by decide +kernel)
  refine ⟨sql, d', h, ?_⟩
  obtain rfl : (c.compile (.insert i) .empty).2 = d' := by rw [h]
  decide +kernel

end Insert

end CrossSql
