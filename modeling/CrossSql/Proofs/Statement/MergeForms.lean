import CrossSql.Proofs.Statement.UpsertColumns

/-!
# The two forms of a merge

A dialect with a native upsert writes a merge in one form, any other dialect in another. Which form
it is depends on the setting alone, and the same requests are accepted in both. If no identity is
given, the forms have the same lists of columns and the same parameters, so it makes no difference
to the rows which one is written.

## Main definitions

* `Compiler.withUpsert`: the compiler with a native upsert, or without.
* `Merge.sourceForm`, `Merge.mergeForm`: a merge from a source of rows, with its lists of columns.
* `Merge.forms_agree`: what is compiled from one merge in both forms.
-/

namespace CrossSql

/-- The compiler whose dialect has a native upsert, or has none. -/
def Compiler.withUpsert (c : Compiler) (native : Bool) : Compiler :=
  { c with setting := { c.setting with nativeUpsert := native } }

namespace Merge

variable {c : Compiler} {m : Merge} {r : Roles}

/-! ## The form with a source of rows -/

/-- The rows that are merged, one behind the other: every cell under the name of its column. -/
def sourceForm (c : Compiler) (m : Merge) : List Fragment :=
  [[Token.keyword .unionAll]].intercalate ((List.range m.rows).map fun row =>
    [[.keyword .select],
      Fragment.commaList (m.fields.map fun f =>
        [.marker (f.cell c.setting row), .text " ", .label (f.column c.setting)])] ++
    match c.dialect with
    | .oracle => [[.keyword .fromTable], [.text (c.setting.quotes.column "DUAL")]]
    | _ => [])

/-- A merge from a source of rows: on what the rows agree, what is updated where they do, and what
is inserted where they do not. -/
def mergeForm (c : Compiler) (m : Merge) (r : Roles) : List Fragment :=
  let s := c.setting
  let target := s.quotes.table m.table
  let source := s.quotes.column sourceAlias
  m.leadFragments c ++ m.sourceForm c ++
    [[.keyword .closeParen], [.text source], [.keyword .on], [.keyword .openParen],
      Fragment.join " AND " (r.qualifiers.map fun f =>
        [.member target (f.column s), .text " = ", .member source (f.column s)]),
      [.keyword .closeParen]] ++
    (if r.updatable.isEmpty then []
      else
        [[.keyword .when], [.keyword .matched], [.keyword .then], [.keyword .update],
          [.keyword .set],
          Fragment.commaList (r.updatable.map fun f =>
            [.member target (f.column s), .text " = ", .member source (f.column s)])]) ++
    [[.keyword .when], [.keyword .not], [.keyword .matched], [.keyword .then], [.keyword .insert],
      [.keyword .openParen], columnList s r.insertable, [.keyword .closeParen], [.keyword .values],
      [.keyword .openParen],
      Fragment.commaList (r.insertable.map fun f => [.member source (f.column s)]),
      [.keyword .closeParen]] ++
    c.rowEnd m.hints false

theorem sourceRows_eq (c : Compiler) (m : Merge) (some : m.fields ≠ []) :
    sourceRows c m.fields 0 m.rows = m.sourceForm c := by
  have cells (row : Nat) :
      (Fragment.commaList (m.fields.map (Draft.namedCell c.setting row))).kept =
        [Fragment.commaList (m.fields.map (Draft.namedCell c.setting row))] :=
    kept_join some fun f _ => by simp [Draft.namedCell, Token.written]
  have dual := Fragment.kept_eq (f := [.text (c.setting.quotes.column "DUAL")]) (by
    simpa [Token.written] using c.setting.quotes.column_ne_empty (by decide +kernel))
  have each (row : Nat) : sourceRow c m.fields row =
      [[.keyword .select],
        Fragment.commaList (m.fields.map fun f =>
          [.marker (f.cell c.setting row), .text " ", .label (f.column c.setting)])] ++
      match c.dialect with
      | .oracle => [[.keyword .fromTable], [.text (c.setting.quotes.column "DUAL")]]
      | _ => [] := by
    rw [sourceRow, cells, dual]
    rfl
  rw [sourceRows, sourceForm, List.range_eq_range']
  exact congrArg _ (List.map_congr_left fun row _ => each row)

section Lists

variable (s : Setting) (target source : String) {fields : List Field}

theorem text_memberPair_ne (f : Field) : (Draft.memberPair target source s f).text ≠ "" := by
  simp [Draft.memberPair, Token.written]

/-- The condition on which the rows agree is kept if there is a field to compare. -/
theorem kept_agreement (some : fields ≠ []) :
    (Fragment.join " AND " (fields.map (Draft.memberPair target source s))).kept =
      [Fragment.join " AND " (fields.map (Draft.memberPair target source s))] :=
  kept_join some fun f _ => text_memberPair_ne s target source f

theorem kept_members (some : fields ≠ []) :
    (Fragment.commaList (fields.map fun f => [.member source (f.column s)])).kept =
      [Fragment.commaList (fields.map fun f => [.member source (f.column s)])] :=
  kept_join some fun f _ => by simp [Token.written]

theorem updateFragments_eq (c : Compiler) (fields : List Field) :
    updateFragments c fields target source =
      if fields.isEmpty then []
      else [[.keyword .when], [.keyword .matched], [.keyword .then], [.keyword .update],
        [.keyword .set],
        Fragment.commaList (fields.map (Draft.memberPair target source c.setting))] := by
  unfold updateFragments
  split
  case isTrue => rfl
  case isFalse some =>
    rw [Fragment.commaList, kept_join (mt List.isEmpty_iff.2 some) fun f _ =>
      text_memberPair_ne c.setting target source f]
    rfl

end Lists

theorem toList_write_emulated (emulated : c.setting.nativeUpsert = false) (accepted : m.Accepted)
    (assigned : m.roles = .ok r) (d : Draft) :
    (m.write c r d.clear).fragments.toList = m.mergeForm c r := by
  obtain ⟨-, given, some⟩ := roles_ok assigned
  have written := (mem_fields_of_roles assigned).2
  have columns := kept_columnList c.setting some fun f hf =>
    accepted.named f (written f (List.mem_append_right _ hf))
  have source := Fragment.kept_eq (f := [.text (c.setting.quotes.column sourceAlias)]) (by
    simpa [Token.written] using c.setting.quotes.column_ne_empty (by decide +kernel))
  obtain ⟨f, hf⟩ := List.exists_mem_of_ne_nil _ some
  have rows := m.sourceRows_eq c (List.ne_nil_of_mem (written f (List.mem_append_right _ hf)))
  rw [toList_write emulated accepted.rows, mergeEnd, mergeForm, insertFragments, updateFragments_eq,
    source, kept_agreement _ _ _ given, kept_members _ _ some, ← columnList, columns, rows]
  simp only [List.append_assoc, List.cons_append, List.nil_append]
  rfl

/-! ## Both forms -/

/-- What a merge is used for, if no guard refuses it. -/
def accept (c : Compiler) (m : Merge) : Except Error Roles := do
  m.check c
  m.roles

/-- The guards do not look at the form. -/
theorem plan_withUpsert (c : Compiler) (m : Merge) (d : Draft) (native : Bool) :
    m.plan (c.withUpsert native) d =
      (m.accept c).map fun r => .ok (m.write (c.withUpsert native) r d.clear) := by
  have guards : m.check (c.withUpsert native) = m.check c := rfl
  rw [plan, guards, accept]
  cases m.check c with
  | error e => rfl
  | ok done => cases m.roles <;> rfl

/-- Without an identity, every field is inserted, and updated unless it is a qualifier. -/
theorem roles_of_no_identity (none : m.identity = none) (assigned : m.roles = .ok r) :
    m.inserted = m.fields ∧ r = ⟨m.target, m.updated, m.fields⟩ := by
  have other (f : Field) : f.isColumn m.identity = false := by rw [none]; rfl
  obtain ⟨rfl, -⟩ := roles_ok assigned
  simp [updated, inserted, other]

/-- A merge is refused in both forms with one error, or it is written in both. Without an identity,
both have the same lists: they insert all fields in order, find rows by the same qualifiers, and
update the same fields in order, if there are any. Both have the same parameters in every row. -/
theorem forms_agree (c : Compiler) (m : Merge) (d : Draft) :
    (∃ e, (c.withUpsert true).compile (.merge m) d = (.error e, d) ∧
      (c.withUpsert false).compile (.merge m) d = (.error e, d)) ∨
    ∃ sql d₁ sql' d₂, (c.withUpsert true).compile (.merge m) d = (.ok sql, d₁) ∧
      (c.withUpsert false).compile (.merge m) d = (.ok sql', d₂) ∧
      (m.identity = none →
        d₁.fragments.toList =
          m.upsertForm (c.withUpsert true) ⟨m.target, m.updated, m.fields⟩ ∧
        d₂.fragments.toList =
          m.mergeForm (c.withUpsert false) ⟨m.target, m.updated, m.fields⟩ ∧
        d₁.markers = cellsOf c.setting m.fields m.rows ∧
        d₂.markers = cellsOf c.setting m.fields m.rows) := by
  have plans := m.plan_withUpsert c d
  cases accepts : m.accept c with
  | error e =>
    have refused (native : Bool) :
        (c.withUpsert native).compile (.merge m) d = (.error e, d) := by
      refine Compiler.compile_eq_error_iff.2 (.inl ⟨?_, rfl⟩)
      exact (plans native).trans (by rw [accepts]; rfl)
    exact .inl ⟨e, refused true, refused false⟩
  | ok r =>
    have written (native : Bool) : (c.withUpsert native).compile (.merge m) d =
        (.ok (m.write (c.withUpsert native) r d.clear).text,
          m.write (c.withUpsert native) r d.clear) := by
      refine Compiler.compile_eq_ok_iff.2 ⟨?_, rfl⟩
      exact (plans native).trans (by rw [accepts]; rfl)
    obtain ⟨_, checked, assigned⟩ := bind_eq_ok_iff.1 accepts
    have accepted := accepted_of_plan checked assigned
    have native := toList_write_native (c := c.withUpsert true) rfl accepted assigned d
    have emulated := toList_write_emulated (c := c.withUpsert false) rfl accepted assigned d
    refine .inr ⟨_, _, _, _, written true, written false, fun none => ?_⟩
    obtain ⟨inserted, same⟩ := roles_of_no_identity none assigned
    have upserted := (upserted_eq assigned).trans inserted
    rw [inserted] at native
    refine ⟨native, emulated.trans (by rw [← same]), ?_, ?_⟩
    · rw [markers_write _ d m r accepted.rows]
      exact congrArg (cellsOf c.setting · m.rows) upserted
    · rw [markers_write _ d m r accepted.rows]
      rfl

/-- Two rows of two fields, of which the second one is updated. -/
theorem forms_agree_two_rows :
    let c : Compiler := ⟨.oracle, Dialect.oracle.setting⟩
    let m : Merge := ⟨"T", [.named "Id", .named "Name"], [.named "Id"], 2, none, none, none⟩
    let roles : Roles := ⟨[.named "Id"], [.named "Name"], m.fields⟩
    ∃ sql d₁ sql' d₂, (c.withUpsert true).compile (.merge m) .empty = (.ok sql, d₁) ∧
      (c.withUpsert false).compile (.merge m) .empty = (.ok sql', d₂) ∧
      d₁.fragments.toList = m.upsertForm (c.withUpsert true) roles ∧
      d₂.fragments.toList = m.mergeForm (c.withUpsert false) roles ∧
      d₁.markers.map Marker.name = ["Id", "Name", "Id_1", "Name_1"] ∧
      d₂.markers.map Marker.name = ["Id", "Name", "Id_1", "Name_1"] := by
  intro c m roles
  have names : (cellsOf c.setting m.fields m.rows).map Marker.name =
      ["Id", "Name", "Id_1", "Name_1"] := by decide +kernel
  have updated : m.updated = [.named "Name"] := by decide +kernel
  obtain ⟨e, refused, -⟩ | ⟨sql, d₁, sql', d₂, native, emulated, agree⟩ := forms_agree c m .empty
  · have accepted : ((c.withUpsert true).compile (.merge m) .empty).1.isOk := by decide +kernel
    rw [refused] at accepted
    cases accepted
  · obtain ⟨upsert, merge, markers, markers'⟩ := agree rfl
    rw [updated] at upsert merge
    refine ⟨sql, d₁, sql', d₂, native, emulated, upsert, merge, ?_, ?_⟩
    · rw [markers, names]
    · rw [markers', names]

end Merge

end CrossSql
