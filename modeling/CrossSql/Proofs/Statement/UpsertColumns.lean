import CrossSql.Proofs.Quoting
import CrossSql.Proofs.Statement.MergeSource
import CrossSql.Proofs.Statement.RowBatch
import CrossSql.Proofs.Text.Letters

/-!
# The columns of an upsert

An upsert has three lists of columns: those that it inserts, those on which it finds a conflict, and
those that it updates then. All of them are cut out of the fields by comparing names without regard
to case, with the qualifiers and with the identity. A qualifier is inserted also when it is the
identity, and what is inserted is either a qualifier or updated.

## Main definitions

* `hasField_filter`: names in a part of the fields.
* `Merge.target`, `Merge.inserted`, `Merge.updated`: the three lists.
* `Merge.upsertForm`: an upsert with its lists of columns.
* `Merge.upsert_columns`: what a compiled upsert does with every column.
-/

namespace CrossSql

open Text

/-! ## Names with a text -/

namespace Quotes

variable (q : Quotes)

/-- The column of a name has a text. -/
theorem column_ne_empty {name : String} (h : Text.isBlankText name = false) :
    q.column name ≠ "" := by
  intro none
  rw [← String.toList_inj, column, toList_quote] at none
  have word : q.quoteWord (trimChars (trimChars name.toList)) = [] := none
  obtain ⟨front, back, quoted, -⟩ := q.exists_quoteWord_eq (trimChars (trimChars name.toList))
  rw [quoted, trimChars_trimChars] at word
  simp_all [isBlankText]

end Quotes

/-! ## Names in lists of fields -/

theorem hasField_iff {fields : List Field} {name : String} :
    hasField fields name ↔ ∃ f ∈ fields, lower f.name = lower name := by
  simp [hasField, Field.matches]

theorem hasField_congr {a b : String} (h : lower a = lower b) (fields : List Field) :
    hasField fields a = hasField fields b := by
  simp [hasField, Field.matches, sameFold, h]

theorem Field.isColumn_congr {f g : Field} (h : lower f.name = lower g.name)
    (column : Option Column) : f.isColumn column = g.isColumn column := by
  simp [Field.isColumn, Field.matches, sameFold, h]

/-- A part of the fields that is chosen by name has the name of a field if the field is chosen. -/
theorem hasField_filter {p : Field → Bool}
    (byName : ∀ f g : Field, lower f.name = lower g.name → p f = p g) {fields : List Field}
    {f : Field} (hf : f ∈ fields) : hasField (fields.filter p) f.name = p f := by
  rw [Bool.eq_iff_iff, hasField_iff]
  constructor
  · rintro ⟨g, hg, same⟩
    rw [← byName g f same]
    exact (List.mem_filter.1 hg).2
  · intro chosen
    exact ⟨f, List.mem_filter.2 ⟨hf, chosen⟩, rfl⟩

/-! ## What the guards let pass -/

namespace Guard

variable {fields : List Field} {done : Unit}

theorem hasField_of_qualifiers {qs : List Field} (h : qualifiers qs fields = .ok done) :
    ∀ q ∈ qs, hasField fields q.name := by
  have none : absent (qs.map Field.name) fields = [] := by simpa [qualifiers] using h
  intro q hq
  have present := List.filter_eq_nil_iff.1 none q.name (List.mem_map_of_mem hq)
  simpa using present

theorem hasField_of_role {r : Role} {column : Option Column} (h : role r column fields = .ok done) :
    ∀ c, column = some c → hasField fields c.name := by
  rintro c rfl
  obtain ⟨-, -, present⟩ := bind_eq_ok_iff.1 h
  simpa using present

theorem named_of_fields {table : String} (h : Guard.fields table fields = .ok done) :
    ∀ f ∈ fields, f.isBlank = false := by
  obtain ⟨-, -, named⟩ := bind_eq_ok_iff.1 h
  simpa [fieldNames] using named

end Guard

namespace Merge

variable {m : Merge} {r : Roles}

/-! ## The three lists -/

/-- The qualifiers that were given, or else the primary. -/
def target (m : Merge) : List Field :=
  if m.qualifiers.isEmpty then (m.primary.map Column.field).toList else m.qualifiers

/-- The fields that are not the identity, and the qualifiers. -/
def inserted (m : Merge) : List Field :=
  m.fields.filter fun f => !f.isColumn m.identity || hasField m.target f.name

/-- The fields that are inserted and are not qualifiers. -/
def updated (m : Merge) : List Field := m.inserted.filter (!hasField m.target ·.name)

/-- What is known of a merge that is written. -/
structure Accepted (m : Merge) : Prop where
  rows : 0 < m.rows
  /-- Every field has a name. -/
  named : ∀ f ∈ m.fields, f.isBlank = false
  target_ne_nil : m.target ≠ []
  /-- The qualifiers are among the fields. -/
  target : ∀ q ∈ m.target, hasField m.fields q.name
  /-- And so is the identity. -/
  identity : ∀ i, m.identity = some i → hasField m.fields i.name
  inserted_ne_nil : m.inserted ≠ []

theorem effectiveQualifiers_ok {qualifiers : List Field}
    (h : m.effectiveQualifiers = .ok qualifiers) : qualifiers = m.target ∧ qualifiers ≠ [] := by
  unfold effectiveQualifiers at h
  unfold target
  split at h
  case isTrue none =>
    split at h
    next p primary =>
      rw [if_pos none, primary, ← Except.ok.inj h]
      exact ⟨rfl, List.cons_ne_nil _ _⟩
    next => cases h
  case isFalse some =>
    obtain ⟨-, -, h⟩ := bind_eq_ok_iff.1 h
    rw [if_neg some, ← Except.ok.inj h]
    exact ⟨rfl, by simpa using some⟩

theorem hasField_target {qualifiers : List Field} (found : m.effectiveQualifiers = .ok qualifiers)
    (primary : ∀ p, m.primary = some p → hasField m.fields p.name) :
    ∀ q ∈ m.target, hasField m.fields q.name := by
  intro q hq
  unfold effectiveQualifiers at found
  unfold target at hq
  split at hq
  case isTrue none =>
    obtain ⟨p, hp, rfl⟩ : ∃ p, m.primary = some p ∧ p.field = q := by simpa using hq
    exact primary p hp
  case isFalse some =>
    rw [if_neg some] at found
    obtain ⟨_, present, -⟩ := bind_eq_ok_iff.1 found
    exact Guard.hasField_of_qualifiers present q hq

theorem roles_ok (h : m.roles = .ok r) :
    r = ⟨m.target, m.fields.filter (!hasField m.target ·.name),
      m.fields.filter (!·.isColumn m.identity)⟩ ∧ r.qualifiers ≠ [] ∧ r.insertable ≠ [] := by
  obtain ⟨qualifiers, hq, h⟩ := bind_eq_ok_iff.1 h
  obtain ⟨fields, hi, h⟩ := bind_eq_ok_iff.1 h
  obtain ⟨_, some, hi⟩ := bind_eq_ok_iff.1 hi
  obtain ⟨rfl, given⟩ := effectiveQualifiers_ok hq
  obtain rfl := Except.ok.inj hi
  obtain rfl := Except.ok.inj h
  exact ⟨rfl, given, by simpa using some⟩

theorem accepted_of_plan {c : Compiler} (checked : m.check c = .ok ())
    (assigned : m.roles = .ok r) : m.Accepted := by
  obtain ⟨-, -, checked⟩ := bind_eq_ok_iff.1 checked
  obtain ⟨_, primary, checked⟩ := bind_eq_ok_iff.1 checked
  obtain ⟨_, identity, checked⟩ := bind_eq_ok_iff.1 checked
  obtain ⟨_, rows, named⟩ := bind_eq_ok_iff.1 checked
  obtain ⟨rfl, given, some⟩ := roles_ok assigned
  refine ⟨Guard.pos_of_noBatch rows, Guard.named_of_fields named, given,
    hasField_target (mem_fields_of_roles assigned).1 (Guard.hasField_of_role primary),
    Guard.hasField_of_role identity, ?_⟩
  obtain ⟨f, hf⟩ := List.exists_mem_of_ne_nil _ some
  obtain ⟨hf, other⟩ := List.mem_filter.1 hf
  exact List.ne_nil_of_mem (List.mem_filter.2 ⟨hf, Bool.or_eq_true_iff.2 (.inl other)⟩)

/-! ## The lists are those of the roles -/

theorem inserted_byName (f g : Field) (h : lower f.name = lower g.name) :
    (!f.isColumn m.identity || hasField m.target f.name) =
      (!g.isColumn m.identity || hasField m.target g.name) := by
  rw [Field.isColumn_congr h, hasField_congr h]

/-- A field is inserted under its name if it is not the identity or if it is a qualifier. -/
theorem hasField_inserted {f : Field} (hf : f ∈ m.fields) :
    hasField m.inserted f.name = (!f.isColumn m.identity || hasField m.target f.name) :=
  hasField_filter inserted_byName hf

theorem upserted_eq (assigned : m.roles = .ok r) : m.upserted r = m.inserted := by
  obtain ⟨rfl, -⟩ := roles_ok assigned
  refine List.filter_congr fun f hf => ?_
  have others := hasField_filter
    (fun f g h => congrArg (!·) (Field.isColumn_congr h m.identity)) hf
  simp only [others]

theorem updatable_eq (assigned : m.roles = .ok r) :
    r.updatable.filter (hasField (m.upserted r) ·.name) = m.updated := by
  rw [upserted_eq assigned]
  obtain ⟨rfl, -⟩ := roles_ok assigned
  have cut : m.updated = m.fields.filter fun f =>
      !hasField m.target f.name && (!f.isColumn m.identity || hasField m.target f.name) :=
    List.filter_filter
  rw [cut, List.filter_filter]
  refine List.filter_congr fun f hf => ?_
  rw [hasField_inserted hf, Bool.and_comm]

/-! ## Upserts -/

/-- A list with an item is kept if every item has a text. -/
theorem kept_join {α : Type} {separator : String} {item : α → Fragment} {xs : List α}
    (some : xs ≠ []) (hx : ∀ x ∈ xs, (item x).text ≠ "") :
    (Fragment.join separator (xs.map item)).kept = [Fragment.join separator (xs.map item)] :=
  Fragment.kept_eq fun none => some (Fragment.eq_nil_of_text_join hx none)

/-- The columns of some fields in a list. -/
def columnList (s : Setting) (fields : List Field) : Fragment :=
  .commaList (fields.map fun f => [.column (f.column s)])

/-- An upsert of the tuples of all rows: what it inserts, on what it finds a conflict, and what it
updates then. -/
def upsertForm (c : Compiler) (m : Merge) (r : Roles) : List Fragment :=
  let s := c.setting
  [[.keyword .insert]] ++ c.hintsAt .afterKeyword m.hints ++ [[.keyword .intoTable]] ++
    Fragment.kept [.text (s.quotes.table m.table)] ++
    [[.keyword .openParen], columnList s r.insertable, [.keyword .closeParen], [.keyword .values],
      [Token.text ", "].intercalate ((List.range m.rows).map fun row =>
        .text "( " :: Fragment.commaList (r.insertable.map fun f => [.marker (f.cell s row)]) ++
          [.text " )"]),
      [.text "ON CONFLICT"], [.keyword .openParen], columnList s r.qualifiers,
      [.keyword .closeParen]] ++
    (if r.updatable.isEmpty then [[.text "DO NOTHING"]]
      else
        [[.text "DO UPDATE SET"],
          Fragment.commaList (r.updatable.map fun f =>
            [.column (f.column s), .text " = ", .member "EXCLUDED" (f.column s)])]) ++
    c.rowEnd m.hints false

section Lists

variable (s : Setting) {fields : List Field}

/-- A list of columns is kept if every field has a name. -/
theorem kept_columnList (some : fields ≠ []) (named : ∀ f ∈ fields, f.isBlank = false) :
    (columnList s fields).kept = [columnList s fields] := by
  refine kept_join some fun f hf => ?_
  simpa [Token.written, Field.column] using s.quotes.column_ne_empty (named f hf)

theorem tuples_ne_empty {n : Nat} (some : 0 < n) (fields : List Field) (row : Nat) :
    (tuples s fields row n).text ≠ "" := by
  obtain ⟨k, rfl⟩ := Nat.exists_eq_succ_of_ne_zero (Nat.pos_iff_ne_zero.1 some)
  rw [tuples, List.range'_succ, List.map_cons]
  exact text_intercalate_cons_ne _ (by simp [tuple, Token.written]) _

theorem tuples_eq (fields : List Field) (n : Nat) :
    tuples s fields 0 n =
      [Token.text ", "].intercalate ((List.range n).map fun row =>
        .text "( " :: Fragment.commaList (fields.map fun f => [.marker (f.cell s row)]) ++
          [.text " )"]) := by
  rw [tuples, List.range_eq_range']
  rfl

theorem conflictFragments_eq (fields : List Field) :
    conflictFragments s fields =
      if fields.isEmpty then [[.text "DO NOTHING"]]
      else
        [[.text "DO UPDATE SET"],
          Fragment.commaList (fields.map fun f =>
            [.column (f.column s), .text " = ", .member "EXCLUDED" (f.column s)])] := by
  unfold conflictFragments
  split
  case isTrue => rfl
  case isFalse some =>
    rw [Fragment.commaList, kept_join (mt List.isEmpty_iff.2 some)]
    · rfl
    · simp [excludedAssignment, Token.written]

end Lists

theorem Accepted.named_target (accepted : m.Accepted) : ∀ q ∈ m.target, q.isBlank = false := by
  intro q hq
  obtain ⟨f, hf, same⟩ := hasField_iff.1 (accepted.target q hq)
  rw [Field.isBlank, ← isBlankText_congr same]
  exact accepted.named f hf

theorem toList_write_native {c : Compiler} (native : c.setting.nativeUpsert) (accepted : m.Accepted)
    (assigned : m.roles = .ok r) (d : Draft) :
    (m.write c r d.clear).fragments.toList =
      m.upsertForm c ⟨m.target, m.updated, m.inserted⟩ := by
  have columns := kept_columnList c.setting accepted.inserted_ne_nil fun f hf =>
    accepted.named f (List.mem_of_mem_filter hf)
  have conflict := kept_columnList c.setting accepted.target_ne_nil accepted.named_target
  have rows := Fragment.kept_eq (tuples_ne_empty c.setting accepted.rows m.inserted 0)
  have target : r.qualifiers = m.target := by
    obtain ⟨rfl, -⟩ := roles_ok assigned
    rfl
  rw [write, if_pos native, c.finish_eq, Draft.toList_append, toList_writeUpsert, upsertFragments,
    upsertForm]
  dsimp only
  rw [updatable_eq assigned, upserted_eq assigned, target, conflictFragments_eq, ← columnList,
    ← columnList, columns, conflict, rows, tuples_eq]
  simp only [List.append_assoc, List.cons_append, List.nil_append]

/-- The columns of a compiled upsert. With the qualifiers, or else the primary, as its target, it
inserts the fields that are not the identity or that match the target, in their order, and every row
has a parameter for each of them. The target is among what is inserted. The rest of it is updated,
and nothing else is; if there is no rest, nothing is done on a conflict. So the identity is inserted
exactly if it is in the target. -/
theorem upsert_columns {c : Compiler} {d d' : Draft} {sql : String}
    (h : c.compile (.merge m) d = (.ok sql, d')) (native : c.setting.nativeUpsert) :
    m.effectiveQualifiers = .ok m.target ∧
      d'.fragments.toList = m.upsertForm c ⟨m.target, m.updated, m.inserted⟩ ∧
      d'.markers = cellsOf c.setting m.inserted m.rows ∧
      (∀ q ∈ m.target, hasField m.inserted q.name) ∧
      (∀ f ∈ m.inserted, f ∈ m.updated ↔ hasField m.target f.name = false) ∧
      ∀ i, m.identity = some i → (hasField m.inserted i.name ↔ hasField m.target i.name) := by
  obtain ⟨planned, -⟩ := Compiler.compile_eq_ok_iff.1 h
  obtain ⟨_, checked, planned⟩ := bind_eq_ok_iff.1 planned
  obtain ⟨roles, assigned, planned⟩ := bind_eq_ok_iff.1 planned
  obtain rfl := Except.ok.inj (Except.ok.inj planned)
  have accepted := accepted_of_plan checked assigned
  have qualifiers := (mem_fields_of_roles assigned).1
  rw [(effectiveQualifiers_ok qualifiers).1] at qualifiers
  have markers := markers_write c d m roles accepted.rows
  rw [if_pos native, upserted_eq assigned] at markers
  refine ⟨qualifiers, toList_write_native native accepted assigned d, markers, fun q hq => ?_,
    fun f hf => ?_, fun i hi => ?_⟩
  · obtain ⟨f, hf, same⟩ := hasField_iff.1 (accepted.target q hq)
    have qualifies : hasField m.target f.name := hasField_iff.2 ⟨q, hq, same.symm⟩
    rw [← hasField_congr same, hasField_inserted hf, qualifies, Bool.or_true]
  · simp [updated, hf]
  · obtain ⟨f, hf, same⟩ := hasField_iff.1 (accepted.identity i hi)
    have identity : f.isColumn m.identity := by
      simp [Field.isColumn, Field.matches, hi, same]
    rw [← hasField_congr same, ← hasField_congr same, hasField_inserted hf, identity, Bool.not_true,
      Bool.false_or]

/-- Two rows that are found by their identity, which is inserted then, whatever case of letters it
is given in. -/
theorem upsert_columns_identity_target :
    let c : Compiler := ⟨.sqlite, Dialect.sqlite.setting⟩
    let m : Merge :=
      ⟨"T", [.named "Id", .named "Name"], [.named "id"], 2, none, some (.identity "ID"), none⟩
    ∃ sql d', c.compile (.merge m) .empty = (.ok sql, d') ∧ c.setting.nativeUpsert ∧
      d'.fragments.toList = m.upsertForm c ⟨[.named "id"], [.named "Name"], m.fields⟩ ∧
      d'.markers = cellsOf c.setting m.fields 2 := by
  intro c m
  have native : c.setting.nativeUpsert := rfl
  obtain ⟨sql, d', h⟩ : ∃ sql d', c.compile (.merge m) .empty = (.ok sql, d') :=
    Compiler.exists_of_isOk (by decide +kernel)
  obtain ⟨-, fragments, markers, -⟩ := upsert_columns h native
  have inserted : m.inserted = m.fields := by decide +kernel
  have updated : m.updated = [.named "Name"] := by decide +kernel
  rw [inserted, updated] at fragments
  rw [inserted] at markers
  exact ⟨sql, d', h, native, fragments, markers⟩

end Merge

end CrossSql
