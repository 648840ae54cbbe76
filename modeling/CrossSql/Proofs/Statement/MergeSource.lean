import CrossSql.Proofs.Statement.Layout
import CrossSql.Proofs.Statement.SharedDraft

/-!
# The columns of the source of a merge

A merge refers to the columns of its source by their quoted names, and a quoted name is a column
only in the very spelling in which the source declares it. The source is spelled as the fields are,
and so are the columns that are updated and inserted. The condition is spelled as the qualifiers
are, which only have to match a field in some case of letters.

## Main definitions

* `Draft.sourceRows`: the columns that the rows of a source declare.
* `Draft.membersOf`: the columns of a source that a statement refers to.
* `Merge.members_declared_iff`: when the source declares all that the merge refers to.
-/

namespace CrossSql

/-! ## Columns that are declared and referred to -/

namespace Token

/-- The name that an expression is given. -/
def label? : Token → Option String
  | .label quoted => some quoted
  | _ => none

/-- The column of the source to which the token refers. -/
def memberOf? (source : String) : Token → Option String
  | .member s quoted => if s = source then some quoted else none
  | _ => none

theorem overlooks_label? : Overlooks label? := ⟨fun _ => rfl, fun _ => rfl, fun _ => rfl⟩

theorem overlooks_memberOf? (source : String) : Overlooks (memberOf? source) :=
  ⟨fun _ => rfl, fun _ => rfl, fun _ => rfl⟩

end Token

namespace Fragment

/-- The columns that a fragment declares. -/
def labels (f : Fragment) : List String := f.filterMap Token.label?

/-- The columns of the source to which a fragment refers. -/
def membersOf (source : String) (f : Fragment) : List String := f.filterMap (Token.memberOf? source)

/-- The columns that are declared, fragment by fragment. -/
def rowsOf (fs : List Fragment) : List (List String) := (fs.map labels).filter (!·.isEmpty)

@[simp] theorem rowsOf_append (fs gs : List Fragment) :
    rowsOf (fs ++ gs) = rowsOf fs ++ rowsOf gs := by
  simp [rowsOf]

theorem rowsOf_singleton {f : Fragment} (h : f.labels ≠ []) : rowsOf [f] = [f.labels] := by
  simp [rowsOf, h]

theorem rowsOf_eq_nil {fs : List Fragment} (h : fs.flatMap labels = []) : rowsOf fs = [] := by
  rw [rowsOf, List.filter_eq_nil_iff]
  intro columns hc
  obtain ⟨f, hf, rfl⟩ := List.mem_map.1 hc
  simp [List.flatMap_eq_nil_iff.1 h f hf]

section Views

variable {α β : Type} {view : Token → Option β}

/-- What is seen of a list of items is what is seen of each, if every item has a text. -/
theorem filterMap_kept_join (blank : ∀ s, view (.text s) = none) {separator : String} {xs : List α}
    {item : α → Fragment} (hx : ∀ x ∈ xs, (item x).text ≠ "") :
    (kept (join separator (xs.map item))).flatMap (List.filterMap view) =
      xs.flatMap fun x => (item x).filterMap view := by
  rw [filterMap_kept, filterMap_join (blank separator), List.flatMap_map]
  intro none
  rw [eq_nil_of_text_join hx none]
  rfl

end Views

end Fragment

namespace Draft

/-- The columns that every row of the source of a statement declares. -/
def sourceRows (d : Draft) : List (List String) := Fragment.rowsOf d.fragments.toList

/-- The columns of the source to which a statement refers, in order. -/
def membersOf (source : String) (d : Draft) : List String :=
  d.fragments.toList.flatMap (Fragment.membersOf source)

/-- Every column of the source to which a statement refers is declared by every row of it. -/
def MembersDeclared (source : String) (d : Draft) : Prop :=
  ∀ column ∈ d.membersOf source, ∀ row ∈ d.sourceRows, column ∈ row

instance (source : String) (d : Draft) : Decidable (d.MembersDeclared source) :=
  inferInstanceAs (Decidable (∀ column ∈ d.membersOf source, ∀ row ∈ d.sourceRows, column ∈ row))

end Draft

/-! ## What is seen of a merge -/

section Views

variable {β : Type} {view : Token → Option β} (blind : Token.Overlooks view) (c : Compiler)
include blind

namespace Merge

/-- What is seen of a cell under the name of its column. -/
def namedView (view : Token → Option β) (s : Setting) (row : Nat) (f : Field) : List β :=
  (Draft.namedCell s row f).filterMap view

/-- What is seen of the two columns that a merge sets or finds equal. -/
def pairView (view : Token → Option β) (s : Setting) (target : String) (f : Field) : List β :=
  (Draft.memberPair target (s.quotes.column sourceAlias) s f).filterMap view

theorem filterMap_namedCells (s : Setting) (row : Nat) (fields : List Field) :
    (Fragment.kept (.commaList (fields.map (Draft.namedCell s row)))).flatMap
        (List.filterMap view) = fields.flatMap (namedView view s row) :=
  Fragment.filterMap_kept_join blind.text fun f _ => by simp [Draft.namedCell, Token.written]

theorem filterMap_pairs (separator : String) (s : Setting) (target : String)
    (fields : List Field) :
    (Fragment.kept (.join separator (fields.map
        (Draft.memberPair target (s.quotes.column sourceAlias) s)))).flatMap
        (List.filterMap view) = fields.flatMap (pairView view s target) :=
  Fragment.filterMap_kept_join blind.text fun f _ => by simp [Draft.memberPair, Token.written]

theorem filterMap_members (source : String) (s : Setting) (fields : List Field) :
    (Fragment.kept (.commaList (fields.map fun f => [.member source (f.column s)]))).flatMap
        (List.filterMap view) =
      fields.flatMap fun f => (view (.member source (f.column s))).toList := by
  refine (Fragment.filterMap_kept_join blind.text fun f _ => by simp [Token.written]).trans ?_
  refine congrArg fields.flatMap (funext fun f => ?_)
  cases h : view (.member source (f.column s)) <;> simp [h]

theorem filterMap_columns (s : Setting) (fields : List Field) :
    (Fragment.kept (.commaList (fields.map fun f => [.column (f.column s)]))).flatMap
        (List.filterMap view) = [] := by
  have none : (Fragment.commaList (fields.map fun f => [.column (f.column s)])).filterMap view =
      [] := by
    rw [Fragment.commaList, Fragment.filterMap_join (blind.text _)]
    simp [blind.column]
  rw [Fragment.filterMap_kept fun _ => none, none]

theorem filterMap_leadFragments (m : Merge) :
    (m.leadFragments c).flatMap (List.filterMap view) = [] := by
  simp [leadFragments, blind.keyword, Fragment.filterMap_kept_text blind.text,
    c.filterMap_hintsAt blind.text]

theorem filterMap_sourceRow (fields : List Field) (row : Nat) :
    (sourceRow c fields row).flatMap (List.filterMap view) =
      fields.flatMap (namedView view c.setting row) := by
  unfold sourceRow
  cases c.dialect <;>
    simp [blind.keyword, Fragment.filterMap_kept_text blind.text, filterMap_namedCells blind]

theorem filterMap_mergeEnd (m : Merge) (r : Roles) :
    (m.mergeEnd c r).flatMap (List.filterMap view) =
      (r.qualifiers ++ r.updatable).flatMap
          (pairView view c.setting (c.setting.quotes.table m.table)) ++
        r.insertable.flatMap fun f =>
          (view (.member (c.setting.quotes.column sourceAlias) (f.column c.setting))).toList := by
  have updates : (updateFragments c r.updatable (c.setting.quotes.table m.table)
      (c.setting.quotes.column sourceAlias)).flatMap (List.filterMap view) =
        r.updatable.flatMap (pairView view c.setting (c.setting.quotes.table m.table)) := by
    unfold updateFragments
    split
    case isTrue none => rw [List.isEmpty_iff.1 none]; rfl
    case isFalse => simp [blind.keyword, Fragment.commaList, filterMap_pairs blind]
  have inserts : (insertFragments c r.insertable (c.setting.quotes.column sourceAlias)).flatMap
      (List.filterMap view) = r.insertable.flatMap fun f =>
          (view (.member (c.setting.quotes.column sourceAlias) (f.column c.setting))).toList := by
    simp [insertFragments, blind.keyword, filterMap_columns blind, filterMap_members blind]
  simp [mergeEnd, blind.keyword, Fragment.filterMap_kept_text blind.text, filterMap_pairs blind,
    updates, inserts]

end Merge

end Views

/-! ## The columns of a merge -/

namespace Merge

variable {c : Compiler} {m : Merge} {r : Roles} {d : Draft} {fields : List Field}

theorem rowsOf_namedCells (s : Setting) (row : Nat) (some : fields ≠ []) :
    Fragment.rowsOf (Fragment.kept (.commaList (fields.map (Draft.namedCell s row)))) =
      [fields.map (·.column s)] := by
  have labels : (Fragment.commaList (fields.map (Draft.namedCell s row))).labels =
      fields.map (·.column s) := by
    rw [Fragment.labels, Fragment.commaList, Fragment.filterMap_join rfl, List.flatMap_map,
      List.map_eq_flatMap]
    rfl
  rw [Fragment.kept_eq, Fragment.rowsOf_singleton] <;> try rw [labels]
  · simpa using some
  · exact fun none => some
      (Fragment.eq_nil_of_text_join (fun f _ => by simp [Draft.namedCell, Token.written]) none)

theorem rowsOf_sourceRow (some : fields ≠ []) (row : Nat) :
    Fragment.rowsOf (sourceRow c fields row) = [fields.map (·.column c.setting)] := by
  have select : Fragment.rowsOf [[.keyword .select]] = [] := rfl
  have dual : Fragment.rowsOf ([[.keyword .fromTable]] ++
      Fragment.kept [.text (c.setting.quotes.column "DUAL")]) = [] :=
    Fragment.rowsOf_eq_nil (Fragment.filterMap_kept_text Token.overlooks_label?.text _)
  unfold sourceRow
  rw [Fragment.rowsOf_append, Fragment.rowsOf_append, rowsOf_namedCells _ _ some, select]
  cases c.dialect with
  | oracle => rw [dual]; rfl
  | _ => rfl

theorem rowsOf_sourceRows (some : fields ≠ []) (row n : Nat) :
    Fragment.rowsOf (sourceRows c fields row (n + 1)) =
      .replicate (n + 1) (fields.map (·.column c.setting)) := by
  induction n generalizing row with
  | zero => rw [sourceRows_one, rowsOf_sourceRow some, List.replicate_one]
  | succ n ih =>
    have union : Fragment.rowsOf [[.keyword .unionAll]] = [] := rfl
    rw [sourceRows_succ, Fragment.rowsOf_append, Fragment.rowsOf_append, rowsOf_sourceRow some,
      union, ih, List.replicate_succ]
    rfl

theorem filterMap_sourceRows {β : Type} {view : Token → Option β} (blind : Token.Overlooks view)
    (cell : ∀ row f, namedView view c.setting row f = []) (row n : Nat) :
    (sourceRows c fields row (n + 1)).flatMap (List.filterMap view) = [] := by
  induction n generalizing row with
  | zero => simp [sourceRows_one, filterMap_sourceRow blind, cell]
  | succ n ih =>
    simp [sourceRows_succ, filterMap_sourceRow blind, cell, blind.keyword, ih]

theorem toList_write (emulated : c.setting.nativeUpsert = false) (some : 0 < m.rows) :
    (m.write c r d.clear).fragments.toList =
      m.leadFragments c ++ sourceRows c m.fields 0 m.rows ++ m.mergeEnd c r ++
        c.rowEnd m.hints false := by
  rw [write, emulated, c.finish_eq, Draft.toList_append, ← toList_writeMerge c m r some d]
  rfl

theorem sourceRows_write (emulated : c.setting.nativeUpsert = false) (rows : 0 < m.rows)
    (some : m.fields ≠ []) :
    (m.write c r d.clear).sourceRows = .replicate m.rows (m.fields.map (·.column c.setting)) := by
  obtain ⟨n, hn⟩ : ∃ n, m.rows = n + 1 := ⟨m.rows - 1, by omega⟩
  have lead := Fragment.rowsOf_eq_nil (filterMap_leadFragments Token.overlooks_label? c m)
  have rest : Fragment.rowsOf (m.mergeEnd c r) = [] := by
    refine Fragment.rowsOf_eq_nil ((filterMap_mergeEnd Token.overlooks_label? c m r).trans ?_)
    simp [pairView, Draft.memberPair, Token.label?]
  have close := Fragment.rowsOf_eq_nil (c.filterMap_rowEnd Token.overlooks_label? m.hints false)
  rw [Draft.sourceRows, toList_write emulated rows]
  simp [lead, rest, close, hn, rowsOf_sourceRows some]

theorem mem_pairView {target : String} {s : Setting} {f : Field} {column : String} :
    column ∈ pairView (Token.memberOf? (s.quotes.column sourceAlias)) s target f ↔
      f.column s = column := by
  rw [pairView, Draft.memberPair, List.mem_filterMap]
  constructor
  · rintro ⟨t, ht, seen⟩
    simp only [List.mem_cons, List.not_mem_nil, or_false] at ht
    rcases ht with rfl | rfl | rfl
    · simp only [Token.memberOf?] at seen
      split at seen
      · exact Option.some.inj seen
      · cases seen
    · cases seen
    · simpa [Token.memberOf?] using seen
  · rintro rfl
    exact ⟨.member (s.quotes.column sourceAlias) (f.column s), by simp, if_pos rfl⟩

/-- A merge refers to the columns of its qualifiers and of the fields that are updated and
inserted. -/
theorem mem_membersOf_write (emulated : c.setting.nativeUpsert = false) (rows : 0 < m.rows)
    {column : String} :
    column ∈ (m.write c r d.clear).membersOf (c.setting.quotes.column sourceAlias) ↔
      ∃ f ∈ r.qualifiers ++ r.updatable ++ r.insertable, f.column c.setting = column := by
  obtain ⟨n, hn⟩ : ∃ n, m.rows = n + 1 := ⟨m.rows - 1, by omega⟩
  have blind := Token.overlooks_memberOf? (c.setting.quotes.column sourceAlias)
  have seen : (m.write c r d.clear).membersOf (c.setting.quotes.column sourceAlias) =
      (m.mergeEnd c r).flatMap
        (List.filterMap (Token.memberOf? (c.setting.quotes.column sourceAlias))) := by
    change List.flatMap (List.filterMap _) _ = _
    rw [toList_write emulated rows, hn, List.flatMap_append, List.flatMap_append,
      List.flatMap_append, filterMap_leadFragments blind, c.filterMap_rowEnd blind,
      filterMap_sourceRows blind fun _ _ => rfl, List.nil_append, List.append_nil,
      List.nil_append]
  rw [seen, filterMap_mergeEnd blind, List.mem_append, List.mem_flatMap, List.mem_flatMap]
  simp only [mem_pairView, Token.memberOf?, if_true, Option.mem_toList, Option.some.injEq,
    List.mem_append, or_and_right, exists_or, eq_comm]

theorem fields_ne_nil_of_check {done : Unit} (h : m.check c = .ok done) : m.fields ≠ [] := by
  obtain ⟨-, -, h⟩ := bind_eq_ok_iff.1 h
  obtain ⟨-, -, h⟩ := bind_eq_ok_iff.1 h
  obtain ⟨-, -, h⟩ := bind_eq_ok_iff.1 h
  obtain ⟨-, -, h⟩ := bind_eq_ok_iff.1 h
  obtain ⟨_, present, -⟩ := bind_eq_ok_iff.1 h
  simpa using present

/-- What is updated and inserted comes from the fields. -/
theorem mem_fields_of_roles (h : m.roles = .ok r) :
    m.effectiveQualifiers = .ok r.qualifiers ∧ ∀ f ∈ r.updatable ++ r.insertable, f ∈ m.fields := by
  obtain ⟨qualifiers, hq, h⟩ := bind_eq_ok_iff.1 h
  obtain ⟨inserted, hi, h⟩ := bind_eq_ok_iff.1 h
  obtain rfl := Except.ok.inj h
  refine ⟨hq, fun f hf => ?_⟩
  rcases List.mem_append.1 hf with hf | hf
  · exact List.mem_of_mem_filter hf
  · obtain ⟨-, -, hi⟩ := bind_eq_ok_iff.1 hi
    rw [← Except.ok.inj hi] at hf
    exact List.mem_of_mem_filter hf

/-- The source of a compiled merge declares the fields row by row. It declares all that the merge
refers to exactly if every qualifier is spelled like a field, since what is updated and inserted
comes from the fields. -/
theorem members_declared_iff {sql : String} {d d' : Draft}
    (h : c.compile (.merge m) d = (.ok sql, d')) (emulated : c.setting.nativeUpsert = false) :
    d'.sourceRows = .replicate m.rows (m.fields.map (·.column c.setting)) ∧
      ∃ qualifiers, m.effectiveQualifiers = .ok qualifiers ∧
        (d'.MembersDeclared (c.setting.quotes.column sourceAlias) ↔
          ∀ q ∈ qualifiers, ∃ f ∈ m.fields, f.column c.setting = q.column c.setting) := by
  obtain ⟨planned, -⟩ := Compiler.compile_eq_ok_iff.1 h
  obtain ⟨_, checked, planned⟩ := bind_eq_ok_iff.1 planned
  obtain ⟨roles, assigned, planned⟩ := bind_eq_ok_iff.1 planned
  obtain rfl := Except.ok.inj (Except.ok.inj planned)
  obtain ⟨qualifiers, written⟩ := mem_fields_of_roles assigned
  have rows := pos_of_check checked
  have declared :=
    sourceRows_write (r := roles) (d := d) emulated rows (fields_ne_nil_of_check checked)
  refine ⟨declared, roles.qualifiers, qualifiers, ?_⟩
  unfold Draft.MembersDeclared
  simp only [mem_membersOf_write emulated rows, declared, List.append_assoc, List.mem_append]
  constructor
  · intro all q hq
    exact List.mem_map.1 (all _ ⟨q, .inl hq, rfl⟩ _ (List.mem_replicate.2 ⟨Nat.ne_of_gt rows, rfl⟩))
  · rintro spelled _ ⟨f, hf, rfl⟩ row hr
    rw [List.eq_of_mem_replicate hr, List.mem_map]
    rcases hf with hq | hw
    · exact spelled f hq
    · exact ⟨f, written f (List.mem_append.2 hw), rfl⟩

/-- Two rows, found by the qualifier `Id`, which is spelled like the field. -/
theorem members_declared_same_case :
    let c : Compiler := ⟨.oracle, Dialect.oracle.setting⟩
    let m : Merge := ⟨"T", [.named "Id", .named "Name"], [.named "Id"], 2, none, none, none⟩
    ∃ sql d', c.compile (.merge m) .empty = (.ok sql, d') ∧
      d'.MembersDeclared (c.setting.quotes.column sourceAlias) := by
  intro c m
  obtain ⟨sql, d', h⟩ : ∃ sql d', c.compile (.merge m) .empty = (.ok sql, d') :=
    Compiler.exists_of_isOk (by decide +kernel)
  obtain ⟨-, qualifiers, hq, declared⟩ := members_declared_iff h (by decide +kernel)
  obtain rfl : [Field.named "Id"] = qualifiers := Except.ok.inj hq
  exact ⟨sql, d', h, declared.2 (by decide +kernel)⟩

/-- The qualifier `id` matches the field `Id`, but the source does not declare it in this case of
letters. -/
theorem members_undeclared_other_case :
    let c : Compiler := ⟨.oracle, Dialect.oracle.setting⟩
    let m : Merge := ⟨"T", [.named "Id", .named "Name"], [.named "id"], 1, none, none, none⟩
    c.setting.nativeUpsert = false ∧
      ∃ sql d', c.compile (.merge m) .empty = (.ok sql, d') ∧
        ¬ d'.MembersDeclared (c.setting.quotes.column sourceAlias) := by
  intro c m
  refine ⟨rfl, ?_⟩
  obtain ⟨sql, d', h⟩ : ∃ sql d', c.compile (.merge m) .empty = (.ok sql, d') :=
    Compiler.exists_of_isOk (by decide +kernel)
  refine ⟨sql, d', h, ?_⟩
  obtain rfl : (c.compile (.merge m) .empty).2 = d' := by rw [h]
  decide +kernel

end Merge

end CrossSql
