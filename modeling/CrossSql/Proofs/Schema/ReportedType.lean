import CrossSql.Schema
import Mathlib.Data.List.Infix

/-!
# The reported native type

A database reports the native type of a column as a text, or not at all. What is not reported counts
as `text`, and a name that the dialect does not know gives the opaque type. Neither is an error;
only a text that is reported and blank is one.

## Main definitions

* `Value.Spells`, `Row.Reports`: the texts in a row.
* `Dialect.Knows`: the native types to which a dialect gives a host type of its own.
* `Dialect.columnOfRow_reported`: what becomes of a row.
-/

namespace CrossSql

open Text

theorem Text.occursIn_iff {pattern cs : List Char} :
    occursIn pattern cs = true ↔ pattern <:+: cs := by
  induction cs with
  | nil => simp [occursIn]
  | cons c cs ih =>
    rw [occursIn, Bool.or_eq_true, List.isPrefixOf_iff_prefix, ih, List.infix_cons_iff]

/-! ## Names of native types -/

/-- A choice of types in which only the last one may be the opaque type. -/
theorem ite_eq_null_iff {p : Prop} [Decidable p] {type other : HostType} (typed : type ≠ .null) :
    (if p then type else other) = .null ↔ ¬p ∧ other = .null := by
  split
  next chosen => exact iff_of_false typed fun h => h.1 chosen
  next left => exact (and_iff_right left).symm

/-- A name has no type in a table exactly if the table does not list it. -/
theorem lookupType_eq_null_iff {table : List (List String × HostType)} {name : String}
    (typed : ∀ row ∈ table, row.2 ≠ .null) :
    lookupType table name = .null ↔ name ∉ table.flatMap Prod.fst := by
  have listed : name ∈ table.flatMap Prod.fst ↔ ∃ row ∈ table, name ∈ row.1 := List.mem_flatMap
  rw [listed, lookupType]
  cases found : table.find? fun row => row.1.contains name with
  | none =>
    have missing := List.find?_eq_none.1 found
    refine iff_of_true rfl ?_
    rintro ⟨row, hr, hn⟩
    exact missing row hr (List.contains_iff_mem.2 hn)
  | some row =>
    have hr := List.mem_of_find?_eq_some found
    have lists : row.1.contains name = true :=
      List.find?_some (p := fun row : List String × HostType => row.1.contains name) found
    exact iff_of_false (typed row hr) (not_not.2 ⟨row, hr, List.contains_iff_mem.1 lists⟩)

namespace Dialect

/-- Names to which a dialect gives a host type. -/
def knownNames : Dialect → List String
  | .generic => genericTypes.flatMap Prod.fst
  | .oracle => oracleTypes.flatMap Prod.fst
  | .sqlite =>
    ["BOOLEAN", "BOOL", "BLOB", "NUMERIC", "DECIMAL", "DATETIME", "TIMESTAMP", "DATE", "TIME"]

/-- Words that count wherever they occur in a name. -/
def knownWords : Dialect → List String
  | .sqlite => ["INT", "CHAR", "CLOB", "TEXT", "REAL", "FLOA", "DOUB"]
  | _ => []

/-- The name within a native type, in upper case and without modifiers. -/
def baseName (d : Dialect) (native : String) : List Char :=
  let upper := (trimChars native.toList).map Char.toUpper
  match d with
  | .oracle => withoutModifiers upper
  | _ => beforeModifiers upper

/-- The dialect gives a host type of its own to the native type. -/
def Knows (d : Dialect) (native : String) : Prop :=
  String.ofList (d.baseName native) ∈ d.knownNames ∨
    ∃ word ∈ d.knownWords, word.toList <:+: d.baseName native

instance (d : Dialect) (native : String) : Decidable (d.Knows native) :=
  inferInstanceAs (Decidable (_ ∨ _))

theorem affinityType_eq_null_iff {cs : List Char} :
    affinityType cs = .null ↔
      ¬(String.ofList cs ∈ sqlite.knownNames ∨
        ∃ word ∈ sqlite.knownWords, word.toList <:+: cs) := by
  have spelled (word : String) : String.ofList cs = word ↔ cs = word.toList :=
    ⟨fun h => by rw [← h, String.toList_ofList], fun h => by rw [h, String.ofList_toList]⟩
  simp (disch := decide) only [affinityType, ite_eq_null_iff, knownNames, knownWords,
    ← occursIn_iff, spelled, Bool.or_eq_true, beq_iff_eq, List.mem_cons, List.not_mem_nil,
    or_false, exists_eq_or_imp, exists_eq_left, not_or, and_assoc]
  -- Both sides exclude the same names and words, in different orders.
  grind

/-- Exactly the native types that the dialect does not know get the opaque type. -/
theorem typeOfUpper_eq_null_iff (d : Dialect) (native : String) :
    d.typeOfUpper ((trimChars native.toList).map Char.toUpper) = .null ↔ ¬d.Knows native := by
  have listed (h : d.knownWords = []) :
      d.Knows native ↔ String.ofList (d.baseName native) ∈ d.knownNames := by
    simp [Knows, h]
  cases d with
  | generic =>
    rw [listed rfl, typeOfUpper]
    exact lookupType_eq_null_iff (by decide)
  | oracle =>
    rw [listed rfl, typeOfUpper]
    exact lookupType_eq_null_iff (by decide)
  | sqlite => exact affinityType_eq_null_iff

end Dialect

/-! ## What a row reports -/

/-- The value is a text. -/
inductive Value.Spells : Value → String → Prop
  | varchar (s : String) : Spells (.present (.varchar s)) s
  | char (c : Char) : Spells (.present (.char c)) c.toString

theorem Value.Spells.decodeString {v : Value} {s : String} (h : v.Spells s) :
    v.decodeString = .ok s := by
  cases h <;> rfl

/-- The native type that a row reports: a text behind the flags, or `text` if there is no value. -/
inductive Row.Reports (r : Row) : String → Prop
  | text {v : Value} {native : String} (cell : r.values[4]? = some v) (spelled : v.Spells native) :
    Reports r native
  | absent (type : HostType) (cell : r.values[4]? = some (.absent type)) : Reports r "text"
  | missing (cell : r.values[4]? = none) : Reports r "text"

namespace Dialect

theorem reportedType_of_reports {r : Row} {native : String} (h : r.Reports native)
    (column : String) : reportedType column (r.values[4]?.getD .null) = .ok native := by
  cases h with
  | absent type cell =>
    rw [cell]
    rfl
  | missing cell =>
    rw [cell]
    rfl
  | text cell spelled =>
    rw [cell]
    cases spelled <;> rfl

/-- A row with the name of a column and its native type, in texts of any kind, gives the column
unless the native type is blank. -/
theorem columnOfRow_reported (d : Dialect) {r : Row} {v : Value} {name native : String}
    (first : r.values[0]? = some v) (named : v.Spells name) (reported : r.Reports native) :
    (isBlankText native = true → d.columnOfRow r = .error (.blankNativeType d)) ∧
      (isBlankText native = false → ∃ column type, d.columnOfRow r = .ok column ∧
        column.name = name ∧ column.nativeType = some native ∧ column.type = some type ∧
        (type = .null ↔ ¬d.Knows native)) := by
  have read : d.columnOfRow r = (d.readType native).map fun type =>
      { name
        isPrimary := flag (r.values[1]?.getD .null)
        isIdentity := flag (r.values[2]?.getD .null)
        isNullable := flag (r.values[3]?.getD .null)
        type := some type
        nativeType := some native } := by
    rw [columnOfRow]
    dsimp only
    rw [first, Option.getD_some, named.decodeString]
    change (reportedType name _ >>= _) = _
    rw [reportedType_of_reports reported]
    change (d.readType native >>= _) = _
    cases d.readType native <;> rfl
  rw [read, readType]
  constructor
  · intro blank
    rw [if_pos blank]
    rfl
  · intro visible
    rw [if_neg (by simp [visible])]
    exact ⟨_, _, rfl, rfl, rfl, rfl, typeOfUpper_eq_null_iff d native⟩

/-- A type that nobody knows is no error. -/
theorem columnOfRow_reported_unknown :
    let r : Row := ⟨["name"], [.ofString "Shape", .null, .null, .null, .ofString "geometry (2)"]⟩
    ¬sqlite.Knows "geometry (2)" ∧ ∃ column type, sqlite.columnOfRow r = .ok column ∧
      column.name = "Shape" ∧ column.nativeType = some "geometry (2)" ∧
      column.type = some type ∧ (type = .null ↔ ¬sqlite.Knows "geometry (2)") := by
  intro r
  have reported : r.Reports "geometry (2)" := .text rfl (.varchar _)
  exact ⟨by decide, (columnOfRow_reported .sqlite rfl (.varchar _) reported).2 (by decide)⟩

/-- A column without a declared type is reported with an empty text, which is refused. -/
theorem columnOfRow_undeclared :
    let r : Row := ⟨["name"], [.ofString "a", .null, .null, .null, .ofString ""]⟩
    r.values[0]? = some (.ofString "a") ∧ r.values[4]? = some (.ofString "") ∧
      sqlite.columnOfRow r = .error (.blankNativeType .sqlite) ∧
      ∀ column, sqlite.columnOfRow r ≠ .ok column := by
  intro r
  have refused : sqlite.columnOfRow r = .error (.blankNativeType .sqlite) := rfl
  refine ⟨rfl, rfl, refused, fun column accepted => ?_⟩
  rw [refused] at accepted
  cases accepted

/-- Without a native type the column counts as `text`. -/
example : (generic.columnOfRow ⟨["name"], [.ofString "Note"]⟩).map Column.type =
    .ok (some .varchar) := rfl

end Dialect

end CrossSql
