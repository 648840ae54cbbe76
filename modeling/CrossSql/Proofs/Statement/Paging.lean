import CrossSql.Proofs.NumberedName
import CrossSql.Proofs.PlainName
import CrossSql.Proofs.Statement.Outcome
import CrossSql.Proofs.Statement.QueryDemands

/-!
# Pages

The numbers of a page are written in decimal digits, in one clause of its statement. Read back, they
are the exact product of the two numbers of the request and the second of these, so the pages of one
size lie side by side: together they are the rows from the first one on, each of them once.

## Main definitions

* `Paging`, `Paging.read?`: a paging clause, read word by word.
* `Compiler.pagingClause`: the clause of a page.
* `PageQuery.Numbered`: the numbers for which there is a page.
* `PageQuery.Tiles`: the pages of a request lie side by side.
* `PageQuery.pages_tile`: the pages of every request that is otherwise accepted.
-/

namespace CrossSql

/-! ## Words -/

namespace Text

/-- A text of one word. -/
def IsWord (w : String) : Prop := w ≠ "" ∧ w.toList.any isBlank = false

instance (w : String) : Decidable (IsWord w) := inferInstanceAs (Decidable (_ ∧ _))

theorem words_of_isWord {w : String} (h : IsWord w) : words w.toList = [w.toList] := by
  rw [words, splitWhere_eq_singleton (by simpa using h.2)]
  simp [h.1]

/-- The words with spaces between them are read back. -/
theorem words_intercalate {ws : List String} (h : ∀ w ∈ ws, IsWord w) :
    (words (" ".intercalate ws).toList).map String.ofList = ws := by
  induction ws with
  | nil => rfl
  | cons w ws ih =>
    obtain ⟨first, rest⟩ := List.forall_mem_cons.1 h
    cases ws with
    | nil => simp [words_of_isWord first]
    | cons w' ws =>
      have spaced : (" ".intercalate (w :: w' :: ws)).toList =
          w.toList ++ ' ' :: (" ".intercalate (w' :: ws)).toList := by
        rw [String.intercalate_cons_cons]
        simp
      rw [spaced, words_append_cons (by decide), List.map_append, ih rest, words_of_isWord first]
      simp

theorem isBlank_of_isDigit {c : Char} (h : c.isDigit) : isBlank c = false := by
  have apart : ∀ n ∈ blankPoints, ¬(48 ≤ n ∧ n ≤ 57) := by decide
  refine Bool.eq_false_iff.2 fun blank => apart c.toNat (List.contains_iff_mem.1 blank) ?_
  simpa [Char.isDigit, UInt32.le_iff_toNat_le] using h

theorem isWord_toString_nat (n : Nat) : IsWord (toString n) := by
  have visible : ∀ c ∈ (toString n).toList, ¬isBlank c := fun c hc =>
    Bool.eq_false_iff.1 (isBlank_of_isDigit (isDigit_of_mem_toString hc))
  refine ⟨fun empty => ?_, List.any_eq_false.2 visible⟩
  have digits : Nat.toDigits 10 n = [] := by
    rw [← toList_toString_nat, empty]
    rfl
  exact Nat.toDigits_ne_nil digits

end Text

namespace Number.Decimal

/-- The decimal digits of a number are read back. -/
theorem digitsValue?_toDigits (n : Nat) : digitsValue? (Nat.toDigits 10 n) = some n := by
  have digits : (Nat.toDigits 10 n).all Char.isDigit = true :=
    List.all_eq_true.2 fun c hc => Nat.isDigit_of_mem_toDigits (by decide) (by decide) hc
  have written : (Nat.toDigits 10 n).isEmpty = false := by simp
  rw [digitsValue?, written, digits]
  exact congrArg some Nat.ofDigitChars_ten_toDigits

end Number.Decimal

/-! ## Paging clauses -/

/-- What a paging clause asks for. -/
structure Paging where
  /-- How many rows are passed over, if the clause says so. -/
  offset : Option Nat
  /-- How many rows are taken after these. -/
  limit : Nat
  deriving DecidableEq

namespace Paging

def skip (p : Paging) : Nat := p.offset.getD 0

/-- The numbers of the rows that are taken. -/
def rows (p : Paging) : List Nat := List.range' p.skip p.limit

/-- A clause word by word, in the forms of all dialects. -/
def ofWords? : List String → Option Paging
  | ["LIMIT", n] | ["FETCH", "FIRST", n, "ROWS", "ONLY"] => do
    return ⟨none, ← Number.Decimal.digitsValue? n.toList⟩
  | ["LIMIT", n, "OFFSET", m] | ["OFFSET", m, "ROWS", "FETCH", "NEXT", n, "ROWS", "ONLY"] => do
    return ⟨some (← Number.Decimal.digitsValue? m.toList), ← Number.Decimal.digitsValue? n.toList⟩
  | _ => none

def read? (clause : String) : Option Paging :=
  ofWords? ((Text.words clause.toList).map String.ofList)

/-- The words in which a dialect asks for it. -/
def words (d : Dialect) (p : Paging) : List String :=
  match d, p.offset with
  | .oracle, none => ["FETCH", "FIRST", toString p.limit, "ROWS", "ONLY"]
  | .oracle, some skip =>
    ["OFFSET", toString skip, "ROWS", "FETCH", "NEXT", toString p.limit, "ROWS", "ONLY"]
  | _, none => ["LIMIT", toString p.limit]
  | _, some skip => ["LIMIT", toString p.limit, "OFFSET", toString skip]

/-- The clause with which a dialect asks for it. -/
def clause (d : Dialect) (p : Paging) : String := " ".intercalate (p.words d)

theorem ofWords?_words (d : Dialect) (p : Paging) : ofWords? (p.words d) = some p := by
  obtain ⟨offset, limit⟩ := p
  cases d <;> cases offset <;> simp [words, ofWords?, Number.Decimal.digitsValue?_toDigits]

theorem isWord_of_mem_words {d : Dialect} {p : Paging} {w : String} (h : w ∈ p.words d) :
    Text.IsWord w := by
  have fixed : ∀ w ∈ ["FETCH", "FIRST", "NEXT", "ROWS", "ONLY", "LIMIT", "OFFSET"],
      Text.IsWord w := by decide
  suffices (∃ n : Nat, w = toString n) ∨
      w ∈ ["FETCH", "FIRST", "NEXT", "ROWS", "ONLY", "LIMIT", "OFFSET"] by
    obtain ⟨n, rfl⟩ | spelled := this
    · exact Text.isWord_toString_nat n
    · exact fixed w spelled
  obtain ⟨offset, limit⟩ := p
  cases d <;> cases offset <;> simp only [words, List.mem_cons, List.not_mem_nil] at h ⊢ <;> grind

theorem read?_clause (d : Dialect) (p : Paging) : read? (p.clause d) = some p := by
  rw [read?, clause, Text.words_intercalate fun w hw => isWord_of_mem_words hw, ofWords?_words]

theorem clause_ne (d : Dialect) (p : Paging) : p.clause d ≠ "" := by
  intro empty
  have read := read?_clause d p
  rw [empty] at read
  cases read

/-- The page that passes over the rows and takes the next ones. The first page passes over none. -/
def page (skip take : Nat) : Paging := ⟨if skip = 0 then none else some skip, take⟩

@[simp] theorem skip_page (skip take : Nat) : (page skip take).skip = skip := by
  unfold page Paging.skip
  split
  next first => exact first.symm
  next => rfl

theorem rows_page (skip take : Nat) : (page skip take).rows = List.range' skip take := by
  rw [rows, skip_page]
  rfl

/-- Pages of one size lie side by side. -/
theorem flatMap_rows_page (count size : Nat) :
    ((List.range count).map fun n => page (n * size) size).flatMap rows =
      List.range (count * size) := by
  induction count with
  | zero => simp
  | succ count ih =>
    rw [List.range_succ, List.map_append, List.flatMap_append, ih, List.map_singleton,
      List.flatMap_singleton, rows_page, List.range_eq_range', List.range_eq_range', Nat.succ_mul]
    have joined : List.range' 0 (count * size) ++ List.range' (0 + count * size) size =
        List.range' 0 (count * size + size) := List.range'_append_1
    rwa [Nat.zero_add] at joined

end Paging

namespace Compiler

variable (c : Compiler)

theorem writePaging_eq (skip take : Nat) (d : Draft) :
    c.writePaging skip take d = d.append [[.text ((Paging.page skip take).clause c.dialect)]] := by
  have written :
      c.writePaging skip take d = d.write ((Paging.page skip take).clause c.dialect) := by
    unfold writePaging writeRowLimit Paging.page
    split <;> cases c.dialect <;>
    · refine congrArg d.write (String.toList_inj.1 ?_)
      simp [Paging.clause, Paging.words]
  rw [written, Draft.write_eq, Fragment.kept_eq]
  simpa [Token.written] using Paging.clause_ne c.dialect (.page skip take)

end Compiler

/-! ## Pages of a request -/

/-- A text between others depends on nothing but itself. -/
theorem exists_intercalate_eq (separator : String) (xs ys : List String) :
    ∃ before ending, ∀ text,
      separator.intercalate (xs ++ text :: ys) = before ++ text ++ ending := by
  induction xs with
  | nil =>
    cases ys with
    | nil => exact ⟨"", "", fun text => by simp⟩
    | cons y ys =>
      refine ⟨"", separator ++ separator.intercalate (y :: ys), fun text => ?_⟩
      simp [String.intercalate_cons_cons, String.append_assoc]
  | cons x xs ih =>
    obtain ⟨before, ending, around⟩ := ih
    refine ⟨x ++ separator ++ before, ending, fun text => ?_⟩
    have rest : separator.intercalate (x :: (xs ++ text :: ys)) =
        x ++ separator ++ separator.intercalate (xs ++ text :: ys) := by
      cases xs <;> exact String.intercalate_cons_cons
    rw [List.cons_append, rest, around]
    simp only [String.append_assoc]

namespace PageQuery

variable (c : Compiler) (q : PageQuery)

/-- The request for another page, perhaps of another size. -/
def paged (page rows : Int) : PageQuery := { q with page, rowsPerPage := rows }

theorem frame_paged (page rows : Int) : (q.paged page rows).frame c = q.frame c := rfl

/-- There is such a page: it is a page from zero on with at least one row, and the number of the
rows before it is a signed one of 64 bits. -/
def Numbered (page rows : Int) : Prop :=
  0 ≤ page ∧ 1 ≤ rows ∧ Number.Width.int64.Fits (page * rows)

/-- What is demanded of a page, apart from its numbers. -/
def otherDemands : List Demand :=
  Demand.statement c q.table q.hints ++ Demand.fields q.fields ++
    [⟨q.order ≠ [], .emptyOrdering⟩, .order q.order q.fields, .filter c.setting q.filter]

theorem forall_page_iff {page rows : Int} :
    (∀ x ∈ Demand.page page rows, x.Met) ↔ Numbered page rows := by
  have highest : Number.Width.int64.highest = 9223372036854775807 := by decide
  have lowest : Number.Width.int64.lowest = -9223372036854775808 := by decide
  simp only [Demand.page, Numbered, Number.Width.Fits, highest, lowest, List.forall_mem_cons]
  constructor
  · rintro ⟨low, size, high, -⟩
    have product : 0 ≤ page * rows := Int.mul_nonneg low (by omega)
    exact ⟨low, size, by omega, high⟩
  · rintro ⟨low, size, -, high⟩
    exact ⟨low, size, high, nofun⟩

theorem mem_demands_iff {q : PageQuery} {x : Demand} :
    x ∈ q.demands c ↔ x ∈ Demand.page q.page q.rowsPerPage ∨ x ∈ q.otherDemands c := by
  simp only [demands, otherDemands, List.mem_append, List.mem_cons, List.not_mem_nil]
  tauto

/-- A request that meets all other demands is accepted for the pages that there are. -/
theorem accepted_iff (met : ∀ x ∈ q.otherDemands c, x.Met) (page rows : Int) (d : Draft) :
    (∃ sql, (c.compile (.pageQuery (q.paged page rows)) d).1 = .ok sql) ↔ Numbered page rows := by
  rw [((q.paged page rows).judged c d).accepted, ← forall_page_iff]
  constructor
  · intro all x hx
    exact all x ((mem_demands_iff c).2 (.inl hx))
  · intro numbered x hx
    exact ((mem_demands_iff c).1 hx).elim (numbered x) (met x)

/-- What a page compiles to is the text of the draft that was written. -/
theorem exists_draft_of_compile {q : PageQuery} {d : Draft} {sql : String}
    (h : (c.compile (.pageQuery q) d).1 = .ok sql) :
    ∃ written, (q.frame c).write c.setting (q.writeEnd c) = .ok written ∧ written.text = sql := by
  rw [c.fst_compile] at h
  obtain ⟨w, planned, result⟩ := bind_eq_ok_iff.1 h
  obtain ⟨-, -, same⟩ := bind_eq_ok_iff.1 planned
  obtain rfl := Except.ok.inj same
  rw [Written.result, mapError_eq_ok_iff, write_eq] at result
  exact map_eq_ok_iff.1 result

/-- Whatever page is asked for, only the paging clause tells. -/
theorem exists_sql_eq : ∃ before ending : String, ∀ page rows d sql,
    (c.compile (.pageQuery (q.paged page rows)) d).1 = .ok sql →
      sql = before ++ (Paging.page (page * rows).toNat rows.toNat).clause c.dialect ++ ending := by
  obtain ⟨ordered, orders⟩ := Appends.orderBy q.order c.setting
  have ends (page rows : Int) (d : Draft) : (q.paged page rows).writeEnd c d =
      d.append (ordered ++
        [.text ((Paging.page (page * rows).toNat rows.toNat).clause c.dialect)] ::
          c.rowEnd q.hints false) := by
    have first : d.orderBy (q.paged page rows).order c.setting = d.append ordered := orders d
    rw [writeEnd, c.finish_eq, c.writePaging_eq, first, Draft.append_append, Draft.append_append]
    rfl
  have yields (page rows : Int) := (q.frame c).write_yields c.setting (ends page rows)
  -- The filter renders alike for every page, so the texts around the clause are chosen here.
  cases rendered : filterFragments (q.frame c).filter ⟨0, (q.frame c).leading⟩ c.setting with
  | error e =>
    refine ⟨"", "", fun page rows d sql h => ?_⟩
    obtain ⟨d', written, -⟩ := exists_draft_of_compile c h
    have stopped := yields page rows
    rw [frame_paged] at written
    rw [rendered, written] at stopped
    cases stopped
  | ok f =>
    obtain ⟨before, ending, around⟩ := exists_intercalate_eq " "
      (((q.frame c).before ++ f ++ ordered).map Fragment.text)
      ((c.rowEnd q.hints false).map Fragment.text)
    refine ⟨before, ending, fun page rows d sql h => ?_⟩
    obtain ⟨d', written, rfl⟩ := exists_draft_of_compile c h
    have whole := yields page rows
    rw [frame_paged] at written
    rw [rendered, written] at whole
    cases whole with
    | written fragments =>
      rw [Draft.text, fragments, ← around]
      simp [Draft.empty, Token.written]

/-! ## Pages side by side -/

/-- The pages of a request differ in a clause between texts that they share. What is read from the
clause is exactly what was asked for, and pages of one size lie side by side from the first row
on. -/
structure Tiles (before ending : String) (clause : Int → Int → String) : Prop where
  accepted : ∀ page rows d,
    (∃ sql, (c.compile (.pageQuery (q.paged page rows)) d).1 = .ok sql) ↔ Numbered page rows
  written : ∀ page rows d sql, (c.compile (.pageQuery (q.paged page rows)) d).1 = .ok sql →
    sql = before ++ clause page rows ++ ending
  read : ∀ page rows, Numbered page rows → ∃ p, Paging.read? (clause page rows) = some p ∧
    p.skip = page * rows ∧ p.limit = rows ∧ (p.offset = none ↔ page = 0)
  tiled : ∀ last rows : Nat, 1 ≤ rows → Number.Width.int64.Fits (last * rows) →
    (∀ page : Nat, page ≤ last → Numbered page rows) ∧
      ∃ ps : List Paging,
        (List.range (last + 1)).map (fun page : Nat => Paging.read? (clause page rows)) =
            ps.map some ∧
          ps.flatMap Paging.rows = List.range ((last + 1) * rows)

theorem Numbered.nonneg {page rows : Int} (h : Numbered page rows) :
    0 ≤ rows ∧ 0 ≤ page * rows := by
  obtain ⟨low, size, -⟩ := h
  have rows_nonneg : 0 ≤ rows := by omega
  exact ⟨rows_nonneg, Int.mul_nonneg low rows_nonneg⟩

/-- Before a page there are no fewer rows than before an earlier one. -/
theorem numbered_of_le {page last rows : Nat} (size : 1 ≤ rows)
    (fits : Number.Width.int64.Fits (last * rows)) (le : page ≤ last) : Numbered page rows := by
  have product : ((page * rows : Nat) : Int) ≤ (last * rows : Nat) :=
    Int.ofNat_le.2 (Nat.mul_le_mul_right rows le)
  have low : Number.Width.int64.lowest ≤ 0 := by decide
  rw [Int.natCast_mul, Int.natCast_mul] at product
  have positive : (0 : Int) ≤ page * rows :=
    Int.mul_nonneg (Int.natCast_nonneg page) (Int.natCast_nonneg rows)
  exact ⟨Int.natCast_nonneg page, Int.ofNat_le.2 size, Int.le_trans low positive,
    Int.le_trans product fits.2⟩

theorem skip_eq_zero_iff {page rows : Int} (h : Numbered page rows) :
    (page * rows).toNat = 0 ↔ page = 0 := by
  have size := h.2.1
  rw [← Int.natCast_eq_zero, Int.toNat_of_nonneg h.nonneg.2, Int.mul_eq_zero]
  omega

/-- The pages of a request that meets all other demands lie side by side, in every dialect. -/
theorem pages_tile (met : ∀ x ∈ q.otherDemands c, x.Met) :
    ∃ before ending clause, q.Tiles c before ending clause := by
  obtain ⟨before, ending, around⟩ := q.exists_sql_eq c
  refine ⟨before, ending,
    fun page rows => (Paging.page (page * rows).toNat rows.toNat).clause c.dialect, ?_⟩
  exact {
    accepted := q.accepted_iff c met
    written := around
    read := by
      intro page rows numbered
      refine ⟨_, Paging.read?_clause c.dialect _, ?_, Int.toNat_of_nonneg numbered.nonneg.1, ?_⟩
      · rw [Paging.skip_page, Int.toNat_of_nonneg numbered.nonneg.2]
      · rw [← skip_eq_zero_iff numbered]
        simp [Paging.page]
    tiled := by
      intro last rows size fits
      refine ⟨fun page le => numbered_of_le size fits le,
        (List.range (last + 1)).map fun page => .page (page * rows) rows, ?_,
        Paging.flatMap_rows_page (last + 1) rows⟩
      rw [List.map_map]
      refine List.map_congr_left fun page _ => ?_
      rw [Paging.read?_clause, ← Int.natCast_mul, Int.toNat_natCast, Int.toNat_natCast]
      rfl }

/-- Pages of people, by number. -/
theorem pages_tile_people :
    let c : Compiler := ⟨.oracle, Dialect.oracle.setting⟩
    let q : PageQuery :=
      ⟨"Person", [.named "Id", .named "Name"], 0, 1, [⟨"Id", .ascending⟩],
        some (.all [.equal "Name" (.ofString "Ann")]), none⟩
    (∀ x ∈ q.otherDemands c, x.Met) ∧ ∃ before ending clause, q.Tiles c before ending clause := by
  intro c q
  obtain ⟨sql, d, compiled⟩ : ∃ sql d, c.compile (.pageQuery q) .empty = (.ok sql, d) :=
    Compiler.exists_of_isOk (by decide +kernel)
  have met : ∀ x ∈ q.otherDemands c, x.Met := fun x hx =>
    (q.judged c .empty).accepted.1 ⟨sql, congrArg Prod.fst compiled⟩ x
      ((mem_demands_iff c).2 (.inr hx))
  exact ⟨met, q.pages_tile c met⟩

/-- The last page of five rows that there is, and the clause of its statement. -/
example :
    let page : Paging := .page (1844674407370955161 * 5) 5
    page.clause .oracle = "OFFSET 9223372036854775805 ROWS FETCH NEXT 5 ROWS ONLY" ∧
      page.rows = [9223372036854775805, 9223372036854775806, 9223372036854775807,
        9223372036854775808, 9223372036854775809] := by
  decide +kernel

end PageQuery

end CrossSql
