import CrossSql.Proofs.Predicate.LeadingText
import CrossSql.Proofs.Statement.SharedDraft

/-!
# Names of an update

An update has parameters for the fields that it sets and for its filter. Those of the filter have an
underscore in front of their names, which keeps them apart from any field whose own name begins with
another character. A field that is called like a parameter of the filter with the underscore in
front of it shares its name with that parameter.

## Main definitions

* `Update.filterParameters`: the parameters of the filter with a text in front of them.
* `Update.markers_of_compile`: the parameters of a compiled update.
* `Update.names_apart_iff_filter`: when a field that is set shares no name with the filter.
-/

namespace CrossSql

open Text

namespace Update

/-- The parameters of the filter, if there is one, with the text in front of their names. -/
def filterParameters (u : Update) (leading : String) (s : Setting) :
    Except Error (List Parameter) :=
  match u.filter with
  | none => .ok []
  | some p => p.parameters ⟨0, leading⟩ s

/-- The name of a field that is set, in any case of letters, is none of these. -/
def NamesApart (u : Update) (s : Setting) (names : List String) : Prop :=
  ∀ f ∈ u.settable, ∀ name ∈ names, ¬ sameFold (Parameter.nameOf s.quotes f.name 0) name

instance (u : Update) (s : Setting) (names : List String) : Decidable (u.NamesApart s names) :=
  inferInstanceAs (Decidable (∀ f ∈ u.settable, ∀ name ∈ names, _))

variable {c : Compiler} {u : Update} {d d' : Draft} {sql : String}

theorem filterParameters_leading (u : Update) (leading : String) (s : Setting) :
    u.filterParameters leading s =
      (u.filterParameters "" s).map (List.map (.ledBy leading)) := by
  unfold filterParameters
  cases u.filter with
  | none => rfl
  | some p => exact p.parameters_leading 0 leading s

/-- An empty filter has no parameters. -/
theorem filterParameters_of_isEmpty {leading : String} {s : Setting}
    (h : ∀ p, u.filter = some p → p.isEmpty) : u.filterParameters leading s = .ok [] := by
  unfold filterParameters
  cases filter : u.filter with
  | none => rfl
  | some p =>
    have none : p.comparisons = [] := (Predicate.isEmpty_iff p).1 (h p filter)
    have clauses : p.clauses s.quotes = .ok [] := by rw [Predicate.clauses, none]; rfl
    simp only [Predicate.parameters_eq, clauses]
    rfl

theorem markers_lead (u : Update) (d : Draft) :
    (u.lead c d.clear).markers = u.settable.map (·.cell c.setting 0) := by
  simp [lead]

/-- A compiled update has a parameter for every field that it sets, and behind them those of its
filter with an underscore in front of their names. -/
theorem markers_of_compile (h : c.compile (.update u) d = (.ok sql, d')) :
    ∃ ps, u.filterParameters filterLead c.setting = .ok ps ∧
      d'.markers = u.settable.map (·.cell c.setting 0) ++
        ps.map (Parameter.marker c.setting.parameterMark) := by
  obtain ⟨planned, -⟩ := Compiler.compile_eq_ok_iff.1 h
  obtain ⟨-, -, planned⟩ := bind_eq_ok_iff.1 planned
  obtain ⟨-, -, planned⟩ := bind_eq_ok_iff.1 planned
  obtain ⟨filtered, hf, finished⟩ := bind_eq_ok_iff.1 (Except.ok.inj planned)
  rw [← Except.ok.inj finished, Compiler.markers_finish]
  obtain ⟨empty, rfl⟩ | ⟨p, f, filter, -, rendered, rfl⟩ := Draft.filtered_ok hf
  · exact ⟨[], filterParameters_of_isEmpty empty, by rw [markers_lead]; simp⟩
  · have row : (u.lead c d.clear).row = 0 := by rw [lead_eq]; rfl
    rw [row] at rendered
    obtain ⟨cs, -, markers⟩ := Predicate.tokens_ok rendered
    have parameters := Fragment.parameters_of_markers markers
    refine ⟨f.parameters, ?_, ?_⟩
    · simp only [filterParameters, filter, Predicate.parameters, rendered]
      rfl
    · have word : whereWord.markers = [] := rfl
      rw [Draft.markers_append, markers_lead, parameters, ← markers]
      simp [condition, word]

/-- No field that is set shares its name with a parameter of the filter exactly if no such field is
called like a parameter that the filter would have without the underscore, with the underscore in
front of it. That is so if no field that is set begins with an underscore. -/
theorem names_apart_iff_filter (h : c.compile (.update u) d = (.ok sql, d')) :
    ∃ led bare, u.filterParameters filterLead c.setting = .ok led ∧
      u.filterParameters "" c.setting = .ok bare ∧
      d'.markers =
        u.settable.map (·.cell c.setting 0) ++ led.map (Parameter.marker c.setting.parameterMark) ∧
      (u.NamesApart c.setting (led.map Parameter.name) ↔
        u.NamesApart c.setting (bare.map fun x => "_" ++ x.name)) ∧
      ((∀ f ∈ u.settable, (Parameter.nameOf c.setting.quotes f.name 0).toList.head? ≠ some '_') →
        u.NamesApart c.setting (led.map Parameter.name)) := by
  obtain ⟨led, hl, markers⟩ := markers_of_compile h
  have split := u.filterParameters_leading filterLead c.setting
  rw [hl] at split
  obtain ⟨bare, hb, rfl⟩ := map_eq_ok_iff.1 split.symm
  have names : (bare.map (Parameter.ledBy filterLead)).map Parameter.name =
      bare.map fun x => "_" ++ x.name := by
    simp [Parameter.ledBy, filterLead]
  refine ⟨_, bare, hl, hb, markers, by rw [names], fun plain => ?_⟩
  rw [names]
  intro f hf name hn same
  obtain ⟨x, -, rfl⟩ := List.mem_map.1 hn
  have begins : ((Parameter.nameOf c.setting.quotes f.name 0).toList.head?).map Char.toLower =
      some '_' := by
    have lowered := congrArg (fun s : String => s.toList.head?) (sameFold_iff.1 same)
    simpa using lowered
  obtain ⟨first, hfirst, underscore⟩ := Option.map_eq_some_iff.1 begins
  rw [toLower_eq_underscore_iff.1 underscore] at hfirst
  exact plain f hf hfirst

/-- The name of a user with a key: `@Name` is set, and `@_Id` is compared. -/
theorem names_apart_plain_field :
    let c : Compiler := ⟨.generic, .standard⟩
    let u : Update :=
      ⟨"Users", [.named "Name"], some (.all [.equal "Id" (.ofString "a")]), none, none, none⟩
    ∃ sql d' led, c.compile (.update u) .empty = (.ok sql, d') ∧
      u.filterParameters filterLead c.setting = .ok led ∧ led.length = 1 ∧
      u.NamesApart c.setting (led.map Parameter.name) := by
  intro c u
  obtain ⟨sql, d', h⟩ : ∃ sql d', c.compile (.update u) .empty = (.ok sql, d') :=
    Compiler.exists_of_isOk (by decide +kernel)
  obtain ⟨led, bare, hl, hb, -, -, apart⟩ := names_apart_iff_filter h
  have count : (u.filterParameters filterLead c.setting).map List.length = .ok 1 := by
    decide +kernel
  rw [hl] at count
  exact ⟨sql, d', led, h, hl, Except.ok.inj count, apart (by decide +kernel)⟩

/-- The field `_Id` is set, and the filter compares `Id`: both are called `_Id`. -/
theorem names_shared_with_filter :
    let c : Compiler := ⟨.generic, .standard⟩
    let u : Update :=
      ⟨"T", [.named "_Id"], some (.all [.equal "Id" (.ofString "a")]), none, none, none⟩
    ∃ sql d' led, c.compile (.update u) .empty = (.ok sql, d') ∧
      u.filterParameters filterLead c.setting = .ok led ∧
      ¬ u.NamesApart c.setting (led.map Parameter.name) := by
  intro c u
  obtain ⟨sql, d', h⟩ : ∃ sql d', c.compile (.update u) .empty = (.ok sql, d') :=
    Compiler.exists_of_isOk (by decide +kernel)
  let clause : Clause := ⟨"\"Id\" = ", "Id", [⟨"", .ofString "a"⟩], "", ""⟩
  have clauses : (Predicate.all [.equal "Id" (.ofString "a")]).clauses c.setting.quotes =
      .ok [clause] := by decide +kernel
  have led : u.filterParameters filterLead c.setting = .ok [⟨"_Id", .ofString "a"⟩] := by
    simp only [filterParameters, u, Predicate.parameters_eq, clauses, Except.map,
      Names.bindAll_singleton]
    decide +kernel
  refine ⟨sql, d', _, h, led, fun apart => ?_⟩
  have field : Field.named "_Id" ∈ u.settable := by decide +kernel
  exact apart _ field "_Id" List.mem_cons_self (by decide +kernel)

end Update

end CrossSql
