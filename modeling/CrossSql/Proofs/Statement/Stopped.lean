import CrossSql.Proofs.Statement.SharedDraft

/-!
# Stopped statements

A statement that a guard refuses leaves the draft alone. Behind the guards two things can stop it: a
filter that does not render, and the type of an average. Then the draft holds what the statement
writes before the condition, or before the average, and nothing of what was there before.

A scoped delete of several statements is stopped in the first of them or not at all, since a list of
keys renders if the key does.

## Main definitions

* `Statement.frame?`: the filter of a statement with what stands before it.
* `Statement.StoppedAt`: where a statement is stopped.
* `Compiler.compile_framed`: the draft that a failed compilation leaves, and that of a compiled one.
-/

namespace CrossSql

/-! ## Which filters render -/

section Keys

variable {key : Field} {s : Setting}

/-- A key is compared with a list if it lends a name to the parameters. -/
theorem Comparison.exists_clause_keyIn {values : List Value} (hv : values ≠ []) {q : Quotes} :
    (∃ cl, (keyIn key values).clause q = .ok cl) ↔
      key.isBlank = false ∧ Parameter.baseName q key.name ≠ "" := by
  rw [clause, operandClause_list rfl]
  simp only [keyIn, slotted]
  by_cases named : Parameter.baseName q key.name = ""
  · cases key.isBlank <;> simp [hv, named]
  · cases key.isBlank <;> simp [hv, named]

theorem exists_tokens_keyFilter {keys : List Value} (hk : keys ≠ []) {size : Nat} {sc : Scope} :
    (∃ f, (keyFilter key keys size).tokens sc s = .ok f) ↔
      key.isBlank = false ∧ Parameter.baseName s.quotes key.name ≠ "" := by
  obtain ⟨pieces, comparisons, flat, bounds⟩ := keyFilter_spec key keys size
  rw [Predicate.exists_tokens_iff, comparisons, List.forall_mem_map]
  have each : ∀ piece ∈ pieces,
      ((∃ cl, (Comparison.keyIn key piece).clause s.quotes = .ok cl) ↔
        key.isBlank = false ∧ Parameter.baseName s.quotes key.name ≠ "") :=
    fun piece hp => Comparison.exists_clause_keyIn (bounds piece hp).1
  constructor
  · intro rendered
    obtain ⟨piece, hp⟩ : ∃ piece, piece ∈ pieces := by
      refine List.exists_mem_of_ne_nil pieces fun none => hk ?_
      rw [← flat, none]
      rfl
    exact (each piece hp).1 (rendered piece hp)
  · intro named piece hp
    exact (each piece hp).2 named

end Keys

/-! ## Scoped deletes -/

namespace DeleteAll

variable {c : Compiler}

/-- The first of the deletes; several of them stand between delimiters. -/
def frame (c : Compiler) (x : DeleteAll) : Frame :=
  match x.keys with
  | none => Delete.frame c ⟨x.table, none, x.hints⟩
  | some (key, keys) =>
    let filters := filters c.setting key keys
    ⟨(if filters.length > 1 then c.batchBegin else []) ++ Delete.leadFragments c x.table x.hints,
      filters.head?, ""⟩

/-- Keys that do not fit into one statement take several. -/
theorem one_lt_length_chunks {s : Setting} {keys : List Value} (h : fitsOne s keys = false) :
    1 < (chunks (chunkSize s) keys).length := by
  obtain ⟨pos, parameters, -⟩ := chunkSize_bounds h
  simp only [fitsOne, Bool.or_eq_false_iff, beq_eq_false_iff_ne, decide_eq_false_iff_not] at h
  have flat := flatten_chunks (chunkSize s) keys
  have bounds : ∀ piece ∈ chunks (chunkSize s) keys, piece.length ≤ chunkSize s :=
    fun piece hp => (mem_chunks pos hp).2
  generalize chunks (chunkSize s) keys = pieces at flat bounds ⊢
  cases pieces with
  | nil =>
    rw [← flat] at h
    simp at h
  | cons piece rest =>
    cases rest with
    | nil =>
      have bound := bounds piece List.mem_cons_self
      rw [List.flatten_singleton] at flat
      rw [flat] at bound
      omega
    | cons => simp

section Keys

variable {table : String} {hints : Option String} {key : Field} {keys : List Value} {d₀ : Draft}

/-- A delete with a list of keys is written, whatever the draft, if the key renders. -/
theorem exists_writeRow {piece : List Value} (hp : piece ≠ []) {size : Nat}
    (named : key.isBlank = false ∧ Parameter.baseName c.setting.quotes key.name ≠ "") (d : Draft) :
    ∃ d', Delete.writeRow c ⟨table, some (keyFilter key piece size), hints⟩ d = .ok d' := by
  cases h : Delete.writeRow c ⟨table, some (keyFilter key piece size), hints⟩ d with
  | ok d' => exact ⟨d', rfl⟩
  | error stopped =>
    obtain ⟨p, hf, -, rendered, -⟩ := Draft.filtered_eq_error_iff.1 h
    cases hf
    obtain ⟨f, hf⟩ := (exists_tokens_keyFilter hp).2 named
    rw [hf] at rendered
    cases rendered

theorem exists_writeChunks {pieces : List (List Value)} (hp : ∀ piece ∈ pieces, piece ≠ [])
    (named : key.isBlank = false ∧ Parameter.baseName c.setting.quotes key.name ≠ "") :
    ∃ d, writeChunks c ⟨table, some (key, keys), hints⟩ key pieces d₀ = .ok d := by
  refine c.exists_writeBatch (fun row hr d => ?_) d₀
  obtain ⟨piece, mem, rfl⟩ := List.mem_map.1 hr
  exact exists_writeRow (hp piece mem) named d

/-- Several deletes are stopped in the first of them: the key is the same in all. -/
theorem writeChunks_error (several : fitsOne c.setting keys = false)
    {stopped : Halted}
    (h : writeChunks c ⟨table, some (key, keys), hints⟩ key
      (chunks (chunkSize c.setting) keys) d₀ = .error stopped) :
    Delete.writeRow c ⟨table, (filters c.setting key keys).head?, hints⟩
      (c.beginBatch d₀) = .error stopped := by
  obtain ⟨pos, -⟩ := chunkSize_bounds several
  have many := one_lt_length_chunks several
  have nonempty : ∀ piece ∈ chunks (chunkSize c.setting) keys, piece ≠ [] :=
    fun piece hp => (mem_chunks pos hp).1
  rw [filters, if_neg (Bool.eq_false_iff.1 several)]
  generalize chunks (chunkSize c.setting) keys = pieces at h many nonempty ⊢
  cases pieces with
  | nil => simp at many
  | cons piece rest =>
    cases first : Delete.writeRow c
        ⟨table, some (keyFilter key piece (chunkSize c.setting)), hints⟩ (c.beginBatch d₀) with
    | error stopped' =>
      rw [writeChunks, List.map_cons, Compiler.writeBatch, if_pos (by simpa using many),
        c.writeRows_of_error first] at h
      cases h
      exact first
    | ok d =>
      -- The first delete is written, so the key renders, and no other delete can be stopped.
      have hp := nonempty piece List.mem_cons_self
      obtain ⟨f, rendered, -⟩ := Delete.writeRow_ok (keyFilter_isEmpty hp _) first
      have named := (exists_tokens_keyFilter hp).1 ⟨f, rendered⟩
      obtain ⟨d', written⟩ := exists_writeChunks nonempty named
      rw [written] at h
      cases h

theorem frame_some :
    frame c ⟨table, some (key, keys), hints⟩ =
      ⟨(if (filters c.setting key keys).length > 1 then c.batchBegin else []) ++
        Delete.leadFragments c table hints, (filters c.setting key keys).head?, ""⟩ := rfl

theorem frame_of_fitsOne (one : fitsOne c.setting keys) :
    frame c ⟨table, some (key, keys), hints⟩ =
      Delete.frame c ⟨table, some (keyFilter key keys c.setting.maxListSize), hints⟩ := by
  simp [frame_some, filters, one, Delete.frame]

theorem frame_of_not_fitsOne (several : fitsOne c.setting keys = false) :
    frame c ⟨table, some (key, keys), hints⟩ =
      ⟨c.batchBegin ++ Delete.leadFragments c table hints, (filters c.setting key keys).head?,
        ""⟩ := by
  have many := one_lt_length_chunks several
  simp [frame_some, filters, several, many]

/-- What was written begins with the first delete, and no other delete can be stopped. -/
theorem describes_planKeys {w : Written}
    (h : planKeys c ⟨table, some (key, keys), hints⟩ key keys d₀ = .ok w) :
    (frame c ⟨table, some (key, keys), hints⟩).Describes c.setting w where
  stopped := by
    rintro stopped rfl
    obtain ⟨-, -, h⟩ := bind_eq_ok_iff.1 h
    cases one : fitsOne c.setting keys with
    | true =>
      rw [if_pos one] at h
      obtain ⟨-, -, h⟩ := bind_eq_ok_iff.1 h
      have written := Except.ok.inj h
      rw [Delete.write_eq] at written
      rw [frame_of_fitsOne one]
      exact (Frame.describes_write (Appends.finish c hints)).stopped stopped written
    | false =>
      rw [if_neg (Bool.eq_false_iff.1 one)] at h
      obtain ⟨-, -, h⟩ := bind_eq_ok_iff.1 h
      obtain ⟨-, -, h⟩ := bind_eq_ok_iff.1 h
      have first := writeChunks_error one (Except.ok.inj h)
      rw [Delete.writeRow, Delete.lead_eq, c.beginBatch_eq, Draft.append_append] at first
      obtain ⟨p, hp, nonempty, rendered, draft⟩ := Draft.filtered_eq_error_iff.1 first
      rw [frame_of_not_fitsOne one]
      exact ⟨draft, p, hp, nonempty, rendered⟩
  written := by
    rintro d p rfl hp nonempty
    obtain ⟨-, conditions, rendered, fragments⟩ := planKeys_ok h
    obtain ⟨filters', split⟩ : ∃ ps, filters c.setting key keys = p :: ps :=
      List.head?_eq_some_iff.1 hp
    rw [split] at rendered
    obtain _ | @⟨_, f, _, fs, hf, rest⟩ := rendered
    have count := rest.length_eq
    rw [List.length_zipIdx] at count
    obtain ⟨ends, first⟩ := c.exists_batch_cons hints (Delete.conditioned c table hints f)
      (fs.map (Delete.conditioned c table hints))
    refine ⟨f, ends, hf, ?_⟩
    rw [fragments, List.map_cons, first, frame_some, split]
    simp [Delete.conditioned, condition, whereWord, count]

end Keys

end DeleteAll

/-! ## Statements that are never stopped -/

section Unstopped

variable {c : Compiler} {d₀ : Draft}

theorem InsertAll.exists_of_plan {i : InsertAll} {w : Written} (h : i.plan c d₀ = .ok w) :
    ∃ d, w = .ok d := by
  obtain ⟨-, -, h⟩ := bind_eq_ok_iff.1 h
  obtain ⟨-, -, h⟩ := bind_eq_ok_iff.1 h
  obtain ⟨fields, -, h⟩ := bind_eq_ok_iff.1 h
  obtain ⟨d, written⟩ : ∃ d, i.write c fields d₀.clear = .ok d :=
    c.exists_writeBatch_replicate _ _ _
  exact ⟨d, (Except.ok.inj h).symm.trans written⟩

theorem UpdateAll.exists_of_plan {u : UpdateAll} {w : Written} (h : u.plan c d₀ = .ok w) :
    ∃ d, w = .ok d := by
  obtain ⟨-, -, h⟩ := bind_eq_ok_iff.1 h
  obtain ⟨qualifiers, -, h⟩ := bind_eq_ok_iff.1 h
  obtain ⟨-, -, h⟩ := bind_eq_ok_iff.1 h
  obtain ⟨d, written⟩ : ∃ d, u.write c (u.settable qualifiers) qualifiers d₀.clear = .ok d :=
    c.exists_writeBatch_replicate _ _ _
  exact ⟨d, (Except.ok.inj h).symm.trans written⟩

end Unstopped

/-! ## Where a statement is stopped -/

namespace Statement

variable {c : Compiler} {st : Statement} {d₀ : Draft}

/-- The filter of a statement with what stands before it. A statement has no place for a filter if
it takes none, or if it is an average whose type does not fit. -/
def frame? (c : Compiler) : Statement → Option Frame
  | .query q => some (q.frame c)
  | .pageQuery q => some (q.frame c)
  | .existsQuery q => some (q.frame c)
  | .aggregateQuery q => (q.expression c).toOption.map (q.frame c)
  | .update u => some (u.frame c)
  | .delete x => some (x.frame c)
  | .deleteAll x => some (x.frame c)
  | _ => none

/-- The error with which a statement is stopped, and the fragments that it has written by then. -/
inductive StoppedAt (c : Compiler) : Statement → Error → List Fragment → Prop
  /-- The filter does not render: what stands before it is written. -/
  | filter {st : Statement} {fr : Frame} {p : Predicate} {e : Error} (place : st.frame? c = some fr)
      (filter : fr.filter = some p) (nonempty : p.isEmpty = false)
      (rendered : p.render ⟨0, fr.leading⟩ c.setting = .error e) : StoppedAt c st e fr.before
  /-- The type of an average does not fit: what stands before the average is written. -/
  | average {q : AggregateQuery} {f : Field} {e : Error} (average : q.aggregate = .average)
      (field : q.field = some f) (type : AggregateQuery.averageArgument c f = .error e) :
      StoppedAt c (.aggregateQuery q) e (q.openingFragments c)

theorem describes {fr : Frame} {w : Written} (place : st.frame? c = some fr)
    (h : st.plan c d₀ = .ok w) : fr.Describes c.setting w := by
  cases st with
  | query q =>
    cases place
    obtain ⟨-, -, h⟩ := bind_eq_ok_iff.1 h
    rw [← Except.ok.inj h, q.write_eq]
    exact Frame.describes_write (q.appends_writeEnd c)
  | pageQuery q =>
    cases place
    obtain ⟨-, -, h⟩ := bind_eq_ok_iff.1 h
    rw [← Except.ok.inj h, q.write_eq]
    exact Frame.describes_write (q.appends_writeEnd c)
  | existsQuery q =>
    cases place
    obtain ⟨-, -, h⟩ := bind_eq_ok_iff.1 h
    rw [← Except.ok.inj h, q.write_eq]
    exact Frame.describes_write (q.appends_writeEnd c)
  | aggregateQuery q =>
    obtain ⟨-, -, h⟩ := bind_eq_ok_iff.1 h
    rw [← Except.ok.inj h, q.write_eq]
    rw [frame?] at place
    cases he : q.expression c with
    | error e =>
      rw [he] at place
      cases place
    | ok f =>
      rw [he] at place
      cases place
      exact Frame.describes_write (Appends.finish c q.hints)
  | update u =>
    cases place
    obtain ⟨-, -, h⟩ := bind_eq_ok_iff.1 h
    obtain ⟨-, -, h⟩ := bind_eq_ok_iff.1 h
    rw [← Except.ok.inj h, u.write_eq]
    exact Frame.describes_write (Appends.finish c u.hints)
  | delete x =>
    cases place
    obtain ⟨-, -, h⟩ := bind_eq_ok_iff.1 h
    rw [← Except.ok.inj h, x.write_eq]
    exact Frame.describes_write (Appends.finish c x.hints)
  | deleteAll x =>
    cases place
    obtain ⟨table, keys, hints⟩ := x
    cases keys with
    | some selection => exact DeleteAll.describes_planKeys h
    | none =>
      obtain ⟨-, -, h⟩ := bind_eq_ok_iff.1 h
      rw [← Except.ok.inj h, Delete.write_eq]
      exact Frame.describes_write (Appends.finish c hints)
  | insert | insertAll | updateAll | merge | truncate => cases place

/-- Without a place for a filter, only the type of an average stops a statement. -/
theorem stoppedAt_of_frame?_none {stopped : Halted} (place : st.frame? c = none)
    (h : st.plan c d₀ = .ok (.error stopped)) :
    ∃ fs, st.StoppedAt c stopped.cause fs ∧ stopped.draft = Draft.empty.append fs := by
  cases st with
  | aggregateQuery q =>
    obtain ⟨-, -, h⟩ := bind_eq_ok_iff.1 h
    have written := Except.ok.inj h
    rw [q.write_eq] at written
    rw [frame?] at place
    cases he : q.expression c with
    | ok f =>
      rw [he] at place
      cases place
    | error e =>
      rw [he] at written
      cases written
      obtain ⟨average, f, field, type⟩ := (AggregateQuery.expression_eq_error_iff c).1 he
      exact ⟨_, .average average field type, rfl⟩
  | insert i =>
    obtain ⟨-, -, h⟩ := bind_eq_ok_iff.1 h
    obtain ⟨fields, -, h⟩ := bind_eq_ok_iff.1 h
    cases h
  | insertAll i =>
    obtain ⟨d, written⟩ := InsertAll.exists_of_plan h
    cases written
  | updateAll u =>
    obtain ⟨d, written⟩ := UpdateAll.exists_of_plan h
    cases written
  | merge m =>
    obtain ⟨-, -, h⟩ := bind_eq_ok_iff.1 h
    obtain ⟨roles, -, h⟩ := bind_eq_ok_iff.1 h
    cases h
  | truncate t =>
    obtain ⟨-, -, h⟩ := bind_eq_ok_iff.1 h
    cases h
  | query | pageQuery | existsQuery | update | delete | deleteAll => cases place

theorem stoppedAt_of_plan {stopped : Halted} (h : st.plan c d₀ = .ok (.error stopped)) :
    ∃ fs, st.StoppedAt c stopped.cause fs ∧ stopped.draft = Draft.empty.append fs := by
  cases place : st.frame? c with
  | none => exact stoppedAt_of_frame?_none place h
  | some fr =>
    obtain ⟨draft, p, hp, nonempty, rendered⟩ := (describes place h).stopped stopped rfl
    exact ⟨fr.before, .filter place hp nonempty (Predicate.render_eq_error_iff.2 rendered), draft⟩

/-! ## No word for a condition -/

def table : Statement → String
  | .query q => q.table
  | .pageQuery q => q.table
  | .existsQuery q => q.table
  | .aggregateQuery q => q.table
  | .insert i => i.table
  | .insertAll i => i.table
  | .update u => u.table
  | .updateAll u => u.table
  | .merge m => m.table
  | .delete x => x.table
  | .deleteAll x => x.table
  | .truncate t => t.table

def hints : Statement → Option String
  | .query q => q.hints
  | .pageQuery q => q.hints
  | .existsQuery q => q.hints
  | .aggregateQuery q => q.hints
  | .insert i => i.hints
  | .insertAll i => i.hints
  | .update u => u.hints
  | .updateAll u => u.hints
  | .merge m => m.hints
  | .delete x => x.hints
  | .deleteAll x => x.hints
  | .truncate _ => none

end Statement

/-- The hints or the table read like the word in front of a condition. -/
def SpellsWhere (c : Compiler) (table : String) (hints : Option String) : Prop :=
  hints.map Text.trim = some "WHERE" ∨ c.setting.quotes.table table = "WHERE"

section WhereWord

variable {c : Compiler} {table : String} {hints : Option String} {place : Placement}

/-- A list of items that begin with a column is not a plain text. -/
theorem Fragment.commaList_ne_text {α : Type} (q : α → String) (r : α → Fragment) (xs : List α)
    (t : String) : commaList (xs.map fun x => .column (q x) :: r x) ≠ [.text t] := by
  cases xs <;> simp [commaList, join, joinFrom]

theorem spellsWhere_of_mem_hintsAt (h : whereWord ∈ c.hintsAt place hints) :
    SpellsWhere c table hints := by
  obtain ⟨text, rfl, same⟩ := c.mem_hintsAt h
  simp only [whereWord, List.cons.injEq, Token.text.injEq, and_true] at same
  exact .inl (congrArg some same.symm)

theorem spellsWhere_of_mem_table
    (h : whereWord ∈ Fragment.kept [.text (c.setting.quotes.table table)]) :
    SpellsWhere c table hints := by
  have same := Fragment.mem_kept h
  simp only [whereWord, List.cons.injEq, Token.text.injEq, and_true] at same
  exact .inr same.symm

theorem Query.spellsWhere_of_mem_lead {fields : List Field}
    (h : whereWord ∈ leadFragments c table fields hints) : SpellsWhere c table hints := by
  simp only [leadFragments, List.mem_append, List.mem_singleton] at h
  obtain (((h | h) | h) | h) | h := h
  · cases h
  · exact spellsWhere_of_mem_hintsAt h
  · exact absurd (Fragment.mem_kept h).symm
      (Fragment.commaList_ne_text (fun f : Field => f.column c.setting) (fun _ => []) fields _)
  · cases h
  · exact spellsWhere_of_mem_table h

theorem ExistsQuery.spellsWhere_of_mem_lead {q : ExistsQuery} (h : whereWord ∈ q.leadFragments c) :
    SpellsWhere c q.table q.hints := by
  simp only [leadFragments, List.mem_append, List.mem_singleton] at h
  obtain ((h | h) | h) | h := h
  · cases h
  · exact spellsWhere_of_mem_hintsAt h
  · simp [whereWord] at h
  · exact spellsWhere_of_mem_table h

theorem AggregateQuery.spellsWhere_of_mem_opening {q : AggregateQuery}
    (h : whereWord ∈ q.openingFragments c) : SpellsWhere c q.table q.hints := by
  rw [openingFragments, List.mem_append, List.mem_singleton] at h
  obtain h | h := h
  · cases h
  · exact spellsWhere_of_mem_hintsAt h

/-- An expression is a call, and not a plain text. -/
theorem AggregateQuery.expression_ne_whereWord {q : AggregateQuery} {f : Fragment}
    (h : q.expression c = .ok f) : f ≠ whereWord := by
  have call : ∃ function argument, f = callTokens function argument := by
    unfold expression at h
    split at h
    case h_4 =>
      obtain ⟨argument, -, rfl⟩ := map_eq_ok_iff.1 h
      exact ⟨_, _, rfl⟩
    all_goals exact ⟨_, _, (Except.ok.inj h).symm⟩
  obtain ⟨function, argument, rfl⟩ := call
  simp [callTokens, whereWord]

theorem AggregateQuery.spellsWhere_of_mem_lead {q : AggregateQuery} {f : Fragment}
    (he : q.expression c = .ok f) (h : whereWord ∈ q.leadFragments c f) :
    SpellsWhere c q.table q.hints := by
  simp only [leadFragments, List.mem_append, List.mem_singleton] at h
  obtain ((h | h) | h) | h := h
  · exact spellsWhere_of_mem_opening h
  · exact absurd h.symm (expression_ne_whereWord he)
  · simp [whereWord] at h
  · exact spellsWhere_of_mem_table h

theorem Update.spellsWhere_of_mem_lead {u : Update} (h : whereWord ∈ u.leadFragments c) :
    SpellsWhere c u.table u.hints := by
  simp only [leadFragments, List.mem_append, List.mem_singleton] at h
  obtain (((h | h) | h) | h) | h := h
  · cases h
  · exact spellsWhere_of_mem_hintsAt h
  · exact spellsWhere_of_mem_table h
  · cases h
  · exact absurd (Fragment.mem_kept h).symm
      (Fragment.commaList_ne_text (fun f : Field => f.column c.setting)
        (fun f => [.text " = ", .marker (f.cell c.setting 0)]) u.settable _)

theorem Delete.spellsWhere_of_mem_lead (h : whereWord ∈ leadFragments c table hints) :
    SpellsWhere c table hints := by
  simp only [leadFragments, List.mem_append, List.mem_singleton] at h
  obtain ((h | h) | h) | h := h
  · cases h
  · exact spellsWhere_of_mem_hintsAt h
  · cases h
  · exact spellsWhere_of_mem_table h

theorem DeleteAll.spellsWhere_of_mem_frame {x : DeleteAll} (h : whereWord ∈ (x.frame c).before) :
    SpellsWhere c x.table x.hints := by
  obtain ⟨table, keys, hints⟩ := x
  cases keys with
  | none => exact Delete.spellsWhere_of_mem_lead h
  | some selection =>
    obtain h | h := List.mem_append.1 h
    · split at h
      · unfold Compiler.batchBegin at h
        split at h <;> simp [whereWord] at h
      · cases h
    · exact Delete.spellsWhere_of_mem_lead h

end WhereWord

namespace Statement

variable {c : Compiler} {st : Statement}

theorem spellsWhere_of_mem_frame {fr : Frame} (place : st.frame? c = some fr)
    (h : whereWord ∈ fr.before) : SpellsWhere c st.table st.hints := by
  cases st with
  | query q =>
    cases place
    exact Query.spellsWhere_of_mem_lead h
  | pageQuery q =>
    cases place
    exact Query.spellsWhere_of_mem_lead h
  | existsQuery q =>
    cases place
    exact ExistsQuery.spellsWhere_of_mem_lead h
  | aggregateQuery q =>
    rw [frame?] at place
    cases he : q.expression c with
    | error e =>
      rw [he] at place
      cases place
    | ok f =>
      rw [he] at place
      cases place
      exact AggregateQuery.spellsWhere_of_mem_lead he h
  | update u =>
    cases place
    exact Update.spellsWhere_of_mem_lead h
  | delete x =>
    cases place
    exact Delete.spellsWhere_of_mem_lead h
  | deleteAll x =>
    cases place
    exact DeleteAll.spellsWhere_of_mem_frame h
  | insert | insertAll | updateAll | merge | truncate => cases place

theorem StoppedAt.spellsWhere {e : Error} {fs : List Fragment} (stopped : st.StoppedAt c e fs)
    (h : whereWord ∈ fs) : SpellsWhere c st.table st.hints := by
  cases stopped with
  | filter place => exact spellsWhere_of_mem_frame place h
  | average => exact AggregateQuery.spellsWhere_of_mem_opening h

end Statement

/-! ## Failed compilations -/

namespace Compiler

/-- A compilation that fails leaves the draft alone, or the statement is stopped: then the draft is
in its first row and holds what stands before the condition or before the average. The word in front
of a condition is not among that, unless the hints or the table read like it. A statement with a
filter that compiles has the condition right behind what stands before it. -/
theorem compile_framed (c : Compiler) (st : Statement) (d : Draft) :
    (∀ e d', c.compile st d = (.error e, d') →
      (st.plan c d = .error e ∧ d' = d) ∨
        ((st.plan c d).isOk ∧ st.StoppedAt c e d'.fragments.toList ∧ d'.row = 0 ∧
          (whereWord ∈ d'.fragments.toList → SpellsWhere c st.table st.hints))) ∧
      ∀ sql d' fr p, c.compile st d = (.ok sql, d') → st.frame? c = some fr →
        fr.filter = some p → p.isEmpty = false →
          ∃ f rest, p.tokens ⟨0, fr.leading⟩ c.setting = .ok f ∧
            d'.fragments.toList = fr.before ++ condition f ++ rest := by
  constructor
  · intro e d' failed
    obtain refused | stopped := compile_eq_error_iff.1 failed
    · exact .inl refused
    · obtain ⟨fs, place, draft⟩ := Statement.stoppedAt_of_plan stopped
      have left : d' = Draft.empty.append fs := draft
      have fragments : d'.fragments.toList = fs := by
        rw [left, Draft.toList_append]
        rfl
      rw [fragments]
      refine .inr ⟨by rw [stopped]; rfl, place, ?_, place.spellsWhere⟩
      rw [left, Draft.row_append]
      rfl
  · intro sql d' fr p compiled place hp nonempty
    obtain ⟨planned, -⟩ := compile_eq_ok_iff.1 compiled
    exact (Statement.describes place planned).written d' p rfl hp nonempty

/-- A delete whose filter has a blank field, behind a batch that was left in its sixth row. -/
theorem compile_framed_blank_field :
    let c : Compiler := ⟨.oracle, Dialect.oracle.setting⟩
    let leftover : Draft := ⟨#[[.text "WHERE"]], 5⟩
    let st : Statement :=
      .delete ⟨"Users", some (.all [.equal " " (.ofString "Ann")]), some "/*+ FULL */"⟩
    ∃ d', c.compile st leftover = (.error .blankField, d') ∧
      st.StoppedAt c .blankField d'.fragments.toList ∧ d'.row = 0 ∧
      whereWord ∉ d'.fragments.toList := by
  intro c leftover st
  obtain ⟨left, failed⟩ : ∃ d', c.compile st leftover = (.error .blankField, d') :=
    ⟨_, Prod.ext (by decide +kernel) rfl⟩
  obtain ⟨refused, -⟩ | ⟨-, place, row, spelled⟩ :=
    (c.compile_framed st leftover).1 .blankField left failed
  · have accepted : (st.plan c leftover).isOk := by decide +kernel
    rw [refused] at accepted
    cases accepted
  · refine ⟨left, failed, place, row, fun h => ?_⟩
    have plain : ¬ SpellsWhere c st.table st.hints := by
      simp only [SpellsWhere]
      decide +kernel
    exact plain (spelled h)

end Compiler

end CrossSql
