import CrossSql.Proofs.Batch
import CrossSql.Proofs.Predicate.FreshNames
import CrossSql.Proofs.Statement.KeyFilter
import CrossSql.Statement.Basic

/-!
# Scoped deletes

A scoped delete takes the rows whose key is in a list. Every statement of it has a condition, and
the conditions bind the keys, each of them once and in order. No list and no statement is longer
than the setting allows, and no name is used twice.

## Main definitions

* `Rendered`: the fragment to which a filter renders in its row.
* `DeleteAll.filters`: the filters of the statements.
* `nodup_keyNames`: the names of the keys in several statements.
* `DeleteAll.Scoped`: what is known of a scoped delete that was written.
* `DeleteAll.compile_scoped`: what a scoped delete compiles to.
-/

namespace CrossSql

open Text

/-- The fragment to which the predicate renders in the row. -/
def Rendered (s : Setting) (p : Predicate × Nat) (f : Fragment) : Prop :=
  p.1.tokens ⟨p.2, ""⟩ s = .ok f

namespace Rendered

variable {s : Setting}

/-- The values that the parameters of a rendered predicate are bound to. -/
theorem origins {p : Predicate × Nat} {f : Fragment} (h : Rendered s p f) :
    f.markers.map Marker.origin =
      (p.1.comparisons.flatMap Comparison.operands).map Origin.operand := by
  obtain ⟨cs, hc, markers⟩ := Predicate.tokens_ok h
  have values := Predicate.values_parameters h
  rw [Fragment.parameters_of_markers markers] at values
  rw [markers, ← values, List.map_map, List.map_map]
  rfl

theorem nodup {p : Predicate × Nat} {f : Fragment} (h : Rendered s p f) :
    (f.markers.map fun m => lower m.name).Nodup := by
  obtain ⟨cs, hc, markers⟩ := Predicate.tokens_ok h
  have names := Predicate.nodup_names h
  rw [Fragment.parameters_of_markers markers] at names
  rw [markers, List.map_map]
  exact names

variable {k : Nat} {ps : List Predicate} {fs : List Fragment}

theorem origins_flatMap (h : List.Forall₂ (Rendered s) (ps.zipIdx k) fs) :
    (fs.flatMap Fragment.markers).map Marker.origin =
      (ps.flatMap fun p => p.comparisons.flatMap Comparison.operands).map Origin.operand := by
  induction ps generalizing k fs with
  | nil =>
    cases h
    rfl
  | cons p ps ih =>
    obtain _ | ⟨first, rest⟩ := h
    rw [List.flatMap_cons, List.flatMap_cons, List.map_append, List.map_append, ih rest,
      first.origins]

theorem exists_of_mem (h : List.Forall₂ (Rendered s) (ps.zipIdx k) fs) {f : Fragment}
    (hf : f ∈ fs) : ∃ p ∈ ps, ∃ i, Rendered s (p, i) f := by
  induction ps generalizing k fs with
  | nil =>
    cases h
    cases hf
  | cons p ps ih =>
    obtain _ | ⟨first, rest⟩ := h
    rcases List.mem_cons.1 hf with rfl | hf
    · exact ⟨p, List.mem_cons_self, k, first⟩
    · obtain ⟨q, hq, hr⟩ := ih rest hf
      exact ⟨q, List.mem_cons_of_mem p hq, hr⟩

end Rendered

/-! ## Deletes with a condition -/

namespace Predicate

theorem outline_eq_enclose {q : Quotes} {p : Predicate} {ps : List Piece}
    (h : p.outline q = .ok ps) :
    ∃ conjunction negated members, ps = enclose conjunction negated members := by
  obtain ⟨comparisons, groups, conjunction, negated⟩ := p
  rw [outline, bind_eq_ok_iff] at h
  obtain ⟨clauses, -, h⟩ := h
  obtain ⟨members, -, h⟩ := bind_eq_ok_iff.1 h
  exact ⟨conjunction, negated, _, (Except.ok.inj h).symm⟩

/-- A rendered predicate has a text, since it has parentheses. -/
theorem text_tokens_ne {p : Predicate} {sc : Scope} {s : Setting} {f : Fragment}
    (h : p.tokens sc s = .ok f) : f.text ≠ "" := by
  obtain ⟨ps, ho, rfl⟩ := map_eq_ok_iff.1 h
  obtain ⟨conjunction, negated, members, rfl⟩ := outline_eq_enclose ho
  cases negated <;> simp [enclose, Names.fill, Token.written]

end Predicate

namespace Delete

variable {c : Compiler} {table : String} {hints : Option String}

/-- A delete with a condition, without its end. -/
def conditioned (c : Compiler) (table : String) (hints : Option String) (condition : Fragment) :
    List Fragment :=
  leadFragments c table hints ++ [[.text "WHERE"], condition]

theorem markers_conditioned (condition : Fragment) :
    (conditioned c table hints condition).flatMap Fragment.markers = condition.markers := by
  simp [conditioned, leadFragments, List.flatMap_append, Compiler.markers_hintsAt,
    Fragment.markers_kept_text, Token.marker?]

/-- A delete with a filter that is not empty has the filter as its condition. -/
theorem writeRow_ok {p : Predicate} (hp : p.isEmpty = false) {d d' : Draft}
    (h : writeRow c ⟨table, some p, hints⟩ d = .ok d') :
    ∃ f, Rendered c.setting (p, d.row) f ∧ d' = d.append (conditioned c table hints f) := by
  simp only [writeRow, Draft.filtered, mapError_eq_ok_iff, Draft.filter?, hp, lead_eq,
    Draft.row_append] at h
  obtain ⟨f, hf, rfl⟩ := map_eq_ok_iff.1 h
  refine ⟨f, hf, ?_⟩
  rw [Draft.write_where_add _ (Predicate.text_tokens_ne hf), Draft.append_append, conditioned]

theorem plan_ok {p : Predicate} (hp : p.isEmpty = false) {d₀ d : Draft}
    (h : plan c ⟨table, some p, hints⟩ d₀ = .ok (.ok d)) :
    ∃ f, Rendered c.setting (p, 0) f ∧
      d.fragments.toList = c.batch hints [conditioned c table hints f] := by
  obtain ⟨-, -, h⟩ := bind_eq_ok_iff.1 h
  obtain ⟨written, hw, h⟩ := bind_eq_ok_iff.1 (Except.ok.inj h)
  obtain ⟨f, hf, rfl⟩ := writeRow_ok hp hw
  refine ⟨f, hf, ?_⟩
  rw [← Except.ok.inj h, c.finish_eq, c.batch_singleton, Draft.append_append, Draft.toList_append]
  rfl

end Delete

/-! ## The filters of a scoped delete -/

namespace DeleteAll

variable {s : Setting} {key : Field} {keys : List Value}

/-- The filters of the statements in order: one for all keys, or one for each piece of them. -/
def filters (s : Setting) (key : Field) (keys : List Value) : List Predicate :=
  if fitsOne s keys then [keyFilter key keys s.maxListSize]
  else (chunks (chunkSize s) keys).map (keyFilter key · (chunkSize s))

/-- Several statements are needed under a limit only, and pieces of the keys keep to both limits. -/
theorem chunkSize_bounds (h : fitsOne s keys = false) :
    0 < chunkSize s ∧ chunkSize s ≤ s.maxParameters ∧
      (s.maxListSize ≠ 0 → chunkSize s ≤ s.maxListSize) := by
  simp only [fitsOne, Bool.or_eq_false_iff, beq_eq_false_iff_ne] at h
  unfold chunkSize
  split <;> omega

theorem mem_filters (hk : keys ≠ []) {p : Predicate} (hp : p ∈ filters s key keys) :
    ∃ piece size, p = keyFilter key piece size ∧ piece ≠ [] ∧
      (s.maxListSize ≠ 0 → size ≠ 0 ∧ size ≤ s.maxListSize) ∧
      (s.maxParameters ≠ 0 → piece.length ≤ s.maxParameters) := by
  unfold filters at hp
  split at hp
  case isTrue one =>
    refine ⟨keys, s.maxListSize, List.mem_singleton.1 hp, hk, fun hm => ⟨hm, Nat.le_refl _⟩,
      fun hm => ?_⟩
    simpa [fitsOne, hm] using one
  case isFalse several =>
    obtain ⟨pos, parameters, list⟩ := chunkSize_bounds (Bool.eq_false_iff.2 several)
    obtain ⟨piece, hpiece, rfl⟩ := List.mem_map.1 hp
    obtain ⟨hne, bound⟩ := mem_chunks pos hpiece
    exact ⟨piece, chunkSize s, rfl, hne, fun hm => ⟨by omega, list hm⟩, fun _ => by omega⟩

/-- The comparisons of the filters bind the keys in order. -/
theorem operands_filters (s : Setting) (key : Field) (keys : List Value) :
    (filters s key keys).flatMap (fun p => p.comparisons.flatMap Comparison.operands) = keys := by
  unfold filters
  split
  · rw [List.flatMap_singleton, operands_keyFilter]
  · simp only [List.flatMap_map, operands_keyFilter]
    exact List.flatMap_id'.trans (flatten_chunks _ keys)

/-- What a scoped delete writes: a delete for every filter, with the filter as its condition. -/
theorem planKeys_ok {c : Compiler} {table : String} {hints : Option String}
    {keys' : Option (Field × List Value)} {d₀ d : Draft}
    (h : planKeys c ⟨table, keys', hints⟩ key keys d₀ = .ok (.ok d)) :
    keys ≠ [] ∧ ∃ conditions,
      List.Forall₂ (Rendered c.setting) (filters c.setting key keys).zipIdx conditions ∧
      d.fragments.toList = c.batch hints (conditions.map (Delete.conditioned c table hints)) := by
  obtain ⟨_, passed, h⟩ := bind_eq_ok_iff.1 h
  have hk : keys ≠ [] := by simpa using passed
  refine ⟨hk, ?_⟩
  by_cases one : fitsOne c.setting keys
  · rw [if_pos one] at h
    obtain ⟨f, hf, fragments⟩ := Delete.plan_ok (keyFilter_isEmpty hk _) h
    refine ⟨[f], ?_, fragments⟩
    rw [filters, if_pos one]
    exact .cons hf .nil
  · rw [if_neg one] at h
    obtain ⟨-, -, h⟩ := bind_eq_ok_iff.1 h
    obtain ⟨-, -, h⟩ := bind_eq_ok_iff.1 h
    have pos := (chunkSize_bounds (Bool.eq_false_iff.2 one)).1
    have spec : ∀ p ∈ filters c.setting key keys, ∀ d d' : Draft,
        Delete.writeRow c ⟨table, .some p, hints⟩ d = .ok d' →
          ∃ f, Rendered c.setting (p, d.row) f ∧
            d' = d.append (Delete.conditioned c table hints f) := by
      intro p hp d d' hw
      obtain ⟨piece, size, rfl, hne, -⟩ := mem_filters hk hp
      exact Delete.writeRow_ok (keyFilter_isEmpty hne _) hw
    have rows : (chunks (chunkSize c.setting) keys).map (fun piece =>
        Delete.writeRow c ⟨table, .some (keyFilter key piece (chunkSize c.setting)), hints⟩) =
        (filters c.setting key keys).map fun p => Delete.writeRow c ⟨table, .some p, hints⟩ := by
      rw [filters, if_neg one, List.map_map]
      rfl
    have written := Except.ok.inj h
    rw [writeChunks, rows] at written
    exact c.writeBatch_ok spec written

end DeleteAll

/-! ## Names in several statements -/

theorem Names.bindAll_singleton (sc : Scope) (c : Clause) :
    Names.empty.bindAll sc [c] = parameters (sc.candidate c.base 0) c.slots := by
  rw [bindAll, bindAll, fst_bind, choose_empty, List.append_nil]

/-- What the parameter for a key is called if the list is the only one of the statement: the rows
tell statements apart, and the number tells keys of one statement apart. -/
def keyName (base : String) (row number : Nat) : String :=
  base ++ Parameter.numberSuffix row ++ "_In_" ++ toString number

theorem keyName_injective {base : String} {i j m n : Nat}
    (h : lower (keyName base i m) = lower (keyName base j n)) : i = j ∧ m = n := by
  have numbers : m = n := by
    by_contra ne
    have apart : EndApart ("_In_" ++ toString m) ("_In_" ++ toString n) :=
      endApart_numbered "_In" ne
    refine apart (base ++ Parameter.numberSuffix i) (base ++ Parameter.numberSuffix j) ?_
    simpa only [keyName, String.append_assoc] using h
  subst numbers
  refine ⟨Parameter.numberSuffix_injective ?_, rfl⟩
  simp only [keyName, lower_append, Parameter.lower_numberSuffix] at h
  simpa using h

/-- The slots of a comparison of a key with a list. -/
theorem Comparison.clause_keyIn_ok {key : Field} {values : List Value} {q : Quotes} {cl : Clause}
    (h : (keyIn key values).clause q = .ok cl) :
    cl.base = Parameter.baseName q key.name ∧ cl.slots = listSlots 0 values := by
  unfold clause at h
  rw [operandClause_list rfl] at h
  split_ifs at h
  obtain ⟨rfl, -⟩ := slotted_ok h
  exact ⟨rfl, rfl⟩

/-- Keys that fit into one list are numbered in order. -/
theorem names_keyFilter {s : Setting} {key : Field} {piece : List Value} {size i : Nat}
    (hp : piece ≠ [] ∧ piece.length ≤ size) {f : Fragment}
    (h : Rendered s (keyFilter key piece size, i) f) :
    f.markers.map Marker.name =
      (List.range piece.length).map (keyName (Parameter.baseName s.quotes key.name) i) := by
  rw [keyFilter_of_length_le hp.1 hp.2] at h
  obtain ⟨cs, hc, markers⟩ := Predicate.tokens_ok h
  obtain ⟨cl, hcl, hc⟩ := bind_eq_ok_iff.1 hc
  obtain ⟨rest, hr, hc⟩ := bind_eq_ok_iff.1 hc
  cases hr
  cases hc
  obtain ⟨base, slots⟩ := Comparison.clause_keyIn_ok hcl
  rw [markers, Names.bindAll_singleton, base, slots]
  let name := Scope.candidate ⟨i, ""⟩ (Parameter.baseName s.quotes key.name) 0
  calc
    _ = ((Comparison.listSlots 0 piece).map Slot.suffix).map (name ++ ·) := by
      simp [Names.parameters, Parameter.marker, name]
    _ = (List.range piece.length).map fun j => name ++ ("_In_" ++ toString j) := by
      rw [Comparison.suffixes_listSlots, List.map_map, List.range_eq_range']
      rfl
    _ = _ := by
      refine List.map_congr_left fun j _ => ?_
      simp [name, Scope.candidate, keyName, String.append_assoc]

section Pieces

variable {s : Setting} {key : Field} {size k : Nat} {pieces : List (List Value)}
  {conditions : List Fragment}

theorem exists_keyName (hp : ∀ piece ∈ pieces, piece ≠ [] ∧ piece.length ≤ size)
    (h : List.Forall₂ (Rendered s) ((pieces.map (keyFilter key · size)).zipIdx k) conditions)
    {x : String} (hx : x ∈ (conditions.flatMap Fragment.markers).map Marker.name) :
    ∃ i ≥ k, ∃ j, x = keyName (Parameter.baseName s.quotes key.name) i j := by
  induction pieces generalizing k conditions with
  | nil =>
    cases h
    simp at hx
  | cons piece pieces ih =>
    obtain _ | @⟨_, condition, _, conditions, first, rest⟩ := h
    rw [List.flatMap_cons, List.map_append, List.mem_append] at hx
    rcases hx with hx | hx
    · rw [names_keyFilter (hp piece List.mem_cons_self) first, List.mem_map] at hx
      obtain ⟨j, -, hj⟩ := hx
      exact ⟨k, Nat.le_refl k, j, hj.symm⟩
    · obtain ⟨i, hi, hj⟩ := ih (fun p h => hp p (List.mem_cons_of_mem _ h)) rest hx
      exact ⟨i, by omega, hj⟩

/-- The names of several statements are distinct: those of a statement by their numbers, and those
of two statements by their rows. -/
theorem nodup_keyNames (hp : ∀ piece ∈ pieces, piece ≠ [] ∧ piece.length ≤ size)
    (h : List.Forall₂ (Rendered s) ((pieces.map (keyFilter key · size)).zipIdx k) conditions) :
    (((conditions.flatMap Fragment.markers).map Marker.name).map lower).Nodup := by
  induction pieces generalizing k conditions with
  | nil =>
    cases h
    simp
  | cons piece pieces ih =>
    obtain _ | @⟨_, condition, _, conditions, first, rest⟩ := h
    have hp' := fun p h => hp p (List.mem_cons_of_mem piece h)
    rw [List.flatMap_cons, List.map_append, names_keyFilter (hp piece List.mem_cons_self) first,
      List.map_append, List.nodup_append]
    refine ⟨?_, ih hp' rest, ?_⟩
    · rw [List.map_map]
      exact List.nodup_range.map fun m n e => (keyName_injective e).2
    · -- A later statement has a later row, so it has no name of the first one.
      intro x hx y hy e
      simp only [List.map_map, List.mem_map] at hx
      obtain ⟨j, -, rfl⟩ := hx
      obtain ⟨z, hz, rfl⟩ := List.mem_map.1 hy
      obtain ⟨i, hi, j', rfl⟩ := exists_keyName hp' rest hz
      have := (keyName_injective e).1
      omega

end Pieces

/-! ## Scoped deletes -/

namespace DeleteAll

/-- What is known of a scoped delete that was written, with its filters and the conditions to which
they render. -/
structure Scoped (c : Compiler) (table : String) (hints : Option String) (key : Field)
    (keys : List Value) (filters : List Predicate) (conditions : List Fragment) (d : Draft) :
    Prop where
  /-- Every delete of the batch has a condition. -/
  fragments : d.fragments.toList = c.batch hints (conditions.map (Delete.conditioned c table hints))
  /-- The conditions are the filters, each rendered in its row. -/
  rendered : List.Forall₂ (Rendered c.setting) filters.zipIdx conditions
  /-- The lists of keys make up all the keys. -/
  lists : filters.flatMap (fun p => p.comparisons.flatMap Comparison.operands) = keys
  /-- The parameters are bound to the keys in order. -/
  origins : d.markers.map Marker.origin = keys.map Origin.operand
  /-- The key is compared with lists that are not empty, and not too long. -/
  bounded : ∀ p ∈ filters, ∀ m ∈ p.comparisons, ∃ values, m = Comparison.keyIn key values ∧
    values ≠ [] ∧ (c.setting.maxListSize ≠ 0 → values.length ≤ c.setting.maxListSize)
  /-- No statement has too many parameters. -/
  parameters : c.setting.maxParameters ≠ 0 → ∀ f ∈ conditions,
    ((Delete.conditioned c table hints f).flatMap Fragment.markers).length ≤
      c.setting.maxParameters
  /-- No two parameters of the batch share a name, in any case of letters. -/
  nodup : (d.markers.map fun m => lower m.name).Nodup
  /-- Several statements have a piece of the keys each. -/
  pieces : 1 < filters.length →
    filters = (chunks (chunkSize c.setting) keys).map (keyFilter key · (chunkSize c.setting)) ∧
    (chunks (chunkSize c.setting) keys).flatten = keys

section Conditions

variable {c : Compiler} {key : Field} {keys : List Value} {conditions : List Fragment}

theorem bounded_filters (s : Setting) (hk : keys ≠ []) {p : Predicate}
    (hp : p ∈ filters s key keys) {m : Comparison} (hm : m ∈ p.comparisons) :
    ∃ values, m = Comparison.keyIn key values ∧ values ≠ [] ∧
      (s.maxListSize ≠ 0 → values.length ≤ s.maxListSize) := by
  obtain ⟨piece, size, rfl, -, limits, -⟩ := mem_filters hk hp
  obtain ⟨lists, comparisons, -, bounds⟩ := keyFilter_spec key piece size
  rw [comparisons, List.mem_map] at hm
  obtain ⟨values, hv, rfl⟩ := hm
  obtain ⟨hne, bound⟩ := bounds values hv
  refine ⟨values, rfl, hne, fun limited => ?_⟩
  obtain ⟨hs, hsize⟩ := limits limited
  exact Nat.le_trans (bound hs) hsize

theorem length_markers_le {s : Setting} (hk : keys ≠ [])
    (h : List.Forall₂ (Rendered s) (filters s key keys).zipIdx conditions)
    (limited : s.maxParameters ≠ 0) {f : Fragment} (hf : f ∈ conditions) :
    f.markers.length ≤ s.maxParameters := by
  obtain ⟨p, hp, i, hr⟩ := Rendered.exists_of_mem h hf
  obtain ⟨piece, size, rfl, -, -, bound⟩ := mem_filters hk hp
  have count := congrArg List.length hr.origins
  rw [List.length_map, List.length_map, operands_keyFilter] at count
  rw [count]
  exact bound limited

/-- A single statement leaves the names to its filter, several have one list each. -/
theorem nodup_names_filters {s : Setting}
    (h : List.Forall₂ (Rendered s) (filters s key keys).zipIdx conditions) :
    ((conditions.flatMap Fragment.markers).map fun m => lower m.name).Nodup := by
  by_cases one : fitsOne s keys
  · rw [filters, if_pos one] at h
    obtain _ | ⟨first, rest⟩ := h
    cases rest
    rw [List.flatMap_singleton]
    exact first.nodup
  · rw [filters, if_neg one] at h
    have pos := (chunkSize_bounds (Bool.eq_false_iff.2 one)).1
    have names := nodup_keyNames (fun piece hp => mem_chunks pos hp) h
    rwa [List.map_map] at names

theorem filters_eq_pieces {s : Setting} (several : 1 < (filters s key keys).length) :
    filters s key keys = (chunks (chunkSize s) keys).map (keyFilter key · (chunkSize s)) := by
  by_cases one : fitsOne s keys
  · rw [filters, if_pos one] at several
    simp at several
  · rw [filters, if_neg one]

theorem scoped_of_fragments {table : String} {hints : Option String} (hk : keys ≠ [])
    {d : Draft}
    (rendered : List.Forall₂ (Rendered c.setting) (filters c.setting key keys).zipIdx conditions)
    (fragments :
      d.fragments.toList = c.batch hints (conditions.map (Delete.conditioned c table hints))) :
    Scoped c table hints key keys (filters c.setting key keys) conditions d := by
  have markers : d.markers = conditions.flatMap Fragment.markers := by
    rw [Draft.markers, fragments, c.markers_batch, List.flatMap_map]
    simp only [Delete.markers_conditioned]
  exact {
    fragments := fragments
    rendered := rendered
    lists := operands_filters ..
    origins := by rw [markers, Rendered.origins_flatMap rendered, operands_filters]
    bounded := fun p hp m hm => bounded_filters c.setting hk hp hm
    parameters := fun limited f hf => by
      rw [Delete.markers_conditioned]
      exact length_markers_le hk rendered limited hf
    nodup := by
      rw [markers]
      exact nodup_names_filters rendered
    pieces := fun several => ⟨filters_eq_pieces several, flatten_chunks _ keys⟩ }

end Conditions

/-- A scoped delete that compiles is exact and keeps to the limits of the setting. -/
theorem compile_scoped (c : Compiler) (table : String) (hints : Option String) (key : Field)
    (keys : List Value) {d d' : Draft} {sql : String}
    (h : c.compile (.deleteAll ⟨table, some (key, keys), hints⟩) d = (.ok sql, d')) :
    sql = d'.text ∧
      ∃ conditions, Scoped c table hints key keys (filters c.setting key keys) conditions d' := by
  unfold Compiler.compile at h
  split at h
  · simp at h
  · simp at h
  · next written planned =>
    obtain ⟨hsql, rfl⟩ := Prod.mk.inj h
    obtain ⟨hk, conditions, rendered, fragments⟩ := planKeys_ok planned
    exact ⟨(Except.ok.inj hsql).symm, conditions, scoped_of_fragments hk rendered fragments⟩

/-- Three keys, of which a statement takes two. -/
theorem compile_scoped_two_statements :
    let c : Compiler := ⟨.generic, { Setting.standard with maxParameters := 2 }⟩
    let keys : List Value := [.ofString "a", .ofString "b", .ofString "c"]
    ∃ sql d,
      c.compile (.deleteAll ⟨"Users", some (.named "Id", keys), none⟩) .empty = (.ok sql, d) ∧
      (filters c.setting (.named "Id") keys).length = 2 ∧ sql = d.text ∧
      ∃ conditions, Scoped c "Users" none (.named "Id") keys
        (filters c.setting (.named "Id") keys) conditions d := by
  intro c keys
  have accepted : (c.compile (.deleteAll ⟨"Users", some (.named "Id", keys), none⟩)
      .empty).1.isOk := by decide +kernel
  cases h : c.compile (.deleteAll ⟨"Users", some (.named "Id", keys), none⟩) .empty with
  | mk result d =>
    cases result with
    | error e =>
      rw [h] at accepted
      cases accepted
    | ok sql => exact ⟨sql, d, rfl, by decide +kernel, compile_scoped c _ _ _ keys h⟩

end DeleteAll

end CrossSql
