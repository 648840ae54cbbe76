import CrossSql.Proofs.NumberedName
import CrossSql.Proofs.Predicate.Binding
import Mathlib.Data.List.Nodup
import Mathlib.Data.List.Pairwise
import Mathlib.Order.Bounds.Basic

/-!
# Distinct names for the parameters of a predicate

No two parameters of a predicate share a name, in any case of letters. The invariant is about the
names taken so far: a clause gets names that are not among them, and leaves them taken together with
its own. That there is a free number at all is a pigeonhole argument: the suffixes of a clause are
apart, so a taken name blocks one number at most.

## Main definitions

* `SlotForm.eq_or_endApart`: the suffixes of a clause are apart.
* `Names.Finds`: the search for a free number, without a bound.
* `Names.exists_isFree`: some number is free among one more than there are taken names.
* `Names.finds_choose`: the number of a clause is what the search finds.
* `Names.bindAll_fresh`: the names of a list of clauses.
* `Predicate.parameters_pairwise_distinct`: the names of a predicate.
-/

namespace CrossSql

open Text

/-! ## Suffixes of slots -/

theorem endApart_left_right : EndApart "_Left" "_Right" := by
  intro a b e
  have last := congrArg (fun s : String => s.toList.reverse.drop 1 |>.take 1) e
  simp [lower] at last

namespace SlotForm

variable {slots : List Slot}

theorem suffix_mem_listSlots {i : Nat} {vs : List Value} {s : Slot}
    (h : s ∈ Comparison.listSlots i vs) : ∃ j : Nat, s.suffix = "_In_" ++ toString j := by
  have hs := List.mem_map_of_mem (f := Slot.suffix) h
  rw [Comparison.suffixes_listSlots, List.mem_map] at hs
  obtain ⟨j, -, hj⟩ := hs
  exact ⟨j, hj.symm⟩

theorem pairwise_endApart (h : SlotForm slots) :
    slots.Pairwise fun s t => EndApart s.suffix t.suffix := by
  cases h with
  | single v => exact List.pairwise_singleton _ _
  | range l r => exact List.pairwise_pair.2 endApart_left_right
  | list v vs =>
    rw [← List.pairwise_map, Comparison.suffixes_listSlots, List.pairwise_map]
    refine List.Pairwise.imp (fun {i j} hij => ?_) (List.pairwise_lt_range' ..)
    exact endApart_numbered "_In" (Nat.ne_of_lt hij)

theorem eq_or_endApart (h : SlotForm slots) {s t : Slot} (hs : s ∈ slots) (ht : t ∈ slots) :
    s = t ∨ EndApart s.suffix t.suffix := by
  have : Std.Symm fun s t : Slot => EndApart s.suffix t.suffix := ⟨fun _ _ => EndApart.symm⟩
  by_cases e : s = t
  · exact .inl e
  · exact .inr (h.pairwise_endApart.forall hs ht e)

theorem isNameChar_suffix (h : SlotForm slots) {s : Slot} (hs : s ∈ slots) {x : Char}
    (hx : x ∈ s.suffix.toList) : Parameter.isNameChar x := by
  cases h with
  | single v => simp_all
  | range l r =>
    rcases List.mem_pair.1 hs with rfl | rfl
    · exact List.all_eq_true.1 (by decide : "_Left".toList.all Parameter.isNameChar) x hx
    · exact List.all_eq_true.1 (by decide : "_Right".toList.all Parameter.isNameChar) x hx
  | list v vs =>
    obtain ⟨j, hj⟩ := suffix_mem_listSlots hs
    rw [hj, String.toList_append, List.mem_append] at hx
    rcases hx with hx | hx
    · exact List.all_eq_true.1 (by decide : "_In_".toList.all Parameter.isNameChar) x hx
    · exact Parameter.isNameChar_of_isDigit (isDigit_of_mem_toString hx)

end SlotForm

/-! ## The number of a clause -/

namespace Names

/-- Numbers from `n` on are tried until one is free: the number `found`, at the try `tries`. -/
inductive Finds (free : Nat → Bool) : (n tries found : Nat) → Prop
  | here {n : Nat} (h : free n) : Finds free n 1 n
  | further {n tries found : Nat} (h : ¬ free n) (rest : Finds free (n + 1) tries found) :
      Finds free n (tries + 1) found

/-- What a search finds is the least free number from its start on. -/
theorem Finds.isLeast {free : Nat → Bool} {n tries found : Nat} (h : Finds free n tries found) :
    IsLeast {m | n ≤ m ∧ free m} found := by
  induction h with
  | here h => exact ⟨⟨le_rfl, h⟩, fun m hm => hm.1⟩
  | @further n tries found h _ ih =>
    obtain ⟨⟨start, isFree⟩, least⟩ := ih
    refine ⟨⟨by omega, isFree⟩, ?_⟩
    rintro m ⟨hm, hf⟩
    have : m ≠ n := by
      rintro rfl
      exact h hf
    exact least ⟨by omega, hf⟩

/-- Every try is of the next number. -/
theorem Finds.found_add_one {free : Nat → Bool} {n tries found : Nat}
    (h : Finds free n tries found) : found + 1 = n + tries := by
  induction h with
  | here h => rfl
  | further h rest ih => omega

/-- A search whose fuel lasts to a free number is one without a bound. -/
theorem finds_firstFree {free : Nat → Bool} {fuel n : Nat} (h : ∃ k < fuel, free (n + k)) :
    ∃ tries ≤ fuel, Finds free n tries (firstFree free fuel n) := by
  induction fuel generalizing n with
  | zero =>
    obtain ⟨k, hk, -⟩ := h
    omega
  | succ fuel ih =>
    obtain ⟨k, hk, hf⟩ := h
    unfold firstFree
    split
    next here => exact ⟨1, by omega, .here here⟩
    next blocked =>
      cases k with
      | zero => exact absurd hf blocked
      | succ k =>
        obtain ⟨tries, bound, rest⟩ := ih ⟨k, by omega, by rwa [Nat.add_right_comm, Nat.add_assoc]⟩
        exact ⟨tries + 1, by omega, .further blocked rest⟩

theorem isFree_iff {names : Names} {name : String} {slots : List Slot} :
    names.isFree name slots ↔ ∀ s ∈ slots, lower (name ++ s.suffix) ∉ names.taken := by
  simp [isFree]

theorem candidate_injective {sc : Scope} {base suffix : String} {m n : Nat}
    (h : lower (sc.candidate base m ++ suffix) = lower (sc.candidate base n ++ suffix)) :
    m = n := by
  simp only [Scope.candidate, lower_append, Parameter.lower_numberSuffix] at h
  refine Parameter.numberSuffix_injective ?_
  simpa [String.append_assoc] using h

/-- One of the numbers from `n` on is free, at most as far away as there are taken names. -/
theorem exists_isFree (names : Names) (sc : Scope) (base : String) {slots : List Slot}
    (form : SlotForm slots) (n : Nat) :
    ∃ k ≤ names.taken.size, names.isFree (sc.candidate base (n + k)) slots := by
  by_contra blocked
  have taken : ∀ k, ∃ x, k ≤ names.taken.size →
      x ∈ names.taken ∧ ∃ s ∈ slots, x = lower (sc.candidate base (n + k) ++ s.suffix) := by
    intro k
    by_cases hk : k ≤ names.taken.size
    · have : ¬ names.isFree (sc.candidate base (n + k)) slots := fun hf => blocked ⟨k, hk, hf⟩
      rw [isFree_iff] at this
      push Not at this
      obtain ⟨s, hs, hx⟩ := this
      exact ⟨_, fun _ => ⟨hx, s, hs, rfl⟩⟩
    · exact ⟨"", fun h => absurd h hk⟩
  choose blocker hb using taken
  -- A name with two of the numbers would have two ends that are apart, or the same number twice.
  have distinct : ((List.range (names.taken.size + 1)).map blocker).Nodup := by
    refine List.Nodup.map_on (fun i hi j hj e => ?_) List.nodup_range
    rw [List.mem_range] at hi hj
    obtain ⟨-, s, hs, hi⟩ := hb i (by omega)
    obtain ⟨-, t, ht, hj⟩ := hb j (by omega)
    rw [hi, hj] at e
    rcases form.eq_or_endApart hs ht with rfl | apart
    · have := candidate_injective e
      omega
    · exact absurd e (apart _ _)
  have inside : (List.range (names.taken.size + 1)).map blocker ⊆ names.taken.toList := by
    intro x hx
    obtain ⟨k, hk, rfl⟩ := List.mem_map.1 hx
    rw [List.mem_range] at hk
    exact Std.HashSet.mem_toList.2 (hb k (by omega)).1
  have bound := distinct.length_le_of_subset inside
  rw [List.length_map, List.length_range, Std.HashSet.length_toList] at bound
  omega

/-- The search for the number of a clause ends before its fuel does. -/
theorem finds_choose (names : Names) (sc : Scope) (base : String) {slots : List Slot}
    (form : slots = [] ∨ SlotForm slots) :
    ∃ tries ≤ names.taken.size + 1,
      Finds (fun n => names.isFree (sc.candidate base n) slots) (names.start base) tries
        (names.choose sc base slots) := by
  apply finds_firstFree
  rcases form with rfl | form
  · exact ⟨0, by omega, rfl⟩
  · obtain ⟨k, hk, hf⟩ := names.exists_isFree sc base form (names.start base)
    exact ⟨k, by omega, hf⟩

/-- The search ends where it starts if this number is free. -/
theorem choose_of_isFree {names : Names} {sc : Scope} {base : String} {slots : List Slot}
    (h : names.isFree (sc.candidate base (names.start base)) slots) :
    names.choose sc base slots = names.start base := by
  rw [choose, firstFree, if_pos h]

/-- The first clause of a predicate needs no number, as no name is taken. -/
theorem choose_empty (sc : Scope) (base : String) (slots : List Slot) :
    empty.choose sc base slots = 0 := by
  have start : empty.start base = 0 := Std.HashMap.getD_empty
  rw [choose_of_isFree (isFree_iff.2 fun _ _ => Std.HashSet.not_mem_empty), start]

/-- The number of a clause leaves all its names free. -/
theorem choose_isFree (names : Names) (sc : Scope) {c : Clause} (hc : c.WellFormed) :
    names.isFree (sc.candidate c.base (names.choose sc c.base c.slots)) c.slots := by
  obtain ⟨tries, -, finds⟩ := names.finds_choose sc c.base hc.slots
  exact finds.isLeast.1.2

/-! ## The names of a clause -/

theorem not_mem_taken {names : Names} {sc : Scope} {c : Clause} (hc : c.WellFormed) {p : Parameter}
    (hp : p ∈ (names.bind sc c).1) : lower p.name ∉ names.taken := by
  rw [fst_bind, parameters, List.mem_map] at hp
  obtain ⟨s, hs, rfl⟩ := hp
  exact isFree_iff.1 (names.choose_isFree sc hc) s hs

theorem nodup_bind (names : Names) (sc : Scope) {c : Clause} (hc : c.WellFormed) :
    ((names.bind sc c).1.map fun p => lower p.name).Nodup := by
  rw [fst_bind, parameters, List.map_map]
  rcases hc.slots with hnil | form
  · simp [hnil]
  · exact List.pairwise_map.2 (form.pairwise_endApart.imp fun apart => apart _ _)

/-- After a clause its own names are taken as well. -/
theorem mem_taken_bind {names : Names} {sc : Scope} {c : Clause} {x : String} :
    x ∈ (names.bind sc c).2.taken ↔
      x ∈ names.taken ∨ x ∈ (names.bind sc c).1.map fun p => lower p.name := by
  unfold bind
  split <;> simp

/-- A name is the text that the scope asks for with name characters behind it. -/
theorem exists_name_eq {names : Names} {sc : Scope} {c : Clause} (hc : c.WellFormed)
    {p : Parameter} (hp : p ∈ (names.bind sc c).1) :
    ∃ rest, p.name = sc.leading ++ rest ∧ rest ≠ "" ∧
      ∀ x ∈ rest.toList, Parameter.isNameChar x := by
  rw [fst_bind, parameters, List.mem_map] at hp
  obtain ⟨s, hs, rfl⟩ := hp
  have hne : c.slots ≠ [] := List.ne_nil_of_mem hs
  have form := hc.slots.resolve_left hne
  let n := names.choose sc c.base c.slots
  refine ⟨c.base ++ Parameter.numberSuffix n ++ Parameter.numberSuffix sc.row ++ s.suffix,
    by simp [Scope.candidate, String.append_assoc, n], by simp [hc.base_ne hne], ?_⟩
  intro x hx
  simp only [String.toList_append, List.mem_append] at hx
  rcases hx with ((hx | hx) | hx) | hx
  · exact hc.base_chars x hx
  · exact Parameter.isNameChar_numberSuffix hx
  · exact Parameter.isNameChar_numberSuffix hx
  · exact form.isNameChar_suffix hs hx

/-! ## The names of a list of clauses -/

/-- The names of some clauses are distinct, and none of them was taken before. -/
theorem bindAll_fresh (sc : Scope) {cs : List Clause} (hcs : ∀ c ∈ cs, c.WellFormed)
    (names : Names) :
    ((names.bindAll sc cs).map fun p => lower p.name).Nodup ∧
      ∀ p ∈ names.bindAll sc cs, lower p.name ∉ names.taken := by
  induction cs generalizing names with
  | nil => simp [bindAll]
  | cons c cs ih =>
    have hc := hcs c List.mem_cons_self
    obtain ⟨nodup, fresh⟩ := ih (fun d hd => hcs d (List.mem_cons_of_mem _ hd)) (names.bind sc c).2
    refine ⟨?_, ?_⟩
    · rw [bindAll, List.map_append, List.nodup_append]
      refine ⟨names.nodup_bind sc hc, nodup, ?_⟩
      rintro x hx y hy rfl
      obtain ⟨p, hp, rfl⟩ := List.mem_map.1 hy
      exact fresh p hp (mem_taken_bind.2 (.inr hx))
    · intro p hp
      rcases List.mem_append.1 hp with hp | hp
      · exact not_mem_taken hc hp
      · exact fun taken => fresh p hp (mem_taken_bind.2 (.inl taken))

theorem exists_name_eq_of_mem_bindAll (sc : Scope) {cs : List Clause}
    (hcs : ∀ c ∈ cs, c.WellFormed) (names : Names) {p : Parameter} (hp : p ∈ names.bindAll sc cs) :
    ∃ rest, p.name = sc.leading ++ rest ∧ rest ≠ "" ∧
      ∀ x ∈ rest.toList, Parameter.isNameChar x := by
  induction cs generalizing names with
  | nil => simp [bindAll] at hp
  | cons c cs ih =>
    rcases List.mem_append.1 hp with hp | hp
    · exact exists_name_eq (hcs c List.mem_cons_self) hp
    · exact ih (fun d hd => hcs d (List.mem_cons_of_mem _ hd)) _ hp

end Names

/-! ## The names of a predicate -/

namespace Predicate

/-- The parameters of a rendered predicate have distinct names, in any case of letters. -/
theorem nodup_names {p : Predicate} {sc : Scope} {s : Setting} {f : Fragment}
    (h : p.tokens sc s = .ok f) : (f.parameters.map fun x => lower x.name).Nodup := by
  obtain ⟨cs, hc, hm⟩ := tokens_ok h
  rw [Fragment.parameters_of_markers hm]
  exact (Names.bindAll_fresh sc (Comparison.clauses_ok hc).1 _).1

/-- The parameters of a predicate have names that differ in more than the case of letters. Each name
is the leading text of the scope with letters, digits and underscores behind it, at least one. -/
theorem parameters_pairwise_distinct (p : Predicate) (sc : Scope) (s : Setting)
    {ps : List Parameter} (h : p.parameters sc s = .ok ps) :
    (ps.map fun x => lower x.name).Nodup ∧
      ∀ x ∈ ps, ∃ rest, x.name = sc.leading ++ rest ∧ rest ≠ "" ∧
        ∀ c ∈ rest.toList, Parameter.isNameChar c := by
  obtain ⟨f, ht, rfl⟩ := parameters_ok h
  refine ⟨nodup_names ht, fun x hx => ?_⟩
  obtain ⟨cs, hc, hm⟩ := tokens_ok ht
  rw [Fragment.parameters_of_markers hm] at hx
  exact Names.exists_name_eq_of_mem_bindAll sc (Comparison.clauses_ok hc).1 _ hx

/-- Comparisons that ask for the same names in several ways. -/
def clashing : Predicate :=
  .group [.equal "Id" (.ofString "a"), .equal "id" (.ofString "b")]
    [.any [.equal "Id_1" (.ofString "c"), .isIn "Id" [.ofString "d", .ofString "e"]]] .and false

theorem clashing_pairwise_distinct :
    ∃ ps, clashing.parameters ⟨1, "_"⟩ .standard = .ok ps ∧ ps.length = 5 ∧
      (ps.map fun x => lower x.name).Nodup ∧
      ∀ x ∈ ps, ∃ rest, x.name = "_" ++ rest ∧ rest ≠ "" ∧
        ∀ c ∈ rest.toList, Parameter.isNameChar c := by
  have accepted : (clashing.parameters ⟨1, "_"⟩ .standard).isOk := by decide +kernel
  cases h : clashing.parameters ⟨1, "_"⟩ .standard with
  | error e =>
    rw [h] at accepted
    cases accepted
  | ok ps =>
    refine ⟨ps, rfl, ?_, parameters_pairwise_distinct _ _ _ h⟩
    obtain ⟨f, ht, rfl⟩ := parameters_ok h
    have count := congrArg List.length (values_parameters ht)
    rw [List.length_map] at count
    exact count.trans (by decide)

end Predicate

end CrossSql
