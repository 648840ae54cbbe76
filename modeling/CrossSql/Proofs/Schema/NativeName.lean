import CrossSql.Proofs.Schema.ReportedType
import CrossSql.Proofs.Text.Letters

/-!
# Names of one native type

Native names that differ in the case of letters and in the blanks around them are names of one type.
For Oracle a name is made of the words outside parentheses: it does not matter which blanks are
between the words, nor whether parentheses with a text that closes all that it opens are put
anywhere. Within parentheses neither changes anything, because all of that is left out.

## Main definitions

* `Text.Balanced`: texts that close the parentheses that they open, and no others.
* `outsideParens_group`: parentheses around such a text are left out as a whole.
* `Dialect.baseName_oracle`: the name within an Oracle type.
* `Dialect.readType_same_name`: names of one native type.
-/

namespace CrossSql

open Text

/-! ## Parentheses -/

/-- Every closing parenthesis closes one that was opened before, and none stays open. -/
structure Text.Balanced (cs : List Char) : Prop where
  opened : ∀ front, front <+: cs → front.count ')' ≤ front.count '('
  closed : cs.count '(' = cs.count ')'

instance (cs : List Char) : Decidable (Balanced cs) :=
  decidable_of_iff ((∀ front ∈ cs.inits, front.count ')' ≤ front.count '(') ∧
      cs.count '(' = cs.count ')')
    ⟨fun ⟨o, c⟩ => ⟨fun front h => o front ((List.mem_inits front cs).2 h), c⟩,
      fun h => ⟨fun front hf => h.opened front ((List.mem_inits front cs).1 hf), h.closed⟩⟩

theorem outsideParens_cons {c : Char} (opens : c ≠ '(') (closes : c ≠ ')') (depth : Nat)
    (cs : List Char) :
    outsideParens depth (c :: cs) =
      if depth = 0 then c :: outsideParens 0 cs else outsideParens depth cs := by
  cases depth with
  | zero =>
    rw [outsideParens]
    · rfl
    · exact opens
    · exact closes
  | succ depth =>
    rw [outsideParens]
    · rfl
    · exact opens
    · exact closes

/-- Nothing is written within parentheses, up to a text that closes `k` more of them than it opens
and at no point more than that. -/
theorem outsideParens_closing {m : List Char} (k depth : Nat) (rest : List Char)
    (opened : ∀ front, front <+: m → front.count ')' ≤ k + front.count '(')
    (closed : k + m.count '(' = m.count ')') :
    outsideParens (depth + 1 + k) (m ++ rest) = outsideParens (depth + 1) rest := by
  induction m generalizing k with
  | nil =>
    obtain rfl : k = 0 := by simpa using closed
    rfl
  | cons c m ih =>
    have behind (front : List Char) (h : front <+: m) := opened (c :: front) (by simpa using h)
    by_cases opens : c = '('
    · subst opens
      refine (ih (k + 1) (fun front h => ?_) ?_)
      · have := behind front h
        grind
      · grind
    · by_cases closes : c = ')'
      · subst closes
        have some := opened [')'] (by simp)
        obtain ⟨k, rfl⟩ : ∃ j, k = j + 1 := ⟨k - 1, by grind⟩
        refine (ih k (fun front h => ?_) ?_)
        · have := behind front h
          grind
        · grind
      · rw [List.cons_append, outsideParens_cons opens closes, if_neg (by omega)]
        refine ih k (fun front h => ?_) ?_
        · have := behind front h
          grind
        · grind

/-- Parentheses around a balanced text are left out as a whole, at every depth. -/
theorem outsideParens_group {m : List Char} (h : Balanced m) (depth : Nat) (rest : List Char) :
    outsideParens depth ('(' :: (m ++ ')' :: rest)) = outsideParens depth rest := by
  exact outsideParens_closing 0 depth (')' :: rest) (by simpa using h.opened)
    (by simpa using h.closed)

/-- What is left of a text depends on the text before it by the open parentheses only. -/
theorem exists_outsideParens_append (depth : Nat) (xs : List Char) :
    ∃ behind, ∀ ys, outsideParens depth (xs ++ ys) =
      outsideParens depth xs ++ outsideParens behind ys := by
  induction xs generalizing depth with
  | nil => exact ⟨depth, fun ys => by simp [outsideParens]⟩
  | cons c xs ih =>
    by_cases opens : c = '('
    · subst opens
      exact ih (depth + 1)
    · by_cases closes : c = ')'
      · subst closes
        exact ih (depth - 1)
      · obtain ⟨behind, rest⟩ := ih depth
        refine ⟨behind, fun ys => ?_⟩
        rw [List.cons_append, outsideParens_cons opens closes, outsideParens_cons opens closes]
        split
        next outside =>
          subst outside
          exact congrArg (c :: ·) (rest ys)
        next => exact rest ys

/-- Blanks are not parentheses. -/
theorem outsideParens_blank {run : List Char} (blank : ∀ c ∈ run, isBlank c) (depth : Nat)
    (ys : List Char) :
    outsideParens depth (run ++ ys) =
      (if depth = 0 then run else []) ++ outsideParens depth ys := by
  induction run with
  | nil => simp
  | cons c run ih =>
    obtain ⟨hc, hrun⟩ := List.forall_mem_cons.1 blank
    have opens : c ≠ '(' := by rintro rfl; exact absurd hc (by decide)
    have closes : c ≠ ')' := by rintro rfl; exact absurd hc (by decide)
    rw [List.cons_append, outsideParens_cons opens closes, ih hrun]
    cases depth <;> simp [ih hrun]

/-- One run of blanks is as good as another. -/
theorem words_outsideParens_run {run other : List Char} (some : run ≠ []) (some' : other ≠ [])
    (blank : ∀ c ∈ run, isBlank c) (blank' : ∀ c ∈ other, isBlank c) (xs ys : List Char) :
    words (outsideParens 0 (xs ++ run ++ ys)) = words (outsideParens 0 (xs ++ other ++ ys)) := by
  obtain ⟨depth, front⟩ := exists_outsideParens_append 0 xs
  rw [List.append_assoc, List.append_assoc, front, front, outsideParens_blank blank,
    outsideParens_blank blank']
  split
  · rw [← List.append_assoc, ← List.append_assoc, words_append_run some blank,
      words_append_run some' blank']
  · rfl

theorem words_outsideParens_trimChars (cs : List Char) :
    words (outsideParens 0 (trimChars cs)) = words (outsideParens 0 cs) := by
  obtain ⟨front, back, whole, first, last⟩ := exists_eq_append_trimChars cs
  obtain ⟨depth, within⟩ := exists_outsideParens_append 0 (trimChars cs)
  have ended : ∀ c ∈ outsideParens depth (back ++ []), isBlank c := by
    rw [outsideParens_blank last, outsideParens, List.append_nil]
    split
    · exact last
    · simp
  rw [List.append_nil] at ended
  conv => rhs; rw [whole]
  rw [List.append_assoc, outsideParens_blank first, if_pos rfl, within, ← List.append_assoc,
    words_append first ended]

/-! ## Upper case -/

theorem Text.Balanced.map_toUpper {m : List Char} (h : Balanced m) :
    Balanced (m.map Char.toUpper) := by
  have kept (d : Char) (hd : d.toNat < 65) (cs : List Char) :
      (cs.map Char.toUpper).count d = cs.count d := by
    rw [List.count_eq_countP, List.countP_map, List.count_eq_countP]
    refine List.countP_congr fun c _ => ?_
    simp [toUpper_eq_iff hd]
  constructor
  · intro upper hu
    obtain ⟨front, hf, rfl⟩ := List.prefix_map_iff.1 hu
    rw [kept ')' (by decide), kept '(' (by decide)]
    exact h.opened front hf
  · rw [kept '(' (by decide), kept ')' (by decide), h.closed]

namespace Dialect

/-- The host type depends on a native type by the name within it. -/
theorem readType_congr {d : Dialect} {a b : String} (blank : isBlankText a = isBlankText b)
    (same : d.baseName a = d.baseName b) : d.readType a = d.readType b := by
  have upper : d.typeOfUpper ((trimChars a.toList).map Char.toUpper) =
      d.typeOfUpper ((trimChars b.toList).map Char.toUpper) := by
    cases d <;> simp only [baseName] at same <;> simp only [typeOfUpper, same]
  rw [readType, readType, blank, upper]

/-- The name within an Oracle type is made of the words outside parentheses. -/
theorem baseName_oracle (native : String) :
    oracle.baseName native = withoutModifiers (native.toList.map Char.toUpper) := by
  rw [baseName, ← trimChars_map_toUpper, withoutModifiers, words_outsideParens_trimChars]
  rfl

theorem readType_oracle_congr {a b : String} (blank : isBlankText a = isBlankText b)
    (same : words (outsideParens 0 (a.toList.map Char.toUpper)) =
      words (outsideParens 0 (b.toList.map Char.toUpper))) :
    oracle.readType a = oracle.readType b := by
  refine readType_congr blank ?_
  rw [baseName_oracle, baseName_oracle, withoutModifiers, same]
  rfl

theorem readType_of_sameFold (d : Dialect) {a b : String} (same : sameFold (trim a) (trim b)) :
    d.readType a = d.readType b := by
  have folded := sameFold_iff.1 same
  have trimmed (s : String) : isBlankText (trim s) = isBlankText s := by
    rw [isBlankText, toList_trim, trimChars_trimChars, isBlankText]
  refine readType_congr (by rw [← trimmed a, isBlankText_congr folded, trimmed]) ?_
  have upper (s : String) : (trimChars s.toList).map Char.toUpper =
      (lower (trim s)).toList.map Char.toUpper := by
    rw [toList_lower, toList_trim, List.map_map]
    exact List.map_congr_left fun c _ => (toUpper_toLower c).symm
  simp only [baseName, upper, folded]

end Dialect

/-- A text of blanks that is not empty. -/
structure Text.IsRun (s : String) : Prop where
  ne_empty : s ≠ ""
  blank : ∀ c ∈ s.toList, isBlank c

instance (s : String) : Decidable (IsRun s) :=
  have := List.decidableBAll (fun c => isBlank c = true) s.toList
  decidable_of_iff (s ≠ "" ∧ ∀ c ∈ s.toList, isBlank c = true)
    ⟨fun ⟨n, b⟩ => ⟨n, b⟩, fun h => ⟨h.ne_empty, h.blank⟩⟩

namespace Dialect

theorem readType_oracle_run {run other : String} (h : IsRun run) (h' : IsRun other)
    (front back : String) :
    oracle.readType (front ++ run ++ back) = oracle.readType (front ++ other ++ back) := by
  refine readType_oracle_congr ?_ ?_
  · rw [Bool.eq_iff_iff, isBlankText_iff, isBlankText_iff]
    simp only [String.toList_append, List.forall_mem_append, iff_true_intro h.blank,
      iff_true_intro h'.blank]
  · have upper {run : String} (h : IsRun run) :
        run.toList.map Char.toUpper ≠ [] ∧ ∀ c ∈ run.toList.map Char.toUpper, isBlank c := by
      refine ⟨by simpa using h.ne_empty, List.forall_mem_map.2 fun c hc => ?_⟩
      rw [isBlank_toUpper]
      exact h.blank c hc
    simp only [String.toList_append, List.map_append]
    exact words_outsideParens_run (upper h).1 (upper h').1 (upper h).2 (upper h').2 _ _

theorem readType_oracle_group {m : String} (h : Balanced m.toList) {front back : String}
    (visible : isBlankText (front ++ back) = false) :
    oracle.readType (front ++ "(" ++ m ++ ")" ++ back) = oracle.readType (front ++ back) := by
  refine readType_oracle_congr ?_ ?_
  · rw [visible, ← Bool.not_eq_true, isBlankText_iff]
    intro blank
    exact absurd (blank '(' (by simp)) (by decide)
  · obtain ⟨depth, led⟩ := exists_outsideParens_append 0 (front.toList.map Char.toUpper)
    have whole : (front ++ "(" ++ m ++ ")" ++ back).toList.map Char.toUpper =
        front.toList.map Char.toUpper ++
          '(' :: (m.toList.map Char.toUpper ++ ')' :: back.toList.map Char.toUpper) := by
      simp
    rw [whole, led, outsideParens_group h.map_toUpper, String.toList_append, List.map_append, led]

/-- Names that differ in case and outer blanks have one type. In the name of an Oracle type a run of
blanks may be replaced by another one, and parentheses around a balanced text may be put in
anywhere. -/
theorem readType_same_name :
    (∀ (d : Dialect) (a b : String), sameFold (trim a) (trim b) → d.readType a = d.readType b) ∧
      (∀ front run other back : String, IsRun run → IsRun other →
        oracle.readType (front ++ run ++ back) = oracle.readType (front ++ other ++ back)) ∧
      ∀ front m back : String, Balanced m.toList → isBlankText (front ++ back) = false →
        oracle.readType (front ++ "(" ++ m ++ ")" ++ back) = oracle.readType (front ++ back) :=
  ⟨fun d _ _ same => readType_of_sameFold d same,
    fun front _ _ back h h' => readType_oracle_run h h' front back,
    fun _ _ _ h visible => readType_oracle_group h visible⟩

/-- Nested parentheses within a word, and a parenthesis behind it that stays open. -/
theorem readType_same_name_interval :
    sameFold (trim " VarChar(10)\t") (trim "VARCHAR(10)") = true ∧
      sqlite.readType " VarChar(10)\t" = sqlite.readType "VARCHAR(10)" ∧
      IsRun "\t " ∧ IsRun " " ∧
      oracle.readType ("long" ++ "\t " ++ "raw(9") = oracle.readType ("long" ++ " " ++ "raw(9") ∧
      Balanced "(2), (3)".toList ∧ isBlankText ("Interval da" ++ "y to second(6") = false ∧
      oracle.readType ("Interval da" ++ "(" ++ "(2), (3)" ++ ")" ++ "y to second(6") =
        .ok .interval := by
  obtain ⟨fold, run, group⟩ := readType_same_name
  have folded : sameFold (trim " VarChar(10)\t") (trim "VARCHAR(10)") = true := by decide +kernel
  have tab : IsRun "\t " := by decide
  have space : IsRun " " := by decide
  have balanced : Balanced "(2), (3)".toList := by decide +kernel
  have visible : isBlankText ("Interval da" ++ "y to second(6") = false := by decide +kernel
  exact ⟨folded, fold .sqlite _ _ folded, tab, space, run _ _ _ _ tab space, balanced, visible,
    (group _ _ _ balanced visible).trans rfl⟩

end Dialect

end CrossSql
