import CrossSql.Proofs.Schema.NativeName

/-!
# Modifiers within a native name

The generic dialect reads a native name up to the first parenthesis. A modifier at the end of a name
is left out that way, but behind a modifier in the middle the rest of the name is lost as well, and
the type is the one of the words before it. It is the type of the whole name only if both are
unknown, or if the words that are lost make no difference, as for two of the three names of the
dialect that have more than one word.

## Main definitions

* `Text.EndsVisible`, `Text.BeginsBlank`: the ends of a name at which a modifier may stand.
* `beforeModifiers_trimChars`: the name within a generic type is what is before a parenthesis.
* `Dialect.lookupType_take_iff`: the names of more than one word, and the words that begin them.
* `Dialect.readType_modifier_iff`: the names whose type does not depend on a modifier.
-/

namespace CrossSql

open Text

/-- The text has a last character, which is not blank. -/
def Text.EndsVisible (s : String) : Prop := s.toList.getLast?.any fun c => !isBlank c

/-- The text is empty or begins with a blank. -/
def Text.BeginsBlank (s : String) : Prop := s.toList.head?.all isBlank

instance (s : String) : Decidable (EndsVisible s) := inferInstanceAs (Decidable (_ = true))

instance (s : String) : Decidable (BeginsBlank s) := inferInstanceAs (Decidable (_ = true))

theorem Text.EndsVisible.exists_last {s : String} (h : EndsVisible s) :
    ∃ c ∈ s.toList.getLast?, isBlank c = false := by
  obtain ⟨c, last, visible⟩ := (Option.any_eq_true _ _).1 h
  exact ⟨c, last, by simpa using visible⟩

/-! ## The text before a parenthesis -/

theorem ne_paren_of_isBlank {c : Char} (h : isBlank c = true) : (c != '(') = true := by
  rw [bne_iff_ne]
  rintro rfl
  exact absurd h (by decide)

theorem ne_paren_of_mem {cs : List Char} (plain : '(' ∉ cs) : ∀ c ∈ cs, (c != '(') = true := by
  intro c hc
  rw [bne_iff_ne]
  rintro rfl
  exact plain hc

theorem beforeModifiers_trimChars (cs : List Char) :
    beforeModifiers (trimChars cs) = beforeModifiers cs := by
  obtain ⟨front, back, whole, first, last⟩ := exists_eq_append_trimChars cs
  have led : cs.takeWhile (· != '(') =
      front ++ (trimChars cs ++ back).takeWhile (· != '(') := by
    conv => lhs; rw [whole]
    rw [List.append_assoc]
    exact List.takeWhile_append_of_pos fun c hc => ne_paren_of_isBlank (first c hc)
  rw [beforeModifiers, beforeModifiers, led, trimChars_append_left first, List.takeWhile_append]
  split
  next whole =>
    have ended : back.takeWhile (· != '(') = back :=
      List.takeWhile_eq_self_iff.2 fun c hc => ne_paren_of_isBlank (last c hc)
    rw [ended, trimChars_append_right last, (List.takeWhile_prefix _).eq_of_length whole]
  next => rfl

namespace Dialect

/-- The name within a generic type is what is written before a parenthesis. -/
theorem baseName_generic (native : String) :
    generic.baseName native =
      trimChars ((native.toList.takeWhile (· != '(')).map Char.toUpper) := by
  have upper : (fun c : Char => c != '(') ∘ Char.toUpper = (· != '(') := by
    funext c
    have same := toUpper_eq_iff (c := c) (d := '(') (by decide)
    simp [bne, same]
  change beforeModifiers ((trimChars native.toList).map Char.toUpper) = _
  rw [← trimChars_map_toUpper, beforeModifiers_trimChars, beforeModifiers, List.takeWhile_map,
    upper]

theorem baseName_of_plain {native : String} (plain : '(' ∉ native.toList) :
    generic.baseName native = trimChars (native.toList.map Char.toUpper) := by
  rw [baseName_generic, List.takeWhile_eq_self_iff.2 (ne_paren_of_mem plain)]

theorem baseName_modified {a : String} (plain : '(' ∉ a.toList) (m b : String) :
    generic.baseName (a ++ "(" ++ m ++ ")" ++ b) = generic.baseName a := by
  have before : (a ++ "(" ++ m ++ ")" ++ b).toList.takeWhile (· != '(') = a.toList := by
    have whole : (a ++ "(" ++ m ++ ")" ++ b).toList =
        a.toList ++ '(' :: (m.toList ++ ')' :: b.toList) := by simp
    rw [whole, List.takeWhile_append_of_pos (ne_paren_of_mem plain),
      List.takeWhile_cons_of_neg (by simp), List.append_nil]
  rw [baseName_of_plain plain, baseName_generic, before]

/-! ## Names of more than one word -/

theorem knows_generic_iff {native : String} :
    generic.Knows native ↔ .ofList (generic.baseName native) ∈ generic.knownNames := by
  simp [Knows, knownWords]

theorem lookupType_generic_eq_null_iff {native : String} :
    lookupType genericTypes (.ofList (generic.baseName native)) = .null ↔
      ¬generic.Knows native := by
  rw [knows_generic_iff]
  exact lookupType_eq_null_iff (by decide)

/-- The names that have the type of the words that begin them. -/
def widened : List String := ["DOUBLE PRECISION", "CHARACTER VARYING"]

theorem lookupType_take_iff : ∀ name ∈ generic.knownNames, ∀ i < name.toList.length,
    name.toList[i]?.any isBlank = true →
      (lookupType genericTypes (.ofList (name.toList.take i)) = lookupType genericTypes name ↔
        name ∈ widened) := by
  decide +kernel

theorem lookupType_eq_iff_of_words {name : String} (known : name ∈ generic.knownNames)
    {front back : List Char} {c : Char} (blank : isBlank c = true)
    (whole : name.toList = front ++ c :: back) :
    lookupType genericTypes (.ofList front) = lookupType genericTypes name ↔ name ∈ widened := by
  have row := lookupType_take_iff name known front.length (by simp [whole]) (by simp [whole, blank])
  rwa [whole, List.take_left] at row

theorem readType_generic {native : String} (visible : isBlankText native = false) :
    generic.readType native =
      .ok (lookupType genericTypes (.ofList (generic.baseName native))) := by
  rw [readType, visible]
  rfl

/-! ## Names with a modifier -/

variable {a b : String}

theorem baseName_append_of_blank (plain : '(' ∉ (a ++ b).toList) (blank : isBlankText b = true) :
    generic.baseName (a ++ b) = generic.baseName a := by
  have ended : ∀ c ∈ b.toList.map Char.toUpper, isBlank c := by
    rw [List.forall_mem_map]
    intro c hc
    rw [isBlank_toUpper]
    exact isBlankText_iff.1 blank c hc
  rw [baseName_of_plain plain, baseName_of_plain fun inside => plain (by simp [inside]),
    String.toList_append, List.map_append, trimChars_append_right ended]

theorem exists_baseName_append (ends : EndsVisible a)
    (begins : BeginsBlank b) (plain : '(' ∉ (a ++ b).toList)
    (visible : isBlankText b = false) :
    ∃ c back, isBlank c = true ∧ generic.baseName (a ++ b) = generic.baseName a ++ c :: back := by
  obtain ⟨e, last, he⟩ := ends.exists_last
  obtain ⟨d, hd, written⟩ : ∃ d ∈ b.toList, isBlank d = false := by
    by_contra none
    simp only [not_exists, not_and, Bool.not_eq_false] at none
    rw [isBlankText_iff.2 none] at visible
    cases visible
  cases spelled : b.toList with
  | nil => simp [spelled] at hd
  | cons c v =>
    have blank : isBlank c = true := by simpa [BeginsBlank, spelled] using begins
    have inside : d ∈ v := by
      rw [spelled] at hd
      refine (List.mem_cons.1 hd).resolve_left ?_
      rintro rfl
      rw [blank] at written
      cases written
    have upper : isBlank d.toUpper = false := by rw [isBlank_toUpper, written]
    refine ⟨c.toUpper, trimEndChars (v.map Char.toUpper), by rw [isBlank_toUpper, blank], ?_⟩
    rw [baseName_of_plain plain, baseName_of_plain fun inside => plain (by simp [inside]),
      String.toList_append, List.map_append, spelled, List.map_cons, trimChars_append_of_visible]
    · exact congrArg _ (trimEndChars_append [c.toUpper] ⟨_, List.mem_map_of_mem inside, upper⟩)
    · exact ⟨e.toUpper, by simp [Option.mem_def.1 last], by rw [isBlank_toUpper, he]⟩
    · exact ⟨d.toUpper, List.mem_cons_of_mem _ (List.mem_map_of_mem inside), upper⟩

/-- The words in front have the type of the whole name. -/
theorem lookupType_append_iff (ends : EndsVisible a)
    (begins : BeginsBlank b) (plain : '(' ∉ (a ++ b).toList) :
    lookupType genericTypes (.ofList (generic.baseName a)) =
        lookupType genericTypes (.ofList (generic.baseName (a ++ b))) ↔
      isBlankText b = true ∨ (¬generic.Knows a ∧ ¬generic.Knows (a ++ b)) ∨
        .ofList (generic.baseName (a ++ b)) ∈ widened := by
  cases blank : isBlankText b with
  | true => simp [baseName_append_of_blank plain blank]
  | false =>
    obtain ⟨c, back, hc, whole⟩ := exists_baseName_append ends begins plain blank
    by_cases known : generic.Knows (a ++ b)
    · have row := lookupType_eq_iff_of_words (knows_generic_iff.1 known) hc
        (by rw [String.toList_ofList, whole])
      simp [row, known]
    · have other : .ofList (generic.baseName (a ++ b)) ∉ widened := by
        have listed : ∀ name ∈ widened, name ∈ generic.knownNames := by decide +kernel
        exact fun h => known (knows_generic_iff.2 (listed _ h))
      rw [lookupType_generic_eq_null_iff.2 known, lookupType_generic_eq_null_iff]
      simp [known, other]

/-- A name with a modifier has the type of what is before it. This is the type of the name without
the modifier exactly if nothing but blanks is behind it, if the dialect knows neither name, or if
the words behind it make no difference. -/
theorem readType_modifier_iff (ends : EndsVisible a)
    (begins : BeginsBlank b) (plain : '(' ∉ (a ++ b).toList)
    (m : String) :
    generic.readType (a ++ "(" ++ m ++ ")" ++ b) = generic.readType a ∧
      (generic.readType (a ++ "(" ++ m ++ ")" ++ b) = generic.readType (a ++ b) ↔
        isBlankText b = true ∨ (¬generic.Knows a ∧ ¬generic.Knows (a ++ b)) ∨
          .ofList (generic.baseName (a ++ b)) ∈ widened) := by
  have plainFront : '(' ∉ a.toList := fun inside => plain (by simp [inside])
  have visible {s : String} (led : a.toList <+: s.toList) : isBlankText s = false := by
    obtain ⟨c, last, hc⟩ := ends.exists_last
    rw [← Bool.not_eq_true, isBlankText_iff]
    exact fun blank => absurd (blank c (led.subset (List.mem_of_getLast? last)))
      (Bool.eq_false_iff.1 hc)
  have modified : generic.readType (a ++ "(" ++ m ++ ")" ++ b) = generic.readType a := by
    refine readType_congr ?_ (baseName_modified plainFront m b)
    rw [visible (by simp), visible List.prefix_rfl]
  refine ⟨modified, ?_⟩
  rw [modified, readType_generic (visible List.prefix_rfl), readType_generic (visible (by simp)),
    Except.ok.injEq, lookupType_append_iff ends begins plain]

/-- A length before `varying` makes no difference. -/
theorem readType_modifier_character :
    EndsVisible "character" ∧ BeginsBlank " varying" ∧ '(' ∉ ("character" ++ " varying").toList ∧
      generic.readType ("character" ++ "(" ++ "20" ++ ")" ++ " varying") =
        generic.readType ("character" ++ " varying") := by
  have ends : EndsVisible "character" := by decide
  have begins : BeginsBlank " varying" := by decide
  have plain : '(' ∉ ("character" ++ " varying").toList := by decide
  exact ⟨ends, begins, plain,
    (readType_modifier_iff ends begins plain "20").2.2 (.inr (.inr (by decide +kernel)))⟩

/-- A precision before `with time zone` cuts the name off. -/
theorem readType_modifier_cuts_zone :
    EndsVisible "timestamp" ∧ BeginsBlank " with time zone" ∧
      '(' ∉ ("timestamp" ++ " with time zone").toList ∧
      generic.readType ("timestamp" ++ "(" ++ "6" ++ ")" ++ " with time zone") = .ok .timestamp ∧
      generic.readType ("timestamp" ++ " with time zone") = .ok .offsetTimestamp :=
  ⟨by decide, by decide, by decide, rfl, rfl⟩

end Dialect

end CrossSql
