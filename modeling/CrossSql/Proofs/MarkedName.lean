import CrossSql.Proofs.Unquoting

/-!
# Quoting a name between its marks

A name that stands between its marks is finished, so quoting it as one word leaves it alone. A
qualified name is quoted part by part, and its parts are found without regard to marks: a dot
between the marks divides the name, and both parts get the marks that they are without. Only a dot
alone between two equal marks of more than one byte is spared, because such a mark counts for both.

## Main definitions

* `Quotes.Visible`: marks that are not blank.
* `Quotes.finished_marked`: a name between its marks is finished.
* `Quotes.eq_lone_dot`: what is between the marks of a divided name that stays as it is.
* `Quotes.quote_marked_iff`: the names that quoting leaves alone.
-/

namespace CrossSql.Quotes

open Text

variable {q : Quotes} {o c : Char} {body : List Char}

theorem solid_of_marks (opening : q.opening.toList = [o]) (closing : q.closing.toList = [c])
    (ho : o ≠ '.' ∧ isBlank o = false) (hc : c ≠ '.' ∧ isBlank c = false) : q.Solid := by
  have mark {s : String} {d : Char} (spelled : s.toList = [d])
      (plain : d ≠ '.' ∧ isBlank d = false) : IsMark s := by
    refine ⟨?_, by simpa [spelled] using plain⟩
    rintro rfl
    cases spelled
  exact ⟨mark opening ho, mark closing hc⟩

/-- A name between its marks is finished, whatever it is. -/
theorem finished_marked (opening : q.opening.toList = [o]) (closing : q.closing.toList = [c])
    (body : List Char) : q.Finished (o :: (body ++ [c])) where
  opens := opening ▸ List.prefix_append [o] (body ++ [c])
  closes := closing ▸ List.suffix_append (o :: body) [c]
  long := isOneByte_append (List.cons_ne_nil o []) (by simp)

theorem trimIf_marked (ho : isBlank o = false) (hc : isBlank c = false) (trimmed : Bool)
    (body : List Char) : trimIf trimmed (o :: (body ++ [c])) = o :: (body ++ [c]) := by
  cases trimmed with
  | false => rfl
  | true =>
    refine trimChars_eq_self (fun d hd => ?_) fun d hd => ?_
    · obtain rfl : o = d := by simpa using hd
      exact ho
    · have last : (o :: (body ++ [c])).getLast? = some c :=
        List.getLast?_append_cons (o :: body) c []
      obtain rfl : c = d := by simpa [last] using hd
      exact hc

/-- Of an empty part nothing is left but the marks. -/
theorem quotePart_nil (opening : q.opening.toList = [o]) (closing : q.closing.toList = [c])
    (trimmed : Bool) : q.quotePart trimmed [] = [o, c] := by
  have bare : trimIf trimmed [] = [] := by cases trimmed <;> rfl
  simp [quotePart, quoteWord, bare, opening, closing]

/-! ## Divided names -/

theorem parts_append_dot (w cs : List Char) : parts (w ++ '.' :: cs) = parts w ++ parts cs :=
  splitWhere_append_cons (by rfl) w cs

theorem parts_of_undotted {w : List Char} (h : '.' ∉ w) : parts w = [w] := by
  rw [parts_eq_splitOn, List.splitOn_eq_singleton h]

theorem joinParts_cons_cons (w v : List Char) (ws : List (List Char)) :
    joinParts (w :: v :: ws) = w ++ '.' :: joinParts (v :: ws) := by
  simp [joinParts, List.intercalate_cons_cons]

theorem quoteChars_of_trimmed {trimmed : Bool} {cs : List Char} (bare : trimIf trimmed cs = cs) :
    q.quoteChars trimmed false cs = joinParts ((parts cs).map (q.quotePart trimmed)) := by
  rw [quoteChars_eq, bare]
  rfl

/-- If the opening mark is a dot, there is an empty part in front of it, which gets marks. -/
theorem quoteChars_ne_of_opening_dot (opening : q.opening.toList = ['.'])
    (closing : q.closing.toList = [c]) (hc : isBlank c = false) (bare : c ∉ body)
    (trimmed : Bool) :
    q.quoteChars trimmed false ('.' :: (body ++ [c])) ≠ '.' :: (body ++ [c]) := by
  intro same
  obtain ⟨v, ws, behind⟩ := List.exists_cons_of_ne_nil (splitWhere_ne_nil (· == '.') (body ++ [c]))
  have divided : parts ('.' :: (body ++ [c])) = [] :: v :: ws := by
    rw [← behind]
    exact parts_append_dot [] (body ++ [c])
  rw [quoteChars_of_trimmed (trimIf_marked (by decide) hc trimmed body), divided, List.map_cons,
    List.map_cons, joinParts_cons_cons, quotePart_nil opening closing] at same
  cases body with
  | nil => simp at same
  | cons d body =>
    obtain rfl : c = d := by
      simp at same
      exact same.1
    exact bare List.mem_cons_self

/-- If the closing mark is a dot, there is an empty part behind it, which gets marks. -/
theorem quoteChars_ne_of_closing_dot (opening : q.opening.toList = [o])
    (closing : q.closing.toList = ['.']) (ho : isBlank o = false) (undotted : '.' ∉ o :: body)
    (trimmed : Bool) :
    q.quoteChars trimmed false (o :: (body ++ ['.'])) ≠ o :: (body ++ ['.']) := by
  intro same
  have divided : parts (o :: (body ++ ['.'])) = [o :: body, []] := by
    have apart := parts_append_dot (o :: body) []
    rw [parts_of_undotted undotted] at apart
    exact apart
  rw [quoteChars_of_trimmed (trimIf_marked ho (by decide) trimmed body), divided, List.map_cons,
    List.map_cons, List.map_nil, joinParts_cons_cons, quotePart_nil opening closing] at same
  have inside : q.quotePart trimmed (o :: body) ++ ['.', o] = o :: body := by
    have ended : q.quotePart trimmed (o :: body) ++ ['.', o] ++ ['.'] = o :: body ++ ['.'] := by
      simpa [joinParts] using same
    exact List.append_cancel_right ended
  exact undotted (inside ▸ by simp)

/-- A divided name of finished parts has nothing but a dot between its marks. -/
theorem eq_lone_dot (opening : q.opening.toList = [o]) (closing : q.closing.toList = [c])
    (ho : o ≠ '.') (bare : ∀ d ∈ body, d ≠ o ∧ d ≠ c) (dot : '.' ∈ body)
    (finished : ∀ w ∈ parts (o :: (body ++ [c])), q.Finished w) :
    body = ['.'] ∧ o = c ∧ isOneByte [o] = false := by
  obtain ⟨p, r, rfl, undotted⟩ := List.eq_append_cons_of_mem dot
  have divided : parts (o :: (p ++ '.' :: r ++ [c])) = (o :: p) :: parts (r ++ [c]) := by
    have whole : o :: (p ++ '.' :: r ++ [c]) = (o :: p) ++ '.' :: (r ++ [c]) := by simp
    have front : '.' ∉ o :: p := by simp [undotted, Ne.symm ho]
    rw [whole, parts_append_dot, parts_of_undotted front]
    rfl
  rw [divided] at finished
  obtain ⟨first, rest⟩ := List.forall_mem_cons.1 finished
  -- The first part closes with a mark, which is not in the name and therefore the opening one.
  have closes : [c] <:+ o :: p := closing ▸ first.closes
  obtain rfl : p = [] := by
    by_contra some
    have inside : [c] <:+ p := by
      refine (List.suffix_cons_iff.1 closes).resolve_left fun whole => some ?_
      exact (List.cons.inj whole).2.symm
    have hc := List.mem_append_left ('.' :: r) (inside.subset List.mem_cons_self)
    exact (bare c hc).2 rfl
  obtain rfl : c = o := (List.cons.inj (closes.eq_of_length rfl)).1
  -- What is behind the dot opens with the mark as well, so it is nothing but the closing one.
  obtain rfl : r = [] := by
    cases r with
    | nil => rfl
    | cons d r =>
      obtain ⟨w, hw, other⟩ : ∃ w ∈ parts (d :: (r ++ [c])), ¬[c] <+: w := by
        by_cases separator : d = '.'
        · exact ⟨[], by simp [parts, splitWhere, separator], by simp⟩
        · have plain : ∀ x ∈ [d], (x == '.') = false := by simpa using separator
          obtain ⟨w, ws, -, led⟩ := splitWhere_append_left plain (r ++ [c])
          refine ⟨d :: w, ?_, fun opens => ?_⟩
          · rw [parts]
            exact led ▸ List.mem_cons_self
          · exact (bare d (by simp)).2 (List.cons_prefix_cons.1 opens).1.symm
      exact absurd (opening ▸ (rest w hw).opens) other
  exact ⟨rfl, rfl, first.long⟩

/-- A dot between two marks that each count for both divides the name into finished parts. -/
theorem quoteChars_lone_dot (opening : q.opening.toList = [o]) (closing : q.closing.toList = [o])
    (ho : o ≠ '.' ∧ isBlank o = false) (long : isOneByte [o] = false)
    (trimmed ignoreSchema : Bool) :
    q.quoteChars trimmed ignoreSchema [o, '.', o] = [o, '.', o] := by
  refine quoteChars_eq_self (solid_of_marks opening closing ho ho) trimmed ?_
  cases ignoreSchema with
  | true => exact List.forall_mem_singleton.2 (finished_marked opening closing ['.'])
  | false =>
    have divided : parts [o, '.', o] = [[o], [o]] := by
      have undotted : '.' ∉ [o] := by simpa using ho.1.symm
      have apart := parts_append_dot [o] [o]
      rw [parts_of_undotted undotted] at apart
      exact apart
    have mark : q.Finished [o] := ⟨opening ▸ List.prefix_rfl, closing ▸ List.suffix_rfl, long⟩
    change ∀ w ∈ parts [o, '.', o], q.Finished w
    rw [divided]
    simp [mark]

/-- The only divided name that quoting leaves between its marks. -/
theorem eq_lone_dot_of_same (opening : q.opening.toList = [o]) (closing : q.closing.toList = [c])
    (ho : isBlank o = false) (hc : isBlank c = false) (bare : ∀ d ∈ body, d ≠ o ∧ d ≠ c)
    (dot : '.' ∈ o :: (body ++ [c])) {trimmed : Bool}
    (same : q.quoteChars trimmed false (o :: (body ++ [c])) = o :: (body ++ [c])) :
    body = ['.'] ∧ o = c ∧ isOneByte [o] = false := by
  have first : o ≠ '.' := by
    rintro rfl
    have outside : c ∉ body := fun inside => (bare c inside).2 rfl
    exact quoteChars_ne_of_opening_dot opening closing hc outside trimmed same
  have last : c ≠ '.' := by
    rintro rfl
    have undotted : '.' ∉ o :: body := by
      rintro (_ | ⟨_, inside⟩)
      · exact first rfl
      · exact (bare '.' inside).2 rfl
    exact quoteChars_ne_of_closing_dot opening closing ho undotted trimmed same
  refine eq_lone_dot opening closing first bare (by simpa [first.symm, last.symm] using dot) ?_
  have solid := solid_of_marks opening closing ⟨first, ho⟩ ⟨last, hc⟩
  have quoted : parts (q.quoteChars trimmed false (o :: (body ++ [c]))) = _ :=
    pieces_quoteChars solid trimmed false (o :: (body ++ [c]))
  rw [same] at quoted
  rw [quoted, List.forall_mem_map]
  exact fun w _ => finished_quoteWord solid (trimIf trimmed w)

/-- Neither mark is a blank. -/
def Visible (q : Quotes) : Prop := ∀ c ∈ q.marks, isBlank c = false

instance (q : Quotes) : Decidable q.Visible :=
  List.decidableBAll (fun c => isBlank c = false) q.marks

/-- A name between its marks stays as it is exactly if it is quoted as one word, has no dot, or is a
dot between two equal marks of more than one byte. -/
theorem quote_marked_iff (single : q.Single) (visible : q.Visible) {name : String}
    (bare : q.Bare name) (trimmed ignoreSchema : Bool) :
    q.quote trimmed ignoreSchema (q.opening ++ name ++ q.closing) =
        q.opening ++ name ++ q.closing ↔
      ignoreSchema = true ∨ '.' ∉ (q.opening ++ name ++ q.closing).toList ∨
        name = "." ∧ q.opening = q.closing ∧ isOneByte q.opening.toList = false := by
  obtain ⟨o, c, opening, closing⟩ := single.exists_marks
  have marks : q.marks = [o, c] := by rw [Quotes.marks, opening, closing]; rfl
  have ho : isBlank o = false := visible o (by simp [marks])
  have hc : isBlank c = false := visible c (by simp [marks])
  have whole : (q.opening ++ name ++ q.closing).toList = o :: (name.toList ++ [c]) := by
    simp [opening, closing]
  have bare : ∀ d ∈ name.toList, d ≠ o ∧ d ≠ c := by simpa [Bare, marks] using bare
  have lone : name = "." ↔ name.toList = ['.'] := String.toList_inj.symm
  have equal : q.opening = q.closing ↔ o = c := by
    rw [← String.toList_inj, opening, closing, List.singleton_inj]
  rw [← String.toList_inj, toList_quote, whole, lone, equal, opening]
  constructor
  · intro same
    cases ignoreSchema with
    | true => exact .inl rfl
    | false =>
      refine .inr (or_iff_not_imp_left.2 fun dotted => ?_)
      exact eq_lone_dot_of_same opening closing ho hc bare (not_not.1 dotted) same
  · intro h
    obtain ⟨spelled, rfl, long⟩ | word : (name.toList = ['.'] ∧ o = c ∧ isOneByte [o] = false) ∨
        (ignoreSchema || !(o :: (name.toList ++ [c])).contains '.') = true := by
      simpa [or_comm, or_assoc, or_left_comm] using h
    · have undotted : o ≠ '.' := (bare '.' (by simp [spelled])).1.symm
      rw [spelled]
      exact quoteChars_lone_dot opening closing ⟨undotted, ho⟩ long trimmed ignoreSchema
    · have kept := trimIf_marked ho hc trimmed name.toList
      have finished := finished_marked opening closing name.toList
      simp only [quoteChars, quotePart, kept, word, if_true, finished.quoteWord]

/-- Blanks and other marks between the marks stay where they are. -/
theorem quote_marked_blanks :
    let q : Quotes := ⟨"[", "]"⟩
    q.Single ∧ q.Visible ∧ q.Bare " \"a\" " ∧ q.quote true false "[ \"a\" ]" = "[ \"a\" ]" := by
  intro q
  have single : q.Single := by decide +kernel
  have visible : q.Visible := by decide
  have bare : q.Bare " \"a\" " := by decide
  exact ⟨single, visible, bare,
    (quote_marked_iff single visible bare true false).2 (.inr (.inl (by decide)))⟩

/-- A dot between the marks divides a name of one part into two. -/
theorem quote_divides_marked :
    let q := Setting.standard.quotes
    q.Single ∧ q.Visible ∧ q.Bare "a.b" ∧ q.opening ++ "a.b" ++ q.closing = "\"a.b\"" ∧
      q.quote true false "\"a.b\"" = "\"a\".\"b\"" := by
  decide +kernel

end CrossSql.Quotes
