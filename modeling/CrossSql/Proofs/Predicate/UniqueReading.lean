import CrossSql.Compiler
import CrossSql.Proofs.Predicate.Reading

/-!
# Unique readability of predicates

The text of a predicate and the values of its parameters fix the predicate, up to what its normal
form leaves out. Every member of a group can be read from the front of a text, whatever is in its
names: a comparison begins with the mark of a column, a group with a parenthesis or with the word in
front of it. So a group is read member by member, and what stands behind the first member is the
conjunction. The induction is on the tree that was rendered first; the other tree is read along.

## Main definitions

* `Filled`: pieces whose slots are filled with parameters of some names.
* `Member.Spelled`: what a member of a group is rendered to.
* `Member.Readable`: members that are read from the front of a text in one way.
* `Predicate.normal_eq_of_render_eq`: predicates with one text and equal parameters.
-/

namespace CrossSql

/-! ## Filled pieces -/

/-- The fragment is the pieces with parameters of some names in the slots. -/
inductive Filled (mark : String) : List Piece → Fragment → Prop
  | nil : Filled mark [] []
  | text (s : String) {ps : List Piece} {f : Fragment} (h : Filled mark ps f) :
      Filled mark (.text s :: ps) (.text s :: f)
  | clause {c : Clause} {xs : List Parameter} {ps : List Piece} {f : Fragment} (bound : c.Bound xs)
      (h : Filled mark ps f) : Filled mark (.clause c :: ps) (c.tokens mark xs ++ f)

namespace Filled

variable {mark : String} {f : Fragment}

theorem append {ps qs : List Piece} (h : Filled mark (ps ++ qs) f) :
    ∃ g g', Filled mark ps g ∧ Filled mark qs g' ∧ f = g ++ g' := by
  induction ps generalizing f with
  | nil => exact ⟨[], f, .nil, h, rfl⟩
  | cons p ps ih =>
    cases h with
    | text s h =>
      obtain ⟨g, g', hg, hg', rfl⟩ := ih h
      exact ⟨_, g', .text s hg, hg', rfl⟩
    | clause bound h =>
      obtain ⟨g, g', hg, hg', rfl⟩ := ih h
      exact ⟨_, g', .clause bound hg, hg', (List.append_assoc ..).symm⟩

theorem intercalate {s : String} {outs : List (List Piece)}
    (h : Filled mark ([Piece.text s].intercalate outs) f) :
    ∃ fs, List.Forall₂ (Filled mark) outs fs ∧ f = [Token.text s].intercalate fs := by
  induction outs generalizing f with
  | nil =>
    cases h
    exact ⟨[], .nil, rfl⟩
  | cons o outs ih =>
    cases outs with
    | nil =>
      rw [List.intercalate_singleton] at h
      exact ⟨[f], .cons h .nil, List.intercalate_singleton.symm⟩
    | cons o' outs =>
      rw [List.intercalate_cons_cons, List.append_assoc] at h
      obtain ⟨g, _, hg, separated, rfl⟩ := h.append
      cases separated with
      | text _ others =>
        obtain ⟨_, hfs, rfl⟩ := ih others
        cases hfs with
        | @cons _ g' _ fs hg' hfs =>
          refine ⟨g :: g' :: fs, .cons hg (.cons hg' hfs), ?_⟩
          rw [List.intercalate_cons_cons, List.append_assoc]
          rfl

theorem enclose {conjunction : Conjunction} {negated : Bool} {outs : List (List Piece)}
    (h : Filled mark (Predicate.enclose conjunction negated outs) f) :
    ∃ fs, List.Forall₂ (Filled mark) outs fs ∧
      f = .text (if negated then "NOT (" else "(") ::
        [Token.text (" " ++ conjunction.keyword ++ " ")].intercalate fs ++ [.text ")"] := by
  cases h with
  | text _ h =>
    obtain ⟨_, _, joined, close, rfl⟩ := h.append
    obtain ⟨fs, hfs, rfl⟩ := joined.intercalate
    cases close with
    | text _ close =>
      cases close
      exact ⟨fs, hfs, rfl⟩

end Filled

namespace Names

variable {sc : Scope} {mark : String}

/-- The parameters of a clause have names that can be read. -/
theorem bound_bind (lead : ∀ x ∈ sc.leading.toList, Parameter.isNameChar x) {c : Clause}
    (form : c.WellFormed) (names : Names) : c.Bound (names.bind sc c).1 := by
  refine ⟨names.values_bind sc c, fun x hx y hy => ?_⟩
  obtain ⟨rest, name, -, chars⟩ := exists_name_eq form hx
  rw [name, String.toList_append, List.mem_append] at hy
  rcases hy with hy | hy
  · exact lead y hy
  · exact chars y hy

theorem filled_fill (lead : ∀ x ∈ sc.leading.toList, Parameter.isNameChar x) {ps : List Piece}
    (forms : ∀ c ∈ Piece.clauses ps, c.WellFormed) (names : Names) :
    Filled mark ps (names.fill sc mark ps) := by
  induction ps generalizing names with
  | nil => exact .nil
  | cons p ps ih =>
    cases p with
    | text s => exact .text s (ih forms names)
    | clause c =>
      exact .clause (bound_bind lead (forms c List.mem_cons_self) names)
        (ih (fun c' hc' => forms c' (List.mem_cons_of_mem c hc')) _)

end Names

/-! ## Members -/

/-- What a member of a group is rendered to; the names of its fields hold no mark. -/
structure Member.Spelled (q : Quotes) (mark : String) (m : Member) (f : Fragment) : Prop where
  bare : ∀ c ∈ m.comparisons, q.Unmarked c.field.name
  filled : ∃ o, m.outline q = .ok o ∧ Filled mark o f

/-- The member in normal form and the text behind it are known from the text in front of which the
member stands. -/
def Member.Readable (q : Quotes) (mark : String) (m : Member) : Prop :=
  ∀ ⦃f : Fragment⦄ ⦃m' : Member⦄ ⦃f' : Fragment⦄ ⦃k k' : Rest⦄,
    m.Spelled q mark f → m'.Spelled q mark f' → k.EndsMember → k'.EndsMember →
      f.before k = f'.before k' → m.normal = m'.normal ∧ k = k'

section Groups

variable {q : Quotes} {a b : Char} {mark : String} {k k' : Rest}

/-- Members behind the first one, with the end of their group, in front of a rest. -/
def Conjunction.before (conjunction : Conjunction) : List Fragment → Rest → Rest
  | [], k => k.push ")"
  | f :: fs, k => (f.before (conjunction.before fs k)).push (" " ++ conjunction.keyword ++ " ")

theorem Conjunction.endsMember_before (conjunction : Conjunction) (fs : List Fragment) (k : Rest) :
    (conjunction.before fs k).EndsMember := by
  intro x hx
  cases fs with
  | nil => exact .inr (Option.some.inj hx).symm
  | cons f fs =>
    simp [Conjunction.before, Rest.push] at hx
    exact .inl hx.symm

/-- The members of a group, in front of the end of it. -/
theorem Conjunction.before_joined (conjunction : Conjunction) (f : Fragment) (fs : List Fragment)
    (k : Rest) :
    Fragment.before ([Token.text (" " ++ conjunction.keyword ++ " ")].intercalate (f :: fs))
      (k.push ")") = f.before (conjunction.before fs k) := by
  induction fs generalizing f with
  | nil => rw [List.intercalate_singleton, Conjunction.before]
  | cons g fs ih =>
    rw [List.intercalate_cons_cons, Fragment.before_append, ih, Fragment.before_append]
    rfl

theorem Conjunction.separator_free (c c' : Conjunction)
    (first : (" " ++ c.keyword ++ " ").toList <+: (" " ++ c'.keyword ++ " ").toList) : c = c' := by
  cases c <;> cases c' <;> first | rfl | (revert first; decide)

/-- Members behind the first one are read one by one, up to the end of the group. -/
theorem Conjunction.before_unique {conjunction conjunction' : Conjunction} {ms ms' : List Member}
    {fs fs' : List Fragment} (readable : ∀ m ∈ ms, m.Readable q mark)
    (spelled : List.Forall₂ (Member.Spelled q mark) ms fs)
    (spelled' : List.Forall₂ (Member.Spelled q mark) ms' fs')
    (e : conjunction.before fs k = conjunction'.before fs' k') :
    ms.map Member.normal = ms'.map Member.normal ∧ (ms ≠ [] → conjunction = conjunction') ∧
      k = k' := by
  have apart {c : Conjunction} {k k' : Rest} (e : k.push ")" = k'.push (" " ++ c.keyword ++ " ")) :
      False := by
    have chars := congrArg (fun k => k.chars.head?) e
    simp [Rest.push] at chars
  induction spelled generalizing ms' fs' with
  | nil =>
    cases spelled' with
    | nil => exact ⟨rfl, fun none => absurd rfl none, Rest.push_inj.1 e⟩
    | cons => exact (apart e).elim
  | @cons m f ms fs hm hms ih =>
    cases spelled' with
    | nil => exact (apart e.symm).elim
    | @cons m' f' ms' fs' hm' hms' =>
      obtain ⟨rfl, members⟩ := Rest.push_unique Conjunction.separator_free e
      obtain ⟨first, rest⟩ := readable m List.mem_cons_self hm hm'
        (endsMember_before _ fs k) (endsMember_before _ fs' k') members
      obtain ⟨others, -, rest⟩ := ih (fun m hm => readable m (List.mem_cons_of_mem _ hm)) hms' rest
      exact ⟨by rw [List.map_cons, List.map_cons, first, others], fun _ => rfl, rest⟩

end Groups

namespace Member

variable {q : Quotes} {a b : Char} {mark : String} {f : Fragment} {c : Comparison} {p : Predicate}

/-! ### What members are rendered to -/

theorem Spelled.exists_clause (h : (comparison c).Spelled q mark f) :
    ∃ cl xs, c.clause q = .ok cl ∧ cl.Bound xs ∧ f = cl.tokens mark xs := by
  obtain ⟨-, _, outline, filled⟩ := h
  obtain ⟨cl, hc, rfl⟩ := map_eq_ok_iff.1 outline
  cases filled with
  | clause bound filled =>
    cases filled
    exact ⟨cl, _, hc, bound, List.append_nil _⟩

/-- The text in front of the members of a group. -/
def openingOf (negated : Bool) : String := if negated then "NOT (" else "("

theorem Spelled.exists_members (h : (group p).Spelled q mark f) :
    ∃ fs, List.Forall₂ (Spelled q mark) p.members fs ∧
      f = .text (openingOf p.negated) ::
        [Token.text (" " ++ p.conjunction.keyword ++ " ")].intercalate fs ++ [.text ")"] := by
  obtain ⟨bare, _, outline, filled⟩ := h
  obtain ⟨outs, houts, rfl⟩ := Predicate.outline_ok_members outline
  obtain ⟨fs, hfs, rfl⟩ := filled.enclose
  refine ⟨fs, ?_, rfl⟩
  have inside : ∀ m ∈ p.members, ∀ c ∈ m.comparisons, q.Unmarked c.field.name :=
    fun m hm c hc => bare c (Predicate.mem_comparisons_of_mem hm hc)
  clear bare outline filled
  generalize p.members = ms at houts inside
  induction houts generalizing fs with
  | nil =>
    cases hfs
    exact .nil
  | cons ho _ ih =>
    cases hfs with
    | cons hf hfs =>
      exact .cons ⟨inside _ List.mem_cons_self, _, ho, hf⟩
        (ih _ hfs fun m hm => inside m (List.mem_cons_of_mem _ hm))

/-- A comparison begins with the mark of its column. -/
theorem Spelled.head_comparison (marks : q.Marks a b) (h : (comparison c).Spelled q mark f)
    (k : Rest) : (f.before k).chars.head? = some a := by
  obtain ⟨cl, xs, hc, -, rfl⟩ := h.exists_clause
  obtain ⟨heading, opening, -, -⟩ := Comparison.exists_readsAs hc
  have bare := h.bare c List.mem_cons_self
  rw [Clause.before_tokens, opening]
  simp [Rest.push, Quotes.toList_column marks bare]

theorem Spelled.head_group (h : (group p).Spelled q mark f) (k : Rest) :
    (f.before k).chars.head? = some (if p.negated then 'N' else '(') := by
  obtain ⟨fs, -, rfl⟩ := h.exists_members
  rw [List.cons_append, Fragment.before_cons, Token.before_text]
  cases p.negated <;> rfl

/-- No member begins with the end of a group. -/
theorem Spelled.head_ne (marks : q.Marks a b) {m : Member} (h : m.Spelled q mark f) (k : Rest) :
    (f.before k).chars.head? ≠ some ')' := by
  cases m with
  | comparison c =>
    rw [h.head_comparison marks]
    intro e
    exact marks.fresh (by simp [Option.some.inj e])
  | group p =>
    rw [h.head_group]
    cases p.negated <;> decide

/-- A comparison does not begin like a group. -/
theorem Spelled.comparison_ne_group (marks : q.Marks a b) {f' : Fragment} {k k' : Rest}
    (h : (comparison c).Spelled q mark f) (h' : (group p).Spelled q mark f') :
    f.before k ≠ f'.before k' := by
  intro e
  have heads := congrArg (fun k => k.chars.head?) e
  simp only [h.head_comparison marks, h'.head_group, Option.some.injEq] at heads
  refine marks.fresh ?_
  rw [heads]
  cases p.negated <;> decide

/-! ### Reading members -/

theorem readable_comparison (marks : q.Marks a b) (c : Comparison) :
    (comparison c).Readable q mark := by
  intro f m' f' k k' h h' ends ends' e
  cases m' with
  | comparison c' =>
    obtain ⟨cl, xs, hc, bound, rfl⟩ := h.exists_clause
    obtain ⟨cl', xs', hc', bound', rfl⟩ := h'.exists_clause
    obtain ⟨same, rest⟩ := Comparison.clause_unique marks (h.bare c List.mem_cons_self)
      (h'.bare c' List.mem_cons_self) hc hc' bound bound' ends ends' e
    exact ⟨congrArg comparison same, rest⟩
  | group p' => exact absurd e (h.comparison_ne_group marks h')

theorem openingOf_free (n n' : Bool) (first : (openingOf n).toList <+: (openingOf n').toList) :
    n = n' := by
  cases n <;> cases n' <;> first | rfl | (revert first; decide)

/-- The members of a group are read one by one. Two of them tell the conjunction. -/
theorem joined_unique (marks : q.Marks a b) {conjunction conjunction' : Conjunction}
    {ms ms' : List Member} {fs fs' : List Fragment} {k k' : Rest}
    (readable : ∀ m ∈ ms, m.Readable q mark) (spelled : List.Forall₂ (Spelled q mark) ms fs)
    (spelled' : List.Forall₂ (Spelled q mark) ms' fs')
    (e : Fragment.before ([Token.text (" " ++ conjunction.keyword ++ " ")].intercalate fs)
        (k.push ")") =
      Fragment.before ([Token.text (" " ++ conjunction'.keyword ++ " ")].intercalate fs')
        (k'.push ")")) :
    ms.map normal = ms'.map normal ∧ (2 ≤ ms.length → conjunction = conjunction') ∧ k = k' := by
  cases spelled with
  | nil =>
    cases spelled' with
    | nil => exact ⟨rfl, fun two => absurd two (by decide), Rest.push_inj.1 e⟩
    | @cons m' f' ms' fs' hm' hms' =>
      rw [conjunction'.before_joined] at e
      exact absurd (congrArg (fun k => k.chars.head?) e).symm (hm'.head_ne marks _)
  | @cons m f ms fs hm hms =>
    rw [conjunction.before_joined] at e
    cases spelled' with
    | nil => exact absurd (congrArg (fun k => k.chars.head?) e) (hm.head_ne marks _)
    | @cons m' f' ms' fs' hm' hms' =>
      rw [conjunction'.before_joined] at e
      obtain ⟨first, behind⟩ := readable m List.mem_cons_self hm hm'
        (conjunction.endsMember_before fs k) (conjunction'.endsMember_before fs' k') e
      obtain ⟨others, joined, rest⟩ := Conjunction.before_unique
        (fun m hm => readable m (List.mem_cons_of_mem _ hm)) hms hms' behind
      refine ⟨by rw [List.map_cons, List.map_cons, first, others], fun two => joined ?_, rest⟩
      rintro rfl
      simp at two

/-- A group is read as its members are. -/
theorem readable_group (marks : q.Marks a b) (readable : ∀ m ∈ p.members, m.Readable q mark) :
    (group p).Readable q mark := by
  intro f m' f' k k' h h' ends ends' e
  cases m' with
  | comparison c' => exact absurd e.symm (h'.comparison_ne_group marks h)
  | group p' =>
    obtain ⟨fs, spelled, rfl⟩ := h.exists_members
    obtain ⟨fs', spelled', rfl⟩ := h'.exists_members
    simp only [List.cons_append, Fragment.before_cons, Token.before_text,
      Fragment.before_append, Fragment.before_nil] at e
    obtain ⟨negated, joined⟩ := Rest.push_unique openingOf_free e
    obtain ⟨members, conjunction, rest⟩ := joined_unique marks readable spelled spelled' joined
    exact ⟨congrArg group (Predicate.normal_eq_of_members negated members conjunction), rest⟩

end Member

/-! ## Predicates -/

namespace Predicate

variable {q : Quotes} {a b : Char} {mark : String}

mutual

/-- Every group can be read, and so can every group in it. -/
theorem readable (marks : q.Marks a b) : (p : Predicate) → (Member.group p).Readable q mark
  | group comparisons groups conjunction negated => by
    have inner := readable_of_mem marks groups
    refine Member.readable_group marks fun m hm => ?_
    rcases List.mem_append.1 hm with hm | hm
    · obtain ⟨c, -, rfl⟩ := List.mem_map.1 hm
      exact Member.readable_comparison marks c
    · obtain ⟨p, hp, rfl⟩ := List.mem_map.1 hm
      exact inner p (List.mem_of_mem_filter hp)

theorem readable_of_mem (marks : q.Marks a b) :
    (ps : List Predicate) → ∀ p ∈ ps, (Member.group p).Readable q mark
  | [] => by simp
  | p :: ps => by
    have first := readable marks p
    have rest := readable_of_mem marks ps
    simpa using ⟨first, rest⟩

end

/-- A rendered predicate is spelled as a member is. -/
theorem spelled_of_tokens {p : Predicate} {sc : Scope} {s : Setting} {f : Fragment}
    (lead : ∀ x ∈ sc.leading.toList, Parameter.isNameChar x)
    (bare : ∀ c ∈ p.comparisons, s.quotes.Unmarked c.field.name) (h : p.tokens sc s = .ok f) :
    (Member.group p).Spelled s.quotes s.parameterMark f := by
  obtain ⟨pieces, outline, rfl⟩ := map_eq_ok_iff.1 h
  have forms := (Comparison.clauses_ok (outline_ok outline)).1
  exact ⟨bare, pieces, outline, Names.filled_fill lead forms .empty⟩

end Predicate

theorem Dialect.exists_marks (d : Dialect) : ∃ a b, d.setting.quotes.Marks a b := by
  cases d with
  | sqlite => exact ⟨'[', ']', rfl, rfl, by decide⟩
  | _ => exact ⟨'"', '"', rfl, rfl, by decide⟩

namespace Predicate

/-- Two predicates with the same text and equal parameters have the same normal form. -/
theorem normal_eq_of_render_eq (d : Dialect) {sc : Scope}
    (lead : sc.leading = "" ∨ sc.leading = "_") {p p' : Predicate}
    (bare : ∀ c ∈ p.comparisons, d.setting.quotes.Unmarked c.field.name)
    (bare' : ∀ c ∈ p'.comparisons, d.setting.quotes.Unmarked c.field.name)
    {text : String} (h : p.render sc d.setting = .ok text) (h' : p'.render sc d.setting = .ok text)
    (parameters : p.parameters sc d.setting = p'.parameters sc d.setting) :
    p.normal = p'.normal := by
  obtain ⟨a, b, marks⟩ := d.exists_marks
  obtain ⟨f, tokens, rfl⟩ := map_eq_ok_iff.1 h
  obtain ⟨f', tokens', texts⟩ := map_eq_ok_iff.1 h'
  have chars : ∀ x ∈ sc.leading.toList, Parameter.isNameChar x := by
    rw [← List.all_eq_true]
    rcases lead with lead | lead <;> rw [lead] <;> decide
  have done : (⟨[], []⟩ : Rest).EndsMember := nofun
  have values : f.parameters = f'.parameters := by
    rw [Predicate.parameters, tokens, Predicate.parameters, tokens'] at parameters
    exact Except.ok.inj parameters
  have same : f.before ⟨[], []⟩ = f'.before ⟨[], []⟩ := by
    rw [Fragment.before_eq, Fragment.before_eq, texts, values]
  obtain ⟨normal, -⟩ := readable marks p (spelled_of_tokens chars bare tokens)
    (spelled_of_tokens chars bare' tokens') done done same
  exact Member.group.inj normal

/-- Two trees with the text `("Id" IS NULL AND NOT ("Age" BETWEEN @_Age_1_Left AND @_Age_1_Right))`,
apart in all that the normal form leaves out. -/
theorem normal_eq_of_render_eq_nested :
    let p : Predicate := .group [.equal " Id" (.absent .varchar)]
      [.all [], .group [.between "Age" .null (.ofString "9")] [] .or true] .and false
    let p' : Predicate := .group [⟨⟨"Id", some .uuid⟩, .equal, .single .null⟩]
      [.group [.between "Age " .null (.ofString "9")] [.any []] .and true] .and false
    ∃ text, p.render ⟨1, "_"⟩ Dialect.generic.setting = .ok text ∧
      p'.render ⟨1, "_"⟩ Dialect.generic.setting = .ok text ∧ p.normal = p'.normal := by
  intro p p'
  have same : p'.outline Dialect.generic.setting.quotes =
      p.outline Dialect.generic.setting.quotes := by decide +kernel
  have tokens (sc : Scope) :
      p'.tokens sc Dialect.generic.setting = p.tokens sc Dialect.generic.setting := by
    rw [Predicate.tokens, same, Predicate.tokens]
  have accepted : (p.render ⟨1, "_"⟩ Dialect.generic.setting).isOk := by decide +kernel
  cases h : p.render ⟨1, "_"⟩ Dialect.generic.setting with
  | error e =>
    rw [h] at accepted
    cases accepted
  | ok text =>
    have h' : p'.render ⟨1, "_"⟩ Dialect.generic.setting = .ok text := by
      rw [render, tokens]
      exact h
    refine ⟨text, rfl, h', normal_eq_of_render_eq .generic (.inr rfl) ?_ ?_ h h' ?_⟩
    · decide +kernel
    · decide +kernel
    · rw [Predicate.parameters, Predicate.parameters, tokens]

end Predicate

end CrossSql
