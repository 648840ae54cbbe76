import CrossSql.Proofs.Predicate.FreshNames
import CrossSql.Proofs.Predicate.NormalForm
import CrossSql.Proofs.Text.Pieces

/-!
# Reading clauses from the front

A clause can be read from the front of a text, whatever follows, and so it is known where it ends. A
column ends with its closing mark and a name with its last name character; behind a column stands
one of a few headings, none of which begins like another one. The heading says how many parameters
follow and what stands between them.

## Main definitions

* `Rest`, `Fragment.before`: what is left to be read, and a fragment in front of it.
* `Heading`: what stands behind the column of a comparison.
* `Heading.comparison`: the comparison with a heading and the values of its parameters.
* `Comparison.clause_unique`: a clause at the front of a text fixes the comparison and the rest.
-/

namespace CrossSql

/-! ## What is left to be read -/

/-- What is left of a text, and of the values of its parameters. -/
structure Rest where
  chars : List Char
  values : List Value

namespace Rest

/-- A text in front of the rest. -/
def push (k : Rest) (s : String) : Rest := ⟨s.toList ++ k.chars, k.values⟩

variable {k k' : Rest} {s t : String}

@[simp] theorem push_empty (k : Rest) : k.push "" = k := by
  simp [push]

theorem push_append (k : Rest) (s t : String) : k.push (s ++ t) = (k.push t).push s := by
  simp [push]

theorem push_inj : k.push s = k'.push s ↔ k = k' := by
  obtain ⟨chars, values⟩ := k
  obtain ⟨chars', values'⟩ := k'
  simp [push]

/-- Of texts none of which begins like another one, the one in front is known. -/
theorem push_unique {α : Type} {text : α → String}
    (free : ∀ a b, (text a).toList <+: (text b).toList → a = b) {a b : α}
    (e : k.push (text a) = k'.push (text b)) : a = b ∧ k = k' := by
  have chars : (text a).toList ++ k.chars = (text b).toList ++ k'.chars := congrArg Rest.chars e
  obtain rfl : a = b := by
    rcases List.prefix_or_prefix_of_prefix (List.prefix_append (text a).toList k.chars)
      (chars ▸ List.prefix_append (text b).toList k'.chars) with first | second
    · exact free a b first
    · exact (free b a second).symm
  exact ⟨rfl, push_inj.1 e⟩

/-- The rest does not go on with a character of a name. -/
def EndsName (k : Rest) : Prop := ∀ x ∈ k.chars.head?, ¬ Parameter.isNameChar x

/-- The rest is empty, or goes on with what can stand behind a member of a group. -/
def EndsMember (k : Rest) : Prop := ∀ x ∈ k.chars.head?, x = ' ' ∨ x = ')'

theorem EndsMember.endsName (h : k.EndsMember) : k.EndsName := by
  intro x hx
  rcases h x hx with rfl | rfl <;> decide

end Rest

namespace Token

/-- A token in front of a rest, with its value if it stands for one. -/
def before (t : Token) (k : Rest) : Rest :=
  ⟨t.written.toList ++ k.chars,
    ((t.marker?.bind Marker.parameter?).map Parameter.value).toList ++ k.values⟩

@[simp] theorem before_text (s : String) (k : Rest) : before (.text s) k = k.push s := rfl

end Token

namespace Fragment

/-- A fragment in front of a rest, with the values of its parameters. -/
def before (f : Fragment) (k : Rest) : Rest := f.foldr Token.before k

@[simp] theorem before_nil (k : Rest) : before [] k = k := rfl

@[simp] theorem before_cons (t : Token) (f : Fragment) (k : Rest) :
    before (t :: f) k = t.before (before f k) := rfl

@[simp] theorem before_append (f g : Fragment) (k : Rest) :
    before (f ++ g) k = before f (before g k) := by
  simp [before]

theorem before_eq (f : Fragment) (k : Rest) :
    before f k =
      ⟨f.text.toList ++ k.chars, f.parameters.map Parameter.value ++ k.values⟩ := by
  induction f with
  | nil => rfl
  | cons t f ih =>
    rw [before_cons, ih, Token.before]
    cases h : t.marker? with
    | none => simp [parameters, h]
    | some m => cases hm : m.parameter? <;> simp [parameters, h, hm]

end Fragment

/-! ## Names and columns -/

namespace Text

/-- A run of characters that satisfy a condition ends where the condition fails. -/
theorem run_unique {p : Char → Bool} {run run' rest rest' : List Char} (hr : ∀ c ∈ run, p c)
    (hr' : ∀ c ∈ run', p c) (ends : ∀ c ∈ rest.head?, ¬ p c) (ends' : ∀ c ∈ rest'.head?, ¬ p c)
    (e : run ++ rest = run' ++ rest') : run = run' ∧ rest = rest' := by
  have stops {rest : List Char} (ends : ∀ c ∈ rest.head?, ¬ p c) : rest.takeWhile p = [] := by
    cases rest with
    | nil => rfl
    | cons c r => exact List.takeWhile_cons_of_neg (ends c rfl)
  have same : run = run' := by
    have taken := congrArg (List.takeWhile p) e
    rwa [List.takeWhile_append_of_pos hr, List.takeWhile_append_of_pos hr', stops ends,
      stops ends', List.append_nil, List.append_nil] at taken
  rw [same, List.append_cancel_left_eq] at e
  exact ⟨same, e⟩

end Text

section Names

variable {mark : String} {x x' : Parameter} {k k' : Rest}

/-- The parameter with its mark in front of a rest. -/
def Parameter.before (mark : String) (x : Parameter) (k : Rest) : Rest :=
  (Token.marker (x.marker mark)).before k

/-- Every character of the name is one that names are made of. -/
def Parameter.Named (x : Parameter) : Prop := ∀ c ∈ x.name.toList, isNameChar c

/-- A name ends where its characters do. -/
theorem Parameter.before_unique (named : x.Named) (named' : x'.Named) (ends : k.EndsName)
    (ends' : k'.EndsName) (e : x.before mark k = x'.before mark k') :
    x.value = x'.value ∧ k = k' := by
  have chars : (mark ++ x.name).toList ++ k.chars = (mark ++ x'.name).toList ++ k'.chars :=
    congrArg Rest.chars e
  have values : x.value :: k.values = x'.value :: k'.values := congrArg Rest.values e
  simp only [String.toList_append, List.append_assoc, List.append_cancel_left_eq] at chars
  obtain ⟨-, chars⟩ := Text.run_unique named named' ends ends' chars
  obtain ⟨value, values⟩ := List.cons.inj values
  obtain ⟨_, _⟩ := k
  obtain ⟨_, _⟩ := k'
  exact ⟨value, Rest.mk.injEq .. ▸ ⟨chars, values⟩⟩

end Names

/-- Marks of one character each, neither of which a member of a group or its end begins with. -/
structure Quotes.Marks (q : Quotes) (a b : Char) : Prop where
  opening : q.opening.toList = [a]
  closing : q.closing.toList = [b]
  fresh : a ∉ ['(', 'N', ')']

/-- No character of the name belongs to a mark. -/
def Quotes.Unmarked (q : Quotes) (name : String) : Prop :=
  ∀ x ∈ name.toList, x ∉ q.opening.toList ∧ x ∉ q.closing.toList

instance (q : Quotes) (name : String) : Decidable (q.Unmarked name) :=
  List.decidableBAll (fun x => x ∉ q.opening.toList ∧ x ∉ q.closing.toList) name.toList

section Columns

variable {q : Quotes} {a b : Char} {name name' : String} {k k' : Rest}

/-- Both marks are written around a name that has neither. -/
theorem Quotes.toList_column (marks : q.Marks a b) (bare : q.Unmarked name) :
    (q.column name).toList = a :: Text.trimChars name.toList ++ [b] := by
  have unopened : a ∉ Text.trimChars name.toList := fun h =>
    (bare a (Text.mem_of_mem_trimChars h)).1 (by simp [marks.opening])
  have unclosed : b ∉ Text.trimChars name.toList := fun h =>
    (bare b (Text.mem_of_mem_trimChars h)).2 (by simp [marks.closing])
  have opens : ¬ [a] <+: Text.trimChars name.toList := fun h => unopened (h.subset (by simp))
  have closes : ¬ [b] <:+ Text.trimChars name.toList := fun h => unclosed (h.subset (by simp))
  simp [column, quote, quoteChars, quotePart, quoteWord, trimIf, Text.trimChars_trimChars,
    marks.opening, marks.closing, opens, closes]

/-- A column ends with the first closing mark. -/
theorem Quotes.column_unique (marks : q.Marks a b) (bare : q.Unmarked name)
    (bare' : q.Unmarked name') (e : k.push (q.column name) = k'.push (q.column name')) :
    Text.trim name = Text.trim name' ∧ k = k' := by
  have inside {name : String} (bare : q.Unmarked name) :
      ∀ c ∈ Text.trimChars name.toList, c != b := fun c hc => by
    have other := (bare c (Text.mem_of_mem_trimChars hc)).2
    simpa [marks.closing] using other
  have chars := congrArg Rest.chars e
  simp only [Rest.push, toList_column marks bare, toList_column marks bare', List.cons_append,
    List.append_assoc, List.cons.injEq, true_and, List.nil_append] at chars
  obtain ⟨same, -⟩ := Text.run_unique (inside bare) (inside bare') (by simp) (by simp) chars
  have trimmed : Text.trim name = Text.trim name' := by rw [Text.trim, same, Text.trim]
  have column : q.column name = q.column name' := by
    rw [← String.toList_inj, toList_column marks bare, toList_column marks bare', same]
  rw [column] at e
  exact ⟨trimmed, Rest.push_inj.1 e⟩

end Columns

/-! ## Headings -/

/-- How many parameters a clause has. -/
inductive Arity
  | none | one | two | several
  deriving DecidableEq

namespace Arity

/-- The operand with some values. -/
def operand : Arity → List Value → Operand
  | one, [v] => .single v
  | two, [l, r] => .range l r
  | _, vs => .list vs

/-- A clause with this number of slots has this text between and behind them. -/
def Frames : Arity → (slots : List Slot) → (separator closing : String) → Prop
  | none, slots, _, closing => slots = [] ∧ closing = ""
  | one, slots, _, closing => (∃ s, slots = [s]) ∧ closing = ""
  | two, slots, separator, closing => (∃ s t, slots = [s, t]) ∧ separator = " AND " ∧ closing = ""
  | several, slots, separator, closing => slots ≠ [] ∧ separator = ", " ∧ closing = ")"

end Arity

/-- What stands behind the column of a comparison. -/
inductive Heading
  | null | notNull
  | operation (o : Operation)
  deriving DecidableEq

namespace Heading

def arity : Heading → Arity
  | null | notNull => .none
  | operation .between | operation .notBetween => .two
  | operation .isIn | operation .notIn => .several
  | operation _ => .one

/-- What stands between an operation and its parameters. -/
def bracket (n : Arity) : String := if n = .several then " (" else " "

def text : Heading → String
  | null => "IS NULL"
  | notNull => "IS NOT NULL"
  | operation o => o.keyword ++ bracket (operation o).arity

def all : List Heading :=
  [null, notNull] ++ [.equal, .notEqual, .lessThan, .greaterThan, .lessThanOrEqual,
    .greaterThanOrEqual, .like, .notLike, .between, .notBetween, .isIn, .notIn].map operation

theorem mem_all (h : Heading) : h ∈ all := by
  rcases h with _ | _ | o
  · decide
  · decide
  · cases o <;> decide

/-- No heading begins like another one. -/
theorem text_free (h h' : Heading) (first : h.text.toList <+: h'.text.toList) : h = h' := by
  have every : ∀ h ∈ all, ∀ h' ∈ all, h.text.toList <+: h'.text.toList → h = h' := by
    decide +kernel
  exact every h h.mem_all h' h'.mem_all first

/-- The comparison of a field with the values of its parameters. -/
def comparison (h : Heading) (name : String) (values : List Value) : Comparison :=
  match h with
  | null => ⟨⟨name, none⟩, .equal, .single .null⟩
  | notNull => ⟨⟨name, none⟩, .notEqual, .single .null⟩
  | operation o => ⟨⟨name, none⟩, o, (operation o).arity.operand values⟩

end Heading

namespace Operation

variable {o : Operation}

theorem arity_single (h : o.takesSingle) : (Heading.operation o).arity = .one := by
  cases o <;> first | rfl | cases h

theorem arity_range (h : o = .between ∨ o = .notBetween) : (Heading.operation o).arity = .two := by
  rcases h with rfl | rfl <;> rfl

theorem arity_list (h : o = .isIn ∨ o = .notIn) : (Heading.operation o).arity = .several := by
  rcases h with rfl | rfl <;> rfl

end Operation

namespace Comparison

variable {c : Comparison} {q : Quotes} {cl : Clause}

/-- The clause reads as the heading with its values, which make up the normal form. -/
def ReadsAs (c : Comparison) (q : Quotes) (cl : Clause) (h : Heading) : Prop :=
  cl.opening = q.column c.field.name ++ " " ++ h.text ∧
    h.arity.Frames cl.slots cl.separator cl.closing ∧
    c.normal = h.comparison (Text.trim c.field.name) (cl.slots.map Slot.value)

theorem readsAs_of_slotted {n : Arity} {slots : List Slot} {separator closing : String}
    (arity : (Heading.operation c.operation).arity = n) (frames : n.Frames slots separator closing)
    (operand : c.normalOperand = n.operand (slots.map Slot.value))
    (h : c.slotted q slots (Heading.bracket n) separator closing = .ok cl) :
    c.ReadsAs q cl (.operation c.operation) := by
  obtain ⟨rfl, -⟩ := slotted_ok h
  refine ⟨?_, arity ▸ frames, ?_⟩
  · rw [Heading.text, arity, ← String.append_assoc]
  · rw [normal, operand, Heading.comparison, arity]

theorem normalOperand_of_single {v : Value} (ho : c.operand = .single v)
    (isNull : ¬ (v.isNull ∧ c.operation = .equal))
    (isNotNull : ¬ (v.isNull ∧ c.operation = .notEqual)) : c.normalOperand = .single v := by
  obtain ⟨field, operation, operand⟩ := c
  cases ho
  cases v with
  | present p => rfl
  | absent t =>
    have equal : operation ≠ .equal := fun h => isNull ⟨rfl, h⟩
    have notEqual : operation ≠ .notEqual := fun h => isNotNull ⟨rfl, h⟩
    cases operation <;> first | rfl | contradiction

/-- The clause of a comparison is its column, a heading, and the values for the heading. In normal
form these make up the comparison. -/
theorem exists_readsAs (h : c.clause q = .ok cl) : ∃ heading, c.ReadsAs q cl heading := by
  simp only [clause] at h
  split at h
  · cases h
  · cases ho : c.operand with
    | single v =>
      rw [operandClause_single ho] at h
      split_ifs at h with isNull isNotNull single
      · obtain ⟨null, equal⟩ := isNull
        cases h
        cases v with
        | absent t =>
          refine ⟨.null, rfl, ⟨rfl, rfl⟩, ?_⟩
          simp [normal, normalOperand, ho, equal, Heading.comparison]
        | present p => cases null
      · obtain ⟨null, notEqual⟩ := isNotNull
        cases h
        cases v with
        | absent t =>
          refine ⟨.notNull, rfl, ⟨rfl, rfl⟩, ?_⟩
          simp [normal, normalOperand, ho, notEqual, Heading.comparison]
        | present p => cases null
      · refine ⟨_, readsAs_of_slotted (Operation.arity_single single) ⟨⟨_, rfl⟩, rfl⟩ ?_ h⟩
        exact normalOperand_of_single ho isNull isNotNull
    | range l r =>
      rw [operandClause_range ho] at h
      split_ifs at h with range
      refine ⟨_, readsAs_of_slotted (Operation.arity_range range) ⟨⟨_, _, rfl⟩, rfl, rfl⟩ ?_ h⟩
      simp [normalOperand, ho, Arity.operand]
    | list vs =>
      rw [operandClause_list ho] at h
      split_ifs at h with list empty
      refine ⟨_, readsAs_of_slotted (Operation.arity_list list) ⟨?_, rfl, rfl⟩ ?_ h⟩
      · cases vs with
        | nil => exact absurd rfl empty
        | cons v vs => exact List.cons_ne_nil _ _
      · simp [normalOperand, ho, Arity.operand, values_listSlots]

end Comparison

/-! ## Clauses -/

namespace Clause

/-- The parameters of a clause with its closing text, in front of a rest. -/
def spread (cl : Clause) (mark : String) (xs : List Parameter) (k : Rest) : Rest :=
  Fragment.before ((xs.map fun x => Token.marker (x.marker mark)).intersperse (.text cl.separator))
    (k.push cl.closing)

theorem before_tokens (cl : Clause) (mark : String) (xs : List Parameter) (k : Rest) :
    Fragment.before (cl.tokens mark xs) k = (cl.spread mark xs k).push cl.opening := by
  simp [tokens, spread]

end Clause

section Lists

variable {mark : String} {k k' : Rest}

/-- The items of a list behind the first one, with the end of the list, in front of a rest. -/
def Parameter.listBefore (mark : String) : List Parameter → Rest → Rest
  | [], k => k.push ")"
  | x :: xs, k => (x.before mark (listBefore mark xs k)).push ", "

theorem Parameter.endsName_listBefore (xs : List Parameter) (k : Rest) :
    (listBefore mark xs k).EndsName := by
  intro c hc
  cases xs with
  | nil =>
    obtain rfl : ')' = c := Option.some.inj hc
    decide
  | cons x xs =>
    obtain rfl : ',' = c := Option.some.inj hc
    decide

/-- A list ends with its parenthesis. -/
theorem Parameter.listBefore_unique {xs xs' : List Parameter} (named : ∀ x ∈ xs, x.Named)
    (named' : ∀ x ∈ xs', x.Named) (e : listBefore mark xs k = listBefore mark xs' k') :
    xs.map Parameter.value = xs'.map Parameter.value ∧ k = k' := by
  induction xs generalizing xs' with
  | nil =>
    cases xs' with
    | nil => exact ⟨rfl, Rest.push_inj.1 e⟩
    | cons x' xs' => cases congrArg (fun k => k.chars.head?) e
  | cons x xs ih =>
    cases xs' with
    | nil => cases congrArg (fun k => k.chars.head?) e
    | cons x' xs' =>
      obtain ⟨value, rest⟩ := Parameter.before_unique (named x List.mem_cons_self)
        (named' x' List.mem_cons_self) (endsName_listBefore xs k) (endsName_listBefore xs' k')
        (Rest.push_inj.1 e)
      obtain ⟨values, rest⟩ := ih (fun y hy => named y (List.mem_cons_of_mem x hy))
        (fun y hy => named' y (List.mem_cons_of_mem x' hy)) rest
      exact ⟨by rw [List.map_cons, List.map_cons, value, values], rest⟩

end Lists

namespace Clause

variable {mark : String} {cl cl' : Clause} {k k' : Rest} {xs xs' : List Parameter}

theorem spread_list (separator : cl.separator = ", ") (closing : cl.closing = ")") (x : Parameter)
    (xs : List Parameter) (k : Rest) :
    cl.spread mark (x :: xs) k = x.before mark (Parameter.listBefore mark xs k) := by
  induction xs generalizing x with
  | nil => simp [spread, closing, Parameter.before, Parameter.listBefore]
  | cons y xs ih =>
    rw [Parameter.listBefore, ← ih y]
    simp [spread, separator, Parameter.before]

/-- Parameters of a clause as many as its slots, with their values. -/
structure Bound (cl : Clause) (xs : List Parameter) : Prop where
  values : xs.map Parameter.value = cl.slots.map Slot.value
  named : ∀ x ∈ xs, x.Named

/-- The parameters of clauses with the same heading are read one by one. -/
theorem spread_unique {n : Arity} (frames : n.Frames cl.slots cl.separator cl.closing)
    (frames' : n.Frames cl'.slots cl'.separator cl'.closing) (bound : cl.Bound xs)
    (bound' : cl'.Bound xs') (ends : k.EndsMember) (ends' : k'.EndsMember)
    (e : cl.spread mark xs k = cl'.spread mark xs' k') :
    xs.map Parameter.value = xs'.map Parameter.value ∧ k = k' := by
  have count : xs.length = cl.slots.length := by simpa using congrArg List.length bound.values
  have count' : xs'.length = cl'.slots.length := by simpa using congrArg List.length bound'.values
  cases n with
  | none =>
    obtain ⟨slots, closing⟩ := frames
    obtain ⟨slots', closing'⟩ := frames'
    obtain rfl := List.eq_nil_of_length_eq_zero (count.trans (by rw [slots]; rfl))
    obtain rfl := List.eq_nil_of_length_eq_zero (count'.trans (by rw [slots']; rfl))
    simp only [spread, closing, closing', Rest.push_empty] at e
    exact ⟨rfl, e⟩
  | one =>
    obtain ⟨⟨_, slots⟩, closing⟩ := frames
    obtain ⟨⟨_, slots'⟩, closing'⟩ := frames'
    obtain ⟨x, rfl⟩ := List.length_eq_one_iff.1 (count.trans (by rw [slots]; rfl))
    obtain ⟨x', rfl⟩ := List.length_eq_one_iff.1 (count'.trans (by rw [slots']; rfl))
    simp only [spread, closing, closing', Rest.push_empty] at e
    obtain ⟨value, rest⟩ := Parameter.before_unique (bound.named x (by simp))
      (bound'.named x' (by simp)) ends.endsName ends'.endsName e
    exact ⟨by rw [List.map_singleton, List.map_singleton, value], rest⟩
  | two =>
    obtain ⟨⟨_, _, slots⟩, separator, closing⟩ := frames
    obtain ⟨⟨_, _, slots'⟩, separator', closing'⟩ := frames'
    obtain ⟨x, y, rfl⟩ := List.length_eq_two.1 (count.trans (by rw [slots]; rfl))
    obtain ⟨x', y', rfl⟩ := List.length_eq_two.1 (count'.trans (by rw [slots']; rfl))
    simp only [spread, separator, separator', closing, closing', Rest.push_empty] at e
    have stops (k : Rest) : (k.push " AND ").EndsName := by
      intro c hc
      obtain rfl : ' ' = c := Option.some.inj hc
      decide
    obtain ⟨left, rest⟩ := Parameter.before_unique (bound.named x (by simp))
      (bound'.named x' (by simp)) (stops _) (stops _) e
    obtain ⟨right, rest⟩ := Parameter.before_unique (bound.named y (by simp))
      (bound'.named y' (by simp)) ends.endsName ends'.endsName (Rest.push_inj.1 rest)
    exact ⟨by simp [left, right], rest⟩
  | several =>
    obtain ⟨slots, separator, closing⟩ := frames
    obtain ⟨slots', separator', closing'⟩ := frames'
    obtain ⟨x, xs, rfl⟩ := List.exists_cons_of_length_pos
      (count ▸ List.length_pos_of_ne_nil slots : 0 < xs.length)
    obtain ⟨x', xs', rfl⟩ := List.exists_cons_of_length_pos
      (count' ▸ List.length_pos_of_ne_nil slots' : 0 < xs'.length)
    rw [spread_list separator closing, spread_list separator' closing'] at e
    obtain ⟨value, rest⟩ := Parameter.before_unique (bound.named x (by simp))
      (bound'.named x' (by simp)) (Parameter.endsName_listBefore xs k)
      (Parameter.endsName_listBefore xs' k') e
    obtain ⟨values, rest⟩ := Parameter.listBefore_unique
      (fun y hy => bound.named y (List.mem_cons_of_mem x hy))
      (fun y hy => bound'.named y (List.mem_cons_of_mem x' hy)) rest
    exact ⟨by rw [List.map_cons, List.map_cons, value, values], rest⟩

end Clause

/-- A clause in front of a text fixes its comparison in normal form, and the text behind it. -/
theorem Comparison.clause_unique {q : Quotes} {a b : Char} (marks : q.Marks a b)
    {c c' : Comparison} {cl cl' : Clause} {mark : String} {xs xs' : List Parameter} {k k' : Rest}
    (bare : q.Unmarked c.field.name) (bare' : q.Unmarked c'.field.name)
    (h : c.clause q = .ok cl) (h' : c'.clause q = .ok cl') (bound : cl.Bound xs)
    (bound' : cl'.Bound xs') (ends : k.EndsMember) (ends' : k'.EndsMember)
    (e : Fragment.before (cl.tokens mark xs) k = Fragment.before (cl'.tokens mark xs') k') :
    c.normal = c'.normal ∧ k = k' := by
  obtain ⟨heading, opening, frames, normal⟩ := exists_readsAs h
  obtain ⟨heading', opening', frames', normal'⟩ := exists_readsAs h'
  simp only [Clause.before_tokens, opening, opening', Rest.push_append] at e
  obtain ⟨name, behind⟩ := Quotes.column_unique marks bare bare' e
  obtain ⟨rfl, spread⟩ := Rest.push_unique Heading.text_free (Rest.push_inj.1 behind)
  obtain ⟨values, rest⟩ := Clause.spread_unique frames frames' bound bound' ends ends' spread
  rw [bound.values, bound'.values] at values
  exact ⟨by rw [normal, normal', name, values], rest⟩

end CrossSql
