import Mathlib.Data.List.Forall2

/-!
# Results of steps that can fail

A sequence of steps succeeds if every step does. Two runs of such steps agree if they fail for
related errors or succeed with related values.

## Main definitions

* `bind_eq_ok_iff`, `bind_eq_error_iff` and others: what a result says of the steps before.
* `mapM_eq_ok_iff`, `mapM_eq_error_iff`: a step for every item of a list.
* `Agree`: results that are related, or errors that are.
-/

namespace CrossSql

section Ok

variable {ε ε' α β : Type}

theorem bind_eq_ok_iff {x : Except ε α} {f : α → Except ε β} {b : β} :
    x >>= f = .ok b ↔ ∃ a, x = .ok a ∧ f a = .ok b := by
  cases x <;> simp [bind, Except.bind]

theorem bind_eq_error_iff {x : Except ε α} {f : α → Except ε β} {e : ε} :
    x >>= f = .error e ↔ x = .error e ∨ ∃ a, x = .ok a ∧ f a = .error e := by
  cases x <;> simp [bind, Except.bind]

theorem map_eq_ok_iff {x : Except ε α} {f : α → β} {b : β} :
    x.map f = .ok b ↔ ∃ a, x = .ok a ∧ f a = b := by
  cases x <;> simp [Except.map]

theorem map_eq_error_iff {x : Except ε α} {f : α → β} {e : ε} :
    x.map f = .error e ↔ x = .error e := by
  cases x <;> simp [Except.map]

theorem mapError_eq_ok_iff {x : Except ε α} {f : ε → ε'} {a : α} :
    x.mapError f = .ok a ↔ x = .ok a := by
  cases x with
  | error e => exact ⟨nofun, nofun⟩
  | ok b => constructor <;> (rintro ⟨⟩; rfl)

end Ok

/-! ## Steps one after another -/

section Steps

variable {ε α β γ : Type} {x : Except ε α}

/-- Two steps that cannot fail are one. -/
theorem map_map_eq (x : Except ε α) (f : α → β) (g : β → γ) :
    (x.map f).map g = x.map fun a => g (f a) := by
  cases x <;> rfl

theorem map_congr_of_ok {f g : α → β} (h : ∀ a, x = .ok a → f a = g a) : x.map f = x.map g := by
  cases x with
  | error e => rfl
  | ok a => exact congrArg Except.ok (h a rfl)

/-- A step for every item of a list begins with the first. -/
theorem mapM_cons_eq (f : α → Except ε β) (a : α) (as : List α) :
    (a :: as).mapM f = f a >>= fun b => (as.mapM f).map (b :: ·) := by
  rw [List.mapM_cons]
  cases f a with
  | error e => rfl
  | ok b => cases as.mapM f <;> rfl

/-- A step succeeds for every item of a list if it has a result for each of them. -/
theorem mapM_eq_ok_iff {f : α → Except ε β} {as : List α} {bs : List β} :
    as.mapM f = .ok bs ↔ List.Forall₂ (fun a b => f a = .ok b) as bs := by
  induction as generalizing bs with
  | nil => simp [pure, Except.pure, eq_comm]
  | cons a as ih =>
    rw [mapM_cons_eq, bind_eq_ok_iff, List.forall₂_cons_left_iff]
    constructor
    · rintro ⟨b, first, rest⟩
      obtain ⟨others, found, rfl⟩ := map_eq_ok_iff.1 rest
      exact ⟨b, others, first, ih.1 found, rfl⟩
    · rintro ⟨b, others, first, found, rfl⟩
      exact ⟨b, first, map_eq_ok_iff.2 ⟨others, ih.2 found, rfl⟩⟩

/-- Otherwise the first item for which it fails decides on the error. -/
theorem mapM_eq_error_iff {f : α → Except ε β} {as : List α} {e : ε} :
    as.mapM f = .error e ↔
      ∃ before a after, as = before ++ a :: after ∧ (∀ x ∈ before, ∃ b, f x = .ok b) ∧
        f a = .error e := by
  induction as with
  | nil => simp [pure, Except.pure]
  | cons a as ih =>
    rw [mapM_cons_eq, bind_eq_error_iff]
    constructor
    · rintro (failed | ⟨b, first, rest⟩)
      · exact ⟨[], a, as, rfl, nofun, failed⟩
      · obtain ⟨before, x, after, rfl, passed, failed⟩ := ih.1 (map_eq_error_iff.1 rest)
        exact ⟨a :: before, x, after, rfl, List.forall_mem_cons.2 ⟨⟨b, first⟩, passed⟩, failed⟩
    · rintro ⟨before, x, after, split, passed, failed⟩
      cases before with
      | nil =>
        obtain ⟨rfl, rfl⟩ := List.cons.inj split
        exact .inl failed
      | cons y before =>
        obtain ⟨rfl, rfl⟩ := List.cons.inj split
        obtain ⟨⟨b, first⟩, others⟩ := List.forall_mem_cons.1 passed
        exact .inr ⟨b, first, map_eq_error_iff.2 (ih.2 ⟨before, x, after, rfl, others, failed⟩)⟩

/-- A step that succeeds for every item of a list has a result for each, and no others. -/
theorem mapM_ok {f : α → Except ε β} {as : List α} {bs : List β} (h : as.mapM f = .ok bs) :
    bs.length = as.length ∧ ∀ b ∈ bs, ∃ a, f a = .ok b := by
  have each := mapM_eq_ok_iff.1 h
  refine ⟨each.length_eq.symm, fun b hb => ?_⟩
  obtain ⟨i, hi, rfl⟩ := List.getElem_of_mem hb
  exact ⟨_, each.get (each.length_eq ▸ hi) hi⟩

end Steps

/-- Two results agree if both are errors, related by `E`, or both are values, related by `R`. -/
inductive Agree {ε α : Type} (E : ε → ε → Prop) (R : α → α → Prop) :
    Except ε α → Except ε α → Prop
  | ok {a b : α} (h : R a b) : Agree E R (.ok a) (.ok b)
  | error {e e' : ε} (h : E e e') : Agree E R (.error e) (.error e')

namespace Agree

variable {ε ε' α β : Type} {E : ε → ε → Prop} {E' : ε' → ε' → Prop} {R : α → α → Prop}
  {S : β → β → Prop}

theorem refl (hE : ∀ e, E e e) (hR : ∀ a, R a a) (x : Except ε α) : Agree E R x x := by
  cases x with
  | error e => exact .error (hE e)
  | ok a => exact .ok (hR a)

theorem bind {x y : Except ε α} {f g : α → Except ε β} (h : Agree E R x y)
    (hfg : ∀ a b, R a b → Agree E S (f a) (g b)) : Agree E S (x >>= f) (y >>= g) := by
  cases h with
  | ok h => exact hfg _ _ h
  | error h => exact .error h

/-- A step that is the same in both runs. -/
theorem bind_same (hE : ∀ e, E e e) (x : Except ε α) {f g : α → Except ε β}
    (hfg : ∀ a, Agree E S (f a) (g a)) : Agree E S (x >>= f) (x >>= g) := by
  cases x with
  | error e => exact .error (hE e)
  | ok a => exact hfg a

theorem map {x y : Except ε α} {f g : α → β} (h : Agree E R x y)
    (hfg : ∀ a b, R a b → S (f a) (g b)) : Agree E S (x.map f) (y.map g) := by
  cases h with
  | ok h => exact .ok (hfg _ _ h)
  | error h => exact .error h

theorem mapError {x y : Except ε α} {f g : ε → ε'} (h : Agree E R x y)
    (hfg : ∀ e e', E e e' → E' (f e) (g e')) : Agree E' R (x.mapError f) (y.mapError g) := by
  cases h with
  | ok h => exact .ok h
  | error h => exact .error (hfg _ _ h)

end Agree

end CrossSql
