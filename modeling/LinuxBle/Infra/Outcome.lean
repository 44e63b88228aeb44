/-!
# Calls that may not come back

The result of a call that runs against a finite list of answers from its surroundings.

* `bind_eq_done` — a sequence that returned, returned from its first part
* `Rel.bind` — sequences of related calls are related
-/

namespace Infra

universe u v

/--
How far a call has come.

`blocked`: it still waits when the answers are used up. `fault`: it reached undefined behaviour.
`done`: it returned.
-/
inductive Outcome (α : Type u) where
  | blocked
  | fault
  | done (a : α)
  deriving DecidableEq

namespace Outcome

protected def bind {α β : Type u} : Outcome α → (α → Outcome β) → Outcome β
  | blocked, _ => blocked
  | fault, _ => fault
  | done a, f => f a

instance : Monad Outcome where
  pure := done
  bind := Outcome.bind

section

variable {α β : Type u}

@[simp] theorem pure_eq (a : α) : (pure a : Outcome α) = done a := rfl

@[simp] theorem done_bind (a : α) (f : α → Outcome β) : (done a >>= f) = f a := rfl

@[simp] theorem blocked_bind (f : α → Outcome β) : (blocked >>= f) = blocked := rfl

@[simp] theorem fault_bind (f : α → Outcome β) : (fault >>= f) = fault := rfl

/-- A sequence that returned, returned from its first part. -/
theorem bind_eq_done {x : Outcome α} {f : α → Outcome β} {b : β} :
    (x >>= f) = done b ↔ ∃ a, x = done a ∧ f a = done b := by
  cases x <;> simp

theorem bind_assoc {γ : Type u} (x : Outcome α) (f : α → Outcome β) (g : β → Outcome γ) :
    (x >>= f) >>= g = x >>= fun a => f a >>= g := by
  cases x <;> rfl

theorem ite_eq_fault_iff {c : Prop} [Decidable c] {a : α} :
    (if c then done a else fault) = fault ↔ ¬c := by
  split
  · next h => exact iff_of_false (fun heq => by cases heq) (not_not_intro h)
  · next h => exact iff_of_true rfl h

/-- What comes behind a call only matters for what it can return. -/
theorem bind_congr {x : Outcome α} {f g : α → Outcome β} (h : ∀ a, x = done a → f a = g a) :
    (x >>= f) = (x >>= g) := by
  cases x with
  | blocked => rfl
  | fault => rfl
  | done a => exact h a rfl

end

/-- Two calls have come equally far, with related results. -/
inductive Rel {α : Type u} {β : Type v} (R : α → β → Prop) : Outcome α → Outcome β → Prop
  | blocked : Rel R .blocked .blocked
  | fault : Rel R .fault .fault
  | done {a : α} {b : β} : R a b → Rel R (.done a) (.done b)

/-- **Sequences of related calls are related.** -/
theorem Rel.bind {α α' : Type u} {β β' : Type v} {R : α → β → Prop} {Q : α' → β' → Prop}
    {x : Outcome α} {y : Outcome β} {f : α → Outcome α'} {g : β → Outcome β'} (h : Rel R x y)
    (hf : ∀ a b, R a b → Rel Q (f a) (g b)) : Rel Q (x >>= f) (y >>= g) := by
  cases h with
  | blocked => exact .blocked
  | fault => exact .fault
  | done hab => exact hf _ _ hab

theorem Rel.mono {α : Type u} {β : Type v} {R Q : α → β → Prop} {x : Outcome α} {y : Outcome β}
    (h : Rel R x y) (hRQ : ∀ a b, R a b → Q a b) : Rel Q x y := by
  cases h with
  | blocked => exact .blocked
  | fault => exact .fault
  | done hab => exact .done (hRQ _ _ hab)

end Outcome

end Infra
