/-!
# Loops driven by their inputs

An endless loop that takes one input per turn and goes on or leaves. `loop` runs it over the
inputs that have arrived so far, so a result `next` means that the loop is still waiting.

* `loop_decided` — a loop whose exits do not depend on the state leaves at the first input
  that decides, and `findSome?` finds that input
* `loop_append_of_decided` — what comes behind it does not count
* `taken_decided` — such a loop takes the inputs up to that one
* `loop_padded` — inputs that only stutter can be put in anywhere
* `loop_padded_eq` — inputs that change nothing leave no trace at all
-/

namespace Infra

universe u v w x y

/-- One turn of a loop: go on in a new state, or leave with a result. -/
inductive Step (σ : Type u) (ρ : Type v) where
  | next (s : σ)
  | leave (r : ρ)
  deriving DecidableEq

/-- The loop over the inputs that have arrived. -/
def loop {σ : Type u} {ρ : Type v} {ι : Type w} (body : σ → ι → Step σ ρ) :
    σ → List ι → Step σ ρ
  | s, [] => .next s
  | s, i :: is =>
    match body s i with
    | .next s' => loop body s' is
    | .leave r => .leave r

/-- The inputs that the loop takes. -/
def taken {σ : Type u} {ρ : Type v} {ι : Type w} (body : σ → ι → Step σ ρ) : σ → List ι → List ι
  | _, [] => []
  | s, i :: is =>
    match body s i with
    | .next s' => i :: taken body s' is
    | .leave _ => [i]

section

variable {σ : Type u} {ρ : Type v} {ι : Type w} {body : σ → ι → Step σ ρ}

theorem loop_cons_next {s s' : σ} {i : ι} (h : body s i = .next s') (is : List ι) :
    loop body s (i :: is) = loop body s' is := by
  rw [loop, h]

theorem loop_cons_leave {s : σ} {r : ρ} {i : ι} (h : body s i = .leave r) (is : List ι) :
    loop body s (i :: is) = .leave r := by
  rw [loop, h]

/-! ## Loops decided by their inputs -/

/--
**The first deciding input decides.**

`d` says which inputs end the loop, and the state only follows along (`upd`).
-/
theorem loop_decided {δ : Type x} {d : ι → Option δ} {upd : σ → ι → σ} {out : σ → δ → ρ}
    (hnext : ∀ s i, d i = none → body s i = .next (upd s i))
    (hleave : ∀ s i e, d i = some e → body s i = .leave (out s e)) :
    ∀ (is : List ι) (s : σ),
      loop body s is =
        match is.findSome? d with
        | none => .next (is.foldl upd s)
        | some e => .leave (out ((is.takeWhile fun i => (d i).isNone).foldl upd s) e)
  | [], s => rfl
  | i :: is, s => by
    cases hd : d i with
    | none =>
      rw [loop_cons_next (hnext s i hd), loop_decided hnext hleave is (upd s i),
        List.findSome?_cons, hd]
      simp [hd]
    | some e =>
      rw [loop_cons_leave (hleave s i e hd), List.findSome?_cons, hd]
      simp [hd]

/-- **Behind an input that ends the loop, nothing counts.** -/
theorem loop_append_of_decided {δ : Type x} {d : ι → Option δ}
    (hleave : ∀ s i, d i ≠ none → ∃ r, body s i = .leave r) (as bs : List ι) :
    ∀ (pre : List ι) (s : σ), (∃ i ∈ pre, d i ≠ none) →
      loop body s (pre ++ as) = loop body s (pre ++ bs)
  | [], _, h => by simp at h
  | i :: pre, s, h => by
    rw [List.cons_append, List.cons_append]
    cases hi : body s i with
    | leave r => rw [loop_cons_leave hi, loop_cons_leave hi]
    | next s' =>
      rw [loop_cons_next hi, loop_cons_next hi]
      refine loop_append_of_decided hleave as bs pre s' ?_
      obtain ⟨j, hj, hd⟩ := h
      rcases List.mem_cons.mp hj with rfl | hj
      · obtain ⟨r, hr⟩ := hleave s j hd
        rw [hi] at hr
        cases hr
      · exact ⟨j, hj, hd⟩

/-- **It takes the inputs up to the first one that decides, and no more.** -/
theorem taken_decided {δ : Type x} {d : ι → Option δ} {upd : σ → ι → σ} {out : σ → δ → ρ}
    (hnext : ∀ s i, d i = none → body s i = .next (upd s i))
    (hleave : ∀ s i e, d i = some e → body s i = .leave (out s e)) {i : ι} {e : δ}
    (hi : d i = some e) (post : List ι) :
    ∀ (pre : List ι) (s : σ), (∀ j ∈ pre, d j = none) →
      taken body s (pre ++ i :: post) = pre ++ [i]
  | [], s, _ => by
    simp only [List.nil_append, taken, hleave s i e hi]
  | j :: pre, s, h => by
    have ih := taken_decided hnext hleave hi post pre (upd s j)
      (fun k hk => h k (List.mem_cons_of_mem _ hk))
    simp only [List.cons_append, taken, hnext s j (h j List.mem_cons_self), ih]

/-- What it takes are the inputs that do not decide, and the one that does. -/
theorem taken_eq_takeWhile {δ : Type x} {d : ι → Option δ} {upd : σ → ι → σ} {out : σ → δ → ρ}
    (hnext : ∀ s i, d i = none → body s i = .next (upd s i))
    (hleave : ∀ s i e, d i = some e → body s i = .leave (out s e)) :
    ∀ (is : List ι) (s : σ),
      taken body s is =
        (is.takeWhile fun i => (d i).isNone) ++ (is.dropWhile fun i => (d i).isNone).take 1
  | [], s => rfl
  | i :: is, s => by
    cases hd : d i with
    | none =>
      have ih := taken_eq_takeWhile hnext hleave is (upd s i)
      simp only [taken, hnext s i hd, ih, List.takeWhile_cons, List.dropWhile_cons, hd,
        Option.isNone_none, if_true, List.cons_append]
    | some e =>
      simp only [taken, hleave s i e hd, List.takeWhile_cons, List.dropWhile_cons, hd,
        Option.isNone_some, Bool.false_eq_true, if_false, List.nil_append, List.take_one,
        List.head?_cons, Option.toList_some]

/-- Of the inputs taken, only the one that decides has something to decide. -/
theorem filterMap_taken {ι : Type w} {δ : Type x} {α : Type y} (d : ι → Option δ)
    (k : δ → Option α) :
    ∀ is : List ι,
      ((is.takeWhile fun i => (d i).isNone) ++
          (is.dropWhile fun i => (d i).isNone).take 1).filterMap
        (fun i => (d i).bind k) = ((is.findSome? d).bind k).toList
  | [] => rfl
  | i :: is => by
    have ih := filterMap_taken d k is
    cases hd : d i with
    | none =>
      simp only [List.takeWhile_cons, List.dropWhile_cons, List.findSome?_cons, hd,
        Option.isNone_none, if_true, List.cons_append, List.filterMap_cons, Option.bind_none, ih]
    | some e =>
      simp only [List.takeWhile_cons, List.dropWhile_cons, List.findSome?_cons, hd,
        Option.isNone_some, Bool.false_eq_true, if_false, List.nil_append, List.take_one,
        List.head?_cons, Option.toList_some, List.filterMap_cons, List.filterMap_nil,
        Option.bind_some]
      cases k e <;> rfl

/-- What an input gives comes behind what the inputs before it give. -/
theorem getElem?_filterMap_countP {ι : Type w} {α : Type y} {f : ι → Option α} {a : α} :
    ∀ (is : List ι) (n : Nat) (i : ι), is[n]? = some i → f i = some a →
      (is.filterMap f)[(is.take n).countP fun i => (f i).isSome]? = some a
  | [], _, _, hn, _ => by simp at hn
  | j :: is, 0, i, hn, ha => by
    rw [List.getElem?_cons_zero, Option.some.injEq] at hn
    rw [hn, List.filterMap_cons_some ha]
    rfl
  | j :: is, n + 1, i, hn, ha => by
    rw [List.getElem?_cons_succ] at hn
    have ih := getElem?_filterMap_countP is n i hn ha
    rw [List.take_succ_cons, List.countP_cons]
    cases hj : f j with
    | none =>
      rw [List.filterMap_cons_none hj]
      simpa using ih
    | some b =>
      rw [List.filterMap_cons_some hj]
      simpa using ih

end

/-! ## Stuttering inputs -/

/-- `Padded P is js`: `js` is `is` with inputs that satisfy `P` put in, anywhere and any number. -/
inductive Padded {ι : Type w} (P : ι → Prop) : List ι → List ι → Prop
  | nil : Padded P [] []
  | keep (i : ι) {is js : List ι} : Padded P is js → Padded P (i :: is) (i :: js)
  | pad (i : ι) {is js : List ι} : P i → Padded P is js → Padded P is (i :: js)

/-- Two turns agree: both go on in related states, or both leave with related results. -/
inductive Step.Rel {σ : Type u} {ρ : Type v} (R : σ → σ → Prop) (Q : ρ → ρ → Prop) :
    Step σ ρ → Step σ ρ → Prop
  | next {s t : σ} : R s t → Step.Rel R Q (.next s) (.next t)
  | leave {r q : ρ} : Q r q → Step.Rel R Q (.leave r) (.leave q)

section

variable {σ : Type u} {ρ : Type v} {ι : Type w} {body : σ → ι → Step σ ρ} {P : ι → Prop}

theorem Padded.refl : ∀ is : List ι, Padded P is is
  | [] => .nil
  | i :: is => .keep i (Padded.refl is)

/-- **Inputs that change nothing leave no trace.** -/
theorem loop_padded_eq (hpad : ∀ s i, P i → body s i = .next s) {is js : List ι}
    (h : Padded P is js) : ∀ s, loop body s js = loop body s is := by
  induction h with
  | nil => exact fun s => rfl
  | keep i _ ih =>
    intro s
    rw [loop, loop]
    cases body s i with
    | next s' => exact ih s'
    | leave r => rfl
  | pad i hP _ ih =>
    intro s
    rw [loop_cons_next (hpad s i hP)]
    exact ih s

/--
**Stuttering inputs are invisible.**

`R` is what a padding input keeps; turns on the same input from related states must agree.
-/
theorem loop_padded {R : σ → σ → Prop} {Q : ρ → ρ → Prop}
    (hpad : ∀ s t i, R s t → P i → ∃ t', body t i = .next t' ∧ R s t')
    (hstep : ∀ s t i, R s t → Step.Rel R Q (body s i) (body t i))
    {is js : List ι} (h : Padded P is js) :
    ∀ {s t : σ}, R s t → Step.Rel R Q (loop body s is) (loop body t js) := by
  induction h with
  | nil => exact fun hst => .next hst
  | keep i hp ih =>
    intro s t hst
    have hi := hstep s t i hst
    cases hs : body s i with
    | next s' =>
      cases ht : body t i with
      | next t' =>
        rw [hs, ht] at hi
        cases hi with
        | next hst' =>
          rw [loop_cons_next hs, loop_cons_next ht]
          exact ih hst'
      | leave q =>
        rw [hs, ht] at hi
        cases hi
    | leave r =>
      cases ht : body t i with
      | next t' =>
        rw [hs, ht] at hi
        cases hi
      | leave q =>
        rw [loop_cons_leave hs, loop_cons_leave ht, ← hs, ← ht]
        exact hi
  | pad i hP hp ih =>
    intro s t hst
    -- only the padded run takes a turn
    obtain ⟨t', ht, hst'⟩ := hpad s t i hst hP
    rw [loop_cons_next ht]
    exact ih hst'

end

end Infra
