import LinuxBle.Infra.Outcome

/-!
# Strings in memory of a fixed size

* `putAll_eq` — a series of writes is one write of everything
* `text_putAll` — it goes well exactly when the whole string fits
-/

namespace Infra

/-- A string in a memory of `size` characters: the zero behind it needs one of them. -/
structure Buffer (size : Nat) where
  text : List Char
  fits : text.length < size

namespace Buffer

variable {size : Nat}

/-- The empty string. -/
def new (size : Nat) : Outcome (Buffer size) :=
  if h : ([] : List Char).length < size then .done ⟨[], h⟩ else .fault

/-- Write behind what is there. -/
def put (b : Buffer size) (s : List Char) : Outcome (Buffer size) :=
  if h : (b.text ++ s).length < size then .done ⟨b.text ++ s, h⟩ else .fault

/-- Write one string after the other. -/
def putAll (b : Buffer size) : List (List Char) → Outcome (Buffer size)
  | [] => .done b
  | s :: ss => do
    let b ← b.put s
    b.putAll ss

theorem put_nil (b : Buffer size) : b.put [] = .done b := by
  obtain ⟨text, fits⟩ := b
  simp [put, fits]

theorem put_eq_done_iff {b b' : Buffer size} {s : List Char} :
    b.put s = .done b' ↔ b'.text = b.text ++ s := by
  obtain ⟨text', fits'⟩ := b'
  unfold put
  split
  · next h =>
    constructor
    · intro heq
      cases heq
      rfl
    · intro htext
      simp only at htext
      subst htext
      rfl
  · next h =>
    refine iff_of_false (fun heq => by cases heq) fun htext => h ?_
    simp only at htext
    exact htext ▸ fits'

theorem put_eq_fault_iff {b : Buffer size} {s : List Char} :
    b.put s = .fault ↔ size ≤ b.text.length + s.length := by
  have hlen : (b.text ++ s).length = b.text.length + s.length := List.length_append
  unfold put
  split
  · next h => exact iff_of_false (fun heq => by cases heq) (by omega)
  · next h => exact iff_of_true rfl (by omega)

/-- Two writes are one. -/
theorem put_put (b : Buffer size) (s t : List Char) :
    (b.put s >>= fun b' => b'.put t) = b.put (s ++ t) := by
  by_cases hs : (b.text ++ s).length < size
  · have hput : b.put s = .done ⟨b.text ++ s, hs⟩ := dif_pos hs
    rw [hput, Outcome.done_bind]
    simp only [put, List.append_assoc]
  · have hput : b.put s = .fault := dif_neg hs
    have hboth : b.put (s ++ t) = .fault := by
      rw [put_eq_fault_iff]
      simp only [List.length_append] at hs ⊢
      omega
    rw [hput, hboth, Outcome.fault_bind]

/-- **A series of writes is one write.** -/
theorem putAll_eq (b : Buffer size) (ss : List (List Char)) : b.putAll ss = b.put ss.flatten := by
  induction ss generalizing b with
  | nil => exact b.put_nil.symm
  | cons s ss ih =>
    rw [putAll, List.flatten_cons, ← put_put]
    exact congrArg (b.put s >>= ·) (funext fun b' => ih b')

/-- What a string comes to in new memory: the string, if there is room for it. -/
theorem text_put {β : Type} (f : List Char → β) (size : Nat) (s : List Char) :
    (new size >>= fun b => b.put s >>= fun b => pure (f b.text)) =
      if s.length < size then .done (f s) else .fault := by
  by_cases hs : s.length < size
  · have hnew : new size = .done ⟨[], Nat.lt_of_le_of_lt (Nat.zero_le _) hs⟩ := dif_pos _
    have hput : put ⟨[], Nat.lt_of_le_of_lt (Nat.zero_le _) hs⟩ s = .done ⟨s, hs⟩ :=
      put_eq_done_iff.mpr rfl
    rw [hnew, Outcome.done_bind, hput, if_pos hs]
    rfl
  · rw [if_neg hs]
    unfold new
    split
    · have hput : put (⟨[], by assumption⟩ : Buffer size) s = .fault :=
        put_eq_fault_iff.mpr (by simpa using hs)
      rw [Outcome.done_bind, hput, Outcome.fault_bind]
    · rfl

/-- **A series of writes goes well exactly when the whole string fits.** -/
theorem text_putAll {β : Type} (f : List Char → β) (size : Nat) (ss : List (List Char)) :
    (new size >>= fun b => b.putAll ss >>= fun b => pure (f b.text)) =
      if ss.flatten.length < size then .done (f ss.flatten) else .fault := by
  simp only [putAll_eq, text_put]

theorem text_putAll_eq_fault_iff {β : Type} (f : List Char → β) (size : Nat)
    (ss : List (List Char)) :
    (new size >>= fun b => b.putAll ss >>= fun b => pure (f b.text)) = .fault ↔
      size ≤ ss.flatten.length := by
  rw [text_putAll, Outcome.ite_eq_fault_iff, Nat.not_lt]

end Buffer

end Infra
