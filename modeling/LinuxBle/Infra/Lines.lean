/-!
# Filling lines

Words go on a line as long as they fit; the first that does not begins the next line.

* `filled_fillLines`, `fillLines_of_filled` — there is exactly one way to fill lines
-/

namespace Infra

universe u

variable {α : Type u}

/-- The lines for some words, where `line` is what is on the first line already. -/
def fillLines (fits : List α → α → Bool) : List α → List α → List (List α)
  | line, [] => [line]
  | line, word :: words =>
    if fits line word then fillLines fits (line ++ [word]) words
    else line :: fillLines fits [word] words

/-- On a line, every word behind the first `n` fits behind the words before it. -/
def LineFits (fits : List α → α → Bool) (n : Nat) (line : List α) : Prop :=
  ∀ pre word post, line = pre ++ word :: post → n ≤ pre.length → fits pre word = true

/--
Lines that are filled: a word that begins a line, other than the first line, did not fit on the line
before. The first `n` words of the first line need not fit.
-/
inductive Filled (fits : List α → α → Bool) : Nat → List (List α) → Prop
  | last {n : Nat} {line : List α} : LineFits fits n line → Filled fits n [line]
  | more {n : Nat} {line rest : List α} {word : α} {lines : List (List α)} :
      LineFits fits n line → fits line word = false → Filled fits 1 ((word :: rest) :: lines) →
      Filled fits n (line :: (word :: rest) :: lines)

section

variable {fits : List α → α → Bool} {n : Nat}

theorem flatten_fillLines (fits : List α → α → Bool) (line words : List α) :
    (fillLines fits line words).flatten = line ++ words := by
  induction words generalizing line with
  | nil => simp [fillLines]
  | cons word words ih =>
    unfold fillLines
    split
    · rw [ih, List.append_assoc]
      rfl
    · rw [List.flatten_cons, ih]
      rfl

theorem length_fillLines_pos (fits : List α → α → Bool) (line words : List α) :
    0 < (fillLines fits line words).length := by
  induction words generalizing line with
  | nil => exact Nat.one_pos
  | cons word words ih =>
    unfold fillLines
    split
    · exact ih _
    · exact Nat.succ_pos _

/-- The first line begins with what is on it already. -/
theorem fillLines_eq_cons (fits : List α → α → Bool) (line words : List α) :
    ∃ rest lines, fillLines fits line words = (line ++ rest) :: lines := by
  induction words generalizing line with
  | nil => exact ⟨[], [], by simp [fillLines]⟩
  | cons word words ih =>
    unfold fillLines
    split
    · obtain ⟨rest, lines, h⟩ := ih (line ++ [word])
      exact ⟨word :: rest, lines, by rw [h, List.append_assoc]; rfl⟩
    · exact ⟨[], _, by rw [List.append_nil]⟩

theorem lineFits_of_length_le {line : List α} (h : line.length ≤ n) : LineFits fits n line := by
  rintro pre word post rfl hn
  simp only [List.length_append, List.length_cons] at h
  omega

theorem LineFits.mono {m : Nat} {line : List α} (h : LineFits fits n line) (hnm : n ≤ m) :
    LineFits fits m line := fun pre word post heq hm =>
  h pre word post heq (Nat.le_trans hnm hm)

/-- On every line, all words but the first fit. -/
theorem Filled.lineFits {lines : List (List α)} (h : Filled fits n lines) (hn : n ≤ 1) :
    ∀ line ∈ lines, LineFits fits 1 line := by
  intro line hline
  induction h with
  | last hlast =>
    rw [List.mem_singleton.mp hline]
    exact hlast.mono hn
  | more hfirst _ _ ih =>
    rcases List.mem_cons.mp hline with rfl | hrest
    · exact hfirst.mono hn
    · exact ih (Nat.le_refl 1) hrest

theorem LineFits.append_singleton {line : List α} {word : α} (h : LineFits fits n line)
    (hword : fits line word = true) : LineFits fits n (line ++ [word]) := by
  intro pre word' post heq hn
  rcases List.eq_nil_or_concat post with rfl | ⟨post, last, rfl⟩
  · obtain ⟨rfl, hlast⟩ := List.append_inj' heq rfl
    cases hlast
    exact hword
  · rw [List.concat_eq_append, ← List.cons_append, ← List.append_assoc] at heq
    obtain ⟨rfl, -⟩ := List.append_inj' heq rfl
    exact h pre word' post rfl hn

/-- **Filling fills.** -/
theorem filled_fillLines {line : List α} (words : List α) (h : LineFits fits n line) :
    Filled fits n (fillLines fits line words) := by
  induction words generalizing n line with
  | nil => exact .last h
  | cons word words ih =>
    unfold fillLines
    split
    · next hword => exact ih (h.append_singleton hword)
    · next hword =>
      obtain ⟨rest, lines, heq⟩ := fillLines_eq_cons fits [word] words
      have hrest := ih (lineFits_of_length_le (Nat.le_refl [word].length))
      rw [heq] at hrest ⊢
      exact .more h (Bool.not_eq_true _ ▸ hword) hrest

/-- A line on which everything fits takes it all. -/
theorem fillLines_append {pre post words : List α} (h : LineFits fits n (pre ++ post))
    (hn : n ≤ pre.length) :
    fillLines fits pre (post ++ words) = fillLines fits (pre ++ post) words := by
  induction post generalizing pre with
  | nil => rw [List.nil_append, List.append_nil]
  | cons word post ih =>
    have hword := h pre word post rfl hn
    have happ : pre ++ word :: post = (pre ++ [word]) ++ post := by simp
    rw [List.cons_append, fillLines, if_pos hword, ih (happ ▸ h) (by simp; omega), ← happ]

/-- **Lines that are filled are the ones that filling gives.** -/
theorem fillLines_of_filled {pre post : List α} {lines : List (List α)}
    (h : Filled fits n ((pre ++ post) :: lines)) (hn : n ≤ pre.length) :
    fillLines fits pre (post ++ lines.flatten) = (pre ++ post) :: lines := by
  induction lines generalizing n pre post with
  | nil =>
    cases h with
    | last hline => rw [fillLines_append hline hn, List.flatten_nil, fillLines]
  | cons next lines ih =>
    cases h with
    | more hline hword hrest =>
      rename_i rest word
      have hnext : fillLines fits [word] (rest ++ lines.flatten) = (word :: rest) :: lines :=
        ih hrest (Nat.le_refl 1)
      rw [fillLines_append hline hn, List.flatten_cons, List.cons_append, fillLines,
        if_neg (by simp [hword]), hnext]

theorem Filled.eq_fillLines {lines : List (List α)} (h : Filled fits 0 lines) :
    lines = fillLines fits [] lines.flatten := by
  cases lines with
  | nil => cases h
  | cons line lines =>
    have hfill : fillLines fits [] (line ++ lines.flatten) = [] ++ line :: lines :=
      fillLines_of_filled h (Nat.le_refl 0)
    exact hfill.symm

end

end Infra
