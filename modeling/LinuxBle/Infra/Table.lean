import Mathlib.Data.List.Induction
import Mathlib.Data.List.Nodup

/-!
# Tables of bounded size

A table holds at most `cap` rows with distinct keys, in the order in which the keys first
appeared. A row for a known key replaces the old one even when the table is full; a row for a
new key is dropped once there is no room.

* `map_key_fill` — the keys are the first `cap` distinct keys of the input
* `find?_of_mem_fill` — each row is the last row of the input with its key
-/

namespace Infra

universe u v

variable {κ : Type u} {ν : Type v} [DecidableEq κ] {key : ν → κ} {cap : Nat}

/-- Put a row into the table. -/
def insertRow (key : ν → κ) (cap : Nat) (t : List ν) (v : ν) : List ν :=
  match t.findIdx? (fun e => key e = key v) with
  | some i => t.set i v
  | none => if t.length < cap then t ++ [v] else t

/-- The table after a sequence of rows. -/
def fill (key : ν → κ) (cap : Nat) (vs : List ν) : List ν :=
  vs.foldl (insertRow key cap) []

@[simp] theorem fill_nil : fill key cap [] = [] := rfl

theorem fill_append_singleton (vs : List ν) (v : ν) :
    fill key cap (vs ++ [v]) = insertRow key cap (fill key cap vs) v := by
  simp [fill]

/-! ## One row -/

theorem findIdx?_key_eq_none_iff {t : List ν} {v : ν} :
    t.findIdx? (fun e => decide (key e = key v)) = none ↔ key v ∉ t.map key := by
  simp only [List.findIdx?_eq_none_iff, decide_eq_false_iff_not, List.mem_map, not_exists,
    not_and]

theorem findIdx?_key_eq_some {t : List ν} {v : ν} {i : Nat}
    (h : t.findIdx? (fun e => decide (key e = key v)) = some i) :
    ∃ hi : i < t.length, key t[i] = key v := by
  obtain ⟨hi, hk, -⟩ := List.findIdx?_eq_some_iff_getElem.mp h
  exact ⟨hi, by simpa using hk⟩

omit [DecidableEq κ] in
/-- Replacing a row by one with the same key keeps the keys. -/
theorem map_key_set {t : List ν} {v : ν} {i : Nat} (hi : i < t.length) (hk : key t[i] = key v) :
    (t.set i v).map key = t.map key := by
  rw [List.map_set, ← hk, ← List.getElem_map key (h := by simpa using hi)]
  exact List.set_getElem_self _

theorem map_key_insertRow (t : List ν) (v : ν) :
    (insertRow key cap t v).map key =
      if key v ∈ t.map key then t.map key
      else if t.length < cap then t.map key ++ [key v] else t.map key := by
  unfold insertRow
  cases h : t.findIdx? (fun e => decide (key e = key v)) with
  | none =>
    rw [if_neg (findIdx?_key_eq_none_iff.mp h)]
    by_cases hc : t.length < cap
    · simp [hc]
    · simp [hc]
  | some i =>
    obtain ⟨hi, hk⟩ := findIdx?_key_eq_some h
    rw [if_pos (List.mem_map.mpr ⟨t[i], List.getElem_mem hi, hk⟩)]
    exact map_key_set hi hk

/-- A row of the new table is the row put in, or an old row with another key. -/
theorem mem_insertRow {t : List ν} (hnd : (t.map key).Nodup) {v w : ν}
    (h : w ∈ insertRow key cap t v) : w = v ∨ (w ∈ t ∧ key w ≠ key v) := by
  unfold insertRow at h
  cases hf : t.findIdx? (fun e => decide (key e = key v)) with
  | none =>
    have hv : ∀ e ∈ t, key e ≠ key v := fun e he hk =>
      findIdx?_key_eq_none_iff.mp hf (List.mem_map.mpr ⟨e, he, hk⟩)
    rw [hf] at h
    by_cases hc : t.length < cap
    · simp only [hc, if_true, List.mem_append, List.mem_singleton] at h
      rcases h with h | h
      · exact Or.inr ⟨h, hv w h⟩
      · exact Or.inl h
    · simp only [hc, if_false] at h
      exact Or.inr ⟨h, hv w h⟩
  | some i =>
    obtain ⟨hi, hk⟩ := findIdx?_key_eq_some hf
    rw [hf] at h
    obtain ⟨j, hj, hjw⟩ := List.getElem_of_mem h
    rw [List.length_set] at hj
    rw [List.getElem_set] at hjw
    by_cases hij : i = j
    · rw [if_pos hij] at hjw
      exact Or.inl hjw.symm
    · rw [if_neg hij] at hjw
      -- a row in another place has another key, since no key occurs twice
      refine Or.inr ⟨hjw ▸ List.getElem_mem hj, fun hkw => hij ?_⟩
      have hi' : i < (t.map key).length := by rw [List.length_map]; exact hi
      have hj' : j < (t.map key).length := by rw [List.length_map]; exact hj
      have hkk : (t.map key)[i] = (t.map key)[j] := by
        rw [List.getElem_map, List.getElem_map, hk, hjw, hkw]
      exact (List.Nodup.getElem_inj_iff hnd).mp hkk

/-! ## The whole table -/

/-- **No key occurs twice.** -/
theorem nodup_map_key_insertRow {t : List ν} (hnd : (t.map key).Nodup) (v : ν) :
    ((insertRow key cap t v).map key).Nodup := by
  rw [map_key_insertRow]
  by_cases hv : key v ∈ t.map key
  · rw [if_pos hv]
    exact hnd
  · rw [if_neg hv]
    split
    · rw [List.nodup_append]
      refine ⟨hnd, by simp, fun a ha b hb => ?_⟩
      rw [List.mem_singleton] at hb
      rintro rfl
      exact hv (hb ▸ ha)
    · exact hnd

theorem nodup_map_key_foldl : ∀ (vs t : List ν), (t.map key).Nodup →
    ((vs.foldl (insertRow key cap) t).map key).Nodup
  | [], _, h => h
  | v :: vs, _, h => nodup_map_key_foldl vs _ (nodup_map_key_insertRow h v)

theorem nodup_map_key_fill (vs : List ν) : ((fill key cap vs).map key).Nodup :=
  nodup_map_key_foldl vs [] (by simp)

theorem eraseDups_append_singleton (ks : List κ) (k : κ) :
    (ks ++ [k]).eraseDups = if k ∈ ks then ks.eraseDups else ks.eraseDups ++ [k] := by
  rw [List.eraseDups_append]
  by_cases h : k ∈ ks
  · simp [h, List.removeAll]
  · simp [h, List.removeAll, List.eraseDups_cons]

/-- **The keys are the first `cap` distinct keys, in the order of their first appearance.** -/
theorem map_key_fill (vs : List ν) :
    (fill key cap vs).map key = ((vs.map key).eraseDups).take cap := by
  induction vs using List.reverseRecOn with
  | nil => simp
  | append_singleton vs v ih =>
    have hlen : (fill key cap vs).length = min cap (vs.map key).eraseDups.length := by
      rw [← List.length_map (f := key), ih, List.length_take]
    have hmem : key v ∈ (fill key cap vs).map key → key v ∈ vs.map key := by
      rw [ih]
      exact fun h => List.mem_eraseDups.mp (List.mem_of_mem_take h)
    rw [fill_append_singleton, map_key_insertRow, List.map_append, List.map_singleton,
      eraseDups_append_singleton, hlen]
    by_cases hin : key v ∈ (fill key cap vs).map key
    · rw [if_pos hin, if_pos (hmem hin), ih]
    · rw [if_neg hin, ih]
      by_cases hroom : min cap (vs.map key).eraseDups.length < cap
      · -- with room left nothing was cut off, so the key is new to the input as well
        have htake : (vs.map key).eraseDups.take cap = (vs.map key).eraseDups :=
          List.take_of_length_le (by omega)
        have hnew : key v ∉ vs.map key := by
          rw [ih, htake, List.mem_eraseDups] at hin
          exact hin
        rw [if_pos hroom, if_neg hnew, htake, List.take_of_length_le]
        rw [List.length_append, List.length_singleton]
        omega
      · rw [if_neg hroom]
        split
        · rfl
        · rw [List.take_append_of_le_length (by omega)]

theorem length_fill (vs : List ν) :
    (fill key cap vs).length = min cap (vs.map key).eraseDups.length := by
  rw [← List.length_map (f := key), map_key_fill, List.length_take]

/-- **Each row is the last one of the input with its key.** -/
theorem find?_of_mem_fill (vs : List ν) : ∀ w ∈ fill key cap vs,
    vs.reverse.find? (fun e => key e = key w) = some w := by
  induction vs using List.reverseRecOn with
  | nil => simp
  | append_singleton vs v ih =>
    intro w hw
    rw [fill_append_singleton] at hw
    rw [List.reverse_append, List.reverse_singleton, List.singleton_append, List.find?_cons]
    rcases mem_insertRow (nodup_map_key_fill vs) hw with rfl | ⟨hw, hk⟩
    · simp
    · rw [decide_eq_false (fun h => hk h.symm)]
      exact ih w hw

end Infra
