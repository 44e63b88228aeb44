import LinuxBle.Ble.Programs
import LinuxBle.Properties.Descriptors

/-!
# Structs that are initialised and closed

`hci_init` keeps its descriptor when it fails, and leaves it in the struct. A caller that closes
every struct it has initialised, whatever `hci_init` returned, gives back every descriptor.

* `Devices.Holding.run` — a struct holds its own descriptor or none
* `Devices.run_paired` — so such a caller leaves the descriptors as they were
-/

namespace LinuxBle

open Infra

namespace Devices

/-- Every struct is initialised, used, and closed once, in any order; `held` are open already. -/
def Paired (held : Finset Nat) : List Op → Prop
  | [] => held = ∅
  | .init i _ :: ops => i ∉ held ∧ Paired (insert i held) ops
  | .updateConnList _ _ :: ops => Paired held ops
  | .close i :: ops => i ∈ held ∧ Paired (held.erase i) ops

/--
The structs `held` hold the descriptors that were opened on top of `base`: each holds one of its
own, or the `-1` of a call that got none.
-/
structure Holding (base : Finset Nat) (held : Finset Nat) (w : Devices) : Prop where
  fds : ∀ fd, fd ∈ w.proc.fds ↔ fd ∈ base ∨ ∃ i ∈ held, (w.hci i).dd = fd
  own : ∀ i ∈ held, (w.hci i).dd = -1 ∨ ∃ fd : Nat, (w.hci i).dd = fd ∧ fd ∉ base
  apart : ∀ i ∈ held, ∀ j ∈ held, (w.hci i).dd = (w.hci j).dd → i = j ∨ (w.hci i).dd = -1

section

variable {base held : Finset Nat} {w w' : Devices} {i : Nat}

theorem setAt_self {α : Type} (f : Nat → α) (i : Nat) (a : α) : setAt f i a i = a := if_pos rfl

theorem setAt_of_ne {α : Type} (f : Nat → α) (a : α) {i j : Nat} (h : j ≠ i) :
    setAt f i a j = f j := if_neg h

/-- The struct that is written is not held yet, so the others stay as they were. -/
theorem setAt_of_mem {α : Type} (f : Nat → α) (a : α) {j : Nat} (hi : i ∉ held) (hj : j ∈ held) :
    setAt f i a j = f j :=
  setAt_of_ne f a fun hji => hi (by rw [← hji]; exact hj)

/-- What `hci_init` opens is open for no other struct. -/
theorem Holding.step_init {env : InitEnv} (h : Holding base held w) (hi : i ∉ held)
    (hs : w.step (.init i env) = .done w') : Holding base (insert i held) w' := by
  obtain ⟨res, hres, hs⟩ := Outcome.bind_eq_done.mp hs
  cases hs
  have hex : ∀ fd : Nat, (∃ j ∈ insert i held, (setAt w.hci i res.hci j).dd = fd) ↔
      res.hci.dd = fd ∨ ∃ j ∈ held, (w.hci j).dd = fd := by
    intro fd
    rw [Finset.exists_mem_insert, setAt_self]
    refine or_congr Iff.rfl (exists_congr fun j => and_congr_right fun hj => ?_)
    rw [setAt_of_mem w.hci res.hci hi hj]
  rcases hciInit_cases hres with ⟨-, -, hdd, hfds⟩ | ⟨-, hdd, hfds, -⟩
  · refine ⟨fun fd => ?_, fun j hj => ?_, fun j hj l hl heq => ?_⟩
    · show fd ∈ res.proc.fds ↔ _
      rw [hex, hfds, h.fds, hdd]
      refine or_congr Iff.rfl ⟨.inr, fun hor => hor.resolve_left (by omega)⟩
    · show (setAt w.hci i res.hci j).dd = -1 ∨ _
      rcases Finset.mem_insert.mp hj with rfl | hj
      · exact .inl (by rw [setAt_self, hdd])
      · simp only [setAt_of_mem w.hci res.hci hi hj]
        exact h.own j hj
    · simp only at heq ⊢
      rcases Finset.mem_insert.mp hj with rfl | hj
      · exact .inr (by rw [setAt_self, hdd])
      · rw [setAt_of_mem w.hci res.hci hi hj] at heq ⊢
        rcases Finset.mem_insert.mp hl with rfl | hl
        · rw [setAt_self, hdd] at heq
          exact .inr heq
        · rw [setAt_of_mem w.hci res.hci hi hl] at heq
          exact h.apart j hj l hl heq
  · have hfree := leastFree_notMem w.proc.fds
    have hnew : ∀ j ∈ held, (w.hci j).dd ≠ leastFree w.proc.fds := fun j hj heq =>
      hfree ((h.fds _).mpr (.inr ⟨j, hj, heq⟩))
    refine ⟨fun fd => ?_, fun j hj => ?_, fun j hj l hl heq => ?_⟩
    · show fd ∈ res.proc.fds ↔ _
      rw [hex, hfds, Finset.mem_insert, h.fds, hdd]
      have hcast : fd = leastFree w.proc.fds ↔ ((leastFree w.proc.fds : Nat) : Int) = fd := by
        omega
      rw [hcast]
      exact or_left_comm
    · show (setAt w.hci i res.hci j).dd = -1 ∨
        ∃ fd : Nat, (setAt w.hci i res.hci j).dd = fd ∧ fd ∉ base
      rcases Finset.mem_insert.mp hj with rfl | hj
      · rw [setAt_self, hdd]
        exact .inr ⟨_, rfl, fun hbase => hfree ((h.fds _).mpr (.inl hbase))⟩
      · simp only [setAt_of_mem w.hci res.hci hi hj]
        exact h.own j hj
    · simp only at heq ⊢
      rcases Finset.mem_insert.mp hj with rfl | hjheld
      · rcases Finset.mem_insert.mp hl with rfl | hlheld
        · exact .inl rfl
        · rw [setAt_self, setAt_of_mem w.hci res.hci hi hlheld, hdd] at heq
          exact absurd heq.symm (hnew l hlheld)
      · rw [setAt_of_mem w.hci res.hci hi hjheld] at heq ⊢
        rcases Finset.mem_insert.mp hl with rfl | hlheld
        · rw [setAt_self, hdd] at heq
          exact absurd heq (hnew j hjheld)
        · rw [setAt_of_mem w.hci res.hci hi hlheld] at heq
          exact h.apart j hjheld l hlheld heq

/-- `hci_close` closes the descriptor of its struct, and no other. -/
theorem Holding.close_fds (h : Holding base held w) (hi : i ∈ held) (fd : Nat) :
    fd ∈ (w.close i).proc.fds ↔ fd ∈ w.proc.fds ∧ (w.hci i).dd ≠ fd := by
  show fd ∈ (w.proc.close (w.hci i).dd).fds ↔ _
  rcases h.own i hi with hnone | ⟨fd', hdd, -⟩
  · -- `hci_init` failed, and `close(-1)` closes nothing
    rw [hnone, Proc.close_fds_of_notMem (by omega)]
    exact ⟨fun hm => ⟨hm, by omega⟩, fun hm => hm.1⟩
  · rw [hdd, Proc.close_fds_natCast, Finset.mem_erase]
    have hcast : fd ≠ fd' ↔ (fd' : Int) ≠ fd := by omega
    rw [hcast]
    exact and_comm

theorem Holding.step_close (h : Holding base held w) (hi : i ∈ held) :
    Holding base (held.erase i) (w.close i) := by
  have hother : ∀ j ∈ held.erase i, (w.close i).hci j = w.hci j := fun j hj =>
    setAt_of_ne w.hci .zero (Finset.ne_of_mem_erase hj)
  refine ⟨fun fd => ?_, fun j hj => ?_, fun j hj l hl heq => ?_⟩
  · rw [h.close_fds hi, h.fds]
    constructor
    · rintro ⟨hbase | ⟨j, hj, hdd⟩, hne⟩
      · exact .inl hbase
      · have hji : j ≠ i := fun hji => hne (by rw [← hji]; exact hdd)
        have hmem := Finset.mem_erase.mpr ⟨hji, hj⟩
        exact .inr ⟨j, hmem, by rw [hother j hmem]; exact hdd⟩
    · rintro (hbase | ⟨j, hj, hdd⟩)
      · refine ⟨.inl hbase, fun heq => ?_⟩
        rcases h.own i hi with hnone | ⟨fd', hfd', hnot⟩
        · omega
        · have hsame : fd' = fd := by omega
          exact hnot (hsame ▸ hbase)
      · rw [hother j hj] at hdd
        have hmem := Finset.mem_of_mem_erase hj
        refine ⟨.inr ⟨j, hmem, hdd⟩, fun heq => ?_⟩
        rcases h.apart j hmem i hi (hdd.trans heq.symm) with hji | hnone
        · exact Finset.ne_of_mem_erase hj hji
        · omega
  · rw [hother j hj]
    exact h.own j (Finset.mem_of_mem_erase hj)
  · rw [hother j hj] at heq ⊢
    rw [hother l hl] at heq
    exact h.apart j (Finset.mem_of_mem_erase hj) l (Finset.mem_of_mem_erase hl) heq

theorem Holding.step_updateConnList (h : Holding base held w) (env : ConnListEnv) :
    Holding base held (w.updateConnList i env) := by
  have hfds : (w.updateConnList i env).proc.fds = w.proc.fds := hciUpdateConnList_fds ..
  have hdd : ∀ j, ((w.updateConnList i env).hci j).dd = (w.hci j).dd := fun j => by
    show (setAt w.hci i _ j).dd = _
    by_cases hji : j = i
    · rw [hji, setAt_self]
      exact hciUpdateConnList_dd ..
    · rw [setAt_of_ne _ _ hji]
  refine ⟨fun fd => ?_, fun j hj => ?_, fun j hj l hl heq => ?_⟩
  · rw [hfds, h.fds]
    simp only [hdd]
  · rw [hdd]
    exact h.own j hj
  · rw [hdd] at heq ⊢
    rw [hdd] at heq
    exact h.apart j hj l hl heq

/-- The structs that are held at the end of paired calls are none. -/
theorem Holding.run : ∀ (ops : List Op) {held : Finset Nat} {w w' : Devices},
    Holding base held w → Paired held ops → w.run ops = .done w' → Holding base ∅ w'
  | [], held, w, w', h, hp, hrun => by
    cases hrun
    rw [show held = ∅ from hp] at h
    exact h
  | .init i env :: ops, held, w, w', h, hp, hrun => by
    obtain ⟨w₁, hs, hrun⟩ := Outcome.bind_eq_done.mp hrun
    exact Holding.run ops (h.step_init hp.1 hs) hp.2 hrun
  | .updateConnList i env :: ops, held, w, w', h, hp, hrun =>
    Holding.run ops (h.step_updateConnList env) hp hrun
  | .close i :: ops, held, w, w', h, hp, hrun =>
    Holding.run ops (h.step_close hp.1) hp.2 hrun

end

/--
**A caller that closes every struct it has initialised leaves the descriptors as they were.**

The calls on different structs may come in any order, and any of them may fail.
-/
theorem run_paired {ops : List Op} {w w' : Devices} (hp : Paired ∅ ops)
    (hrun : w.run ops = .done w') : w'.proc.fds = w.proc.fds := by
  have hstart : Holding w.proc.fds ∅ w := ⟨by simp, by simp, by simp⟩
  have hend := Holding.run ops hstart hp hrun
  ext fd
  rw [hend.fds]
  simp

/-- The first struct is opened by a call that fails, and closed after the second. -/
theorem run_paired_crossed :
    ∃ w', fresh.run [.init 0 { readyInit with getsockopt := some .eio }, .init 1 readyInit,
        .close 1, .close 0] = .done w' ∧ w'.proc.fds = {0, 1, 2} := by
  obtain ⟨w', hrun⟩ : ∃ w', fresh.run [.init 0 { readyInit with getsockopt := some .eio },
      .init 1 readyInit, .close 1, .close 0] = .done w' := ⟨_, rfl⟩
  refine ⟨w', hrun, run_paired ?_ hrun⟩
  exact ⟨by decide, by decide, by decide, by decide, by rfl⟩

/-- Structs that are opened one after the other, before anything else. -/
theorem paired_inits (envs : Nat → InitEnv) {rest : List Op} :
    ∀ (is : List Nat) {held : Finset Nat}, is.Nodup → (∀ i ∈ is, i ∉ held) →
      Paired (held ∪ is.toFinset) rest → Paired held (is.map (fun i => .init i (envs i)) ++ rest)
  | [], held, _, _, h => by simpa using h
  | i :: is, held, hnodup, hnew, h => by
    rw [List.nodup_cons] at hnodup
    refine ⟨hnew i List.mem_cons_self, paired_inits envs is hnodup.2 (fun j hj => ?_) ?_⟩
    · rw [Finset.mem_insert, not_or]
      exact ⟨fun hji => hnodup.1 (hji ▸ hj), hnew j (List.mem_cons_of_mem _ hj)⟩
    · rw [List.toFinset_cons, Finset.union_insert, ← Finset.insert_union] at h
      exact h

/-- Structs that are closed one after the other, to the last. -/
theorem paired_closes : ∀ is : List Nat, is.Nodup → Paired is.toFinset (is.map fun i => .close i)
  | [], _ => rfl
  | i :: is, hnodup => by
    rw [List.nodup_cons] at hnodup
    refine ⟨by simp, ?_⟩
    rw [List.toFinset_cons, Finset.erase_insert (by simpa using hnodup.1)]
    exact paired_closes is hnodup.2

/-- **`hci_init.c` leaves the descriptors as they were.** -/
theorem run_hciInitCalls {envs : Nat → InitEnv} {w w' : Devices}
    (hrun : w.run (hciInitCalls envs) = .done w') : w'.proc.fds = w.proc.fds := by
  have hnodup : (List.range 10).Nodup := List.nodup_range
  refine run_paired (paired_inits envs _ hnodup (by simp) ?_) hrun
  rw [Finset.empty_union]
  exact paired_closes _ hnodup

end Devices

end LinuxBle
