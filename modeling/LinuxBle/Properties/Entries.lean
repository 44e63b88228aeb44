import LinuxBle.Properties.Address
import LinuxBle.Properties.EirRoundtrip
import LinuxBle.Properties.Noise

/-!
# What a caller finds in its array

* `Client.AllFilled.step` — every call keeps the entries in order
* `Client.run_entries` — so an entry is zero, or it can be shown and used
-/

namespace LinuxBle

open Infra

/-! ## Entries -/

/--
An entry that can be shown and used: it has a device, its text is read back as its address, and
its name is a string inside its array that is not empty.
-/
structure BleDevice.Filled (ble : BleDevice) : Prop where
  device : ble.hci ≠ none
  text : str2ba (some ble.addrS) = (0, ble.addr)
  nameSize : ble.name.length = bleNameSize
  nameStart : 0 < strlen ble.name
  nameEnd : strlen ble.name < bleNameSize

/-- A string that ends in a zero byte is shorter than its array. -/
theorem strlen_lt_length {s : List UInt8} (h : s.getLast? = some 0) : strlen s < s.length := by
  have hsub := List.takeWhile_sublist (l := s) fun b : UInt8 => decide (b ≠ 0)
  refine Nat.lt_of_le_of_ne hsub.length_le fun heq => ?_
  have hmem : (0 : UInt8) ∈ s.takeWhile fun b => decide (b ≠ 0) := by
    rw [hsub.eq_of_length heq]
    exact List.mem_of_getLast? h
  exact absurd (List.all_eq_true.mp List.all_takeWhile 0 hmem) (by decide)

/-- A recorded report fills its entry. -/
theorem BleDevice.Filled.copyValues {p : Packet} (h : p.Named) (self : HciPtr) (ble : BleDevice) :
    (copyValues self p ble).Filled where
  device := Option.some_ne_none self
  text := str2ba_of_ba2str (map_toUpper_ba2str p.addr)
  nameSize := p.name_terminated.1
  nameStart := Nat.pos_of_ne_zero h.2.2.2
  nameEnd := by
    have hlt := strlen_lt_length p.name_terminated.2
    rw [p.name_terminated.1] at hlt
    exact hlt

/-- The handle is no part of it. -/
theorem BleDevice.Filled.withHandle {ble : BleDevice} (h : ble.Filled) (handle : UInt16) :
    { ble with handle := handle }.Filled :=
  ⟨h.device, h.text, h.nameSize, h.nameStart, h.nameEnd⟩

namespace Client

/-- Every entry is as it was at first, or filled. -/
def AllFilled (c : Client) : Prop := ∀ i, c.list i = .zero ∨ (c.list i).Filled

variable {c c' : Client} {i : Nat} {env : CallEnv}

theorem AllFilled.init (h : c.Init) : c.AllFilled := fun i => .inl (by rw [h.1])

/-- What a scan records are named reports. -/
theorem AllFilled.step_scan {self : HciPtr} {hci : HciDevice} {bleListLen : Nat} {scanTime : Int}
    {env : ScanEnv} (h : c.AllFilled)
    (hs : c.step (.scan self hci bleListLen scanTime env) = .done c') : c'.AllFilled := by
  obtain ⟨res, hres, hs⟩ := Outcome.bind_eq_done.mp hs
  cases hs
  intro i
  show res.bleList i = _ ∨ (res.bleList i).Filled
  rcases hciScanBle_list hres with ⟨-, hlist⟩ | ⟨-, st, hholds, hlist⟩
  · rw [hlist]
    exact h i
  · rw [hlist]
    by_cases hi : i < (fill Packet.addr bleListLen (namedReports (env.heard scanTime))).length
    · rw [hholds.row i hi]
      have hlast := find?_of_mem_fill _ _ (List.getElem_mem hi)
      have hmem := List.mem_reverse.mp (List.mem_of_find?_eq_some hlast)
      have hnamed := (List.mem_filter.mp hmem).2
      exact .inr (.copyValues (of_decide_eq_true hnamed) self (c.list i))
    · rw [hholds.rest i (by omega)]
      exact h i

/-- A call on an entry without a device does not return. -/
theorem AllFilled.setEntry {ble : BleDevice} (h : c.AllFilled) (hble : ble.Filled)
    (hlist : c'.list = Client.setEntry c.list i ble) : c'.AllFilled := by
  intro j
  rw [hlist]
  unfold Client.setEntry
  by_cases hji : j = i
  · rw [if_pos hji]
    exact .inr hble
  · rw [if_neg hji]
    exact h j

theorem AllFilled.filled (h : c.AllFilled) (hhci : (c.list i).hci ≠ none) : (c.list i).Filled := by
  rcases h i with hzero | hfilled
  · rw [hzero] at hhci
    exact absurd rfl hhci
  · exact hfilled

theorem AllFilled.step_connect (h : c.AllFilled) (hs : c.step (.connect i env) = .done c') :
    c'.AllFilled := by
  obtain ⟨res, hres, hs⟩ := Outcome.bind_eq_done.mp hs
  have hhci : (c.list i).hci ≠ none := fun hnone => by
    rw [bleConnect, hnone] at hres
    cases hres
  have hfilled := h.filled hhci
  have hble : res.ble.Filled := by
    rcases bleConnect_result hres with ⟨-, handle, hble⟩ | ⟨-, hble⟩ <;> rw [hble]
    · exact hfilled.withHandle handle
    · exact hfilled
  split at hs <;> cases hs <;> exact h.setEntry hble rfl

theorem AllFilled.step_disconnect (h : c.AllFilled)
    (hs : c.step (.disconnect i env) = .done c') : c'.AllFilled := by
  obtain ⟨res, hres, hs⟩ := Outcome.bind_eq_done.mp hs
  have hhci : (c.list i).hci ≠ none := fun hnone => by
    rw [bleDisconnect, hnone] at hres
    cases hres
  have hfilled := h.filled hhci
  have hble : res.ble.Filled := by
    rcases bleDisconnect_result hres with ⟨-, hble⟩ | ⟨-, hble⟩ <;> rw [hble]
    · exact hfilled.withHandle 0
    · exact hfilled
  split at hs <;> cases hs <;> exact h.setEntry hble rfl

/-- **Every call keeps the entries in order.** -/
theorem AllFilled.step {op : Op} (h : c.AllFilled) (hs : c.step op = .done c') : c'.AllFilled := by
  cases op with
  | scan self hci bleListLen scanTime env => exact h.step_scan hs
  | connect i env => exact h.step_connect hs
  | disconnect i env => exact h.step_disconnect hs

/-- What every call keeps, a run keeps. -/
theorem run_induction {P : Client → Prop}
    (hstep : ∀ c op c', P c → c.step op = .done c' → P c') :
    ∀ (ops : List Op) {c c' : Client}, P c → c.run ops = .done c' → P c'
  | [], _, _, h, hrun => by
    cases hrun
    exact h
  | op :: ops, c, c', h, hrun => by
    obtain ⟨c₁, hs, hrun⟩ := Outcome.bind_eq_done.mp hrun
    exact run_induction hstep ops (hstep c op c₁ h hs) hrun

/--
**After any calls, an entry of the array is zero or it can be shown and used.**

In particular its text is read back as its address by `str2ba`, and its name ends inside its array.
-/
theorem run_entries {ops : List Op} (h : c.Init) (hrun : c.run ops = .done c') (i : Nat) :
    c'.list i = .zero ∨ (c'.list i).Filled :=
  run_induction (fun _ _ _ h hs => AllFilled.step h hs) ops (AllFilled.init h) hrun i

/-- Scan and connect: the first entry is filled. -/
theorem run_entries_connected :
    ∃ c', fresh.run [.scan 0 .zero 5 1000 acceptedScan, .connect 0 (.answered otherConnected)] =
        .done c' ∧ (c'.list 0 = .zero ∨ (c'.list 0).Filled) := by
  obtain ⟨c', hrun⟩ : ∃ c', fresh.run [.scan 0 .zero 5 1000 acceptedScan,
      .connect 0 (.answered otherConnected)] = .done c' := ⟨_, rfl⟩
  exact ⟨c', hrun, run_entries ⟨rfl, rfl, rfl⟩ hrun 0⟩

end Client

end LinuxBle
