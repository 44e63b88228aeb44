import LinuxBle.Ble.Device

/-!
# Who closes which descriptor

* `hciForEachDev_fds`, `hciGetRoute_fds`, `hciDevinfo_fds`, `hciUpdateConnList_fds` — what is
  opened for a moment is closed again
* `hciOpenDev_cases`, `hciInit_cases` — what is opened to stay
* `ownsDescriptors_of_careful` — when every descriptor is closed by its owner, once
-/

namespace LinuxBle

open Infra

/-! ## Functions that leave the descriptors alone -/

theorem hciForEachDev_fds (flag : Nat) (func : DevReq → Bool) (env : DevListEnv) (k : Proc) :
    (hciForEachDev flag func env k).2.fds = k.fds := by
  unfold hciForEachDev Proc.socket
  cases env.socket with
  | some e => rfl
  | none =>
    simp only
    cases env.malloc with
    | some e => exact Proc.close_leastFree_fds rfl
    | none =>
      simp only
      cases env.list with
      | error e => exact Proc.close_leastFree_fds rfl
      | ok devs => exact Proc.close_leastFree_fds rfl

theorem hciGetRoute_fds (bdaddr : Option BdAddr) (env : RouteEnv) (k : Proc) :
    (hciGetRoute bdaddr env k).2.fds = k.fds := by
  unfold hciGetRoute
  simp only
  split
  · rw [hciForEachDev_fds, hciForEachDev_fds]
  · exact hciForEachDev_fds ..

theorem hciDevinfo_fds (env : DevInfoEnv) (k : Proc) : (hciDevinfo env k).2.2.fds = k.fds := by
  unfold hciDevinfo Proc.socket
  cases env.socket with
  | some e => rfl
  | none =>
    simp only
    cases env.info with
    | error e => exact Proc.close_leastFree_fds rfl
    | ok di => exact Proc.close_leastFree_fds rfl

/-- **`hci_update_conn_list` leaves the open descriptors as it found them.** -/
theorem hciUpdateConnList_fds (hci : HciDevice) (env : ConnListEnv) (k : Proc) :
    (hciUpdateConnList hci env k).proc.fds = k.fds := by
  unfold hciUpdateConnList Proc.socket
  cases env.socket with
  | some e => rfl
  | none =>
    simp only
    cases env.getConnList with
    | error e => exact Proc.close_leastFree_fds rfl
    | ok conn => exact Proc.close_leastFree_fds rfl

theorem hciUpdateConnList_dd (hci : HciDevice) (env : ConnListEnv) (k : Proc) :
    (hciUpdateConnList hci env k).hci.dd = hci.dd := by
  unfold hciUpdateConnList
  simp only
  split
  · rfl
  · split <;> rfl

/-! ## Functions that open a descriptor -/

/-- `hci_open_dev` keeps its descriptor when it returns it, and only then. -/
theorem hciOpenDev_cases (devId : Int) (env : OpenEnv) (k : Proc) :
    ((hciOpenDev devId env k).1 = -1 ∧ (hciOpenDev devId env k).2.fds = k.fds) ∨
      (0 ≤ devId ∧ (hciOpenDev devId env k).1 = leastFree k.fds ∧
        (hciOpenDev devId env k).2.fds = insert (leastFree k.fds) k.fds) := by
  unfold hciOpenDev Proc.socket
  by_cases hdev : devId < 0
  · rw [if_pos hdev]
    exact Or.inl ⟨rfl, rfl⟩
  · rw [if_neg hdev]
    cases env.socket with
    | some e => exact Or.inl ⟨rfl, rfl⟩
    | none =>
      simp only
      cases env.bind with
      | some e => exact Or.inl ⟨rfl, Proc.close_leastFree_fds rfl⟩
      | none => exact Or.inr ⟨by omega, rfl, rfl⟩

/-- What `hci_get_route` and `hci_open_dev` come to in one call of `hci_init`. -/
def InitEnv.opened (env : InitEnv) (k : Proc) : Int × Proc :=
  hciOpenDev (hciGetRoute none env.route k).1 env.openDev (hciGetRoute none env.route k).2

/-- `hci_init` gets a descriptor. -/
def InitEnv.Opens (env : InitEnv) (k : Proc) : Prop := 0 ≤ (env.opened k).1

/-- What `hci_init` does with its descriptor succeeds. -/
structure InitEnv.Finishes (env : InitEnv) : Prop where
  infoSocket : env.info.socket = none
  info : ∃ di, env.info.info = .ok di
  readName : ∀ name s res,
    hciReadLocalName hciMaxNameLength name 1000 env.readName s = .done res → res.ret = 0
  getsockopt : env.getsockopt = none

theorem hciInitOpened_spec {hci : HciDevice} {env : InitEnv} {k : Proc} {res : InitResult}
    (h : hciInitOpened hci env k = .done res) :
    res.hci.dd = hci.dd ∧ res.hci.conn = hci.conn ∧ res.proc.fds = k.fds ∧
      (env.Finishes → res.ret = 0) := by
  have hfds := hciDevinfo_fds env.info k
  unfold hciInitOpened at h
  revert h hfds
  cases hinfo : hciDevinfo env.info k with
  | mk ret rest =>
    obtain ⟨devInfo, k'⟩ := rest
    intro h hfds
    simp only at h hfds
    split at h
    · next hret =>
      cases h
      refine ⟨rfl, rfl, hfds, fun hfin => absurd ?_ hret⟩
      obtain ⟨di, hdi⟩ := hfin.info
      rw [hciDevinfo, hfin.infoSocket, hdi] at hinfo
      exact (congrArg Prod.fst hinfo).symm
    · obtain ⟨name, hname, h⟩ := Outcome.bind_eq_done.mp h
      split at h
      · next hnret =>
        cases h
        exact ⟨rfl, rfl, hfds, fun hfin => absurd (hfin.readName _ _ _ hname) hnret⟩
      · cases hget : env.getsockopt with
        | some e =>
          rw [hget] at h
          cases h
          refine ⟨rfl, rfl, hfds, fun hfin => ?_⟩
          rw [hfin.getsockopt] at hget
          cases hget
        | none =>
          rw [hget] at h
          cases h
          exact ⟨rfl, rfl, hfds, fun _ => rfl⟩

/--
**The courses of `hci_init`**: it gets no descriptor, or it gets one and keeps it, whatever it
returns.
-/
theorem hciInit_cases {hci : HciDevice} {env : InitEnv} {k : Proc} {res : InitResult}
    (h : hciInit hci env k = .done res) :
    (¬env.Opens k ∧ res.ret = -1 ∧ res.hci.dd = -1 ∧ res.proc.fds = k.fds) ∨
      (env.Opens k ∧ res.hci.dd = leastFree k.fds ∧
        res.proc.fds = insert (leastFree k.fds) k.fds ∧ (env.Finishes → res.ret = 0)) := by
  have hcases := hciOpenDev_cases (hciGetRoute none env.route k).1 env.openDev
    (hciGetRoute none env.route k).2
  have hroute := hciGetRoute_fds none env.route k
  unfold InitEnv.Opens InitEnv.opened
  unfold hciInit at h
  simp only at h
  rw [hroute] at hcases
  rcases hcases with ⟨hdd, hfds⟩ | ⟨hdev, hdd, hfds⟩
  · rw [if_pos (Or.inr (by rw [hdd]; decide))] at h
    cases h
    exact Or.inl ⟨by rw [hdd]; decide, rfl, hdd, hfds⟩
  · rw [if_neg (by rw [hdd]; omega)] at h
    obtain ⟨hdd', -, hfds', hfin⟩ := hciInitOpened_spec h
    exact Or.inr ⟨by rw [hdd]; omega, hdd'.trans hdd, hfds'.trans hfds, hfin⟩

/-! ## Whole runs -/

namespace Devices

/-- The struct of an owned descriptor has its number, and it is open. -/
def Inv (w : Devices) : Prop :=
  ∀ i fd, w.owned i = some fd → (w.hci i).dd = fd ∧ fd ∈ w.proc.fds

/--
What a careful caller does, and what it needs the kernel for. Once `hci_init` has a descriptor it
does not fail, and where it gets none the struct owns none. A struct that owns no descriptor is
closed only if the number in it is not open.
-/
def Careful (w : Devices) : Op → Prop
  | .init i env =>
    (env.Opens w.proc → env.Finishes) ∧ (¬env.Opens w.proc → w.owned i = none)
  | .updateConnList _ _ => True
  | .close i => w.owned i = none → 0 ≤ (w.hci i).dd → (w.hci i).dd.toNat ∉ w.proc.fds

/--
Descriptor ownership, over one step: a failing `hci_init` leaves no new descriptor open,
`hci_update_conn_list` leaves the descriptors alone, and `hci_close` closes what its struct owns
and nothing else.
-/
def OwnsDescriptors (w : Devices) : Op → Devices → Prop
  | .init _ _, w' => w'.ret = -1 → w'.proc.fds ⊆ w.proc.fds
  | .updateConnList _ _, w' => w'.proc.fds = w.proc.fds
  | .close i, w' =>
    w'.proc.fds =
      match w.owned i with
      | some fd => w.proc.fds.erase fd
      | none => w.proc.fds

theorem Inv.init {w : Devices} (h : w.Init) : w.Inv := fun i fd hi => by
  rw [h.2] at hi
  cases hi

theorem Inv.step_init {w w' : Devices} {i : Nat} {env : InitEnv} (h : w.Inv)
    (hok : w.Careful (.init i env)) (hs : w.step (.init i env) = .done w') : w'.Inv := by
  obtain ⟨res, hres, hs⟩ := Outcome.bind_eq_done.mp hs
  cases hs
  intro j fd hj
  simp only at hj ⊢
  rcases hciInit_cases hres with ⟨hno, hret, -, hfds⟩ | ⟨hopen, hdd, hfds, hfin⟩
  · -- the struct owned nothing, so the owned descriptor is that of another struct
    rw [if_neg (by rw [hret]; decide)] at hj
    have hji : j ≠ i := by
      rintro rfl
      rw [hok.2 hno] at hj
      cases hj
    rw [hfds, setAt, if_neg hji]
    exact h j fd hj
  · rw [if_pos (hfin (hok.1 hopen))] at hj
    unfold setAt at hj ⊢
    rw [hfds]
    by_cases hji : j = i
    · rw [if_pos hji, Option.some.injEq, hdd] at hj
      rw [if_pos hji, hdd, ← hj]
      exact ⟨rfl, Finset.mem_insert_self _ _⟩
    · -- the new descriptor is in no other struct
      rw [if_neg hji] at hj ⊢
      exact ⟨(h j fd hj).1, Finset.mem_insert_of_mem (h j fd hj).2⟩

theorem Inv.step_updateConnList {w : Devices} (h : w.Inv) (i : Nat) (env : ConnListEnv) :
    (w.updateConnList i env).Inv := by
  intro j fd hj
  unfold updateConnList setAt
  simp only [hciUpdateConnList_fds]
  by_cases hji : j = i
  · subst hji
    rw [if_pos rfl, hciUpdateConnList_dd]
    exact h j fd hj
  · rw [if_neg hji]
    exact h j fd hj

/-- What `hci_close` closes. -/
theorem close_fds {w : Devices} {i : Nat} (h : w.Inv) (hok : w.Careful (.close i)) :
    (w.close i).proc.fds =
      match w.owned i with
      | some fd => w.proc.fds.erase fd
      | none => w.proc.fds := by
  show (w.proc.close (w.hci i).dd).fds = _
  cases howned : w.owned i with
  | some fd => rw [(h i fd howned).1, Proc.close_fds_natCast]
  | none => exact Proc.close_fds_of_notMem (hok howned)

theorem Inv.step_close {w : Devices} {i : Nat} (h : w.Inv) (hok : w.Careful (.close i)) :
    (w.close i).Inv := by
  intro j fd hj
  obtain ⟨howned, hmem⟩ : w.owned j = some fd ∧ fd ∈ (w.close i).proc.fds := by
    simpa [close, Option.filter_eq_some_iff] using hj
  refine ⟨?_, hmem⟩
  have hji : j ≠ i := by
    rintro rfl
    -- what the closed struct owned is not open any more
    rw [close_fds h hok, howned] at hmem
    exact Finset.notMem_erase _ _ hmem
  show (setAt w.hci i _ j).dd = _
  rw [setAt, if_neg hji]
  exact (h j fd howned).1

/-- **One careful step keeps the invariant.** -/
theorem Inv.step {w w' : Devices} {op : Op} (h : w.Inv) (hok : w.Careful op)
    (hs : w.step op = .done w') : w'.Inv := by
  cases op with
  | init i env => exact h.step_init hok hs
  | updateConnList i env =>
    cases hs
    exact h.step_updateConnList i env
  | close i =>
    cases hs
    exact h.step_close hok

theorem Inv.ownsDescriptors {w w' : Devices} {op : Op} (h : w.Inv) (hok : w.Careful op)
    (hs : w.step op = .done w') : w.OwnsDescriptors op w' := by
  cases op with
  | init i env =>
    obtain ⟨res, hres, hs⟩ := Outcome.bind_eq_done.mp hs
    cases hs
    intro hret
    rcases hciInit_cases hres with ⟨-, -, -, hfds⟩ | ⟨hopen, -, -, hfin⟩
    · exact hfds.subset
    · have hzero : res.ret = -1 := hret
      rw [hfin (hok.1 hopen)] at hzero
      cases hzero
  | updateConnList i env =>
    cases hs
    exact hciUpdateConnList_fds ..
  | close i =>
    cases hs
    exact close_fds h hok

/--
**A careful caller closes every descriptor once, and no other.**

`hci_init` itself keeps a descriptor that it fails with, and `hci_close` takes the `0` of a zeroed
struct for a descriptor.
-/
theorem ownsDescriptors_of_careful {w w' : Devices} {op : Op}
    (hreach : Reach Devices.step Careful Init w) (hok : w.Careful op)
    (hs : w.step op = .done w') : w.OwnsDescriptors op w' := by
  have hinv : w.Inv :=
    hreach.invariant (fun _ => Inv.init) fun _ _ _ h hok hs => h.step hok hs
  exact hinv.ownsDescriptors hok hs

/-- A process with its standard streams and zeroed structs. -/
def fresh : Devices where
  hci := fun _ => .zero
  proc := ⟨{0, 1, 2}, .ofCode 0⟩
  ret := 0
  owned := fun _ => none

/-- The device `hci0`, which is up. -/
def upDevice : DevReq := ⟨0, 1, .ok ⟨⟨1, 2, 3, 4, 5, 6⟩, 1⟩⟩

/-- Command Complete for Read Local Name. -/
def localNameReply : Packet :=
  .ofBytes [0x04, 0x0E, 0x05, 0x01, 0x14, 0x0C, 0x00, 0x41] (by decide)

/-- Every call succeeds. -/
def readyInit : InitEnv where
  route := ⟨⟨none, none, .ok [upDevice]⟩, ⟨none, none, .ok [upDevice]⟩⟩
  openDev := ⟨none, none⟩
  info := ⟨none, upDevice.info⟩
  readName := .answered localNameReply
  newFilter := hciFilterClear
  getsockopt := none

theorem readyInit_finishes : readyInit.Finishes where
  infoSocket := rfl
  info := ⟨_, rfl⟩
  readName := by
    intro name s res h
    cases h
    rfl
  getsockopt := rfl

/-- The struct is initialised and closed: its descriptor goes, the standard streams stay. -/
theorem ownsDescriptors_of_careful_ready :
    ∃ w w', fresh.step (.init 0 readyInit) = .done w ∧ w.owned 0 = some 3 ∧
      w.step (.close 0) = .done w' ∧ w.OwnsDescriptors (.close 0) w' := by
  obtain ⟨w, hinit, howned⟩ : ∃ w, fresh.step (.init 0 readyInit) = .done w ∧
      w.owned 0 = some 3 := ⟨_, rfl, rfl⟩
  have hreach : Reach Devices.step Careful Init w :=
    .step (.start (s := fresh) ⟨rfl, rfl⟩)
      (show fresh.Careful (.init 0 readyInit) from ⟨fun _ => readyInit_finishes, fun _ => rfl⟩)
      hinit
  have hok : w.Careful (.close 0) := by
    intro hnone
    rw [howned] at hnone
    cases hnone
  exact ⟨w, w.close 0, hinit, howned, rfl, ownsDescriptors_of_careful hreach hok rfl⟩

/-- Closing a struct that was never initialised closes standard input. -/
theorem not_ownsDescriptors :
    ¬EveryStep Devices.step (fun _ _ => True) Init OwnsDescriptors := by
  intro hall
  have hclose : (fresh.close 0).proc.fds = fresh.proc.fds :=
    hall fresh (.close 0) (fresh.close 0) (.start ⟨rfl, rfl⟩) trivial rfl
  exact absurd hclose (by decide)

end Devices

end LinuxBle
