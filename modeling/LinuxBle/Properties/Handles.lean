import LinuxBle.Properties.ScanTable
import LinuxBle.Properties.Attribution
import LinuxBle.Ble.Client

/-!
# The handles that `ble_disconnect` uses

* `hciScanBle_list`, `bleConnect_result`, `bleDisconnect_result` — what each call does to an entry
* `ownDisconnects_of_careful` — a careful caller tears down its own connections only
-/

namespace LinuxBle

open Infra

/-! ## What each call does to an entry -/

section

variable {self : HciPtr} {hci : HciDevice} {old : BleList} {cap : Nat} {scanTime : Int}
  {env : ScanEnv} {s : Sock}

/-- A scan leaves the array as it was, or with the table of the reports it heard. -/
theorem hciScanBle_list {res : ScanResult}
    (h : hciScanBle self hci old cap scanTime env s = .done res) :
    (¬env.Listens s ∧ res.bleList = old) ∨ env.Listens s ∧ ∃ st,
      Holds self old (fill Packet.addr cap (namedReports (env.heard scanTime))) st ∧
        res.bleList = st.bleList := by
  cases hset : env.setFilter with
  | some e =>
    simp only [hciScanBle, hset, Outcome.done.injEq] at h
    rw [← h]
    refine Or.inl ⟨fun hl => ?_, rfl⟩
    rw [ScanEnv.Listens, hset] at hl
    cases hl.1
  | none =>
    cases hup : scanSetup env (s.setFilter scanFilter none) with
    | blocked => simp [hciScanBle, hset, hup] at h
    | fault => simp [hciScanBle, hset, hup] at h
    | done up =>
      rw [hciScanBle_eq hset hup] at h
      split at h
      · next hret =>
        cases h
        refine Or.inl ⟨fun hl => ?_, rfl⟩
        obtain ⟨-, up', hup', hret'⟩ := hl
        rw [hup, Outcome.done.injEq] at hup'
        exact hret (hup' ▸ hret')
      · next hret =>
        right
        refine ⟨⟨hset, up, hup, not_not.mp hret⟩, _,
          scanned_holds self old cap scanTime env up.sock.errno, ?_⟩
        split at h
        · cases h
        · next e he =>
          obtain ⟨-, hlist, -⟩ := scanFinish_eq_done h
          rw [hlist]
          cases e <;> rfl

/-- A scan never touches a handle. -/
theorem handle_of_holds {t : List Packet} {st : ScanState} (h : Holds self old t st) (i : Nat) :
    (st.bleList i).handle = (old i).handle := by
  by_cases hi : i < t.length
  · rw [h.row i hi]
    rfl
  · rw [h.rest i (by omega)]

/-- The address of an entry is that of its row, if it has one. -/
theorem addr_of_holds {rs : List Packet} {st : ScanState}
    (h : Holds self old (fill Packet.addr cap rs) st) (i : Nat) :
    (st.bleList i).addr = (((addresses rs).take cap)[i]?).getD (old i).addr := by
  unfold addresses
  rw [← map_key_fill, List.getElem?_map]
  by_cases hi : i < (fill Packet.addr cap rs).length
  · rw [h.row i hi, List.getElem?_eq_getElem hi]
    rfl
  · rw [h.rest i (by omega), List.getElem?_eq_none (by omega)]
    rfl

end

section

variable {ble : BleDevice} {env : CallEnv} {s : Sock} {res : BleResult}

theorem bleConnect_result (h : bleConnect ble env s = .done res) :
    (res.ret = 0 ∧ ∃ handle, res.ble = { ble with handle := handle }) ∨
      (res.ret = -1 ∧ res.ble = ble) := by
  unfold bleConnect at h
  split at h
  · cases h
  · obtain ⟨conn, -, h⟩ := Outcome.bind_eq_done.mp h
    split at h
    · cases h
      exact Or.inr ⟨rfl, rfl⟩
    · cases h
      exact Or.inl ⟨rfl, _, rfl⟩

theorem bleDisconnect_result (h : bleDisconnect ble env s = .done res) :
    (res.ret = 0 ∧ res.ble = { ble with handle := 0 }) ∨ (res.ret ≠ 0 ∧ res.ble = ble) := by
  unfold bleDisconnect at h
  split at h
  · cases h
  · obtain ⟨disc, -, h⟩ := Outcome.bind_eq_done.mp h
    split at h
    · next hret =>
      cases h
      exact Or.inl ⟨hret, rfl⟩
    · next hret =>
      cases h
      exact Or.inr ⟨hret, rfl⟩

/-- HCI Disconnect, as `ble_disconnect` sends it. -/
def disconnectCommand (handle : UInt16) : List UInt8 :=
  [0x01, 0x06, 0x04, 0x03] ++ bytes16 handle ++ [hciOeUserEndedConnection]

/-- **The handle in the command is the one in the entry**, checked by nothing. -/
theorem bleDisconnect_sent (h : bleDisconnect ble env s = .done res) :
    res.sock.sent = s.sent ++ env.writes (disconnectCommand ble.handle) := by
  unfold bleDisconnect at h
  split at h
  · cases h
  · obtain ⟨disc, hdisc, h⟩ := Outcome.bind_eq_done.mp h
    obtain ⟨res', hd, hres⟩ := Outcome.bind_eq_done.mp hdisc
    cases hres
    have hsent := (sendForStatus_sent hd).1
    unfold disconnectRequest at hsent
    rw [Wrapper.command_request _ _ (by simp [bytes16])] at hsent
    split at h <;> cases h <;> exact hsent

end

/-! ## Whole runs -/

namespace Client

/-- Opened entries hold live handles, and a handle is live for one address only. -/
structure Inv (c : Client) : Prop where
  held : ∀ i, c.opened i = true → ((c.list i).handle, (c.list i).addr) ∈ c.live
  single : ∀ handle addr addr', (handle, addr) ∈ c.live → (handle, addr') ∈ c.live → addr = addr'

/--
What a careful caller does. It scans into an array only if no other device takes the place of an
opened entry, and it disconnects opened entries only.
-/
def Careful (c : Client) : Op → Prop
  | .scan _ _ bleListLen scanTime env =>
    env.Listens c.sock → ∀ i addr, c.opened i = true →
      ((addresses (namedReports (env.heard scanTime))).take bleListLen)[i]? = some addr →
      addr = (c.list i).addr
  | .connect _ _ => True
  | .disconnect i _ => c.opened i = true

theorem Inv.init {c : Client} (h : c.Init) : c.Inv where
  held i hi := by
    rw [h.2.2] at hi
    cases hi
  single handle addr addr' hmem := by
    rw [h.2.1] at hmem
    cases hmem

theorem mem_drop {live : List (UInt16 × BdAddr)} {handle h : UInt16} {addr : BdAddr} :
    (h, addr) ∈ (live.filter fun l => l.1 ≠ handle) ↔ (h, addr) ∈ live ∧ h ≠ handle := by
  rw [List.mem_filter, decide_eq_true_eq]

theorem setEntry_same {list : BleList} {i : Nat} : setEntry list i (list i) = list := by
  funext j
  unfold setEntry
  split
  · next hj => rw [hj]
  · rfl

/-- A scan leaves every handle, and the address of an opened entry. -/
theorem Inv.step_scan {c c' : Client} {self : HciPtr} {hci : HciDevice} {bleListLen : Nat}
    {scanTime : Int} {env : ScanEnv} (h : c.Inv)
    (hok : c.Careful (.scan self hci bleListLen scanTime env))
    (hs : c.step (.scan self hci bleListLen scanTime env) = .done c') : c'.Inv := by
  obtain ⟨res, hres, hs⟩ := Outcome.bind_eq_done.mp hs
  cases hs
  refine ⟨fun i hi => ?_, h.single⟩
  show ((res.bleList i).handle, (res.bleList i).addr) ∈ c.live
  rcases hciScanBle_list hres with ⟨-, hlist⟩ | ⟨hlisten, st, hholds, hlist⟩
  · rw [hlist]
    exact h.held i hi
  · rw [hlist, handle_of_holds hholds, addr_of_holds hholds]
    cases ha : ((addresses (namedReports (env.heard scanTime))).take bleListLen)[i]? with
    | none => exact h.held i hi
    | some addr =>
      rw [Option.getD_some, hok hlisten i addr hi ha]
      exact h.held i hi

/-- The array stays as it is where a call fails. -/
theorem Inv.of_failed {c c' : Client} {i : Nat} (h : c.Inv)
    (hlist : c'.list = setEntry c.list i (c.list i)) (hlive : c'.live = c.live)
    (hopened : c'.opened = c.opened) : c'.Inv := by
  rw [setEntry_same] at hlist
  refine ⟨fun j hj => ?_, ?_⟩
  · rw [hlist, hlive]
    rw [hopened] at hj
    exact h.held j hj
  · rw [hlive]
    exact h.single

/-- An entry that is connected becomes live, and the others with its handle are opened no more. -/
theorem Inv.step_connect {c c' : Client} {i : Nat} {env : CallEnv} (h : c.Inv)
    (hs : c.step (.connect i env) = .done c') : c'.Inv := by
  obtain ⟨res, hres, hs⟩ := Outcome.bind_eq_done.mp hs
  rcases bleConnect_result hres with ⟨hret, handle, hble⟩ | ⟨hret, hble⟩
  · rw [if_pos hret] at hs
    cases hs
    refine ⟨fun j hj => ?_, fun h₁ addr addr' hmem hmem' => ?_⟩
    · show ((setEntry c.list i res.ble j).handle, (setEntry c.list i res.ble j).addr) ∈
        (res.ble.handle, res.ble.addr) :: c.live.filter fun l => l.1 ≠ res.ble.handle
      by_cases hji : j = i
      · rw [setEntry, if_pos hji]
        exact List.mem_cons_self ..
      · simp only [setEntry, if_neg hji, Bool.and_eq_true, decide_eq_true_eq] at hj ⊢
        exact List.mem_cons_of_mem _ (mem_drop.mpr ⟨h.held j hj.1, hj.2⟩)
    · -- the pairs that stay have another handle
      simp only [List.mem_cons, Prod.mk.injEq, mem_drop] at hmem hmem'
      rcases hmem with ⟨heq, rfl⟩ | ⟨hmem, hne⟩ <;>
        rcases hmem' with ⟨heq', rfl⟩ | ⟨hmem', hne'⟩
      · rfl
      · exact absurd heq hne'
      · exact absurd heq' hne
      · exact h.single _ _ _ hmem hmem'
  · rw [if_neg (by rw [hret]; decide)] at hs
    cases hs
    exact h.of_failed (congrArg (setEntry c.list i) hble) rfl rfl

/-- Of the opened entries, those with the handle that ends are opened no more. -/
theorem Inv.step_disconnect {c c' : Client} {i : Nat} {env : CallEnv} (h : c.Inv)
    (hs : c.step (.disconnect i env) = .done c') : c'.Inv := by
  obtain ⟨res, hres, hs⟩ := Outcome.bind_eq_done.mp hs
  rcases bleDisconnect_result hres with ⟨hret, hble⟩ | ⟨hret, hble⟩
  · rw [if_pos hret] at hs
    cases hs
    refine ⟨fun j hj => ?_, fun h₁ addr addr' hmem hmem' => ?_⟩
    · -- the entry itself has the handle that ended, so an opened entry is another one
      simp only [Bool.and_eq_true, decide_eq_true_eq] at hj
      have hji : j ≠ i := fun he => hj.2 (by rw [he])
      show ((setEntry c.list i res.ble j).handle, (setEntry c.list i res.ble j).addr) ∈
        c.live.filter fun l => l.1 ≠ (c.list i).handle
      unfold setEntry
      rw [if_neg hji]
      exact mem_drop.mpr ⟨h.held j hj.1, hj.2⟩
    · exact h.single _ _ _ (mem_drop.mp hmem).1 (mem_drop.mp hmem').1
  · rw [if_neg hret] at hs
    cases hs
    exact h.of_failed (congrArg (setEntry c.list i) hble) rfl rfl

/-- **One step of a careful caller keeps the invariant.** -/
theorem Inv.step {c c' : Client} {op : Op} (h : c.Inv) (hok : c.Careful op)
    (hs : c.step op = .done c') : c'.Inv := by
  cases op with
  | scan self hci bleListLen scanTime env => exact h.step_scan hok hs
  | connect i env => exact h.step_connect hs
  | disconnect i env => exact h.step_disconnect hs

theorem disconnect_sent {c c' : Client} {i : Nat} {env : CallEnv}
    (h : c.step (.disconnect i env) = .done c') :
    c'.sock.sent = c.sock.sent ++ env.writes (disconnectCommand (c.list i).handle) := by
  obtain ⟨res, hres, h⟩ := Outcome.bind_eq_done.mp h
  have hsent := bleDisconnect_sent hres
  split at h <;> cases h <;> exact hsent

/-- A zero-initialised array, before anything happens. -/
def fresh : Client where
  list := fun _ => .zero
  sock := ⟨hciFilterClear, [], .ofCode 0⟩
  returned := []
  live := []
  opened := fun _ => false

end Client

end LinuxBle
