import LinuxBle.Properties.Handles

/-!
# The device that `ble_connect` asks for

An entry of the array carries the address and the address type of the report that was recorded
last in it. `ble_connect` uses the address, and a constant for the type.

* `Tracked.Inv.step` — the entries stay in step with the reports
* `Tracked.namesScanned_iff` — when the command names the device that was scanned
-/

namespace LinuxBle

open Infra

/-! ## The report of an entry -/

/-- The last of the reports `rs` that a scan records in entry `i`. -/
def recordedReport (cap : Nat) (rs : List Packet) (i : Nat) : Option Packet :=
  ((addresses rs).take cap)[i]?.bind (lastReport rs)

/-- The recorded reports are the rows of the table. -/
theorem recordedReport_eq (cap : Nat) (rs : List Packet) (i : Nat) :
    recordedReport cap rs i = (fill Packet.addr cap rs)[i]? := by
  unfold recordedReport addresses
  rw [← map_key_fill, List.getElem?_map]
  cases h : (fill Packet.addr cap rs)[i]? with
  | none => rfl
  | some p => exact find?_of_mem_fill rs p (List.mem_of_getElem? h)

section

variable {self : HciPtr} {old : BleList} {cap : Nat} {rs : List Packet} {st : ScanState}

/-- **An entry has the values of its report**, or none was recorded and it is as before. -/
theorem Holds.entry (h : Holds self old (fill Packet.addr cap rs) st) (i : Nat) :
    (recordedReport cap rs i = none ∧ st.bleList i = old i) ∨
      ∃ p, recordedReport cap rs i = some p ∧ st.bleList i = copyValues self p (old i) := by
  rw [recordedReport_eq]
  by_cases hi : i < (fill Packet.addr cap rs).length
  · exact Or.inr ⟨_, List.getElem?_eq_getElem hi, h.row i hi⟩
  · exact Or.inl ⟨List.getElem?_eq_none (by omega), h.rest i (by omega)⟩

end

/-! ## The command -/

/-- LE Create Connection, as `ble_connect` sends it. -/
def connectCommand (ble : BleDevice) : List UInt8 :=
  [0x01, 0x0D, 0x20, 0x19] ++ (bleConnectCp ble).bytes

/-- **The address in the command is the one in the entry.** -/
theorem bleConnect_sent {ble : BleDevice} {env : CallEnv} {s : Sock} {res : BleResult}
    (h : bleConnect ble env s = .done res) :
    res.sock.sent = s.sent ++ env.writes (connectCommand ble) := by
  unfold bleConnect at h
  split at h
  · cases h
  · obtain ⟨conn, hconn, h⟩ := Outcome.bind_eq_done.mp h
    obtain ⟨res', hd, hres⟩ := Outcome.bind_eq_done.mp hconn
    cases hres
    have hsent := (sendForStatus_sent hd).1
    unfold leCreateConnRequest at hsent
    rw [Wrapper.command_request _ _ (by simp [LeCreateConnCp.bytes, bytes16, BdAddr.bytes])]
      at hsent
    split at h <;> cases h <;> exact hsent

/-- The peer in an LE Create Connection is the device that the report is of. -/
def NamesDevice (cmd : List UInt8) (p : Packet) : Prop :=
  cmd[9]? = some (p.buf advAddrTypeOffset) ∧ (cmd.drop 10).take 6 = p.slice advAddrOffset 6

/-- Of an entry with the address of the report, only the type can be wrong. -/
theorem namesDevice_connectCommand_iff {ble : BleDevice} {p : Packet} (h : ble.addr = p.addr) :
    NamesDevice (connectCommand ble) p ↔ p.buf advAddrTypeOffset = lePublicAddress := by
  have hcmd : (connectCommand ble)[9]? = some lePublicAddress := rfl
  have haddr : ((connectCommand ble).drop 10).take 6 = ble.addr.bytes := rfl
  unfold NamesDevice
  rw [hcmd, haddr, h, Option.some.injEq]
  constructor
  · rintro ⟨htype, -⟩
    exact htype.symm
  · intro htype
    exact ⟨htype.symm, rfl⟩

/-! ## Whole runs -/

/-- A caller, and the report that was recorded last in each entry. -/
structure Tracked where
  client : Client
  report : Nat → Option Packet

instance (env : ScanEnv) (s : Sock) : Decidable (env.Listens s) :=
  match h : scanSetup env (s.setFilter scanFilter none) with
  | .done up =>
    decidable_of_iff (env.setFilter = none ∧ up.ret = 0)
      ⟨fun hl => ⟨hl.1, up, h, hl.2⟩, fun ⟨hset, up', hup, hret⟩ => by
        rw [h, Outcome.done.injEq] at hup
        exact ⟨hset, hup ▸ hret⟩⟩
  | .blocked => isFalse fun ⟨_, _, hup, _⟩ => by rw [h] at hup; cases hup
  | .fault => isFalse fun ⟨_, _, hup, _⟩ => by rw [h] at hup; cases hup

namespace Tracked

/-- No report so far; the array may hold anything. -/
def Init (w : Tracked) : Prop := w.report = fun _ => none

/-- The reports after a call: a scan that gets to listening records new ones. -/
def reports (w : Tracked) : Client.Op → Nat → Option Packet
  | .scan _ _ bleListLen scanTime env => fun i =>
    if env.Listens w.client.sock then
      (recordedReport bleListLen (namedReports (env.heard scanTime)) i).or (w.report i)
    else w.report i
  | _ => w.report

def step (w : Tracked) (op : Client.Op) : Outcome Tracked := do
  let c ← w.client.step op
  pure ⟨c, w.reports op⟩

/-- Every entry has the address and the address type of its report. -/
def Inv (w : Tracked) : Prop :=
  ∀ i, ∀ p ∈ w.report i, (w.client.list i).addr = p.addr ∧
    (w.client.list i).addrType = p.buf advAddrTypeOffset

/-- What `ble_connect` writes names the device of the report that was recorded last. -/
def NamesScanned (w : Tracked) : Client.Op → Tracked → Prop
  | .connect i _, w' => ∀ p ∈ w.report i, ∀ cmd,
      w'.client.sock.sent = w.client.sock.sent ++ [cmd] → NamesDevice cmd p
  | _, _ => True

section

variable {w w' : Tracked}

theorem Inv.init (h : w.Init) : w.Inv := by
  intro i p hp
  unfold Init at h
  rw [h] at hp
  cases hp

/-- A scan gives an entry the values of the report that it records there. -/
theorem Inv.step_scan {self : HciPtr} {hci : HciDevice} {bleListLen : Nat} {scanTime : Int}
    {env : ScanEnv} (h : w.Inv)
    (hs : w.step (.scan self hci bleListLen scanTime env) = .done w') : w'.Inv := by
  obtain ⟨c, hc, hs⟩ := Outcome.bind_eq_done.mp hs
  obtain ⟨res, hres, hc⟩ := Outcome.bind_eq_done.mp hc
  cases hs
  cases hc
  intro i p hp
  change p ∈ (if env.Listens w.client.sock then
    (recordedReport bleListLen (namedReports (env.heard scanTime)) i).or (w.report i)
    else w.report i) at hp
  show (res.bleList i).addr = _ ∧ (res.bleList i).addrType = _
  rcases hciScanBle_list hres with ⟨hdeaf, hlist⟩ | ⟨hlisten, st, hholds, hlist⟩
  · rw [if_neg hdeaf] at hp
    rw [hlist]
    exact h i p hp
  · rw [if_pos hlisten] at hp
    rw [hlist]
    rcases hholds.entry i with ⟨hnone, hentry⟩ | ⟨q, hq, hentry⟩
    · rw [hnone] at hp
      rw [hentry]
      exact h i p hp
    · rw [hq, Option.some_or, Option.mem_some_iff] at hp
      rw [hentry, hp]
      exact ⟨rfl, rfl⟩

/-- What a call on one entry returns has the address and the type of the entry. -/
theorem Inv.setEntry {i : Nat} {ble : BleDevice} (h : w.Inv)
    (haddr : ble.addr = (w.client.list i).addr)
    (htype : ble.addrType = (w.client.list i).addrType) {c : Client}
    (hlist : c.list = Client.setEntry w.client.list i ble) : Inv ⟨c, w.report⟩ := by
  intro j p hp
  show (c.list j).addr = _ ∧ (c.list j).addrType = _
  rw [hlist]
  unfold Client.setEntry
  by_cases hji : j = i
  · rw [if_pos hji, haddr, htype, ← hji]
    exact h j p hp
  · rw [if_neg hji]
    exact h j p hp

theorem Inv.step_connect {i : Nat} {env : CallEnv} (h : w.Inv)
    (hs : w.step (.connect i env) = .done w') : w'.Inv := by
  obtain ⟨c, hc, hs⟩ := Outcome.bind_eq_done.mp hs
  obtain ⟨res, hres, hc⟩ := Outcome.bind_eq_done.mp hc
  cases hs
  have hble : res.ble.addr = (w.client.list i).addr ∧
      res.ble.addrType = (w.client.list i).addrType := by
    rcases bleConnect_result hres with ⟨-, handle, hble⟩ | ⟨-, hble⟩ <;> rw [hble] <;>
      exact ⟨rfl, rfl⟩
  split at hc <;> cases hc <;> exact h.setEntry hble.1 hble.2 rfl

theorem Inv.step_disconnect {i : Nat} {env : CallEnv} (h : w.Inv)
    (hs : w.step (.disconnect i env) = .done w') : w'.Inv := by
  obtain ⟨c, hc, hs⟩ := Outcome.bind_eq_done.mp hs
  obtain ⟨res, hres, hc⟩ := Outcome.bind_eq_done.mp hc
  cases hs
  have hble : res.ble.addr = (w.client.list i).addr ∧
      res.ble.addrType = (w.client.list i).addrType := by
    rcases bleDisconnect_result hres with ⟨-, hble⟩ | ⟨-, hble⟩ <;> rw [hble] <;>
      exact ⟨rfl, rfl⟩
  split at hc <;> cases hc <;> exact h.setEntry hble.1 hble.2 rfl

/-- **Every call keeps the entries in step with their reports.** -/
theorem Inv.step {op : Client.Op} (h : w.Inv) (hs : w.step op = .done w') : w'.Inv := by
  cases op with
  | scan self hci bleListLen scanTime env => exact h.step_scan hs
  | connect i env => exact h.step_connect hs
  | disconnect i env => exact h.step_disconnect hs

theorem connect_sent {i : Nat} {env : CallEnv} (hs : w.step (.connect i env) = .done w') :
    w'.client.sock.sent =
      w.client.sock.sent ++ env.writes (connectCommand (w.client.list i)) := by
  obtain ⟨c, hc, hs⟩ := Outcome.bind_eq_done.mp hs
  obtain ⟨res, hres, hc⟩ := Outcome.bind_eq_done.mp hc
  have hsent := bleConnect_sent hres
  cases hs
  split at hc <;> cases hc <;> exact hsent

/--
**`ble_connect` asks for the scanned device exactly when the device has a public address.**

The entry knows the type (`Inv`), but nothing reads it.
-/
theorem namesScanned_iff {i : Nat} {env : CallEnv}
    (hreach : Reach Tracked.step (fun _ _ => True) Init w)
    (hs : w.step (.connect i env) = .done w') :
    w.NamesScanned (.connect i env) w' ↔
      (env.Sent → ∀ p ∈ w.report i, p.buf advAddrTypeOffset = lePublicAddress) := by
  have hinv : w.Inv := hreach.invariant (fun _ => Inv.init) fun _ _ _ h _ hs => h.step hs
  have hsent := connect_sent hs
  constructor
  · intro law hwritten p hp
    rw [ReqEnv.writes, if_pos hwritten] at hsent
    exact (namesDevice_connectCommand_iff (hinv i p hp).1).mp (law p hp _ hsent)
  · intro hpublic p hp cmd hcmd
    rw [hsent, List.append_cancel_left_eq] at hcmd
    unfold ReqEnv.writes at hcmd
    split at hcmd
    · next hwritten =>
      rw [List.cons.injEq] at hcmd
      rw [← hcmd.1]
      exact (namesDevice_connectCommand_iff (hinv i p hp).1).mpr (hpublic hwritten p hp)
    · cases hcmd

end

/-- A zero-initialised array, with no report. -/
def fresh : Tracked := ⟨Client.fresh, fun _ => none⟩

/-- Scan and connect the first entry, which has a public address. -/
theorem namesScanned_public :
    ∃ w w' : Tracked, w.step (.connect 0 (.answered otherConnected)) = .done w' ∧
      w.report 0 = some namedReport ∧
      w.NamesScanned (.connect 0 (.answered otherConnected)) w' := by
  obtain ⟨w, w', hscan, hconn, hreport⟩ : ∃ w w' : Tracked,
      fresh.step (.scan 0 .zero 5 1000 acceptedScan) = .done w ∧
        w.step (.connect 0 (.answered otherConnected)) = .done w' ∧
        w.report 0 = some namedReport := ⟨_, _, rfl, rfl, rfl⟩
  have hreach : Reach Tracked.step (fun _ _ => True) Init w :=
    .step (.start (s := fresh) rfl) trivial hscan
  refine ⟨w, w', hconn, hreport, (namesScanned_iff hreach hconn).mpr fun _ p hp => ?_⟩
  rw [hreport, Option.mem_some_iff] at hp
  rw [← hp]
  rfl

/-- The same report, of a device with a random address. -/
def randomReport : Packet :=
  .ofBytes [0x04, 0x3E, 0x10, 0x02, 0x01, 0x00, 0x01, 0x01, 0x02, 0x03, 0x04, 0x05, 0x06,
    0x04, 0x03, 0x09, 0x41, 0x42, 0xC8] (by decide)

/-- The command asks for a device with a public address. -/
theorem not_namesScanned : ¬EveryStep Tracked.step (fun _ _ => True) Init NamesScanned := by
  intro hall
  obtain ⟨w, w', hscan, hconn, hreport, hsent⟩ : ∃ w w' : Tracked,
      fresh.step (.scan 0 .zero 5 1000
        { acceptedScan with turns := [⟨0, .ready (.got randomReport)⟩, ⟨2000, .timeout⟩] }) =
          .done w ∧
        w.step (.connect 0 (.answered otherConnected)) = .done w' ∧
        w.report 0 = some randomReport ∧
        w'.client.sock.sent =
          w.client.sock.sent ++ [connectCommand (scannedDevice randomReport.addr)] :=
    ⟨_, _, rfl, rfl, rfl, rfl⟩
  have hreach : Reach Tracked.step (fun _ _ => True) Init w :=
    .step (.start (s := fresh) rfl) trivial hscan
  have hnames := hall w (.connect 0 (.answered otherConnected)) w' hreach trivial hconn
    randomReport (by rw [hreport]; rfl) _ hsent
  exact absurd ((namesDevice_connectCommand_iff rfl).mp hnames) (by decide)

end Tracked

end LinuxBle
