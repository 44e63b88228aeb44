import LinuxBle.Infra.Table
import LinuxBle.Ble.Scan
import LinuxBle.Properties.SendReq

/-!
# The devices that a scan collects

The first `counter` entries of the array are a bounded table in the sense of `Infra.fill`: its
rows are the named advertising reports, its keys their addresses.

* `Holds.scanPacket` — one report puts one row into the table
* `hciScanBle_table` — what the array holds after a whole scan
-/

namespace LinuxBle

open Infra

/-! ## Reports -/

/-- `pkt->adv_info[0].addr` -/
def Packet.addr (p : Packet) : BdAddr := p.bdaddr advAddrOffset

/-- An advertising report whose data has a name that is not empty. -/
def Packet.Named (p : Packet) : Prop :=
  p.buf 0 = hciEventPkt ∧ p.buf 1 = evtLeMetaEvent ∧ p.buf 3 = evtLeAdvertisingReport ∧
    strlen p.name ≠ 0

instance : DecidablePred Packet.Named := fun p => by
  unfold Packet.Named
  infer_instance

/-- The packet that an iteration receives. -/
def Turn.packet? (t : Turn) : Option Packet :=
  match t.wait with
  | .ready (.got p) => some p
  | _ => none

/-- The named reports among the packets received. -/
def namedReports (ts : List Turn) : List Packet :=
  (ts.filterMap Turn.packet?).filter fun p => p.Named

/-- The addresses of some reports, each once, in the order of their first appearance. -/
def addresses (rs : List Packet) : List BdAddr := (rs.map Packet.addr).eraseDups

/-- The last report with an address. -/
def lastReport (rs : List Packet) (addr : BdAddr) : Option Packet :=
  rs.reverse.find? fun p => p.addr = addr

variable {self : HciPtr} {old : BleList} {cap : Nat} {t : List Packet} {st : ScanState}
  {p : Packet}

theorem scanPacket_of_not_named {bleListLen : Int} (h : ¬p.Named) :
    scanPacket self bleListLen st p = st := by
  unfold Packet.Named at h
  unfold scanPacket
  by_cases h0 : p.buf 0 = hciEventPkt
  · by_cases h1 : p.buf 1 = evtLeMetaEvent
    · by_cases h3 : p.buf 3 = evtLeAdvertisingReport
      · have hn : strlen p.name = 0 := by
          by_cases hn : strlen p.name = 0
          · exact hn
          · exact absurd ⟨h0, h1, h3, hn⟩ h
        rw [if_neg (fun hne => hne h0), if_neg (fun hne => hne h1), if_neg (fun hne => hne h3),
          if_pos hn]
      · rw [if_neg (fun hne => hne h0), if_neg (fun hne => hne h1), if_pos h3]
    · rw [if_neg (fun hne => hne h0), if_pos h1]
  · rw [if_pos h0]

theorem scanPacket_of_named {bleListLen : Int} (h : p.Named) :
    scanPacket self bleListLen st p =
      match bleFindIndexByAddress st.bleList st.counter p.addr with
      | some idx => { st with bleList := st.bleList.record self p idx }
      | none =>
        if st.counter < bleListLen then
          { st with counter := st.counter + 1, bleList := st.bleList.record self p st.counter }
        else st := by
  obtain ⟨h0, h1, h3, hn⟩ := h
  unfold scanPacket
  rw [if_neg (fun hne => hne h0), if_neg (fun hne => hne h1), if_neg (fun hne => hne h3)]
  exact if_neg hn

/-! ## The array as a table -/

/-- The array holds the rows of `t`, and behind them what it held before the scan. -/
structure Holds (hci : HciPtr) (old : BleList) (t : List Packet) (st : ScanState) : Prop where
  counter : st.counter = t.length
  row : ∀ i (h : i < t.length), st.bleList i = copyValues hci t[i] (old i)
  rest : ∀ i, t.length ≤ i → st.bleList i = old i

theorem copyValues_copyValues (p q : Packet) (ble : BleDevice) :
    copyValues self p (copyValues self q ble) = copyValues self p ble := rfl

/-- The search in the filled part of the array is the search in the table. -/
theorem Holds.find (h : Holds self old t st) (addr : BdAddr) :
    bleFindIndexByAddress st.bleList st.counter addr =
      t.findIdx? fun e => decide (e.addr = addr) := by
  have hkey : ∀ i (hi : i < t.length),
      decide (bacmp (st.bleList i).addr addr = 0) = decide (t[i].addr = addr) := fun i hi => by
    rw [h.row i hi]
    exact decide_eq_decide.mpr bacmp_eq_zero_iff
  unfold bleFindIndexByAddress
  rw [h.counter]
  apply Option.ext
  intro i
  rw [List.find?_range_eq_some, List.findIdx?_eq_some_iff_getElem]
  constructor
  · rintro ⟨hi, hmem, hlt⟩
    rw [List.mem_range] at hmem
    refine ⟨hmem, by rw [← hkey i hmem]; exact hi, fun j hj => ?_⟩
    rw [← hkey j (by omega)]
    simpa using hlt j hj
  · rintro ⟨hi, haddr, hlt⟩
    refine ⟨by rw [hkey i hi]; exact haddr, List.mem_range.mpr hi, fun j hj => ?_⟩
    rw [hkey j (by omega)]
    simpa using hlt j hj

/-- Recording a report in a slot of the table replaces its row. -/
theorem Holds.set (h : Holds self old t st) {i : Nat} (hi : i < t.length) :
    Holds self old (t.set i p) { st with bleList := st.bleList.record self p i } where
  counter := by rw [List.length_set]; exact h.counter
  row j hj := by
    rw [List.length_set] at hj
    show st.bleList.record self p i j = _
    unfold BleList.record
    by_cases hji : j = i
    · subst hji
      rw [if_pos rfl, h.row j hi, copyValues_copyValues, List.getElem_set_self]
    · rw [if_neg hji, h.row j hj, List.getElem_set_ne (fun he => hji he.symm)]
  rest j hj := by
    rw [List.length_set] at hj
    show st.bleList.record self p i j = _
    unfold BleList.record
    rw [if_neg (by omega), h.rest j hj]

/-- Recording a report in the first free slot adds a row. -/
theorem Holds.append (h : Holds self old t st) :
    Holds self old (t ++ [p])
      { st with counter := st.counter + 1, bleList := st.bleList.record self p st.counter } where
  counter := by rw [List.length_append, h.counter, List.length_singleton]
  row j hj := by
    rw [List.length_append, List.length_singleton] at hj
    show st.bleList.record self p st.counter j = _
    unfold BleList.record
    rw [h.counter]
    by_cases hjt : j = t.length
    · subst hjt
      rw [if_pos rfl, h.rest _ (Nat.le_refl _), List.getElem_concat_length rfl]
    · rw [if_neg hjt, h.row j (by omega), List.getElem_append_left]
  rest j hj := by
    rw [List.length_append, List.length_singleton] at hj
    show st.bleList.record self p st.counter j = _
    unfold BleList.record
    rw [h.counter, if_neg (by omega), h.rest j (by omega)]

/-- **One report puts one row into the table.** -/
theorem Holds.scanPacket (h : Holds self old t st) (hp : p.Named) :
    Holds self old (insertRow Packet.addr cap t p) (scanPacket self cap st p) := by
  rw [scanPacket_of_named hp, h.find]
  unfold insertRow
  cases hf : t.findIdx? (fun e => decide (e.addr = p.addr)) with
  | some i =>
    -- a known address: its row is replaced, also when the array is full
    obtain ⟨hi, -⟩ := findIdx?_key_eq_some hf
    exact h.set hi
  | none =>
    simp only [h.counter, Int.ofNat_lt]
    split
    · rw [← h.counter]
      exact h.append
    · exact h

/-! ## A whole scan -/

theorem namedReports_cons (u : Turn) (us : List Turn) :
    namedReports (u :: us) = namedReports [u] ++ namedReports us := by
  unfold namedReports
  rw [← List.filter_append, ← List.filterMap_append, List.singleton_append]

/-- **Every iteration puts its named report, if any, into the table.** -/
theorem Holds.scanTurn (h : Holds self old t st) (u : Turn) :
    Holds self old ((namedReports [u]).foldl (insertRow Packet.addr cap) t)
      (scanTurn self cap st u) := by
  unfold namedReports LinuxBle.scanTurn Turn.packet?
  cases hw : u.wait with
  | timeout => simpa [hw] using h
  | selectFail e => simpa [hw] using h
  | ready rd =>
    cases rd with
    | fail e => simpa [hw] using ⟨h.counter, h.row, h.rest⟩
    | got p =>
      by_cases hp : p.Named
      · simpa [hw, hp] using h.scanPacket hp
      · simpa [hw, hp, scanPacket_of_not_named hp] using h

theorem Holds.foldl_scanTurn : ∀ (us : List Turn) {t : List Packet} {st : ScanState},
    Holds self old t st →
    Holds self old ((namedReports us).foldl (insertRow Packet.addr cap) t)
      (us.foldl (LinuxBle.scanTurn self cap) st)
  | [], _, _, h => h
  | u :: us, t, st, h => by
    rw [namedReports_cons, List.foldl_append, List.foldl_cons]
    exact Holds.foldl_scanTurn us (h.scanTurn u)

/-- Before the first report the table is empty. -/
theorem Holds.start (old : BleList) (errno : Errno) : Holds self old [] ⟨0, old, errno⟩ where
  counter := rfl
  row i hi := absurd hi (Nat.not_lt_zero i)
  rest _ _ := rfl

/-- When the receive loop ends, the array holds the table of the named reports. -/
theorem scanned_holds (self : HciPtr) (old : BleList) (cap : Nat) (scanTime : Int) (env : ScanEnv)
    (errno : Errno) :
    Holds self old (fill Packet.addr cap (namedReports (env.heard scanTime)))
      (scanned self old cap scanTime env errno) :=
  (Holds.start old errno).foldl_scanTurn (env.heard scanTime)

/--
What a scan returns and leaves in the array, for the reports `rs`: as many of their addresses as
fit, in the order of their first appearance, each with the values of its last report.
-/
structure TableLaw (hci : HciPtr) (cap : Nat) (rs : List Packet) (old new : BleList) (n : Int) :
    Prop where
  count : n = min cap (addresses rs).length
  addr : ∀ i : Nat, i < n → (addresses rs)[i]? = some (new i).addr
  latest : ∀ i : Nat, i < n → ∃ p, lastReport rs (new i).addr = some p ∧
    new i = { old i with
      name := p.name
      rssi := p.rssi
      addr := p.addr
      addrType := p.buf advAddrTypeOffset
      addrS := ba2str p.addr
      hci := some hci }
  rest : ∀ i : Nat, n ≤ i → new i = old i

/-- An array that holds the table of some reports obeys the law. -/
theorem Holds.tableLaw {rs : List Packet} (h : Holds self old (fill Packet.addr cap rs) st) :
    TableLaw self cap rs old st.bleList st.counter := by
  have hcount : st.counter = min cap (addresses rs).length := by
    rw [h.counter, length_fill]
    rfl
  refine ⟨by rw [hcount], fun i hi => ?_, fun i hi => ?_, fun i hi => ?_⟩
  · rw [h.counter, Int.ofNat_lt] at hi
    have hkeys : ((addresses rs).take cap)[i]? = some (fill Packet.addr cap rs)[i].addr := by
      unfold addresses
      rw [← map_key_fill, List.getElem?_map, List.getElem?_eq_getElem hi]
      rfl
    rw [List.getElem?_take] at hkeys
    rw [h.row i hi]
    split at hkeys
    · exact hkeys
    · cases hkeys
  · rw [h.counter, Int.ofNat_lt] at hi
    have hlast := find?_of_mem_fill rs (fill Packet.addr cap rs)[i] (List.getElem_mem hi)
    rw [h.row i hi]
    exact ⟨_, hlast, rfl⟩
  · rw [h.counter, Int.ofNat_le] at hi
    exact h.rest i hi

/-- The command that stops the scan comes back, with whatever result. -/
def ScanEnv.Stops (env : ScanEnv) : Prop := ∀ s, ∃ off, scanEnable 0x00 env.stop s = .done off

/-- LE Set Scan Enable comes back when `hci_send_req` does. -/
theorem scanEnable_of_done {enable : UInt8} {env : CallEnv} {s : Sock} {res : ReqResult}
    (h : hciSendReq
      (Wrapper.leSetScanEnable.request (leSetScanEnableCp enable 0x00) (env.uninit 1)) 10000
      env.toReqEnv s = .done res) : ∃ off, scanEnable enable env s = .done off := by
  obtain ⟨res', hres'⟩ := sendForStatus_of_done h
  unfold scanEnable hciLeSetScanEnable
  simp only [hres', Outcome.done_bind]
  exact ⟨_, rfl⟩

/-- It comes back when its deadline passes, if not before. -/
theorem ScanEnv.stops_of_deadline {env : ScanEnv} {u : Turn} (hsend : env.stop.send ≠ none)
    (hhead : env.stop.Headed) (hu : u ∈ env.stop.turns)
    (hlate : u.now - env.stop.start > 10000) : env.Stops := by
  intro s
  have hrlen : 0 ≤ (Wrapper.leSetScanEnable.request (leSetScanEnableCp 0x00 0x00)
      (env.stop.uninit 1)).rlen := Wrapper.leSetScanEnable.rlen_nonneg
  obtain ⟨res, hres⟩ := hciSendReq_returns (s := s) hrlen hsend hhead hu hlate
  exact scanEnable_of_done hres

/-- The receive loop ends by the deadline or by end of file. -/
def ScanEnv.EndsWell (env : ScanEnv) (scanTime : Int) : Prop :=
  env.scanEnd scanTime = some .deadline ∨ env.scanEnd scanTime = some .endOfFile

theorem scanFinish_eq_done {hci : HciDevice} {env : ScanEnv} {s : Sock} {x : ScanExit}
    {res : ScanResult} (h : scanFinish hci env s x = .done res) :
    res.ret = x.counter ∧ res.bleList = x.bleList ∧
      ∃ off, scanEnable 0x00 env.stop (s.withErrno x.errno) = .done off ∧
        res.sock = off.sock.setFilter hci.of env.resetFilter := by
  obtain ⟨off, hoff, h⟩ := Outcome.bind_eq_done.mp h
  cases h
  exact ⟨rfl, rfl, off, hoff, rfl⟩

/--
**The table that a scan returns.**

Neither what the array held before nor anything but the named reports has a say in it.
-/
theorem hciScanBle_table (self : HciPtr) (hci : HciDevice) (bleList : BleList) (cap : Nat)
    (scanTime : Int) (env : ScanEnv) (s : Sock) (up : CallResult) (hset : env.setFilter = none)
    (hup : scanSetup env (s.setFilter scanFilter none) = .done up) (hret : up.ret = 0)
    (hend : env.EndsWell scanTime) :
    (env.Stops → ∃ res, hciScanBle self hci bleList cap scanTime env s = .done res) ∧
      (env.stop.send ≠ none → env.stop.Headed →
        (∃ u ∈ env.stop.turns, u.now - env.stop.start > 10000) → env.Stops) ∧
      ∀ res, hciScanBle self hci bleList cap scanTime env s = .done res →
        TableLaw self cap (namedReports (env.heard scanTime)) bleList res.bleList res.ret := by
  have hlaw := (scanned_holds self bleList cap scanTime env up.sock.errno).tableLaw
  -- both ways out keep the counter and the array
  obtain ⟨e, he, hcounter, hlist⟩ : ∃ e, env.scanEnd scanTime = some e ∧
      (∀ st, (scanExit st e).counter = st.counter) ∧
      ∀ st, (scanExit st e).bleList = st.bleList := by
    rcases hend with he | he
    · exact ⟨_, he, fun _ => rfl, fun _ => rfl⟩
    · exact ⟨_, he, fun _ => rfl, fun _ => rfl⟩
  rw [hciScanBle_eq hset hup, if_neg (fun h => h hret), he]
  refine ⟨?_, fun hsend hhead ⟨_, hu, hlate⟩ =>
    ScanEnv.stops_of_deadline hsend hhead hu hlate, ?_⟩
  · intro hstop
    obtain ⟨off, hoff⟩ := hstop (up.sock.withErrno
      (scanExit (scanned self bleList cap scanTime env up.sock.errno) e).errno)
    simp only [scanFinish, hoff, Outcome.done_bind, Outcome.pure_eq]
    exact ⟨_, rfl⟩
  · intro res hres
    obtain ⟨hr, hl, -⟩ := scanFinish_eq_done hres
    rw [hr, hl, hcounter, hlist]
    exact hlaw

/-- Command Complete for LE Set Scan Parameters, with a status. -/
def scanParamsReply (status : UInt8) : Packet :=
  .ofBytes [0x04, 0x0E, 0x04, 0x01, 0x0B, 0x20, status] (by simp [hciMaxEventSize])

/-- Command Complete for LE Set Scan Enable, with a status. -/
def scanEnableReply (status : UInt8) : Packet :=
  .ofBytes [0x04, 0x0E, 0x04, 0x01, 0x0C, 0x20, status] (by simp [hciMaxEventSize])

/-- An advertising report of `06:05:04:03:02:01` with the name `AB`. -/
def namedReport : Packet :=
  .ofBytes [0x04, 0x3E, 0x10, 0x02, 0x01, 0x00, 0x00, 0x01, 0x02, 0x03, 0x04, 0x05, 0x06,
    0x04, 0x03, 0x09, 0x41, 0x42, 0xC8] (by decide)

/-- Every command is accepted, and the report arrives twice before the time is up. -/
def acceptedScan : ScanEnv where
  start := 0
  setFilter := none
  setParams := .answered (scanParamsReply 0)
  disable := .answered (scanEnableReply 0)
  setParamsAgain := .answered (scanParamsReply 0)
  enable := .answered (scanEnableReply 0)
  turns := [⟨0, .ready (.got namedReport)⟩, ⟨500, .ready (.got namedReport)⟩, ⟨2000, .timeout⟩]
  stop := .answered (scanEnableReply 0)
  resetFilter := none

theorem hciScanBle_table_acceptedScan :
    ∃ res, hciScanBle 0 .zero (fun _ => .zero) (5 : Nat) 1000 acceptedScan
        ⟨hciFilterClear, [], .ofCode 0⟩ = .done res ∧
      TableLaw 0 5 (namedReports (acceptedScan.heard 1000)) (fun _ => .zero) res.bleList
        res.ret := by
  obtain ⟨hreturns, -, htable⟩ := hciScanBle_table 0 .zero (fun _ => .zero) 5 1000 acceptedScan
    ⟨hciFilterClear, [], .ofCode 0⟩ _ rfl rfl rfl (Or.inl rfl)
  obtain ⟨res, hres⟩ := hreturns fun _ => ⟨_, rfl⟩
  exact ⟨res, hres, htable res hres⟩

end LinuxBle
