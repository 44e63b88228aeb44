import LinuxBle.Hci.Requests
import LinuxBle.Ble.Eir

/-!
# `hci_scan_ble`

Set the filter, set the scan parameters (after a refusal, switch scanning off and try again),
start scanning, collect advertising reports until the time is up, stop scanning, and put the
filter back. The returns before the receive loop leave at once.
-/

namespace LinuxBle

open Infra

/-! ## One packet -/

/-- `strlen` of a zero-terminated array. -/
def strlen (s : List UInt8) : Nat := (s.takeWhile (· ≠ 0)).length

/-- Where the fields of `struct _pkt` lie. -/
abbrev advTypeOffset : Nat := 5
abbrev advAddrTypeOffset : Nat := 6
abbrev advAddrOffset : Nat := 7
abbrev advDataLenOffset : Nat := 13
abbrev advDataOffset : Nat := 14

/-- `pkt->adv_info[0].data_len` -/
def Packet.dataLen (p : Packet) : Nat := (p.buf advDataLenOffset).toNat

/-- `char name[30] = {}`, after `eir_parse_name`. -/
def Packet.name (p : Packet) : List UInt8 :=
  (eirParseName (fun i => p.buf (advDataOffset + i)) p.dataLen (List.replicate bleNameSize 0)
    (bleNameSize - 1)).2

/-- `pkt->adv_info[0].data[data_len]`, as an `int8_t`. -/
def Packet.rssi (p : Packet) : Int8 := (p.buf (advDataOffset + p.dataLen)).toInt8

/-- `ble_find_index_by_address`; `none` is `-1`. -/
def bleFindIndexByAddress (list : BleList) (listLen : Nat) (addr : BdAddr) : Option Nat :=
  (List.range listLen).find? fun i => bacmp (list i).addr addr = 0

/-- What one pass through the receive loop works on. -/
structure ScanState where
  counter : Nat
  bleList : BleList
  errno : Errno

/-- `copy values to ble instance`; `handle` is not among them. -/
def copyValues (self : HciPtr) (p : Packet) (ble : BleDevice) : BleDevice :=
  { ble with
    name := p.name
    rssi := p.rssi
    addrType := p.buf advAddrTypeOffset
    addr := p.bdaddr advAddrOffset
    addrS := ba2str (p.bdaddr advAddrOffset)
    hci := some self }

/-- The entry at `i` receives the values of packet `p`. -/
def BleList.record (list : BleList) (self : HciPtr) (p : Packet) (i : Nat) : BleList :=
  fun j => if j = i then copyValues self p (list i) else list j

/-- The loop body from the check of the packet type on. -/
def scanPacket (self : HciPtr) (bleListLen : Int) (st : ScanState) (p : Packet) : ScanState :=
  if p.buf 0 ≠ hciEventPkt then st
  else if p.buf 1 ≠ evtLeMetaEvent then st
  else if p.buf 3 ≠ evtLeAdvertisingReport then st
  else if strlen p.name = 0 then st
  else
    match bleFindIndexByAddress st.bleList st.counter (p.bdaddr advAddrOffset) with
    | some idx => { st with bleList := st.bleList.record self p idx }
    | none =>
      if (st.counter : Int) < bleListLen then
        { st with counter := st.counter + 1, bleList := st.bleList.record self p st.counter }
      else st  -- the array is full

/-! ## The receive loop -/

/-- What the receive loop leaves behind; `counter` is `-1` after an error. -/
structure ScanExit where
  counter : Int
  bleList : BleList
  errno : Errno

/-- One iteration of the receive loop. -/
def scanBody (self : HciPtr) (bleListLen start scanTime : Int) (st : ScanState) (t : Turn) :
    Step ScanState ScanExit :=
  if t.now - start > scanTime then .leave ⟨st.counter, st.bleList, st.errno⟩
  else
    match t.wait with
    | .timeout => .next st
    | .selectFail e => .leave ⟨-1, st.bleList, e⟩
    | .ready (.fail e) =>
      if e.isRetry then .next { st with errno := e } else .leave ⟨-1, st.bleList, e⟩
    | .ready (.got p) =>
      if p.size = 0 then .leave ⟨st.counter, st.bleList, st.errno⟩
      else .next (scanPacket self bleListLen st p)

/-! ## The whole call -/

/-- The kernel's answers to one call of `hci_scan_ble`. -/
structure ScanEnv where
  /-- the clock at entry -/
  start : Int
  setFilter : SysResult
  setParams : CallEnv
  /-- switching scanning off before the second attempt -/
  disable : CallEnv
  setParamsAgain : CallEnv
  enable : CallEnv
  turns : List Turn
  stop : CallEnv
  resetFilter : SysResult

/-- The filter of the scan: every LE meta event. -/
def scanFilter : HciFilter :=
  hciFilterSetEvent evtLeMetaEvent.toNat (hciFilterSetPtype hciEventPkt.toNat hciFilterClear)

/-- `hci_le_set_scan_parameters` with the constants of the scan. -/
def scanSetParams (env : CallEnv) (s : Sock) : Outcome CallResult :=
  hciLeSetScanParameters 0x01 0x0010 0x0010 lePublicAddress 0x00 10000 env s

/-- `hci_le_set_scan_enable` with the constants of the scan. -/
def scanEnable (enable : UInt8) (env : CallEnv) (s : Sock) : Outcome CallResult :=
  hciLeSetScanEnable enable 0x00 10000 env s

/-- `2. set scan params`, with the second attempt; `ret` is `0` when one of them succeeds. -/
def scanParams (env : ScanEnv) (s : Sock) : Outcome CallResult := do
  let first ← scanSetParams env.setParams s
  if first.ret ≠ 0 then
    if first.sock.errno ≠ .eio then pure ⟨-1, first.sock⟩
    else
      -- refused: the controller may be scanning already
      let off ← scanEnable 0x00 env.disable first.sock
      if off.ret ≠ 0 then pure ⟨-1, off.sock⟩
      else
        let again ← scanSetParams env.setParamsAgain off.sock
        if again.ret ≠ 0 then pure ⟨-1, again.sock⟩ else pure ⟨0, again.sock⟩
  else pure ⟨0, first.sock⟩

/-- `2. set scan params` and `3. start scanning`. -/
def scanSetup (env : ScanEnv) (s : Sock) : Outcome CallResult := do
  let params ← scanParams env s
  if params.ret ≠ 0 then pure ⟨-1, params.sock⟩
  else
    let on ← scanEnable 0x01 env.enable params.sock
    if on.ret ≠ 0 then pure ⟨-1, on.sock⟩ else pure ⟨0, on.sock⟩

/-- What `hci_scan_ble` returns, the array, and the socket. -/
structure ScanResult where
  ret : Int
  bleList : BleList
  sock : Sock

/-- `5. stop scanning` and `6. reset filter`. -/
def scanFinish (hci : HciDevice) (env : ScanEnv) (s : Sock) (x : ScanExit) :
    Outcome ScanResult := do
  let off ← scanEnable 0x00 env.stop (s.withErrno x.errno)
  pure ⟨x.counter, x.bleList, off.sock.setFilter hci.of env.resetFilter⟩

/-- `hci_scan_ble` on the device at `self`. -/
def hciScanBle (self : HciPtr) (hci : HciDevice) (bleList : BleList) (bleListLen scanTime : Int)
    (env : ScanEnv) (s : Sock) : Outcome ScanResult :=
  match env.setFilter with
  | some e => .done ⟨-1, bleList, s.withErrno e⟩
  | none => do
    let up ← scanSetup env (s.setFilter scanFilter none)
    -- the early returns leave the filter of the scan installed
    if up.ret ≠ 0 then pure ⟨-1, bleList, up.sock⟩
    else
      match loop (scanBody self bleListLen env.start scanTime)
          ⟨0, bleList, up.sock.errno⟩ env.turns with
      | .next _ => .blocked
      | .leave x => scanFinish hci env up.sock x

/-! ## What ends the receive loop -/

/-- The ways out of the receive loop. -/
inductive ScanEnd where
  | deadline
  | selectError (e : Errno)
  | readError (e : Errno)
  | endOfFile

/-- How one iteration ends the loop, if it does. -/
def scanTurnEnd (start scanTime : Int) (t : Turn) : Option ScanEnd :=
  if t.now - start > scanTime then some .deadline
  else
    match t.wait with
    | .timeout => none
    | .selectFail e => some (.selectError e)
    | .ready (.fail e) => if e.isRetry then none else some (.readError e)
    | .ready (.got p) => if p.size = 0 then some .endOfFile else none

/-- What an iteration that does not end the loop makes of the state. -/
def scanTurn (self : HciPtr) (bleListLen : Int) (st : ScanState) (t : Turn) : ScanState :=
  match t.wait with
  | .ready (.fail e) => { st with errno := e }
  | .ready (.got p) => scanPacket self bleListLen st p
  | _ => st

/-- What the loop leaves behind for each way out. -/
def scanExit (st : ScanState) : ScanEnd → ScanExit
  | .deadline | .endOfFile => ⟨st.counter, st.bleList, st.errno⟩
  | .selectError e | .readError e => ⟨-1, st.bleList, e⟩

theorem scanBody_eq (self : HciPtr) (bleListLen start scanTime : Int) (st : ScanState) (t : Turn) :
    scanBody self bleListLen start scanTime st t =
      match scanTurnEnd start scanTime t with
      | none => .next (scanTurn self bleListLen st t)
      | some e => .leave (scanExit st e) := by
  unfold scanBody scanTurnEnd scanTurn
  by_cases hlate : t.now - start > scanTime
  · simp only [if_pos hlate, scanExit]
  · simp only [if_neg hlate]
    cases t.wait with
    | timeout => rfl
    | selectFail e => rfl
    | ready rd =>
      cases rd with
      | fail e => cases he : e.isRetry <;> simp [he, scanExit]
      | got p => by_cases hp : p.size = 0 <;> simp [hp, scanExit]

theorem scanBody_of_scanTurnEnd_none {start scanTime : Int} {t : Turn}
    (h : scanTurnEnd start scanTime t = none) (self : HciPtr) (bleListLen : Int) (st : ScanState) :
    scanBody self bleListLen start scanTime st t = .next (scanTurn self bleListLen st t) := by
  rw [scanBody_eq, h]

theorem scanBody_of_scanTurnEnd_some {start scanTime : Int} {t : Turn} {e : ScanEnd}
    (h : scanTurnEnd start scanTime t = some e) (self : HciPtr) (bleListLen : Int)
    (st : ScanState) :
    scanBody self bleListLen start scanTime st t = .leave (scanExit st e) := by
  rw [scanBody_eq, h]

namespace ScanEnv

/-- The set-up of a scan succeeds, so that the receive loop runs. -/
def Listens (env : ScanEnv) (s : Sock) : Prop :=
  env.setFilter = none ∧
    ∃ up, scanSetup env (s.setFilter scanFilter none) = .done up ∧ up.ret = 0

/-- How the receive loop ends: the first iteration that ends it. -/
def scanEnd (env : ScanEnv) (scanTime : Int) : Option ScanEnd :=
  env.turns.findSome? (scanTurnEnd env.start scanTime)

/-- The iterations before the one that ends the loop. -/
def heard (env : ScanEnv) (scanTime : Int) : List Turn :=
  env.turns.takeWhile fun t => (scanTurnEnd env.start scanTime t).isNone

end ScanEnv

/-- The state of the loop when it ends. -/
def scanned (self : HciPtr) (bleList : BleList) (bleListLen scanTime : Int) (env : ScanEnv)
    (errno : Errno) : ScanState :=
  (env.heard scanTime).foldl (scanTurn self bleListLen) ⟨0, bleList, errno⟩

/--
**`hci_scan_ble` after the set-up.**

The first iteration that ends the loop decides what is returned.
-/
theorem hciScanBle_eq {self : HciPtr} {hci : HciDevice} {bleList : BleList}
    {bleListLen scanTime : Int} {env : ScanEnv} {s : Sock} {up : CallResult}
    (hset : env.setFilter = none) (hup : scanSetup env (s.setFilter scanFilter none) = .done up) :
    hciScanBle self hci bleList bleListLen scanTime env s =
      if up.ret ≠ 0 then .done ⟨-1, bleList, up.sock⟩
      else
        match env.scanEnd scanTime with
        | none => .blocked
        | some e =>
          scanFinish hci env up.sock
            (scanExit (scanned self bleList bleListLen scanTime env up.sock.errno) e) := by
  unfold hciScanBle
  simp only [hset, hup, Outcome.done_bind, Outcome.pure_eq]
  split
  · rfl
  · rw [loop_decided (fun st t h => scanBody_of_scanTurnEnd_none h self bleListLen st)
      (fun st t e h => scanBody_of_scanTurnEnd_some h self bleListLen st)]
    unfold ScanEnv.scanEnd scanned ScanEnv.heard
    cases env.turns.findSome? (scanTurnEnd env.start scanTime) <;> rfl

end LinuxBle
