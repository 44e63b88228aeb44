import LinuxBle.Ble.Client
import LinuxBle.Ble.Device
import LinuxBle.Hci.Functions
import LinuxBle.Hci.Inquiry

/-!
# The programs in `example`

Each is modelled by the calls that its `main` makes and by the rows that it prints. `puts` and the
headings are left out.
-/

namespace LinuxBle

open Infra

/-! ## `hci_init.c` -/

/-- The calls on the structs of a process, one after the other. -/
def Devices.run (w : Devices) : List Devices.Op → Outcome Devices
  | [] => .done w
  | op :: ops => do
    let w ← w.step op
    w.run ops

/-- `main` of `hci_init.c`: initialise ten structs, close ten structs. -/
def hciInitCalls (envs : Nat → InitEnv) : List Devices.Op :=
  (List.range 10).map (fun i => .init i (envs i)) ++ (List.range 10).map fun i => .close i

/-! ## `scan_ble.c` -/

/-- `SCAN_LIST_LEN` and `SCAN_TIME`. -/
abbrev scanListLen : Nat := 20
abbrev scanListTime : Int := 5000

/-- A string in an array, as `%s` prints it. -/
def cString (s : List UInt8) : List UInt8 := s.takeWhile (· ≠ 0)

/-- `"| %s | %d | %s\n"`: the values of one row. -/
structure ScanRow where
  addrS : List Char
  rssi : Int
  name : List UInt8
  deriving DecidableEq

/-- The rows of `main` of `scan_ble.c` for a scan that came back; none after an error. -/
def scanBleRows (res : ScanResult) : List ScanRow :=
  if res.ret = -1 then []
  else
    (List.range res.ret.toNat).map fun i =>
      ⟨(res.bleList i).addrS, (res.bleList i).rssi.toInt, cString (res.bleList i).name⟩

/-- `main` of `scan_ble.c` after `hci_init`: the rows that it prints. -/
def scanBleMain (self : HciPtr) (hci : HciDevice) (env : ScanEnv) (s : Sock) :
    Outcome (List ScanRow) := do
  let res ← hciScanBle self hci (fun _ => .zero) scanListLen scanListTime env s
  pure (scanBleRows res)

/-! ## `test.c` -/

/-- `"Crimson_"` -/
def crimsonPrefix : List UInt8 := [0x43, 0x72, 0x69, 0x6D, 0x73, 0x6F, 0x6E, 0x5F]

/-- `strncmp(name, prefix, strlen(prefix)) == 0`, for a prefix without zero bytes. -/
def hasPrefix (name text : List UInt8) : Bool := text.isPrefixOf name

/-- The loop over the entries: every hit takes the place of the one before. -/
def pickCrimson (list : BleList) (n : Nat) : Option Nat :=
  (List.range n).foldl
    (fun ble i => if hasPrefix (list i).name crimsonPrefix then some i else ble) none

/-- The answers to the calls of `main` of `test.c`. -/
structure TestEnv where
  init : InitEnv
  scan : ScanEnv
  connect : CallEnv
  connList : ConnListEnv
  disconnect : CallEnv

/-- The variables of `main` of `test.c`, and the socket. -/
structure TestResult where
  hci : HciDevice
  bleList : BleList
  bleListLen : Int
  /-- the entry that was taken, and what `ble_connect` came to -/
  ble : Option (Nat × BleResult)
  sock : Sock

/-- `main` of `test.c` from `hci_scan_ble` to `ble_disconnect`. -/
def testMainOpened (self : HciPtr) (hci : HciDevice) (env : TestEnv) (s : Sock) (k : Proc) :
    Outcome (TestResult × Proc) := do
  let res ← hciScanBle self hci (fun _ => .zero) scanListLen scanListTime env.scan s
  if res.ret = -1 then pure (⟨hci, res.bleList, res.ret, none, res.sock⟩, k)
  else
    match pickCrimson res.bleList res.ret.toNat with
    | none => pure (⟨hci, res.bleList, res.ret, none, res.sock⟩, k)
    | some i => do
      -- what the calls below return is not looked at
      let conn ← bleConnect (res.bleList i) env.connect res.sock
      let list := Client.setEntry res.bleList i conn.ble
      let upd := hciUpdateConnList hci env.connList k
      let disc ← bleDisconnect (list i) env.disconnect conn.sock
      pure (⟨upd.hci, Client.setEntry list i disc.ble, res.ret, some (i, conn), disc.sock⟩,
        upd.proc)

/-- The answers to the calls of `main` of `scan_classic.c`; `names i` is for device `i`. -/
structure ClassicEnv where
  route : RouteEnv
  openDev : OpenEnv
  inquiry : InquiryEnv
  names : Nat → CallEnv

/-- `"%s - %s\n"`: the values of one row. -/
structure ClassicRow where
  addrS : List Char
  name : List UInt8
  deriving DecidableEq

/-- `"[unknown]"` -/
def unknownName : List UInt8 := [0x5B, 0x75, 0x6E, 0x6B, 0x6E, 0x6F, 0x77, 0x6E, 0x5D]

/-- What is printed for a name: `name` is an array of zeros before the call. -/
def classicName (res : Called (List UInt8)) : List UInt8 :=
  if res.ret ≠ 0 then unknownName else cString (res.out.getD (List.replicate 248 0))

/-- The loop over the devices, from device `i` on. -/
def classicRows (names : Nat → CallEnv) :
    Nat → List InquiryInfo → Sock → Outcome (List ClassicRow × Sock)
  | _, [], s => .done ([], s)
  | i, info :: infos, s => do
    let res ← hciReadRemoteName info.bdaddr 248 0 (names i) s
    let (rows, s) ← classicRows names (i + 1) infos res.sock
    pure (⟨ba2str info.bdaddr, classicName res⟩ :: rows, s)

/-- `main` of `scan_classic.c`: the rows that it prints, and the process. -/
def scanClassicMain (env : ClassicEnv) (s : Sock) (k : Proc) :
    Outcome (List ClassicRow × Proc) := do
  let (devId, k) := hciGetRoute none env.route k
  let (dd, k) := hciOpenDev devId env.openDev k
  if devId < 0 ∨ dd < 0 then pure ([], k)
  else
    let res ← hciInquiry devId 8 255 none none ireqCacheFlush env.inquiry k
    if res.ret < 0 then pure ([], res.proc)
    else
      let (rows, _) ← classicRows env.names 0 (res.ii.getD []) s
      pure (rows, hciCloseDev dd res.proc)

end LinuxBle
