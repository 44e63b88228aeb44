import LinuxBle.Hci.Devices
import LinuxBle.Infra.Runs
import LinuxBle.Ble.Basic

/-!
# `hci_init`, `hci_close` and `hci_update_conn_list`
-/

namespace LinuxBle

open Infra

/-- The answers to one call of `hci_init`. -/
structure InitEnv where
  route : RouteEnv
  openDev : OpenEnv
  info : DevInfoEnv
  readName : CallEnv
  /-- the filter that a new socket has -/
  newFilter : HciFilter
  getsockopt : SysResult

/-- What `hci_init` returns, the struct, the process, and the socket if there is a descriptor. -/
structure InitResult where
  ret : Int
  hci : HciDevice
  proc : Proc
  sock : Option Sock

/-- `hci_init` from step 2 on, with the descriptor opened. -/
def hciInitOpened (hci : HciDevice) (env : InitEnv) (k : Proc) : Outcome InitResult :=
  -- no return below closes the descriptor
  match hciDevinfo env.info k with
  | (ret, devInfo, k) =>
    let s : Sock := ⟨env.newFilter, [], k.errno⟩
    if ret ≠ 0 then .done ⟨-1, hci, k, some s⟩
    else do
      let name ← hciReadLocalName hciMaxNameLength hci.name 1000 env.readName s
      let k := k.withErrno name.sock.errno
      let hci := { hci with name := name.name }
      if name.ret ≠ 0 then pure ⟨-1, hci, k, some name.sock⟩
      else
        let hci := { hci with
          addr := devInfo.bdaddr, addrS := ba2str devInfo.bdaddr, of := hciFilterClear }
        match env.getsockopt with
        | some e => pure ⟨-1, hci, k.withErrno e, some (name.sock.withErrno e)⟩
        | none => pure ⟨0, { hci with of := name.sock.filter }, k, some name.sock⟩

/-- `hci_init` -/
def hciInit (hci : HciDevice) (env : InitEnv) (k : Proc) : Outcome InitResult :=
  match hciGetRoute none env.route k with
  | (devId, k) =>
    match hciOpenDev devId env.openDev k with
    | (dd, k) =>
      let hci := { hci with devId := devId, dd := dd }
      if devId < 0 ∨ dd < 0 then .done ⟨-1, hci, k, none⟩ else hciInitOpened hci env k

/-- `hci_close`, which returns `0`. -/
def hciClose (hci : HciDevice) (k : Proc) : HciDevice × Proc := (.zero, hciCloseDev hci.dd k)

/-- The answers to one call of `hci_update_conn_list`. -/
structure ConnListEnv where
  socket : SysResult
  /-- what `HCIGETCONNLIST` writes into `conn` -/
  getConnList : Except Errno (UInt16 × List HciConnInfo)

/-- What `hci_update_conn_list` returns, the struct, and the process. -/
structure ConnListResult where
  ret : Int
  hci : HciDevice
  proc : Proc

/-- `hci_update_conn_list` -/
def hciUpdateConnList (hci : HciDevice) (env : ConnListEnv) (k : Proc) : ConnListResult :=
  let conn := { hci.conn with devId := UInt16.ofInt hci.devId, num := hciMaxConn.toUInt16 }
  match k.socket env.socket with
  | (none, k) => ⟨-1, { hci with conn := conn }, k⟩
  | (some sock, k) =>
    match env.getConnList with
    | .error e => ⟨-1, { hci with conn := conn }, (k.withErrno e).close sock⟩
    | .ok (num, list) =>
      ⟨0, { hci with conn := { conn with num := num, list := list } }, k.close sock⟩

/-! ## Many structs -/

/-- The structs of a process, zero at first, and its descriptors. -/
structure Devices where
  hci : Nat → HciDevice
  proc : Proc
  /-- what the last call returned -/
  ret : Int
  /-- the descriptor that the last successful `hci_init` of a struct opened, while it is open -/
  owned : Nat → Option Nat

namespace Devices

/-- Zero-initialised structs, in a process that may have other descriptors. -/
def Init (w : Devices) : Prop := w.hci = (fun _ => .zero) ∧ w.owned = fun _ => none

inductive Op where
  | init (i : Nat) (env : InitEnv)
  | updateConnList (i : Nat) (env : ConnListEnv)
  | close (i : Nat)

/-- A function with another value at `i`. -/
def setAt {α : Type} (f : Nat → α) (i : Nat) (a : α) : Nat → α := fun j => if j = i then a else f j

def init (w : Devices) (i : Nat) (env : InitEnv) : Outcome Devices := do
  let res ← hciInit (w.hci i) env w.proc
  pure {
    hci := setAt w.hci i res.hci
    proc := res.proc
    ret := res.ret
    owned := if res.ret = 0 then setAt w.owned i (some res.hci.dd.toNat) else w.owned }

def updateConnList (w : Devices) (i : Nat) (env : ConnListEnv) : Devices :=
  let res := hciUpdateConnList (w.hci i) env w.proc
  { w with hci := setAt w.hci i res.hci, proc := res.proc, ret := res.ret }

/-- A descriptor that is closed belongs to no struct any more. -/
def close (w : Devices) (i : Nat) : Devices :=
  let (hci, proc) := hciClose (w.hci i) w.proc
  { hci := setAt w.hci i hci
    proc := proc
    ret := 0
    owned := fun j => (w.owned j).filter fun fd => fd ∈ proc.fds }

def step (w : Devices) : Op → Outcome Devices
  | .init i env => w.init i env
  | .updateConnList i env => .done (w.updateConnList i env)
  | .close i => .done (w.close i)

end Devices

end LinuxBle
