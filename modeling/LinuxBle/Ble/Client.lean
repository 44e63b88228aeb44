import LinuxBle.Infra.Runs
import LinuxBle.Ble.Connect
import LinuxBle.Ble.Scan

/-!
# A caller of the library

A caller has one array of entries, zero at first. It scans into the array, connects entries and
disconnects them, in any order. `returned`, `live` and `opened` record what a bystander sees; the
library keeps none of them.
-/

namespace LinuxBle

open Infra

/-- The array and the socket of the caller. -/
structure Client where
  list : BleList
  sock : Sock
  /-- what the calls returned, in their order -/
  returned : List Int
  /-- the handles that `ble_connect` obtained, each with the address of the entry, without those
  that `ble_disconnect` ended since, or that a later `ble_connect` obtained again -/
  live : List (UInt16 × BdAddr)
  /-- the entries whose last successful `ble_connect` obtained a handle that was neither ended nor
  obtained again since -/
  opened : Nat → Bool

namespace Client

/-- A zero-initialised array, and no connection. -/
def Init (c : Client) : Prop :=
  c.list = (fun _ => .zero) ∧ c.live = [] ∧ c.opened = fun _ => false

inductive Op where
  | scan (self : HciPtr) (hci : HciDevice) (bleListLen : Nat) (scanTime : Int) (env : ScanEnv)
  | connect (i : Nat) (env : CallEnv)
  | disconnect (i : Nat) (env : CallEnv)

/-- The array with another entry at `i`. -/
def setEntry (list : BleList) (i : Nat) (ble : BleDevice) : BleList :=
  fun j => if j = i then ble else list j

def scan (c : Client) (self : HciPtr) (hci : HciDevice) (bleListLen : Nat) (scanTime : Int)
    (env : ScanEnv) : Outcome Client := do
  let res ← hciScanBle self hci c.list bleListLen scanTime env c.sock
  pure { c with list := res.bleList, sock := res.sock, returned := c.returned ++ [res.ret] }

def connect (c : Client) (i : Nat) (env : CallEnv) : Outcome Client := do
  let res ← bleConnect (c.list i) env c.sock
  let handle := res.ble.handle
  let c := { c with
    list := setEntry c.list i res.ble
    sock := res.sock
    returned := c.returned ++ [res.ret] }
  if res.ret = 0 then
    -- a controller gives a handle to one connection at a time, so the older ones are gone
    pure { c with
      live := (handle, res.ble.addr) :: c.live.filter fun l => l.1 ≠ handle
      opened := fun j => if j = i then true else c.opened j && (c.list j).handle ≠ handle }
  else pure c

def disconnect (c : Client) (i : Nat) (env : CallEnv) : Outcome Client := do
  let handle := (c.list i).handle
  let res ← bleDisconnect (c.list i) env c.sock
  if res.ret = 0 then
    pure {
      list := setEntry c.list i res.ble
      sock := res.sock
      returned := c.returned ++ [res.ret]
      live := c.live.filter fun l => l.1 ≠ handle
      opened := fun j => c.opened j && (c.list j).handle ≠ handle }
  else pure { c with
    list := setEntry c.list i res.ble
    sock := res.sock
    returned := c.returned ++ [res.ret] }

def step (c : Client) : Op → Outcome Client
  | .scan self hci bleListLen scanTime env => c.scan self hci bleListLen scanTime env
  | .connect i env => c.connect i env
  | .disconnect i env => c.disconnect i env

end Client

end LinuxBle
