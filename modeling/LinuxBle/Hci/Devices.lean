import Mathlib.Data.Finset.Card
import LinuxBle.Hci.Requests

/-!
# Descriptors, and the functions that open and close them

`socket` takes the lowest number that is free, as the kernel does. Every function here that opens
a descriptor for its own use closes it again on each of its paths; `hci_open_dev` keeps the one it
returns.
-/

namespace LinuxBle

open Infra

/-! ## The process -/

/-- The open descriptors of the process, and `errno`. -/
structure Proc where
  fds : Finset Nat
  errno : Errno

/-- The lowest number that is not in use. -/
def leastFree (fds : Finset Nat) : Nat :=
  ((List.range (fds.card + 1)).find? fun fd => fd ∉ fds).getD 0

theorem leastFree_notMem (fds : Finset Nat) : leastFree fds ∉ fds := by
  unfold leastFree
  cases h : (List.range (fds.card + 1)).find? fun fd => decide (fd ∉ fds) with
  | some fd => simpa using List.find?_some h
  | none =>
    -- otherwise `card + 1` numbers would be in use
    have hsub : Finset.range (fds.card + 1) ⊆ fds := fun fd hfd => by
      have := List.find?_eq_none.mp h fd (List.mem_range.mpr (Finset.mem_range.mp hfd))
      simpa using this
    have hcard := Finset.card_le_card hsub
    rw [Finset.card_range] at hcard
    omega

namespace Proc

def withErrno (k : Proc) (e : Errno) : Proc := { k with errno := e }

/-- `socket(AF_BLUETOOTH, SOCK_RAW | SOCK_CLOEXEC, BTPROTO_HCI)`; `none` is `-1`. -/
def socket (k : Proc) : SysResult → Option Nat × Proc
  | none => (some (leastFree k.fds), { k with fds := insert (leastFree k.fds) k.fds })
  | some e => (none, k.withErrno e)

/-- `close(fd)`; a number that is not open is left alone, with `EBADF`. -/
def close (k : Proc) (fd : Int) : Proc :=
  if 0 ≤ fd ∧ fd.toNat ∈ k.fds then { k with fds := k.fds.erase fd.toNat }
  else k.withErrno (.ebadf)

theorem close_fds_natCast (k : Proc) (fd : Nat) : (k.close fd).fds = k.fds.erase fd := by
  unfold close
  by_cases h : fd ∈ k.fds
  · rw [if_pos ⟨by omega, h⟩]
    rfl
  · rw [if_neg (fun h' => h h'.2), Finset.erase_eq_of_notMem h]
    rfl

theorem close_fds_of_notMem {k : Proc} {fd : Int} (h : 0 ≤ fd → fd.toNat ∉ k.fds) :
    (k.close fd).fds = k.fds := by
  unfold close
  rw [if_neg (fun h' => h h'.1 h'.2)]
  rfl

/-- **Opening a descriptor and closing it again changes nothing.** -/
theorem close_leastFree_fds {k k' : Proc} (h : k'.fds = insert (leastFree k.fds) k.fds) :
    (k'.close (leastFree k.fds)).fds = k.fds := by
  rw [close_fds_natCast, h, Finset.erase_insert (leastFree_notMem k.fds)]

end Proc

/-! ## Listing the devices -/

abbrev hciUp : Nat := 0
abbrev hciRaw : Nat := 8

/-- The fields of `struct hci_dev_info` that are read. -/
structure HciDevInfo where
  bdaddr : BdAddr
  flags : BitVec 32

/-- An entry of the device list, and what `HCIGETDEVINFO` says about the device. -/
structure DevReq where
  devId : UInt16
  devOpt : BitVec 32
  info : Except Errno HciDevInfo

/-- The answers to one call of `hci_for_each_dev`. -/
structure DevListEnv where
  socket : SysResult
  malloc : SysResult
  list : Except Errno (List DevReq)

/-- `__other_bdaddr` -/
def otherBdaddr (arg : BdAddr) (dr : DevReq) : Bool :=
  match dr.info with
  | .error _ => false
  | .ok di => !hciTestBit hciRaw di.flags && bacmp arg di.bdaddr ≠ 0

/-- `__same_bdaddr` -/
def sameBdaddr (arg : BdAddr) (dr : DevReq) : Bool :=
  match dr.info with
  | .error _ => false
  | .ok di => bacmp arg di.bdaddr = 0

/-- The loop over the devices: the first one with the flag that `func` accepts, or `-1`. -/
def findDev (flag : Nat) (func : DevReq → Bool) (devs : List DevReq) : Int :=
  match devs.find? fun dr => hciTestBit flag dr.devOpt && func dr with
  | some dr => dr.devId.toNat
  | none => -1

/-- `hci_for_each_dev`; it ends with `errno = err`, where `0` is `ofCode 0`. -/
def hciForEachDev (flag : Nat) (func : DevReq → Bool) (env : DevListEnv) (k : Proc) : Int × Proc :=
  match k.socket env.socket with
  | (none, k) => (-1, k)
  | (some sk, k) =>
    match env.malloc with
    | some e => (-1, (k.close sk).withErrno e)
    | none =>
      match env.list with
      | .error e => (-1, (k.close sk).withErrno e)
      | .ok devs =>
        let devId := findDev flag func devs
        (devId, (k.close sk).withErrno (if devId < 0 then .enodev else .ofCode 0))

/-- The answers to `hci_get_route`. -/
structure RouteEnv where
  other : DevListEnv
  same : DevListEnv

/-- `hci_get_route`; `none` is the null pointer, which stands for `BDADDR_ANY`. -/
def hciGetRoute (bdaddr : Option BdAddr) (env : RouteEnv) (k : Proc) : Int × Proc :=
  let arg := bdaddr.getD .zero
  let (devId, k) := hciForEachDev hciUp (otherBdaddr arg) env.other k
  if devId < 0 then hciForEachDev hciUp (sameBdaddr arg) env.same k else (devId, k)

/-- The answers to `hci_devinfo`. -/
structure DevInfoEnv where
  socket : SysResult
  info : Except Errno HciDevInfo

/-- `hci_devinfo`: what it returns, and `di` when that is `0`. -/
def hciDevinfo (env : DevInfoEnv) (k : Proc) : Int × HciDevInfo × Proc :=
  match k.socket env.socket with
  | (none, k) => (-1, ⟨.zero, 0⟩, k)
  | (some dd, k) =>
    match env.info with
    | .error e => (-1, ⟨.zero, 0⟩, (k.close dd).withErrno e)
    | .ok di => (0, di, k.close dd)

/-! ## Opening a device -/

/-- The answers to `hci_open_dev`. -/
structure OpenEnv where
  socket : SysResult
  bind : SysResult

/-- `hci_open_dev` -/
def hciOpenDev (devId : Int) (env : OpenEnv) (k : Proc) : Int × Proc :=
  if devId < 0 then (-1, k.withErrno .enodev)
  else
    match k.socket env.socket with
    | (none, k) => (-1, k)
    | (some dd, k) =>
      match env.bind with
      | some e => (-1, (k.close dd).withErrno e)
      | none => (dd, k)

/-- `hci_close_dev` -/
def hciCloseDev (dd : Int) (k : Proc) : Proc := k.close dd

/-- `strncpy(dst, src, len)` into an array of `len` bytes. -/
def strncpy (src : List UInt8) (len : Nat) : List UInt8 :=
  let text := (src.take len).takeWhile (· ≠ 0)
  text ++ List.replicate (len - text.length) 0

/-- What `hci_read_local_name` returns, the name, and the socket. -/
structure NameResult where
  ret : Int
  name : List UInt8
  sock : Sock

/-- `hci_read_local_name`; `name` is left alone when it fails. -/
def hciReadLocalName (len : Nat) (name : List UInt8) (timeout : Int) (env : CallEnv) (s : Sock) :
    Outcome NameResult := do
  let rq := Wrapper.readLocalName.request [] (env.uninit 249)
  let res ← sendForStatus rq timeout env.toReqEnv s
  if res.ret < 0 then pure ⟨-1, name, res.sock⟩
  else pure ⟨0, strncpy (((res.req.rparam.drop 1).take 247) ++ [0]) len, res.sock⟩

end LinuxBle
