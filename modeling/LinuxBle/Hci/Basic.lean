import LinuxBle.Infra.Loop
import LinuxBle.Infra.Outcome

/-!
# Bytes, packets, the filter and the socket

What `hci.h`, `hci_lib.h` and `bluetooth.h` give to the rest, and what the kernel is to the
library: one socket with an installed filter, the packets written to it, and `errno`.
The host is little endian, so `htobs` is the identity.
-/

namespace LinuxBle

open Infra

/-! ## Constants of `hci.h` -/

abbrev hciMaxEventSize : Nat := 260

abbrev hciCommandPkt : UInt8 := 0x01
abbrev hciEventPkt : UInt8 := 0x04
abbrev hciVendorPkt : UInt8 := 0xff

abbrev ogfLinkCtl : UInt16 := 0x01
abbrev ogfLinkPolicy : UInt16 := 0x02
abbrev ogfHostCtl : UInt16 := 0x03
abbrev ogfInfoParam : UInt16 := 0x04
abbrev ogfStatusParam : UInt16 := 0x05
abbrev ogfLeCtl : UInt16 := 0x08

abbrev evtDisconnComplete : UInt8 := 0x05
abbrev evtRemoteNameReqComplete : UInt8 := 0x07
abbrev evtCmdComplete : UInt8 := 0x0E
abbrev evtCmdStatus : UInt8 := 0x0F
abbrev evtLeMetaEvent : UInt8 := 0x3E

abbrev evtLeConnComplete : UInt8 := 0x01
abbrev evtLeAdvertisingReport : UInt8 := 0x02

/-- `1 + HCI_EVENT_HDR_SIZE`: the packet type and the event header. -/
abbrev evtParamOffset : Nat := 3
abbrev evtCmdCompleteSize : Nat := 3

abbrev lePublicAddress : UInt8 := 0x00

/-! ## Bytes -/

/-- A little endian `uint16_t`. -/
def le16 (lo hi : UInt8) : UInt16 := lo.toUInt16 ||| hi.toUInt16 <<< 8

theorem toNat_le16 (lo hi : UInt8) : (le16 lo hi).toNat = hi.toNat * 256 + lo.toNat := by
  have hlo := lo.toNat_lt
  have hhi := hi.toNat_lt
  have hshift : (hi.toUInt16 <<< 8).toNat = hi.toNat <<< 8 := by
    rw [UInt16.toNat_shiftLeft, UInt8.toNat_toUInt16, Nat.mod_eq_of_lt]
    · rfl
    · show hi.toNat <<< 8 < 65536
      rw [Nat.shiftLeft_eq]
      omega
  unfold le16
  rw [UInt16.toNat_or, hshift, UInt8.toNat_toUInt16, Nat.or_comm,
    ← Nat.shiftLeft_add_eq_or_of_lt (by omega), Nat.shiftLeft_eq]

/-- The two bytes of a `uint16_t` in memory. -/
def bytes16 (x : UInt16) : List UInt8 := [x.toUInt8, (x >>> 8).toUInt8]

/-- `bdaddr_t`. -/
structure BdAddr where
  b0 : UInt8
  b1 : UInt8
  b2 : UInt8
  b3 : UInt8
  b4 : UInt8
  b5 : UInt8
  deriving DecidableEq

def BdAddr.zero : BdAddr := ⟨0, 0, 0, 0, 0, 0⟩

def BdAddr.bytes (a : BdAddr) : List UInt8 := [a.b0, a.b1, a.b2, a.b3, a.b4, a.b5]

/-- `bacmp` is `memcmp`; its callers only ask whether it is zero. -/
def bacmp (ba1 ba2 : BdAddr) : Int := if ba1 = ba2 then 0 else 1

theorem bacmp_eq_zero_iff {a b : BdAddr} : bacmp a b = 0 ↔ a = b := by
  unfold bacmp
  split
  · next h => exact iff_of_true rfl h
  · next h => exact iff_of_false (by decide) h

/-- `%2.2X`. -/
def hex2 (b : UInt8) : List Char :=
  [Nat.digitChar (b.toNat / 16), Nat.digitChar (b.toNat % 16)].map Char.toUpper

/-- `ba2str`. -/
def ba2str (ba : BdAddr) : List Char :=
  hex2 ba.b5 ++ [':'] ++ hex2 ba.b4 ++ [':'] ++ hex2 ba.b3 ++ [':'] ++
    hex2 ba.b2 ++ [':'] ++ hex2 ba.b1 ++ [':'] ++ hex2 ba.b0

/-! ## Packets -/

/--
One packet as `read` delivers it into the receive buffer.

The buffer has `HCI_MAX_EVENT_SIZE` bytes and is cleared before every `read`. `behind` is
whatever the stack holds after it.
-/
structure Packet where
  bytes : List UInt8
  size_le : bytes.length ≤ hciMaxEventSize
  behind : Nat → UInt8

namespace Packet

/-- A packet with nothing but zeros behind the buffer. -/
def ofBytes (bytes : List UInt8) (h : bytes.length ≤ hciMaxEventSize) : Packet :=
  ⟨bytes, h, fun _ => 0⟩

/-- What `read` returned. -/
def size (p : Packet) : Nat := p.bytes.length

/-- `buf[i]`. -/
def buf (p : Packet) (i : Nat) : UInt8 :=
  if i < hciMaxEventSize then p.bytes.getD i 0 else p.behind (i - hciMaxEventSize)

/-- The `uint16_t` at `buf + i`. -/
def buf16 (p : Packet) (i : Nat) : UInt16 := le16 (p.buf i) (p.buf (i + 1))

/-- The `bdaddr_t` at `buf + i`. -/
def bdaddr (p : Packet) (i : Nat) : BdAddr :=
  ⟨p.buf i, p.buf (i + 1), p.buf (i + 2), p.buf (i + 3), p.buf (i + 4), p.buf (i + 5)⟩

/-- `n` bytes from `buf + src`. -/
def slice (p : Packet) (src n : Nat) : List UInt8 := (List.range n).map fun i => p.buf (src + i)

@[simp] theorem length_slice (p : Packet) (src n : Nat) : (p.slice src n).length = n := by
  simp [slice]

/-- Bytes that were not received read as zero, as far as the buffer goes. -/
theorem buf_of_size_le {p : Packet} {i : Nat} (h : p.size ≤ i) (hi : i < hciMaxEventSize) :
    p.buf i = 0 := by
  unfold buf
  rw [if_pos hi, List.getD_eq_getElem?_getD, List.getElem?_eq_none h]
  rfl

end Packet

/-! ## What the kernel answers -/

/-- A value of `errno`. -/
structure Errno where ofCode ::
  code : Nat
  deriving DecidableEq

namespace Errno

abbrev eintr : Errno := ofCode 4
abbrev eio : Errno := ofCode 5
abbrev ebadf : Errno := ofCode 9
abbrev eagain : Errno := ofCode 11
abbrev enodev : Errno := ofCode 19
abbrev emfile : Errno := ofCode 24
abbrev enetdown : Errno := ofCode 100
abbrev etimedout : Errno := ofCode 110

end Errno

/-- The outcome of a system call that returns nothing else: `none`, or the `errno` it fails with. -/
abbrev SysResult := Option Errno

inductive ReadResult where
  | fail (e : Errno)
  | got (p : Packet)

/-- The outcome of `select`, and of the `read` that follows when the socket is ready. -/
inductive Wait where
  | timeout
  | selectFail (e : Errno)
  | ready (r : ReadResult)

/-- One iteration of a wait loop: the clock at its top, and what it waits for. -/
structure Turn where
  now : Int
  wait : Wait

/-! ## The event filter -/

/-- `struct hci_filter`; `eventMask` is the two words of `event_mask`. -/
structure HciFilter where
  typeMask : BitVec 32
  eventMask : BitVec 64
  opcode : UInt16
  deriving DecidableEq

def hciSetBit {w : Nat} (nr : Nat) (mask : BitVec w) : BitVec w := mask ||| 1#w <<< nr

def hciTestBit {w : Nat} (nr : Nat) (mask : BitVec w) : Bool := mask.getLsbD nr

def hciFilterClear : HciFilter := ⟨0, 0, 0⟩

/-- `(t == HCI_VENDOR_PKT) ? 0 : (t & HCI_FLT_TYPE_BITS)`, of an `int`. -/
def ptypeBit (t : Int) : Nat := if t = hciVendorPkt.toNat then 0 else (t % 32).toNat

/-- `e & HCI_FLT_EVENT_BITS`, of an `int`. -/
def eventBit (e : Int) : Nat := (e % 64).toNat

def hciFilterSetPtype (t : Int) (f : HciFilter) : HciFilter :=
  { f with typeMask := hciSetBit (ptypeBit t) f.typeMask }

def hciFilterTestPtype (t : Int) (f : HciFilter) : Bool := hciTestBit (ptypeBit t) f.typeMask

def hciFilterSetEvent (e : Int) (f : HciFilter) : HciFilter :=
  { f with eventMask := hciSetBit (eventBit e) f.eventMask }

def hciFilterTestEvent (e : Int) (f : HciFilter) : Bool := hciTestBit (eventBit e) f.eventMask

/-- The field has 16 bits. -/
def hciFilterSetOpcode (opcode : Int) (f : HciFilter) : HciFilter :=
  { f with opcode := UInt16.ofInt opcode }

/-- An `int` that came from 16 bits goes back into them. -/
theorem ofInt_toNat16 (n : UInt16) : UInt16.ofInt (n.toNat : Int) = n := by
  have hlt := n.toNat_lt
  rw [← UInt16.toNat_inj]
  simp only [UInt16.ofInt, UInt16.toNat_ofNat']
  omega

theorem hciTestBit_hciSetBit {w nr k : Nat} (mask : BitVec w) (h : nr < w) :
    hciTestBit nr (hciSetBit k mask) = (hciTestBit nr mask || decide (nr = k)) := by
  unfold hciTestBit hciSetBit
  rw [BitVec.getLsbD_or, BitVec.getLsbD_shiftLeft, BitVec.getLsbD_one]
  by_cases hk : nr = k
  · subst hk
    simp [h]
    omega
  · rcases Nat.lt_or_gt_of_ne hk with hlt | hgt
    · simp [hlt, hk]
    · simp [h, hk, Nat.sub_ne_zero_of_lt hgt]

/-- The events of a filter are those set before and the one set last. -/
theorem hciFilterTestEvent_setEvent (e e' : Int) (f : HciFilter) :
    hciFilterTestEvent e (hciFilterSetEvent e' f) =
      (hciFilterTestEvent e f || decide (eventBit e = eventBit e')) := by
  unfold hciFilterTestEvent hciFilterSetEvent
  rw [hciTestBit_hciSetBit]
  unfold eventBit
  omega

@[simp] theorem hciFilterTestEvent_setOpcode (e opcode : Int) (f : HciFilter) :
    hciFilterTestEvent e (hciFilterSetOpcode opcode f) = hciFilterTestEvent e f := rfl

/-! ## The socket -/

/-- One HCI socket, and the `errno` of the thread that uses it. -/
structure Sock where
  filter : HciFilter
  /-- the packets written to it, oldest first -/
  sent : List (List UInt8)
  errno : Errno
  deriving DecidableEq

namespace Sock

def withErrno (s : Sock) (e : Errno) : Sock := { s with errno := e }

@[simp] theorem withErrno_sent (s : Sock) (e : Errno) : (s.withErrno e).sent = s.sent := rfl

/-- `setsockopt(dd, SOL_HCI, HCI_FILTER, &f, sizeof(f))`; a failing call changes nothing. -/
def setFilter (s : Sock) (f : HciFilter) : SysResult → Sock
  | none => { s with filter := f }
  | some e => s.withErrno e

@[simp] theorem setFilter_none_filter (s : Sock) (f : HciFilter) :
    (s.setFilter f none).filter = f := rfl

@[simp] theorem setFilter_sent (s : Sock) (f : HciFilter) (r : SysResult) :
    (s.setFilter f r).sent = s.sent := by
  cases r <;> rfl

end Sock

/-! ## Results of calls -/

/-- What a wrapper returns, and the socket it leaves. -/
structure CallResult where
  ret : Int
  sock : Sock
  deriving DecidableEq

end LinuxBle
