import LinuxBle.Hci.Basic

/-!
# The filter tools of `hci_lib.h`

The tools that the waits do not use: clearing a type or an event, letting all of them through,
and the opcode.
-/

namespace LinuxBle

def hciClearBit {w : Nat} (nr : Nat) (mask : BitVec w) : BitVec w := mask &&& ~~~(1#w <<< nr)

def hciFilterClearPtype (t : Int) (f : HciFilter) : HciFilter :=
  { f with typeMask := hciClearBit (ptypeBit t) f.typeMask }

/-- `memset((void *) &f->type_mask, 0xff, sizeof(f->type_mask))` -/
def hciFilterAllPtypes (f : HciFilter) : HciFilter := { f with typeMask := BitVec.allOnes 32 }

def hciFilterClearEvent (e : Int) (f : HciFilter) : HciFilter :=
  { f with eventMask := hciClearBit (eventBit e) f.eventMask }

def hciFilterAllEvents (f : HciFilter) : HciFilter := { f with eventMask := BitVec.allOnes 64 }

def hciFilterClearOpcode (f : HciFilter) : HciFilter := { f with opcode := 0 }

/-- `(f->opcode == opcode)`, of an `int`. -/
def hciFilterTestOpcode (opcode : Int) (f : HciFilter) : Bool := (f.opcode.toNat : Int) = opcode

/-- One call of a filter tool. -/
inductive FilterOp where
  | clear
  | setPtype (t : Int)
  | clearPtype (t : Int)
  | allPtypes
  | setEvent (e : Int)
  | clearEvent (e : Int)
  | allEvents
  | setOpcode (opcode : Int)
  | clearOpcode

def FilterOp.apply : FilterOp → HciFilter → HciFilter
  | clear, _ => hciFilterClear
  | setPtype t, f => hciFilterSetPtype t f
  | clearPtype t, f => hciFilterClearPtype t f
  | allPtypes, f => hciFilterAllPtypes f
  | setEvent e, f => hciFilterSetEvent e f
  | clearEvent e, f => hciFilterClearEvent e f
  | allEvents, f => hciFilterAllEvents f
  | setOpcode opcode, f => hciFilterSetOpcode opcode f
  | clearOpcode, f => hciFilterClearOpcode f

/-- A sequence of calls, the first one first. -/
def FilterOp.run (ops : List FilterOp) (f : HciFilter) : HciFilter :=
  ops.foldl (fun f op => op.apply f) f

end LinuxBle
