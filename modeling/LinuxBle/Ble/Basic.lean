import LinuxBle.Hci.Basic

/-!
# The structs of `ble.h`
-/

namespace LinuxBle

abbrev hciMaxConn : Nat := 20
abbrev hciMaxNameLength : Nat := 248

/-- `struct hci_conn_info`. -/
structure HciConnInfo where
  handle : UInt16
  bdaddr : BdAddr
  type : UInt8
  out : UInt8
  state : UInt16
  linkMode : UInt32
  deriving DecidableEq

def HciConnInfo.zero : HciConnInfo := ⟨0, .zero, 0, 0, 0, 0⟩

/-- `HCIDevice.conn`, the argument of `HCIGETCONNLIST`. -/
structure ConnList where
  devId : UInt16
  num : UInt16
  list : List HciConnInfo
  deriving DecidableEq

/-- `HCIDevice`. -/
structure HciDevice where
  devId : Int
  dd : Int
  name : List UInt8
  addr : BdAddr
  addrS : List Char
  of : HciFilter
  conn : ConnList
  deriving DecidableEq

/-- `memset(hci, 0, sizeof(HCIDevice))` -/
def HciDevice.zero : HciDevice where
  devId := 0
  dd := 0
  name := List.replicate hciMaxNameLength 0
  addr := .zero
  addrS := []
  of := hciFilterClear
  conn := ⟨0, 0, List.replicate hciMaxConn .zero⟩

/-- A pointer to an `HCIDevice`. -/
abbrev HciPtr := Nat

/-- `BLEDevice`; `hci` is `none` when the pointer is null. -/
structure BleDevice where
  name : List UInt8
  rssi : Int8
  addr : BdAddr
  addrS : List Char
  addrType : UInt8
  hci : Option HciPtr
  handle : UInt16
  deriving DecidableEq

abbrev bleNameSize : Nat := 30

/-- An entry of a zero-initialised array. -/
def BleDevice.zero : BleDevice where
  name := List.replicate bleNameSize 0
  rssi := 0
  addr := .zero
  addrS := []
  addrType := 0
  hci := none
  handle := 0

/-- The caller's array of entries, by index. -/
abbrev BleList := Nat → BleDevice

end LinuxBle
