import LinuxBle.Hci.Requests
import LinuxBle.Ble.Basic

/-!
# `ble_connect` and `ble_disconnect`
-/

namespace LinuxBle

open Infra

/-- What a call on one entry returns, the entry, and the socket. -/
structure BleResult where
  ret : Int
  ble : BleDevice
  sock : Sock

abbrev hciOeUserEndedConnection : UInt8 := 0x13

/-- The arguments of `hci_le_create_conn` in `ble_connect`. -/
def bleConnectCp (ble : BleDevice) : LeCreateConnCp where
  interval := 0x0004
  window := 0x0004
  initiatorFilter := 0x00
  peerBdaddrType := lePublicAddress
  peerBdaddr := ble.addr
  ownBdaddrType := lePublicAddress
  minInterval := 0x000F
  maxInterval := 0x000F
  latency := 0x0000
  supervisionTimeout := 0x0C80
  minCeLength := 0x0001
  maxCeLength := 0x0001

abbrev bleConnectTimeout : Int := 25000
abbrev bleDisconnectTimeout : Int := 10000

/-- `ble_connect`; it follows `ble->hci` before anything else. -/
def bleConnect (ble : BleDevice) (env : CallEnv) (s : Sock) : Outcome BleResult :=
  match ble.hci with
  | none => .fault
  | some _ => do
    let res ← hciLeCreateConn (bleConnectCp ble) bleConnectTimeout env s
    if res.ret < 0 then pure ⟨-1, ble, res.sock⟩
    else pure ⟨0, { ble with handle := res.handle }, res.sock⟩

/-- `ble_disconnect`. -/
def bleDisconnect (ble : BleDevice) (env : CallEnv) (s : Sock) : Outcome BleResult :=
  match ble.hci with
  | none => .fault
  | some _ => do
    let res ← hciDisconnect ble.handle hciOeUserEndedConnection bleDisconnectTimeout env s
    if res.ret = 0 then pure ⟨res.ret, { ble with handle := 0 }, res.sock⟩
    else pure ⟨res.ret, ble, res.sock⟩

end LinuxBle
