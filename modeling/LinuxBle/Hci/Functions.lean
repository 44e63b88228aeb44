import LinuxBle.Hci.Devices
import LinuxBle.Hci.Structs

/-!
# The functions of `hci.c` that send a command

Almost all of them fill in the parameters, call `hci_send_req`, look at the status, and hand over
fields of the reply: `Wrapper.ask`. Some return what `hci_send_req` returns: `Wrapper.send`. Each
function is the one or the other with its own values; `hci_read_current_iac_lap` and
`hci_write_current_iac_lap`, which copy as much as a byte says, have a body of their own.

`hci_disconnect`, `hci_le_set_scan_enable`, `hci_le_set_scan_parameters`, `hci_le_create_conn` and
`hci_read_local_name`, which `ble.c` calls, are defined where it needs them.
-/

namespace LinuxBle

open Infra

/-! ## Calls -/

/-- What a function returns, what it writes through its pointers if it succeeds, and the socket. -/
structure Called (β : Type) where
  ret : Int
  out : Option β
  sock : Sock

/-- A function with its arguments, except for `dd` and the timeout. -/
abbrev HciCall (β : Type) : Type := Int → CallEnv → Sock → Outcome (Called β)

namespace Wrapper

/-- The reply struct before the call: two functions clear theirs, and one has more than it needs. -/
def replyStruct : Wrapper → CallEnv → List UInt8
  | leReadWhiteListSize, _ | leReadResolvingListSize, _ => [0, 0]
  | leCreateConn, env => env.uninit 18
  | w, env => env.uninit w.rp.size

/-- The request for given parameters. -/
def issue (w : Wrapper) (cp : w.Cp) (env : CallEnv) : HciRequest :=
  w.request (w.cp.encode cp) (w.replyStruct env)

theorem issue_rlen (w : Wrapper) (cp : w.Cp) (env : CallEnv) :
    (w.issue cp env).rlen = w.rp.size := w.size_rp.symm

/-- Send the command, and hand over `out` of the reply if its status is zero. -/
def ask {β : Type} (w : Wrapper) (cp : w.Cp) (out : w.Rp → β) : HciCall β :=
  fun timeout env s => do
    let res ← sendForStatus (w.issue cp env) timeout env.toReqEnv s
    pure ⟨res.ret, if res.ret = 0 then (w.rp.read res.req.rparam).map out else none, res.sock⟩

/-- Send the command: `return hci_send_req(dd, &rq, to)`. -/
def send (w : Wrapper) (cp : w.Cp) : HciCall Unit :=
  fun timeout env s => do
    let res ← hciSendReq (w.issue cp env) timeout env.toReqEnv s
    pure ⟨res.ret, if res.ret = 0 then some () else none, res.sock⟩

/-- What is copied of the reply goes over its end: `hci_read_current_iac_lap` copies all laps. -/
def overruns : (w : Wrapper) → w.Rp → Bool
  | readCurrentIacLap, v => maxIacLap < v.2.1.toNat
  | _, _ => false

/-- The function of the wrapper, if it handed over the whole reply. -/
def call (w : Wrapper) (cp : w.Cp) : HciCall w.Rp :=
  fun timeout env s => do
    let res ← w.ask cp id timeout env s
    if res.out.any w.overruns then .fault else pure res

end Wrapper

open Wrapper

/-- Nothing is handed over. -/
def noOutput {α : Type} (_ : α) : Unit := ()

/-! ## Connections -/

def hciCreateConnection (ba : BdAddr) (ptype clkoffset : UInt16) (rswitch : UInt8) :
    HciCall UInt16 :=
  createConnection.ask (ba, ptype, 0x02, 0, clkoffset, rswitch) fun (_, handle, _) => handle

def hciReadRemoteNameWithClockOffset (ba : BdAddr) (pscanRepMode : UInt8) (clkoffset : UInt16)
    (len : Nat) : HciCall (List UInt8) :=
  readRemoteNameWithClockOffset.ask (ba, pscanRepMode, 0, clkoffset)
    fun (_, _, name) => strncpy (name.toList.take 247 ++ [0]) len

def hciReadRemoteName (ba : BdAddr) (len : Nat) : HciCall (List UInt8) :=
  hciReadRemoteNameWithClockOffset ba 0x02 0x0000 len

def hciReadRemoteNameCancel (ba : BdAddr) : HciCall Unit := readRemoteNameCancel.ask ba noOutput

/-- It writes `manufacturer`, `lmp_ver` and `lmp_subver`. -/
def hciReadRemoteVersion (handle : UInt16) : HciCall (UInt16 × UInt8 × UInt16) :=
  readRemoteVersion.ask handle
    fun (_, _, lmpVer, manufacturer, lmpSubver) => (manufacturer, lmpVer, lmpSubver)

def hciReadRemoteFeatures (handle : UInt16) : HciCall (Vector UInt8 8) :=
  readRemoteFeatures.ask handle fun (_, _, features) => features

/-- It writes `max_page` and `features`. -/
def hciReadRemoteExtFeatures (handle : UInt16) (page : UInt8) : HciCall (UInt8 × Vector UInt8 8) :=
  readRemoteExtFeatures.ask (handle, page) fun (_, _, _, maxPage, features) => (maxPage, features)

def hciReadClockOffset (handle : UInt16) : HciCall UInt16 :=
  readClockOffset.ask handle fun (_, _, clockOffset) => clockOffset

def hciAuthenticateLink (handle : UInt16) : HciCall Unit := authenticateLink.ask handle noOutput

def hciEncryptLink (handle : UInt16) (encrypt : UInt8) : HciCall Unit :=
  encryptLink.ask (handle, encrypt) noOutput

def hciChangeLinkKey (handle : UInt16) : HciCall Unit := changeLinkKey.ask handle noOutput

def hciSwitchRole (ba : BdAddr) (role : UInt8) : HciCall Unit := switchRole.ask (ba, role) noOutput

def hciParkMode (handle maxInterval minInterval : UInt16) : HciCall Unit :=
  parkMode.ask (handle, maxInterval, minInterval) noOutput

def hciExitParkMode (handle : UInt16) : HciCall Unit := exitParkMode.ask handle noOutput

def hciReadTransmitPowerLevel (handle : UInt16) (type : UInt8) : HciCall Int8 :=
  readTransmitPowerLevel.ask (handle, type) fun (_, _, level) => level

def hciReadLinkPolicy (handle : UInt16) : HciCall UInt16 :=
  readLinkPolicy.ask handle fun (_, _, policy) => policy

def hciWriteLinkPolicy (handle policy : UInt16) : HciCall Unit :=
  writeLinkPolicy.ask (handle, policy) noOutput

def hciReadLinkSupervisionTimeout (handle : UInt16) : HciCall UInt16 :=
  readLinkSupervisionTimeout.ask handle fun (_, _, timeout) => timeout

def hciWriteLinkSupervisionTimeout (handle timeout : UInt16) : HciCall Unit :=
  writeLinkSupervisionTimeout.ask (handle, timeout) noOutput

def hciReadLinkQuality (handle : UInt16) : HciCall UInt8 :=
  readLinkQuality.ask handle fun (_, _, linkQuality) => linkQuality

def hciReadRssi (handle : UInt16) : HciCall Int8 := readRssi.ask handle fun (_, _, rssi) => rssi

/-- It writes `mode` and `map`. -/
def hciReadAfhMap (handle : UInt16) : HciCall (UInt8 × Vector UInt8 10) :=
  readAfhMap.ask handle fun (_, _, mode, map) => (mode, map)

/-- It writes `clock` and `accuracy`. -/
def hciReadClock (handle : UInt16) (which : UInt8) : HciCall (UInt32 × UInt16) :=
  readClock.ask (handle, which) fun (_, _, clock, accuracy) => (clock, accuracy)

/-! ## The controller itself -/

/-- `cp.name`: at most 247 bytes of the name, and zeros. -/
def changeLocalNameCp (name : List UInt8) : Vector UInt8 248 :=
  ⟨(strncpy name 247 ++ [0]).toArray, by
    have hlen := (List.takeWhile_prefix (· ≠ 0) (l := name.take 247)).length_le
    rw [List.length_take] at hlen
    simp only [strncpy, List.size_toArray, List.length_append, List.length_replicate,
      List.length_singleton]
    omega⟩

def hciWriteLocalName (name : List UInt8) : HciCall Unit :=
  writeLocalName.ask (changeLocalNameCp name) noOutput

/-- It writes `manufacturer`, `hci_ver`, `hci_rev`, `lmp_ver` and `lmp_subver`. -/
def hciReadLocalVersion : HciCall (UInt16 × UInt8 × UInt16 × UInt8 × UInt16) :=
  readLocalVersion.ask ()
    fun (_, hciVer, hciRev, lmpVer, manufacturer, lmpSubver) =>
      (manufacturer, hciVer, hciRev, lmpVer, lmpSubver)

def hciReadLocalCommands : HciCall (Vector UInt8 64) :=
  readLocalCommands.ask () fun (_, commands) => commands

def hciReadLocalFeatures : HciCall (Vector UInt8 8) :=
  readLocalFeatures.ask () fun (_, features) => features

/-- It writes `max_page` and `features`. -/
def hciReadLocalExtFeatures (page : UInt8) : HciCall (UInt8 × Vector UInt8 8) :=
  readLocalExtFeatures.ask page fun (_, _, maxPage, features) => (maxPage, features)

def hciReadBdAddr : HciCall BdAddr := readBdAddr.ask () fun (_, ba) => ba

def hciReadClassOfDev : HciCall (Vector UInt8 3) := readClassOfDev.ask () fun (_, cls) => cls

def hciWriteClassOfDev (cls : UInt32) : HciCall Unit :=
  writeClassOfDev.send #v[(cls &&& 0xff).toUInt8, (cls >>> 8 &&& 0xff).toUInt8,
    (cls >>> 16 &&& 0xff).toUInt8]

def hciReadVoiceSetting : HciCall UInt16 := readVoiceSetting.ask () fun (_, vs) => vs

def hciWriteVoiceSetting (vs : UInt16) : HciCall Unit := writeVoiceSetting.send vs

/-- It writes `num_iac` and the bytes at `lap`. -/
def hciReadCurrentIacLap : HciCall (UInt8 × List UInt8) := fun timeout env s => do
  let res ← readCurrentIacLap.ask () id timeout env s
  match res.out with
  | none => pure ⟨res.ret, none, res.sock⟩
  | some (_, numIac, lap) =>
    -- `memcpy` would read behind `rp.lap`
    if maxIacLap < numIac.toNat then .fault
    else pure ⟨res.ret, some (numIac, lap.toList.take (3 * numIac.toNat)), res.sock⟩

/-- The laps at `lap`, where there is room for them. -/
def writtenLaps (numIac : UInt8) (lap : Nat → UInt8) (h : numIac.toNat ≤ maxIacLap) :
    writeCurrentIacLap.Cp :=
  ⟨(List.range numIac.toNat).map fun i => #v[lap (3 * i), lap (3 * i + 1), lap (3 * i + 2)],
    by simpa using h⟩

/-- `lap` is what the pointer leads to. -/
def hciWriteCurrentIacLap (numIac : UInt8) (lap : Nat → UInt8) : HciCall Unit :=
  fun timeout env s =>
    if h : numIac.toNat ≤ maxIacLap then
      writeCurrentIacLap.send (writtenLaps numIac lap h) timeout env s
    else .fault  -- `memcpy` would write behind `cp.lap`

def hciReadStoredLinkKey (ba : BdAddr) (all : UInt8) : HciCall Unit :=
  readStoredLinkKey.send (ba, all)

def hciWriteStoredLinkKey (ba : BdAddr) (key : Vector UInt8 16) : HciCall Unit :=
  writeStoredLinkKey.send (1, ba, key)

def hciDeleteStoredLinkKey (ba : BdAddr) (all : UInt8) : HciCall Unit :=
  deleteStoredLinkKey.send (ba, all)

def hciReadInquiryScanType : HciCall UInt8 := readInquiryScanType.ask () fun (_, type) => type

def hciWriteInquiryScanType (type : UInt8) : HciCall Unit := writeInquiryScanType.ask type noOutput

def hciReadInquiryMode : HciCall UInt8 := readInquiryMode.ask () fun (_, mode) => mode

def hciWriteInquiryMode (mode : UInt8) : HciCall Unit := writeInquiryMode.ask mode noOutput

def hciReadAfhMode : HciCall UInt8 := readAfhMode.ask () fun (_, mode) => mode

def hciWriteAfhMode (mode : UInt8) : HciCall Unit := writeAfhMode.ask mode noOutput

def hciSetAfhClassification (map : Vector UInt8 10) : HciCall Unit :=
  setAfhClassification.ask map noOutput

/-- It writes `fec` and `data`. -/
def hciReadExtInquiryResponse : HciCall (UInt8 × Vector UInt8 240) :=
  readExtInquiryResponse.ask () fun (_, fec, data) => (fec, data)

def hciWriteExtInquiryResponse (fec : UInt8) (data : Vector UInt8 240) : HciCall Unit :=
  writeExtInquiryResponse.ask (fec, data) noOutput

def hciReadSimplePairingMode : HciCall UInt8 := readSimplePairingMode.ask () fun (_, mode) => mode

def hciWriteSimplePairingMode (mode : UInt8) : HciCall Unit :=
  writeSimplePairingMode.ask mode noOutput

/-- It writes `hash` and `randomizer`. -/
def hciReadLocalOobData : HciCall (Vector UInt8 16 × Vector UInt8 16) :=
  readLocalOobData.ask () fun (_, hash, randomizer) => (hash, randomizer)

def hciReadInqResponseTxPowerLevel : HciCall Int8 :=
  readInqResponseTxPowerLevel.ask () fun (_, level) => level

def hciReadInquiryTransmitPowerLevel : HciCall Int8 := hciReadInqResponseTxPowerLevel

def hciWriteInquiryTransmitPowerLevel (level : Int8) : HciCall Unit :=
  writeInquiryTransmitPowerLevel.ask level noOutput

/-! ## Low energy -/

def hciLeAddWhiteList (ba : BdAddr) (type : UInt8) : HciCall Unit :=
  leAddWhiteList.ask (type, ba) noOutput

def hciLeRmWhiteList (ba : BdAddr) (type : UInt8) : HciCall Unit :=
  leRmWhiteList.ask (type, ba) noOutput

def hciLeReadWhiteListSize : HciCall UInt8 := leReadWhiteListSize.ask () fun (_, size) => size

def hciLeClearWhiteList : HciCall Unit := leClearWhiteList.ask () noOutput

/-- The keys are pointers that may be `NULL`; what they do not lead to stays zero. -/
def hciLeAddResolvingList (ba : BdAddr) (type : UInt8)
    (peerIrk localIrk : Option (Vector UInt8 16)) : HciCall Unit :=
  leAddResolvingList.ask
    (type, ba, peerIrk.getD (.replicate 16 0), localIrk.getD (.replicate 16 0)) noOutput

def hciLeRmResolvingList (ba : BdAddr) (type : UInt8) : HciCall Unit :=
  leRmResolvingList.ask (type, ba) noOutput

def hciLeClearResolvingList : HciCall Unit := leClearResolvingList.ask () noOutput

def hciLeReadResolvingListSize : HciCall UInt8 :=
  leReadResolvingListSize.ask () fun (_, size) => size

def hciLeSetAddressResolutionEnable (enable : UInt8) : HciCall Unit :=
  leSetAddressResolutionEnable.ask enable noOutput

def hciLeSetAdvertiseEnable (enable : UInt8) : HciCall Unit :=
  leSetAdvertiseEnable.ask enable noOutput

def hciLeConnUpdate (handle minInterval maxInterval latency supervisionTimeout : UInt16) :
    HciCall Unit :=
  leConnUpdate.ask (handle, minInterval, maxInterval, latency, supervisionTimeout, 0x0001, 0x0001)
    noOutput

def hciLeReadRemoteFeatures (handle : UInt16) : HciCall (Vector UInt8 8) :=
  leReadRemoteFeatures.ask handle fun (_, _, features) => features

end LinuxBle
