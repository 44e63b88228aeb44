import LinuxBle.Hci.SendReq

/-!
# The requests that the wrappers issue

Each wrapper of `hci.c` that calls `hci_send_req` fills in one `hci_request`. The table
`Wrapper.form` has the constants of all of them; the wrappers that `ble.c` calls follow, each as
its own definition.

The one field `event` is filled from two numberings: most wrappers that wait for an event give
an event code, three of them give an LE subevent. `Awaits` keeps the two apart, as the names of
the constants (`EVT_...` and `EVT_LE_...`) do in the source.
-/

namespace LinuxBle

open Infra

/-! ## The table -/

/-- What a wrapper waits for, apart from the Command Complete of its own command. -/
inductive Awaits where
  | nothing
  | event (code : UInt8)
  | leSubevent (code : UInt8)
  deriving DecidableEq

/-- `rq.event`; the wrappers that wait for nothing leave the zero of `memset`. -/
def Awaits.code : Awaits → Int
  | nothing => 0
  | event c => c.toNat
  | leSubevent c => c.toNat

/-- The constants of a request: `ogf`, `ocf`, what `event` stands for, and `rlen`. -/
structure RequestForm where
  ogf : UInt16
  ocf : UInt16
  awaits : Awaits
  rlen : Int

/-- The functions `hci_...` that call `hci_send_req`. -/
inductive Wrapper where
  | createConnection | disconnect | leAddWhiteList | leRmWhiteList | leReadWhiteListSize
  | leClearWhiteList | leAddResolvingList | leRmResolvingList | leClearResolvingList
  | leReadResolvingListSize | leSetAddressResolutionEnable | readLocalName | writeLocalName
  | readRemoteNameWithClockOffset | readRemoteNameCancel | readRemoteVersion | readRemoteFeatures
  | readRemoteExtFeatures | readClockOffset | readLocalVersion | readLocalCommands
  | readLocalFeatures | readLocalExtFeatures | readBdAddr | readClassOfDev | writeClassOfDev
  | readVoiceSetting | writeVoiceSetting | readCurrentIacLap | writeCurrentIacLap
  | readStoredLinkKey | writeStoredLinkKey | deleteStoredLinkKey | authenticateLink | encryptLink
  | changeLinkKey | switchRole | parkMode | exitParkMode | readInquiryScanType
  | writeInquiryScanType | readInquiryMode | writeInquiryMode | readAfhMode | writeAfhMode
  | readExtInquiryResponse | writeExtInquiryResponse | readSimplePairingMode
  | writeSimplePairingMode | readLocalOobData | readInqResponseTxPowerLevel
  | writeInquiryTransmitPowerLevel | readTransmitPowerLevel | readLinkPolicy | writeLinkPolicy
  | readLinkSupervisionTimeout | writeLinkSupervisionTimeout | setAfhClassification
  | readLinkQuality | readRssi | readAfhMap | readClock | leSetScanEnable | leSetScanParameters
  | leSetAdvertiseEnable | leCreateConn | leConnUpdate | leReadRemoteFeatures

/-- What each wrapper writes into its `hci_request`. -/
def Wrapper.form : Wrapper → RequestForm
  | .createConnection => ⟨ogfLinkCtl, 0x0005, .event 0x03, 11⟩
  | .disconnect => ⟨ogfLinkCtl, 0x0006, .event 0x05, 4⟩
  | .leAddWhiteList => ⟨ogfLeCtl, 0x0011, .nothing, 1⟩
  | .leRmWhiteList => ⟨ogfLeCtl, 0x0012, .nothing, 1⟩
  | .leReadWhiteListSize => ⟨ogfLeCtl, 0x000F, .nothing, 2⟩
  | .leClearWhiteList => ⟨ogfLeCtl, 0x0010, .nothing, 1⟩
  | .leAddResolvingList => ⟨ogfLeCtl, 0x0027, .nothing, 1⟩
  | .leRmResolvingList => ⟨ogfLeCtl, 0x0028, .nothing, 1⟩
  | .leClearResolvingList => ⟨ogfLeCtl, 0x0029, .nothing, 1⟩
  | .leReadResolvingListSize => ⟨ogfLeCtl, 0x002A, .nothing, 2⟩
  | .leSetAddressResolutionEnable => ⟨ogfLeCtl, 0x002D, .nothing, 1⟩
  | .readLocalName => ⟨ogfHostCtl, 0x0014, .nothing, 249⟩
  | .writeLocalName => ⟨ogfHostCtl, 0x0013, .nothing, 0⟩
  | .readRemoteNameWithClockOffset => ⟨ogfLinkCtl, 0x0019, .event 0x07, 255⟩
  | .readRemoteNameCancel => ⟨ogfLinkCtl, 0x001A, .nothing, 0⟩
  | .readRemoteVersion => ⟨ogfLinkCtl, 0x001D, .event 0x0C, 8⟩
  | .readRemoteFeatures => ⟨ogfLinkCtl, 0x001B, .event 0x0B, 11⟩
  | .readRemoteExtFeatures => ⟨ogfLinkCtl, 0x001C, .event 0x23, 13⟩
  | .readClockOffset => ⟨ogfLinkCtl, 0x001F, .event 0x1C, 5⟩
  | .readLocalVersion => ⟨ogfInfoParam, 0x0001, .nothing, 9⟩
  | .readLocalCommands => ⟨ogfInfoParam, 0x0002, .nothing, 65⟩
  | .readLocalFeatures => ⟨ogfInfoParam, 0x0003, .nothing, 9⟩
  | .readLocalExtFeatures => ⟨ogfInfoParam, 0x0004, .nothing, 11⟩
  | .readBdAddr => ⟨ogfInfoParam, 0x0009, .nothing, 7⟩
  | .readClassOfDev => ⟨ogfHostCtl, 0x0023, .nothing, 4⟩
  | .writeClassOfDev => ⟨ogfHostCtl, 0x0024, .nothing, 0⟩
  | .readVoiceSetting => ⟨ogfHostCtl, 0x0025, .nothing, 3⟩
  | .writeVoiceSetting => ⟨ogfHostCtl, 0x0026, .nothing, 0⟩
  | .readCurrentIacLap => ⟨ogfHostCtl, 0x0039, .nothing, 194⟩
  | .writeCurrentIacLap => ⟨ogfHostCtl, 0x003A, .nothing, 0⟩
  | .readStoredLinkKey => ⟨ogfHostCtl, 0x000D, .nothing, 0⟩
  | .writeStoredLinkKey => ⟨ogfHostCtl, 0x0011, .nothing, 0⟩
  | .deleteStoredLinkKey => ⟨ogfHostCtl, 0x0012, .nothing, 0⟩
  | .authenticateLink => ⟨ogfLinkCtl, 0x0011, .event 0x06, 3⟩
  | .encryptLink => ⟨ogfLinkCtl, 0x0013, .event 0x08, 4⟩
  | .changeLinkKey => ⟨ogfLinkCtl, 0x0015, .event 0x09, 3⟩
  | .switchRole => ⟨ogfLinkPolicy, 0x000B, .event 0x12, 8⟩
  | .parkMode => ⟨ogfLinkPolicy, 0x0005, .event 0x14, 6⟩
  | .exitParkMode => ⟨ogfLinkPolicy, 0x0006, .event 0x14, 6⟩
  | .readInquiryScanType => ⟨ogfHostCtl, 0x0042, .nothing, 2⟩
  | .writeInquiryScanType => ⟨ogfHostCtl, 0x0043, .nothing, 1⟩
  | .readInquiryMode => ⟨ogfHostCtl, 0x0044, .nothing, 2⟩
  | .writeInquiryMode => ⟨ogfHostCtl, 0x0045, .nothing, 1⟩
  | .readAfhMode => ⟨ogfHostCtl, 0x0048, .nothing, 2⟩
  | .writeAfhMode => ⟨ogfHostCtl, 0x0049, .nothing, 1⟩
  | .readExtInquiryResponse => ⟨ogfHostCtl, 0x0051, .nothing, 242⟩
  | .writeExtInquiryResponse => ⟨ogfHostCtl, 0x0052, .nothing, 1⟩
  | .readSimplePairingMode => ⟨ogfHostCtl, 0x0055, .nothing, 2⟩
  | .writeSimplePairingMode => ⟨ogfHostCtl, 0x0056, .nothing, 1⟩
  | .readLocalOobData => ⟨ogfHostCtl, 0x0057, .nothing, 33⟩
  | .readInqResponseTxPowerLevel => ⟨ogfHostCtl, 0x0058, .nothing, 2⟩
  | .writeInquiryTransmitPowerLevel => ⟨ogfHostCtl, 0x0059, .nothing, 1⟩
  | .readTransmitPowerLevel => ⟨ogfHostCtl, 0x002D, .nothing, 4⟩
  | .readLinkPolicy => ⟨ogfLinkPolicy, 0x000C, .nothing, 5⟩
  | .writeLinkPolicy => ⟨ogfLinkPolicy, 0x000D, .nothing, 3⟩
  | .readLinkSupervisionTimeout => ⟨ogfHostCtl, 0x0036, .nothing, 5⟩
  | .writeLinkSupervisionTimeout => ⟨ogfHostCtl, 0x0037, .nothing, 3⟩
  | .setAfhClassification => ⟨ogfHostCtl, 0x003F, .nothing, 1⟩
  | .readLinkQuality => ⟨ogfStatusParam, 0x0003, .nothing, 4⟩
  | .readRssi => ⟨ogfStatusParam, 0x0005, .nothing, 4⟩
  | .readAfhMap => ⟨ogfStatusParam, 0x0006, .nothing, 14⟩
  | .readClock => ⟨ogfStatusParam, 0x0007, .nothing, 9⟩
  | .leSetScanEnable => ⟨ogfLeCtl, 0x000C, .nothing, 1⟩
  | .leSetScanParameters => ⟨ogfLeCtl, 0x000B, .nothing, 1⟩
  | .leSetAdvertiseEnable => ⟨ogfLeCtl, 0x000A, .nothing, 1⟩
  | .leCreateConn => ⟨ogfLeCtl, 0x000D, .leSubevent 0x01, 11⟩
  | .leConnUpdate => ⟨ogfLeCtl, 0x0013, .leSubevent 0x03, 9⟩
  | .leReadRemoteFeatures => ⟨ogfLeCtl, 0x0016, .leSubevent 0x04, 11⟩

/-- The request a wrapper issues, for its command parameters and its reply struct. -/
def Wrapper.request (w : Wrapper) (cparam rparam : List UInt8) : HciRequest where
  ogf := w.form.ogf
  ocf := w.form.ocf
  event := w.form.awaits.code
  cparam := cparam
  clen := cparam.length
  rparam := rparam
  rlen := w.form.rlen

theorem Wrapper.rlen_nonneg (w : Wrapper) : 0 ≤ w.form.rlen := by
  cases w <;> decide

/-- A wrapper writes its opcode, the length of its parameters, and all of them. -/
theorem Wrapper.command_request (w : Wrapper) {cparam : List UInt8} (rparam : List UInt8)
    (h : cparam.length < 256) :
    (w.request cparam rparam).command =
      hciCommandPkt :: (bytes16 (cmdOpcodePack w.form.ogf w.form.ocf) ++
        UInt8.ofNat cparam.length :: cparam) := by
  have hlen : UInt8.ofInt cparam.length = UInt8.ofNat cparam.length := by
    unfold UInt8.ofInt
    congr 1
    omega
  have htake : cparam.take (UInt8.ofNat cparam.length).toNat = cparam := by
    rw [UInt8.toNat_ofNat', Nat.mod_eq_of_lt h, List.take_length]
  show _ :: _ ++ [UInt8.ofInt cparam.length] ++ cparam.take (UInt8.ofInt cparam.length).toNat = _
  rw [hlen, htake]
  simp only [List.cons_append, List.append_assoc, List.nil_append]
  rfl

/-! ## The wrappers that `ble.c` calls -/

/-- The kernel's answers to one wrapper, and what its uninitialised reply struct holds. -/
structure CallEnv extends ReqEnv where
  stack : Nat → UInt8

/-- One packet answers, over a stack of zeros. -/
def CallEnv.answered (p : Packet) : CallEnv := ⟨ReqEnv.answered p, fun _ => 0⟩

/-- An uninitialised struct of `n` bytes. -/
def CallEnv.uninit (env : CallEnv) (n : Nat) : List UInt8 := (List.range n).map env.stack

/--
How the wrappers end: `-1` if `hci_send_req` fails, `-1` and `EIO` if the first byte of the
reply, its status, is set.
-/
def sendForStatus (rq : HciRequest) (timeout : Int) (env : ReqEnv) (s : Sock) :
    Outcome ReqResult := do
  let res ← hciSendReq rq timeout env s
  if res.ret < 0 then pure { res with ret := -1 }
  else if res.req.rparam.getD 0 0 ≠ 0 then
    pure { res with ret := -1, sock := res.sock.withErrno .eio }
  else pure { res with ret := 0 }

/-- The parameters of LE Set Scan Enable. -/
def leSetScanEnableCp (enable filterDup : UInt8) : List UInt8 := [enable, filterDup]

/-- `hci_le_set_scan_enable`. -/
def hciLeSetScanEnable (enable filterDup : UInt8) (timeout : Int) (env : CallEnv) (s : Sock) :
    Outcome CallResult := do
  let rq := Wrapper.leSetScanEnable.request (leSetScanEnableCp enable filterDup) (env.uninit 1)
  let res ← sendForStatus rq timeout env.toReqEnv s
  pure ⟨res.ret, res.sock⟩

/-- `hci_le_set_scan_parameters`. -/
def hciLeSetScanParameters (type : UInt8) (interval window : UInt16) (ownType filter : UInt8)
    (timeout : Int) (env : CallEnv) (s : Sock) : Outcome CallResult := do
  let cp := [type] ++ bytes16 interval ++ bytes16 window ++ [ownType, filter]
  let rq := Wrapper.leSetScanParameters.request cp (env.uninit 1)
  let res ← sendForStatus rq timeout env.toReqEnv s
  pure ⟨res.ret, res.sock⟩

/-- The parameters of LE Create Connection. -/
structure LeCreateConnCp where
  interval : UInt16
  window : UInt16
  initiatorFilter : UInt8
  peerBdaddrType : UInt8
  peerBdaddr : BdAddr
  ownBdaddrType : UInt8
  minInterval : UInt16
  maxInterval : UInt16
  latency : UInt16
  supervisionTimeout : UInt16
  minCeLength : UInt16
  maxCeLength : UInt16

def LeCreateConnCp.bytes (cp : LeCreateConnCp) : List UInt8 :=
  bytes16 cp.interval ++ bytes16 cp.window ++ [cp.initiatorFilter, cp.peerBdaddrType] ++
    cp.peerBdaddr.bytes ++ [cp.ownBdaddrType] ++ bytes16 cp.minInterval ++
    bytes16 cp.maxInterval ++ bytes16 cp.latency ++ bytes16 cp.supervisionTimeout ++
    bytes16 cp.minCeLength ++ bytes16 cp.maxCeLength

/-- What `hci_le_create_conn` returns; `*handle` is written when `ret` is `0`. -/
structure ConnResult where
  ret : Int
  handle : UInt16
  sock : Sock
  deriving DecidableEq

/-- The request of LE Create Connection; the reply struct has `EVT_LE_CONN_COMPLETE_SIZE` bytes. -/
def leCreateConnRequest (cp : LeCreateConnCp) (env : CallEnv) : HciRequest :=
  Wrapper.leCreateConn.request cp.bytes (env.uninit 18)

/-- `hci_le_create_conn`. -/
def hciLeCreateConn (cp : LeCreateConnCp) (timeout : Int) (env : CallEnv) (s : Sock) :
    Outcome ConnResult := do
  let res ← sendForStatus (leCreateConnRequest cp env) timeout env.toReqEnv s
  pure ⟨res.ret, le16 (res.req.rparam.getD 1 0) (res.req.rparam.getD 2 0), res.sock⟩

/-- The request of Disconnect. -/
def disconnectRequest (handle : UInt16) (reason : UInt8) (env : CallEnv) : HciRequest :=
  Wrapper.disconnect.request (bytes16 handle ++ [reason]) (env.uninit 4)

/-- `hci_disconnect`. -/
def hciDisconnect (handle : UInt16) (reason : UInt8) (timeout : Int) (env : CallEnv) (s : Sock) :
    Outcome CallResult := do
  let res ← sendForStatus (disconnectRequest handle reason env) timeout env.toReqEnv s
  pure ⟨res.ret, res.sock⟩

end LinuxBle
