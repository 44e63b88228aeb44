import LinuxBle.Hci.Structs
import LinuxBle.Properties.Leftovers
import LinuxBle.Properties.Noise
import LinuxBle.Properties.Peer
import LinuxBle.Properties.ScanUndo

/-!
# What goes over the wire

A command is written as a packet type, an opcode, the length of the parameters, and the parameters.

* `Wrapper.read_command` — the packet says which wrapper wrote it, with which parameters
* `Client.run_wire` — what a run writes is read in one way, as the commands that it asked for
-/

namespace LinuxBle

open Infra

/-! ## Packets -/

/-- A command before it is written. -/
structure HciCommand where
  opcode : UInt16
  params : List UInt8
  fits : params.length < 256
  deriving DecidableEq

/-- A little endian `uint16_t`. -/
def word : Codec UInt16 :=
  (Codec.byte.pair Codec.byte).refine (fun x => (x.toUInt8, (x >>> 8).toUInt8))
    (fun b => some (le16 b.1 b.2)) fun x => by rw [le16_bytes]

/-- A command packet. -/
def commandPacket : Codec HciCommand :=
  (Codec.byte.pair (word.pair Codec.block)).refine
    (fun c => (hciCommandPkt, c.opcode, ⟨c.params, c.fits⟩))
    (fun b => some ⟨b.2.1, b.2.2.val, b.2.2.property⟩) fun _ => rfl

theorem commandPacket_encode (c : HciCommand) :
    commandPacket.encode c =
      hciCommandPkt :: (bytes16 c.opcode ++ UInt8.ofNat c.params.length :: c.params) := rfl

/-! ## Wrappers -/

theorem toNat_cmdOpcodePack (ogf ocf : UInt16) :
    (cmdOpcodePack ogf ocf).toNat = ogf.toNat % 64 * 1024 + ocf.toNat % 1024 := by
  have hogf := ogf.toNat_lt
  have hand : (ocf &&& (0x03ff : UInt16)).toNat = ocf.toNat % 1024 := by
    rw [UInt16.toNat_and]
    exact Nat.and_two_pow_sub_one_eq_mod ocf.toNat 10
  have hshift : (ogf <<< (10 : UInt16)).toNat = (ogf.toNat % 64) <<< 10 := by
    rw [UInt16.toNat_shiftLeft]
    show ogf.toNat <<< 10 % 2 ^ 16 = _
    rw [Nat.shiftLeft_eq, Nat.shiftLeft_eq]
    omega
  rw [cmdOpcodePack, UInt16.toNat_or, hand, hshift, Nat.or_comm,
    ← Nat.shiftLeft_add_eq_or_of_lt (by omega), Nat.shiftLeft_eq]

/-- The parts of an opcode are read back, if they have no more bits than there is room for. -/
theorem cmdOpcode_pack {ogf ocf : UInt16} (hogf : ogf < 64) (hocf : ocf < 1024) :
    cmdOpcodeOgf (cmdOpcodePack ogf ocf) = ogf ∧ cmdOpcodeOcf (cmdOpcodePack ogf ocf) = ocf := by
  have hogf' : ogf.toNat < 64 := hogf
  have hocf' : ocf.toNat < 1024 := hocf
  constructor
  · rw [← UInt16.toNat_inj, cmdOpcodeOgf, UInt16.toNat_shiftRight, toNat_cmdOpcodePack]
    show _ >>> 10 = _
    rw [Nat.shiftRight_eq_div_pow]
    omega
  · rw [← UInt16.toNat_inj, cmdOpcodeOcf, UInt16.toNat_and, toNat_cmdOpcodePack]
    show _ &&& 2 ^ 10 - 1 = _
    rw [Nat.and_two_pow_sub_one_eq_mod]
    omega

namespace Wrapper

/-- The wrappers, by `ogf` and `ocf`. -/
def ofCommand (ogf ocf : UInt16) : Option Wrapper :=
  [createConnection, disconnect, leAddWhiteList, leRmWhiteList, leReadWhiteListSize,
    leClearWhiteList, leAddResolvingList, leRmResolvingList, leClearResolvingList,
    leReadResolvingListSize, leSetAddressResolutionEnable, readLocalName, writeLocalName,
    readRemoteNameWithClockOffset, readRemoteNameCancel, readRemoteVersion, readRemoteFeatures,
    readRemoteExtFeatures, readClockOffset, readLocalVersion, readLocalCommands,
    readLocalFeatures, readLocalExtFeatures, readBdAddr, readClassOfDev, writeClassOfDev,
    readVoiceSetting, writeVoiceSetting, readCurrentIacLap, writeCurrentIacLap, readStoredLinkKey,
    writeStoredLinkKey, deleteStoredLinkKey, authenticateLink, encryptLink, changeLinkKey,
    switchRole, parkMode, exitParkMode, readInquiryScanType, writeInquiryScanType,
    readInquiryMode, writeInquiryMode, readAfhMode, writeAfhMode, readExtInquiryResponse,
    writeExtInquiryResponse, readSimplePairingMode, writeSimplePairingMode, readLocalOobData,
    readInqResponseTxPowerLevel, writeInquiryTransmitPowerLevel, readTransmitPowerLevel,
    readLinkPolicy, writeLinkPolicy, readLinkSupervisionTimeout, writeLinkSupervisionTimeout,
    setAfhClassification, readLinkQuality, readRssi, readAfhMap, readClock, leSetScanEnable,
    leSetScanParameters, leSetAdvertiseEnable, leCreateConn, leConnUpdate,
    leReadRemoteFeatures].find? fun w => w.form.ogf = ogf ∧ w.form.ocf = ocf

/-- No two wrappers send the same command. -/
theorem ofCommand_form (w : Wrapper) : ofCommand w.form.ogf w.form.ocf = some w := by
  cases w <;> rfl

/-- The parts of its opcode have no more bits than there is room for. -/
theorem form_lt (w : Wrapper) : w.form.ogf < 64 ∧ w.form.ocf < 1024 := by
  cases w <;> decide

/-- The wrapper that wrote a packet, the parameters, and what follows. -/
def read (bytes : List UInt8) : Option (Wrapper × List UInt8 × List UInt8) := do
  let (c, rest) ← commandPacket.decode bytes
  let w ← ofCommand (cmdOpcodeOgf c.opcode) (cmdOpcodeOcf c.opcode)
  pure (w, c.params, rest)

/--
**The packet that a wrapper writes says which wrapper it was, and with which parameters**, whatever
follows it.
-/
theorem read_command (w : Wrapper) {cparam : List UInt8} (h : cparam.length < 256)
    (rparam rest : List UInt8) :
    read ((w.request cparam rparam).command ++ rest) = some (w, cparam, rest) := by
  have hopcode := cmdOpcode_pack w.form_lt.1 w.form_lt.2
  have hdecode := commandPacket.decode_encode
    ⟨cmdOpcodePack w.form.ogf w.form.ocf, cparam, h⟩ rest
  rw [commandPacket_encode] at hdecode
  rw [w.command_request rparam h, read, hdecode]
  simp [hopcode.1, hopcode.2, ofCommand_form]

/-- Disconnect of the handle `0x0041`, with another packet behind it. -/
theorem read_command_disconnect :
    read ((disconnect.request (bytes16 0x0041 ++ [0x13]) []).command ++ [0x01]) =
      some (disconnect, [0x41, 0x00, 0x13], [0x01]) :=
  read_command disconnect (by decide) [] [0x01]

end Wrapper

/-! ## The commands of `ble.c` -/

/-- What `ble.c` asks the controller for; it has constants for the other parameters. -/
inductive Command where
  | readLocalName
  | scanParams
  | scanEnable (on : Bool)
  | createConn (peer : BdAddr)
  | disconnect (handle : UInt16)
  deriving DecidableEq

namespace Command

/-- The wrapper that sends the command. -/
def wrapper : Command → Wrapper
  | readLocalName => .readLocalName
  | scanParams => .leSetScanParameters
  | scanEnable _ => .leSetScanEnable
  | createConn _ => .leCreateConn
  | disconnect _ => .disconnect

/-- The parameters of the command. -/
def params : Command → List UInt8
  | readLocalName => []
  | scanParams => [0x01, 0x10, 0x00, 0x10, 0x00, lePublicAddress, 0x00]
  | scanEnable on => leSetScanEnableCp (if on then 0x01 else 0x00) 0x00
  | createConn peer => (bleConnectCp { BleDevice.zero with addr := peer }).bytes
  | disconnect handle => bytes16 handle ++ [hciOeUserEndedConnection]

theorem length_params (c : Command) : c.params.length < 256 := by
  cases c <;> simp [params, leSetScanEnableCp, LeCreateConnCp.bytes, bytes16, BdAddr.bytes]

def toHci (c : Command) : HciCommand where
  opcode := cmdOpcodePack c.wrapper.form.ogf c.wrapper.form.ocf
  params := c.params
  fits := c.length_params

/-- The command that a packet may be, by its opcode. -/
def ofHci (c : HciCommand) : Option Command :=
  match Wrapper.ofCommand (cmdOpcodeOgf c.opcode) (cmdOpcodeOcf c.opcode) with
  | some .readLocalName => some .readLocalName
  | some .leSetScanParameters => some .scanParams
  | some .leSetScanEnable => some (.scanEnable (c.params.getD 0 0 = 0x01))
  | some .leCreateConn =>
    some (.createConn ⟨c.params.getD 6 0, c.params.getD 7 0, c.params.getD 8 0,
      c.params.getD 9 0, c.params.getD 10 0, c.params.getD 11 0⟩)
  | some .disconnect => some (.disconnect (le16 (c.params.getD 0 0) (c.params.getD 1 0)))
  | _ => none

theorem ofHci_toHci (c : Command) : ofHci c.toHci = some c := by
  have hopcode := cmdOpcode_pack c.wrapper.form_lt.1 c.wrapper.form_lt.2
  unfold ofHci toHci
  simp only [hopcode.1, hopcode.2, Wrapper.ofCommand_form]
  cases c with
  | readLocalName => rfl
  | scanParams => rfl
  | scanEnable on => cases on <;> rfl
  | createConn peer => rfl
  | disconnect handle => exact congrArg (some ∘ Command.disconnect) (le16_bytes handle)

/-- The commands on the wire. -/
def codec : Codec Command := commandPacket.refine toHci ofHci ofHci_toHci

/-- The command as it is written. -/
def packet (c : Command) : List UInt8 := codec.encode c

theorem packet_eq (c : Command) :
    c.packet = hciCommandPkt :: (bytes16 (cmdOpcodePack c.wrapper.form.ogf c.wrapper.form.ocf) ++
      UInt8.ofNat c.params.length :: c.params) := commandPacket_encode c.toHci

theorem packet_ne_nil (c : Command) : codec.encode c ≠ [] := by
  show c.packet ≠ []
  rw [packet_eq]
  exact List.cons_ne_nil _ _

theorem packet_scanParams : packet scanParams = scanParamsCommand := by
  rw [packet_eq]
  rfl

theorem packet_scanEnable (on : Bool) :
    packet (scanEnable on) = scanEnableCommand (if on then 0x01 else 0x00) := by
  rw [packet_eq]
  cases on <;> rfl

theorem packet_createConn (ble : BleDevice) :
    packet (createConn ble.addr) = connectCommand ble := by
  rw [packet_eq, wrapper]
  rfl

theorem packet_disconnect (handle : UInt16) :
    packet (disconnect handle) = disconnectCommand handle := by
  rw [packet_eq, wrapper]
  rfl

end Command

/-! ## What a call asks for -/

/-- A command that is written, or not. -/
def ReqEnv.asks (env : ReqEnv) (c : Command) : List Command := if env.Sent then [c] else []

theorem ReqEnv.writes_packet (env : ReqEnv) (c : Command) :
    env.writes c.packet = (env.asks c).map Command.packet := by
  unfold ReqEnv.writes ReqEnv.asks
  split <;> rfl

/--
The commands of a scan: the parameters, perhaps set again after scanning was switched off; then
scanning is switched on and off, in this order, and only when the parameters were the last.
-/
def ScanWord (cmds : List Command) : Prop :=
  ∃ setup scanning, cmds = setup ++ scanning ∧
    setup.Sublist [.scanParams, .scanEnable false, .scanParams] ∧
    scanning.Sublist [.scanEnable true, .scanEnable false] ∧
    (scanning ≠ [] → scanning.head? = some (.scanEnable true) ∧
      setup.getLast? = some .scanParams)

section

variable {env : ScanEnv} {s : Sock}

theorem scanSetParams_asks {env : CallEnv} {res : CallResult}
    (h : scanSetParams env s = .done res) :
    res.sock.sent = s.sent ++ (env.asks .scanParams).map Command.packet ∧
      (res.ret = 0 → env.Sent) := by
  refine ⟨?_, fun hret => ?_⟩
  · rw [← ReqEnv.writes_packet, Command.packet_scanParams]
    exact scanSetParams_sent h
  · obtain ⟨res', hd, h⟩ := Outcome.bind_eq_done.mp h
    cases h
    by_contra hns
    rw [(sendForStatus_sent hd).2 hns] at hret
    cases hret

theorem scanEnable_asks (on : Bool) {env : CallEnv} {res : CallResult}
    (h : scanEnable (if on then 0x01 else 0x00) env s = .done res) :
    res.sock.sent = s.sent ++ (env.asks (.scanEnable on)).map Command.packet ∧
      (res.ret = 0 → env.Sent) := by
  obtain ⟨hsent, hfail⟩ := scanEnable_sent h
  refine ⟨?_, fun hret => ?_⟩
  · rw [← ReqEnv.writes_packet, Command.packet_scanEnable]
    exact hsent
  · by_contra hns
    rw [hfail hns] at hret
    cases hret

theorem ReqEnv.asks_sublist (env : ReqEnv) (c : Command) : (env.asks c).Sublist [c] := by
  unfold ReqEnv.asks
  split
  · exact .refl _
  · exact List.nil_sublist _

/-- The parameters are the last that was set, if that succeeds. -/
theorem scanParams_asks {params : CallResult} (h : scanParams env s = .done params) :
    ∃ setup : List Command, params.sock.sent = s.sent ++ setup.map Command.packet ∧
      setup.Sublist [.scanParams, .scanEnable false, .scanParams] ∧
      (params.ret = 0 → setup.getLast? = some .scanParams) := by
  obtain ⟨first, hfirst, h⟩ := Outcome.bind_eq_done.mp h
  obtain ⟨hf, hfret⟩ := scanSetParams_asks hfirst
  have hsub : ∀ env : ReqEnv, (env.asks .scanParams).Sublist
      [.scanParams, .scanEnable false, .scanParams] := fun env =>
    (env.asks_sublist _).trans (by decide)
  split at h
  · split at h
    · cases h
      exact ⟨_, hf, hsub _, fun hret => by cases hret⟩
    · -- `EIO`: scanning may be on already, so it is switched off and the parameters set again
      obtain ⟨off, hoff, h⟩ := Outcome.bind_eq_done.mp h
      have ho := (scanEnable_asks false hoff).1
      rw [hf, List.append_assoc, ← List.map_append] at ho
      have hsub2 := (env.setParams.asks_sublist .scanParams).append
        (env.disable.asks_sublist (.scanEnable false))
      split at h
      · cases h
        exact ⟨_, ho, hsub2.trans (List.sublist_append_left _ [Command.scanParams]),
          fun hret => by cases hret⟩
      · obtain ⟨again, hagain, h⟩ := Outcome.bind_eq_done.mp h
        obtain ⟨ha, haret⟩ := scanSetParams_asks hagain
        rw [ho, List.append_assoc, ← List.map_append] at ha
        have hsub3 := hsub2.append (env.setParamsAgain.asks_sublist .scanParams)
        split at h
        · cases h
          exact ⟨_, ha, hsub3, fun hret => by cases hret⟩
        · next hret =>
          cases h
          refine ⟨_, ha, hsub3, fun _ => ?_⟩
          rw [ReqEnv.asks.eq_def env.setParamsAgain.toReqEnv, if_pos (haret (not_not.mp hret)),
            List.getLast?_append]
          rfl
  · next hret =>
    cases h
    refine ⟨_, hf, hsub _, fun _ => ?_⟩
    rw [ReqEnv.asks, if_pos (hfret (not_not.mp hret))]
    rfl

/-- Scanning is switched on only after the parameters were set. -/
theorem scanSetup_asks {up : CallResult} (h : scanSetup env s = .done up) :
    ∃ setup on : List Command, up.sock.sent = s.sent ++ (setup ++ on).map Command.packet ∧
      setup.Sublist [.scanParams, .scanEnable false, .scanParams] ∧
      on.Sublist [.scanEnable true] ∧ (on ≠ [] → setup.getLast? = some .scanParams) ∧
      (up.ret = 0 → on ≠ []) := by
  obtain ⟨params, hparams, h⟩ := Outcome.bind_eq_done.mp h
  obtain ⟨setup, hsent, hsub, hlast⟩ := scanParams_asks hparams
  split at h
  · cases h
    exact ⟨setup, [], by rw [List.append_nil]; exact hsent, hsub, List.nil_sublist _,
      fun hne => absurd rfl hne, fun hret => by cases hret⟩
  · next hret =>
    obtain ⟨on, hon, h⟩ := Outcome.bind_eq_done.mp h
    obtain ⟨hs, honret⟩ := scanEnable_asks true hon
    rw [hsent, List.append_assoc, ← List.map_append] at hs
    have hfirst : up.ret = 0 → env.enable.asks (.scanEnable true) ≠ [] := by
      intro hup
      have hz : on.ret = 0 := by
        by_contra hne
        rw [if_pos hne] at h
        cases h
        cases hup
      rw [ReqEnv.asks, if_pos (honret hz)]
      exact List.cons_ne_nil _ _
    refine ⟨setup, env.enable.asks (.scanEnable true), ?_, hsub, env.enable.asks_sublist _,
      fun _ => hlast (not_not.mp hret), hfirst⟩
    split at h <;> cases h <;> exact hs

/-- **What a scan asks for**, whatever the kernel answers. -/
theorem hciScanBle_asks {self : HciPtr} {hci : HciDevice} {bleList : BleList}
    {bleListLen scanTime : Int} {res : ScanResult}
    (h : hciScanBle self hci bleList bleListLen scanTime env s = .done res) :
    ∃ cmds, ScanWord cmds ∧ res.sock.sent = s.sent ++ cmds.map Command.packet := by
  cases hset : env.setFilter with
  | some e =>
    simp only [hciScanBle, hset, Outcome.done.injEq] at h
    refine ⟨[], ?_, ?_⟩
    · exact ⟨[], [], rfl, List.nil_sublist _, List.nil_sublist _, fun hne => absurd rfl hne⟩
    · rw [← h]
      exact (List.append_nil _).symm
  | none =>
    cases hup : scanSetup env (s.setFilter scanFilter none) with
    | blocked => simp [hciScanBle, hset, hup] at h
    | fault => simp [hciScanBle, hset, hup] at h
    | done up =>
      obtain ⟨setup, on, hsent, hsub, hon, hlast, hne⟩ := scanSetup_asks hup
      have hhead : on ≠ [] → on.head? = some (.scanEnable true) := fun hne' => by
        rcases List.sublist_singleton.mp hon with rfl | rfl
        · exact absurd rfl hne'
        · rfl
      by_cases hret : up.ret = 0
      · obtain ⟨-, s', off, hs', hoff, hsock⟩ := hciScanBle_of_setup_succeeds hset hup hret h
        have ho := (scanEnable_asks false hoff).1
        rw [hs', hsent, List.append_assoc, ← List.map_append] at ho
        refine ⟨_, ⟨setup, on ++ env.stop.asks (.scanEnable false), List.append_assoc .., hsub,
          hon.append (env.stop.asks_sublist _), fun _ => ⟨?_, hlast (hne hret)⟩⟩, ?_⟩
        · rw [List.head?_append, hhead (hne hret)]
          rfl
        · rw [hsock, Sock.setFilter_sent]
          exact ho
      · rw [hciScanBle_of_setup_fails hset hup hret, Outcome.done.injEq] at h
        refine ⟨_, ⟨setup, on, rfl, hsub, hon.trans (List.sublist_append_left _ _),
          fun hne' => ⟨hhead hne', hlast hne'⟩⟩, ?_⟩
        rw [← h]
        exact hsent

end

/-! ## Whole runs -/

namespace Client

/-- The commands that one call asks for. -/
def Asks (c : Client) : Op → List Command → Prop
  | .scan .., cmds => ScanWord cmds
  | .connect i env, cmds => cmds = env.asks (.createConn (c.list i).addr)
  | .disconnect i env, cmds => cmds = env.asks (.disconnect (c.list i).handle)

/-- The commands that calls ask for, one after the other. -/
def RunAsks : Client → List Op → List Command → Prop
  | _, [], cmds => cmds = []
  | c, op :: ops, cmds => ∃ now later c', c.Asks op now ∧ c.step op = .done c' ∧
      RunAsks c' ops later ∧ cmds = now ++ later

variable {c c' : Client}

theorem step_asks {op : Op} (h : c.step op = .done c') :
    ∃ cmds, c.Asks op cmds ∧ c'.sock.sent = c.sock.sent ++ cmds.map Command.packet := by
  cases op with
  | scan self hci bleListLen scanTime env =>
    obtain ⟨res, hres, h⟩ := Outcome.bind_eq_done.mp h
    cases h
    exact hciScanBle_asks hres
  | connect i env =>
    refine ⟨_, rfl, ?_⟩
    obtain ⟨res, hres, h⟩ := Outcome.bind_eq_done.mp h
    have hsent := bleConnect_sent hres
    rw [← Command.packet_createConn, ReqEnv.writes_packet] at hsent
    split at h <;> cases h <;> exact hsent
  | disconnect i env =>
    refine ⟨_, rfl, ?_⟩
    rw [disconnect_sent h, ← Command.packet_disconnect, ReqEnv.writes_packet]

/-- **What a run writes are the commands that its calls ask for, in their order.** -/
theorem run_asks : ∀ (ops : List Op) {c c' : Client}, c.run ops = .done c' →
    ∃ cmds, c.RunAsks ops cmds ∧ c'.sock.sent = c.sock.sent ++ cmds.map Command.packet
  | [], c, c', h => by
    cases h
    exact ⟨[], rfl, (List.append_nil _).symm⟩
  | op :: ops, c, c', h => by
    obtain ⟨c₁, hstep, hrun⟩ := Outcome.bind_eq_done.mp h
    obtain ⟨now, hnow, hsent⟩ := step_asks hstep
    obtain ⟨later, hlater, hrest⟩ := run_asks ops hrun
    refine ⟨now ++ later, ⟨now, later, c₁, hnow, hstep, hlater, rfl⟩, ?_⟩
    rw [hrest, hsent, List.append_assoc, List.map_append]

/--
**The bytes that a run writes are read in one way, as the commands that its calls asked for.**

Each connection is asked for at the address of its entry, each disconnection with its handle, and a
scan asks only for the commands of a scan.
-/
theorem run_wire {ops : List Op} (hsent : c.sock.sent = []) (hrun : c.run ops = .done c') :
    ∃ cmds, c.RunAsks ops cmds ∧ Command.codec.parse c'.sock.sent.flatten = some cmds := by
  obtain ⟨cmds, hasks, hcmds⟩ := run_asks ops hrun
  refine ⟨cmds, hasks, (Codec.parse_eq_some_iff Command.packet_ne_nil).mpr ?_⟩
  rw [hcmds, hsent, List.nil_append, List.flatMap_def]
  rfl

/-- Scan, connect the first entry, disconnect it. -/
theorem run_wire_scanned :
    ∃ c' cmds, fresh.run [.scan 0 .zero 5 1000 acceptedScan, .connect 0 (.answered otherConnected),
        .disconnect 0 (.answered otherDisconnected)] = .done c' ∧
      Command.codec.parse c'.sock.sent.flatten = some cmds := by
  obtain ⟨c', hrun⟩ : ∃ c', fresh.run [.scan 0 .zero 5 1000 acceptedScan,
      .connect 0 (.answered otherConnected), .disconnect 0 (.answered otherDisconnected)] =
        .done c' := ⟨_, rfl⟩
  obtain ⟨cmds, -, hparse⟩ := run_wire rfl hrun
  exact ⟨c', cmds, hrun, hparse⟩

end Client

end LinuxBle
