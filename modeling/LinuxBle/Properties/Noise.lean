import LinuxBle.Properties.Reply
import LinuxBle.Properties.Handles

/-!
# Packets that nobody waits for

The socket is shared: while a command waits, reports of a running scan arrive, and while a scan
listens, replies to old commands do. A wait reads such packets and drops them.

* `Client.step_noised` — they change nothing, whatever the caller does
* `Client.run_reported` — in particular advertising reports never disturb a command
-/

namespace LinuxBle

open Infra

/-! ## Listeners -/

/-- The waits of the library: for the reply to a command, and for advertising reports. -/
inductive Listener where
  | command (w : Wrapper)
  | reports

/-- A listener reads the packet and goes on as if it had not come. -/
def Listener.Ignores : Listener → Packet → Prop
  | command w, p => ∀ cparam rparam, dispatch (w.request cparam rparam) p = .skip
  | reports, p => ¬p.Named

/-- An iteration within the time that receives such a packet. -/
def Turn.Brings (t : Turn) (N : Packet → Prop) (start limit : Int) : Prop :=
  ∃ p, t.Receives start limit p ∧ N p

/-- `env'` is `env` with such packets put into its wait. -/
def ReqEnv.NoisedBy (N : Packet → Prop) (timeout : Int) (env env' : ReqEnv) : Prop :=
  ∃ turns, env' = { env with turns := turns } ∧
    Padded (fun t => t.Brings N env.start timeout) env.turns turns

def CallEnv.NoisedBy (N : Packet → Prop) (timeout : Int) (env env' : CallEnv) : Prop :=
  ∃ turns, env' = { env with turns := turns } ∧
    Padded (fun t => t.Brings N env.start timeout) env.turns turns

/-- `env'` is `env` with such packets put into each of its waits. -/
structure ScanEnv.NoisedBy (N : Listener → Packet → Prop) (scanTime : Int)
    (env env' : ScanEnv) : Prop where
  start : env'.start = env.start
  setFilter : env'.setFilter = env.setFilter
  setParams : env.setParams.NoisedBy (N (.command .leSetScanParameters)) 10000 env'.setParams
  disable : env.disable.NoisedBy (N (.command .leSetScanEnable)) 10000 env'.disable
  setParamsAgain :
    env.setParamsAgain.NoisedBy (N (.command .leSetScanParameters)) 10000 env'.setParamsAgain
  enable : env.enable.NoisedBy (N (.command .leSetScanEnable)) 10000 env'.enable
  turns : Padded (fun t => t.Brings (N .reports) env.start scanTime) env.turns env'.turns
  stop : env.stop.NoisedBy (N (.command .leSetScanEnable)) 10000 env'.stop
  resetFilter : env'.resetFilter = env.resetFilter

namespace Client

/-- The same call, with such packets put into its waits. -/
inductive Op.NoisedBy (N : Listener → Packet → Prop) : Op → Op → Prop
  | scan {self : HciPtr} {hci : HciDevice} {bleListLen : Nat} {scanTime : Int}
      {env env' : ScanEnv} : env.NoisedBy N scanTime env' →
      Op.NoisedBy N (.scan self hci bleListLen scanTime env)
        (.scan self hci bleListLen scanTime env')
  | connect {i : Nat} {env env' : CallEnv} :
      env.NoisedBy (N (.command .leCreateConn)) bleConnectTimeout env' →
      Op.NoisedBy N (.connect i env) (.connect i env')
  | disconnect {i : Nat} {env env' : CallEnv} :
      env.NoisedBy (N (.command .disconnect)) bleDisconnectTimeout env' →
      Op.NoisedBy N (.disconnect i env) (.disconnect i env')

/-- The calls of a caller, one after the other. -/
def run (c : Client) : List Op → Outcome Client
  | [] => .done c
  | op :: ops => do
    let c ← c.step op
    c.run ops

end Client

/-! ## Ignored packets leave no trace -/

section

variable {w : Wrapper} {cparam rparam : List UInt8} {timeout : Int}

/-- A wait that reads an ignored packet goes on in the state it was in. -/
theorem reqBody_of_ignored {N : Packet → Prop} {start ret : Int} {errno : Errno} {t : Turn}
    (hN : ∀ p, N p → (Listener.command w).Ignores p) (h : t.Brings N start timeout) :
    reqBody (w.request cparam rparam) start timeout ret errno t = .next errno := by
  obtain ⟨p, ⟨hl, hw, hp⟩, hn⟩ := h
  simp only [reqBody, if_neg hl, hw, if_neg hp, hN p hn cparam rparam]

/-- **Packets that a command ignores leave no trace in `hci_send_req`.** -/
theorem hciSendReq_noised {N : Packet → Prop} {env env' : ReqEnv} {s : Sock}
    (hN : ∀ p, N p → (Listener.command w).Ignores p) (h : env.NoisedBy N timeout env') :
    hciSendReq (w.request cparam rparam) timeout env' s =
      hciSendReq (w.request cparam rparam) timeout env s := by
  obtain ⟨turns, rfl, hp⟩ := h
  have hbody : ∀ ret errno t, t.Brings N env.start timeout →
      reqBody (w.request cparam rparam) env.start timeout ret errno t = .next errno :=
    fun ret errno t ht => reqBody_of_ignored hN ht
  have hloop := fun ret => loop_padded_eq (hbody ret) hp
  unfold hciSendReq
  simp only [hloop]
  rfl

theorem sendForStatus_noised {N : Packet → Prop} {env env' : ReqEnv} {s : Sock}
    (hN : ∀ p, N p → (Listener.command w).Ignores p) (h : env.NoisedBy N timeout env') :
    sendForStatus (w.request cparam rparam) timeout env' s =
      sendForStatus (w.request cparam rparam) timeout env s := by
  unfold sendForStatus
  rw [hciSendReq_noised hN h]

theorem CallEnv.NoisedBy.toReqEnv {N : Packet → Prop} {env env' : CallEnv}
    (h : env.NoisedBy N timeout env') : env.toReqEnv.NoisedBy N timeout env'.toReqEnv := by
  obtain ⟨turns, rfl, hp⟩ := h
  exact ⟨turns, rfl, hp⟩

theorem CallEnv.NoisedBy.uninit {N : Packet → Prop} {env env' : CallEnv}
    (h : env.NoisedBy N timeout env') (n : Nat) : env'.uninit n = env.uninit n := by
  obtain ⟨turns, rfl, -⟩ := h
  rfl

end

/-! ## Whole calls -/

section

variable {N : Listener → Packet → Prop} (hN : ∀ l p, N l p → l.Ignores p)
include hN

theorem scanEnable_noised {enable : UInt8} {env env' : CallEnv} {s : Sock}
    (h : env.NoisedBy (N (.command .leSetScanEnable)) 10000 env') :
    scanEnable enable env' s = scanEnable enable env s := by
  unfold scanEnable hciLeSetScanEnable
  simp only [h.uninit, sendForStatus_noised (hN _) h.toReqEnv]

theorem scanSetParams_noised {env env' : CallEnv} {s : Sock}
    (h : env.NoisedBy (N (.command .leSetScanParameters)) 10000 env') :
    scanSetParams env' s = scanSetParams env s := by
  unfold scanSetParams hciLeSetScanParameters
  simp only [h.uninit, sendForStatus_noised (hN _) h.toReqEnv]

theorem scanSetup_noised {scanTime : Int} {env env' : ScanEnv} {s : Sock}
    (h : env.NoisedBy N scanTime env') : scanSetup env' s = scanSetup env s := by
  unfold scanSetup scanParams
  simp only [scanSetParams_noised hN h.setParams, scanEnable_noised hN h.disable,
    scanSetParams_noised hN h.setParamsAgain, scanEnable_noised hN h.enable]

/-- A listening scan that reads an ignored packet goes on in the state it was in. -/
theorem scanBody_of_ignored {self : HciPtr} {bleListLen start scanTime : Int} {st : ScanState}
    {t : Turn} (h : t.Brings (N .reports) start scanTime) :
    scanBody self bleListLen start scanTime st t = .next st := by
  obtain ⟨p, ⟨hl, hw, hp⟩, hn⟩ := h
  simp only [scanBody, if_neg hl, hw, if_neg hp, scanPacket_of_not_named (hN .reports p hn)]

/-- **Ignored packets leave no trace in `hci_scan_ble`.** -/
theorem hciScanBle_noised {self : HciPtr} {hci : HciDevice} {bleList : BleList}
    {bleListLen scanTime : Int} {env env' : ScanEnv} {s : Sock}
    (h : env.NoisedBy N scanTime env') :
    hciScanBle self hci bleList bleListLen scanTime env' s =
      hciScanBle self hci bleList bleListLen scanTime env s := by
  have hbody : ∀ st t, t.Brings (N .reports) env.start scanTime →
      scanBody self bleListLen env.start scanTime st t = .next st :=
    fun st t ht => scanBody_of_ignored hN ht
  have hloop := loop_padded_eq hbody h.turns
  have hfinish : ∀ s x, scanFinish hci env' s x = scanFinish hci env s x := fun s x => by
    unfold scanFinish
    rw [scanEnable_noised hN h.stop, h.resetFilter]
  unfold hciScanBle
  simp only [h.setFilter, h.start, scanSetup_noised hN h, hloop, hfinish]

theorem bleConnect_noised {ble : BleDevice} {env env' : CallEnv} {s : Sock}
    (h : env.NoisedBy (N (.command .leCreateConn)) bleConnectTimeout env') :
    bleConnect ble env' s = bleConnect ble env s := by
  unfold bleConnect hciLeCreateConn leCreateConnRequest
  rw [h.uninit, sendForStatus_noised (hN _) h.toReqEnv]

theorem bleDisconnect_noised {ble : BleDevice} {env env' : CallEnv} {s : Sock}
    (h : env.NoisedBy (N (.command .disconnect)) bleDisconnectTimeout env') :
    bleDisconnect ble env' s = bleDisconnect ble env s := by
  unfold bleDisconnect hciDisconnect disconnectRequest
  rw [h.uninit, sendForStatus_noised (hN _) h.toReqEnv]

namespace Client

/-- **Ignored packets leave no trace in any call of a caller.** -/
theorem step_noised {c : Client} {op op' : Op} (h : op.NoisedBy N op') :
    c.step op' = c.step op := by
  cases h with
  | scan h =>
    simp only [step, scan]
    rw [hciScanBle_noised hN h]
  | connect h =>
    simp only [step, connect]
    rw [bleConnect_noised hN h]
  | disconnect h =>
    simp only [step, disconnect]
    rw [bleDisconnect_noised hN h]

/-- Nor in a whole run. -/
theorem run_noised {ops ops' : List Op} (h : List.Forall₂ (Op.NoisedBy N) ops ops') :
    ∀ c : Client, c.run ops' = c.run ops := by
  induction h with
  | nil => exact fun c => rfl
  | cons hop _ ih =>
    intro c
    rw [run, run, step_noised hN hop]
    exact congrArg (c.step _ >>= ·) (funext ih)

end Client

end

/-! ## Advertising reports -/

/-- An LE advertising report, whatever it carries. -/
def Packet.IsReport (p : Packet) : Prop :=
  p.buf 1 = evtLeMetaEvent ∧ p.buf 3 = evtLeAdvertisingReport

/-- No command of the library waits for the number of advertising reports. -/
theorem Wrapper.awaits_ne_report (w : Wrapper) :
    w.form.awaits.code ≠ evtLeAdvertisingReport.toNat := by
  cases w <;> decide

theorem ignores_of_isReport (w : Wrapper) {p : Packet} (h : p.IsReport) :
    (Listener.command w).Ignores p := by
  intro cparam rparam
  rw [dispatch_leMeta h.1, h.2]
  exact if_pos fun hr => w.awaits_ne_report hr.symm

/-- Advertising reports, put in wherever a command waits. -/
def ReportsAtCommands : Listener → Packet → Prop
  | .command _, p => p.IsReport
  | .reports, _ => False

/--
**Advertising reports never disturb a command.**

Reports may arrive in any number while the commands of a scan, a connect or a disconnect wait:
every run of calls comes to the same state, and the devices they name are not recorded.
-/
theorem Client.run_reported (c : Client) {ops ops' : List Op}
    (h : List.Forall₂ (Op.NoisedBy ReportsAtCommands) ops ops') : c.run ops' = c.run ops := by
  refine run_noised (fun l p hp => ?_) h c
  cases l with
  | command w => exact ignores_of_isReport w hp
  | reports => exact hp.elim

/-- The named report arrives while scanning is being started. -/
theorem Client.run_reported_whileStarting :
    (Client.fresh).run [.scan 0 .zero 5 1000 { acceptedScan with
      enable := { acceptedScan.enable with
        turns := ⟨0, .ready (.got namedReport)⟩ :: acceptedScan.enable.turns } }] =
    (Client.fresh).run [.scan 0 .zero 5 1000 acceptedScan] := by
  refine run_reported fresh (.cons (.scan ?_) .nil)
  refine ⟨rfl, rfl, ⟨_, rfl, Padded.refl _⟩, ⟨_, rfl, Padded.refl _⟩, ⟨_, rfl, Padded.refl _⟩,
    ⟨_, rfl, .pad _ ?_ (Padded.refl _)⟩, Padded.refl _, ⟨_, rfl, Padded.refl _⟩, rfl⟩
  exact ⟨namedReport, ⟨(by decide : ¬(0 : Int) - 0 > 10000), rfl, by decide⟩, rfl, rfl⟩

end LinuxBle
