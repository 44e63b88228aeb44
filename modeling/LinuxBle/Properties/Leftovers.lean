import LinuxBle.Ble.Scan
import LinuxBle.Properties.Reply

/-!
# What the reply struct held before

The wrappers pass an uninitialised struct for the reply, and `hci_send_req` copies as many bytes
as it received. The wrappers do not look at `rlen` afterwards.

* `ReplyCall.run_of_completedBy` — what a call makes of the bytes in its struct
* `resultsReceived_iff` — when a result depends on received bytes only
-/

namespace LinuxBle

open Infra

variable {env : CallEnv} {s : Sock} {p : Packet}

/-! ## The calls -/

/-- The calls of `ble.c` that use a reply. -/
inductive ReplyCall where
  | connect (ble : BleDevice)
  | disconnect (ble : BleDevice)
  | scanSetParams
  | scanEnable (enable : UInt8)

/-- What a call shows: the result, the entry it works on, and the socket with its `errno`. -/
structure Shown where
  ret : Int
  ble : Option BleDevice
  sock : Sock

namespace ReplyCall

def request : ReplyCall → CallEnv → HciRequest
  | connect ble, env => bleConnectRequest ble env
  | disconnect ble, env => bleDisconnectRequest ble env
  | scanSetParams, env =>
    Wrapper.leSetScanParameters.request
      ([0x01] ++ bytes16 0x0010 ++ bytes16 0x0010 ++ [lePublicAddress, 0x00]) (env.uninit 1)
  | scanEnable enable, env =>
    Wrapper.leSetScanEnable.request (leSetScanEnableCp enable 0x00) (env.uninit 1)

def timeout : ReplyCall → Int
  | connect _ => bleConnectTimeout
  | disconnect _ => bleDisconnectTimeout
  | scanSetParams | scanEnable _ => 10000

/-- The entry has a device; without one the call does not get to its request. -/
def Ready : ReplyCall → Prop
  | connect ble | disconnect ble => ble.hci ≠ none
  | scanSetParams | scanEnable _ => True

/-- The call itself. -/
def run (env : CallEnv) (s : Sock) : ReplyCall → Outcome Shown
  | connect ble => do
    let res ← bleConnect ble env s
    pure ⟨res.ret, some res.ble, res.sock⟩
  | disconnect ble => do
    let res ← bleDisconnect ble env s
    pure ⟨res.ret, some res.ble, res.sock⟩
  | scanSetParams => do
    let res ← LinuxBle.scanSetParams env s
    pure ⟨res.ret, none, res.sock⟩
  | scanEnable enable => do
    let res ← LinuxBle.scanEnable enable env s
    pure ⟨res.ret, none, res.sock⟩

/-- The number of reply bytes that a call uses, by the status in the first one. -/
def uses : ReplyCall → UInt8 → Nat
  | connect _, status => if status = 0 then 3 else 1
  | _, _ => 1

theorem uses_connect (ble : BleDevice) (status : UInt8) :
    (connect ble).uses status = if status = 0 then 3 else 1 := rfl

/-- The entry before the call. -/
def entry : ReplyCall → Option BleDevice
  | connect ble | disconnect ble => some ble
  | scanSetParams | scanEnable _ => none

/-- The entry after a reply with status `0`. -/
def accepted (reply : Nat → UInt8) : ReplyCall → Option BleDevice
  | connect ble => some { ble with handle := le16 (reply 1) (reply 2) }
  | disconnect ble => some { ble with handle := 0 }
  | scanSetParams | scanEnable _ => none

/-- What a call makes of a reply. -/
def result (c : ReplyCall) (reply : Nat → UInt8) (sock : Sock) : Shown :=
  if reply 0 = 0 then ⟨0, c.accepted reply, sock⟩ else ⟨-1, c.entry, sock.withErrno .eio⟩

variable {c : ReplyCall}

theorem rlen_nonneg (c : ReplyCall) (env : CallEnv) : 0 ≤ (c.request env).rlen := by
  cases c with
  | connect ble => exact Wrapper.leCreateConn.rlen_nonneg
  | disconnect ble => exact Wrapper.disconnect.rlen_nonneg
  | scanSetParams => exact Wrapper.leSetScanParameters.rlen_nonneg
  | scanEnable enable => exact Wrapper.leSetScanEnable.rlen_nonneg

/-- The scan commands look at the status only. -/
theorem status_of_completedBy {w : Wrapper} {cparam : List UInt8} {timeout : Int}
    (hw : w.form.rlen = 1)
    (h : CompletedBy (w.request cparam (env.uninit 1)) timeout env.toReqEnv s p) :
    (do
      let res ← sendForStatus (w.request cparam (env.uninit 1)) timeout env.toReqEnv s
      pure (⟨res.ret, res.sock⟩ : CallResult)) =
    if env.replyByte p 0 = 0 then
      .done ⟨0, replySock (w.request cparam (env.uninit 1)) timeout env.toReqEnv s⟩
    else
      .done ⟨-1, (replySock (w.request cparam (env.uninit 1)) timeout env.toReqEnv s).withErrno
        .eio⟩ := by
  obtain ⟨r', hcopy, hd⟩ := sendForStatus_of_completedBy h
  have hbyte : r'.rparam.getD 0 0 = env.replyByte p 0 :=
    getD_reply (n := 1) rfl (by omega) (by show (0 : Int) < w.form.rlen; omega) hcopy
  rw [hbyte] at hd
  rw [hd]
  split <;> rfl

/-- **A completed call is decided by the bytes in its reply struct.** -/
theorem run_of_completedBy (hready : c.Ready)
    (h : CompletedBy (c.request env) c.timeout env.toReqEnv s p) :
    c.run env s =
      .done (c.result (env.replyByte p) (replySock (c.request env) c.timeout env.toReqEnv s)) := by
  unfold result
  by_cases hst : env.replyByte p 0 = 0
  · rw [if_pos hst]
    cases c with
    | connect ble =>
      rw [run, bleConnect_of_completedBy ⟨hready, h⟩, if_pos hst]
      rfl
    | disconnect ble =>
      rw [run, bleDisconnect_of_completedBy ⟨hready, h⟩, if_pos hst]
      rfl
    | scanSetParams =>
      have hd : LinuxBle.scanSetParams env s = _ := status_of_completedBy rfl h
      rw [run, hd, if_pos hst]
      rfl
    | scanEnable enable =>
      have hd : LinuxBle.scanEnable enable env s = _ := status_of_completedBy rfl h
      rw [run, hd, if_pos hst]
      rfl
  · rw [if_neg hst]
    cases c with
    | connect ble =>
      rw [run, bleConnect_of_completedBy ⟨hready, h⟩, if_neg hst]
      rfl
    | disconnect ble =>
      rw [run, bleDisconnect_of_completedBy ⟨hready, h⟩, if_neg hst]
      rfl
    | scanSetParams =>
      have hd : LinuxBle.scanSetParams env s = _ := status_of_completedBy rfl h
      rw [run, hd, if_neg hst]
      rfl
    | scanEnable enable =>
      have hd : LinuxBle.scanEnable enable env s = _ := status_of_completedBy rfl h
      rw [run, hd, if_neg hst]
      rfl

/-! ## Two runs -/

/-- The struct plays no part in what completes a call. -/
theorem completedBy_stack (stack : Nat → UInt8)
    (h : CompletedBy (c.request env) c.timeout env.toReqEnv s p) :
    CompletedBy (c.request { env with stack := stack }) c.timeout env.toReqEnv s p := by
  obtain ⟨hsent, hc, hp, t, ht, htp⟩ := (completedBy_iff (c.rlen_nonneg env)).mp h
  refine (completedBy_iff (c.rlen_nonneg _)).mpr ⟨hsent, ?_, hp, t, ?_, htp⟩
  · cases c <;> exact hc
  · cases c <;> exact ht

theorem replySock_stack (c : ReplyCall) (env : CallEnv) (stack : Nat → UInt8) (s : Sock) :
    replySock (c.request { env with stack := stack }) c.timeout env.toReqEnv s =
      replySock (c.request env) c.timeout env.toReqEnv s := by
  cases c <;> rfl

/-- The call over another stack. -/
theorem run_stack (stack : Nat → UInt8) (hready : c.Ready)
    (h : CompletedBy (c.request env) c.timeout env.toReqEnv s p) :
    c.run { env with stack := stack } s =
      .done (c.result (CallEnv.replyByte { env with stack := stack } p)
        (replySock (c.request env) c.timeout env.toReqEnv s)) := by
  rw [← replySock_stack c env stack s]
  exact run_of_completedBy hready (completedBy_stack stack h)

theorem one_le_uses (c : ReplyCall) (status : UInt8) : 1 ≤ c.uses status := by
  cases c with
  | connect ble =>
    rw [uses_connect]
    split <;> decide
  | disconnect ble => exact Nat.le_refl 1
  | scanSetParams => exact Nat.le_refl 1
  | scanEnable enable => exact Nat.le_refl 1

/-- Replies that agree in the bytes that are used have the same result. -/
theorem result_congr {reply reply' : Nat → UInt8} {sock : Sock}
    (h : ∀ i < c.uses (reply 0), reply i = reply' i) :
    c.result reply sock = c.result reply' sock := by
  unfold result
  rw [← h 0 (c.one_le_uses _)]
  by_cases hst : reply 0 = 0
  · rw [if_pos hst, if_pos hst]
    cases c with
    | connect ble =>
      rw [hst] at h
      unfold accepted
      rw [h 1 (by rw [uses_connect, if_pos rfl]; omega),
        h 2 (by rw [uses_connect, if_pos rfl]; omega)]
    | disconnect ble => rfl
    | scanSetParams => rfl
    | scanEnable enable => rfl
  · rw [if_neg hst, if_neg hst]

end ReplyCall

/-- What was received of the reply does not depend on the stack. -/
theorem replyByte_of_received {i : Nat} (h : i < p.payload.length) :
    env.replyByte p i = p.buf (p.payloadOffset + i) := by
  rw [Packet.length_payload] at h
  rw [CallEnv.replyByte, if_pos (by omega)]

/-- What was not received does. -/
theorem replyByte_of_not_received {i : Nat} (h : p.payload.length ≤ i)
    (hp : p.payloadOffset ≤ p.size) : env.replyByte p i = env.stack i := by
  rw [Packet.length_payload] at h
  rw [CallEnv.replyByte, if_neg (by omega)]

namespace ReplyCall

variable {c : ReplyCall}

theorem result_ret (c : ReplyCall) (reply : Nat → UInt8) (sock : Sock) :
    (c.result reply sock).ret = if reply 0 = 0 then 0 else -1 := by
  unfold result
  split <;> rfl

/-- The status is among the bytes that are used. -/
theorem replyByte_zero (env : CallEnv) (h : c.uses (p.buf p.payloadOffset) ≤ p.payload.length) :
    env.replyByte p 0 = p.buf p.payloadOffset :=
  replyByte_of_received (Nat.lt_of_lt_of_le (c.one_le_uses _) h)

/-- If the bytes that are used were received, the stack makes no difference. -/
theorem run_stack_eq (stack : Nat → UInt8) (hready : c.Ready)
    (h : CompletedBy (c.request env) c.timeout env.toReqEnv s p)
    (huses : c.uses (p.buf p.payloadOffset) ≤ p.payload.length) :
    c.run { env with stack := stack } s = c.run env s := by
  rw [run_of_completedBy hready h, run_stack stack hready h]
  congr 1
  refine result_congr fun i hi => ?_
  rw [replyByte_zero _ huses] at hi
  rw [replyByte_of_received (by omega), replyByte_of_received (by omega)]

/-- If the stack makes no difference, the bytes that are used were received. -/
theorem uses_le_of_independent (env : CallEnv) (sock : Sock) (hp : p.payloadOffset ≤ p.size)
    (h : ∀ stack, c.result (CallEnv.replyByte { env with stack := stack } p) sock =
      c.result (env.replyByte p) sock) :
    c.uses (p.buf p.payloadOffset) ≤ p.payload.length := by
  by_contra hlt
  by_cases hk : p.payload.length = 0
  · -- without a status, the stack decides between success and failure
    have hret := congrArg Shown.ret (h fun _ => if env.stack 0 = 0 then 1 else 0)
    rw [result_ret, result_ret, replyByte_of_not_received (by omega) hp,
      replyByte_of_not_received (by omega) hp] at hret
    by_cases hst : env.stack 0 = 0
    · simp [hst] at hret
    · simp [hst] at hret
  · have hstatus : ∀ env : CallEnv, env.replyByte p 0 = p.buf p.payloadOffset := fun env =>
      replyByte_of_received (by omega)
    cases c with
    | connect ble =>
      by_cases hst : p.buf p.payloadOffset = 0
      · -- the connection was made, but the high byte of the handle is not there
        rw [uses_connect, if_pos hst] at hlt
        let env' : CallEnv :=
          { env with stack := fun i => if i = 2 then env.stack 2 + 1 else env.stack i }
        have hlow : env'.replyByte p 1 = env.replyByte p 1 := rfl
        have hhigh : env.replyByte p 2 = env.stack 2 := replyByte_of_not_received (by omega) hp
        have hhigh' : env'.replyByte p 2 = env.stack 2 + 1 :=
          replyByte_of_not_received (by omega) hp
        have hble : ((connect ble).result (env'.replyByte p) sock).ble =
            ((connect ble).result (env.replyByte p) sock).ble := congrArg Shown.ble (h _)
        unfold result at hble
        rw [hstatus, hstatus, if_pos hst, if_pos hst] at hble
        simp only [accepted, Option.some.injEq, BleDevice.mk.injEq, true_and] at hble
        have hhandle := congrArg UInt16.toNat hble
        rw [toNat_le16, toNat_le16, hlow, hhigh, hhigh', UInt8.toNat_add] at hhandle
        have hone : (1 : UInt8).toNat = 1 := rfl
        omega
      · rw [uses_connect, if_neg hst] at hlt
        omega
    | disconnect ble => exact hlt (by show 1 ≤ _; omega)
    | scanSetParams => exact hlt (by show 1 ≤ _; omega)
    | scanEnable enable => exact hlt (by show 1 ≤ _; omega)

end ReplyCall

/-- A result depends on bytes only that the controller sent, and reports success only with them. -/
structure ResultsReceived (c : ReplyCall) (env : CallEnv) (s : Sock) : Prop where
  independent : ∀ p, c.Ready → CompletedBy (c.request env) c.timeout env.toReqEnv s p →
    ∀ stack, c.run { env with stack := stack } s = c.run env s
  success : ∀ p res, c.Ready → CompletedBy (c.request env) c.timeout env.toReqEnv s p →
    c.run env s = .done res → res.ret = 0 → c.uses 0 ≤ p.payload.length

/--
**A result depends on received bytes only exactly when every reply has the bytes that are used.**

These are the status, and the handle of a connection that was made.
-/
theorem resultsReceived_iff (c : ReplyCall) (env : CallEnv) (s : Sock) :
    ResultsReceived c env s ↔
      (c.Ready → env.Sent → ∀ t p, env.Reaches (c.request env) c.timeout t →
        t.Receives env.start c.timeout p → Completes (c.request env) p →
        p.payloadOffset ≤ p.size → c.uses (p.buf p.payloadOffset) ≤ p.payload.length) := by
  constructor
  · intro law hready hsent t p ht htp hc hp
    have hcomp : CompletedBy (c.request env) c.timeout env.toReqEnv s p :=
      (completedBy_iff (c.rlen_nonneg env)).mpr ⟨hsent, hc, hp, t, ht, htp⟩
    refine ReplyCall.uses_le_of_independent env
      (replySock (c.request env) c.timeout env.toReqEnv s) hp fun stack => ?_
    have hsame := law.independent p hready hcomp stack
    rw [ReplyCall.run_of_completedBy hready hcomp, ReplyCall.run_stack stack hready hcomp,
      Outcome.done.injEq] at hsame
    exact hsame
  · intro h
    have huses : ∀ p, c.Ready → CompletedBy (c.request env) c.timeout env.toReqEnv s p →
        c.uses (p.buf p.payloadOffset) ≤ p.payload.length := by
      intro p hready hcomp
      obtain ⟨hsent, hc, hp, t, ht, htp⟩ := (completedBy_iff (c.rlen_nonneg env)).mp hcomp
      exact h hready hsent t p ht htp hc hp
    constructor
    · intro p hready hcomp stack
      exact ReplyCall.run_stack_eq stack hready hcomp (huses p hready hcomp)
    · intro p res hready hcomp hres hret
      have hle := huses p hready hcomp
      rw [ReplyCall.run_of_completedBy hready hcomp, Outcome.done.injEq] at hres
      rw [← hres, ReplyCall.result_ret, ReplyCall.replyByte_zero env hle] at hret
      by_cases hst : p.buf p.payloadOffset = 0
      · rw [← hst]
        exact hle
      · rw [if_neg hst] at hret
        cases hret

/-- LE Connection Complete, cut off behind the subevent. -/
def truncatedConnected : Packet := .ofBytes [0x04, 0x3E, 0x01, 0x01] (by decide)

/-- Over a stack of zeros, it reports the connection `0x0000`. -/
theorem not_resultsReceived_truncatedConnected :
    ¬ResultsReceived (.connect (scannedDevice .zero)) (.answered truncatedConnected)
      ⟨hciFilterClear, [], .ofCode 0⟩ := by
  intro law
  have hready : (scannedDevice .zero).hci ≠ none := by decide
  have hlen := law.success truncatedConnected _ hready ⟨⟨rfl, rfl, rfl⟩, rfl, _, rfl⟩ rfl rfl
  exact absurd hlen (by decide)

/-! ## A whole scan -/

namespace ReplyCall

variable {c : ReplyCall}

/--
The result is determined: the wait of the call ends, if it does, at the deadline or with a reply
that has the bytes that are used.
-/
def Determined (c : ReplyCall) (env : CallEnv) : Prop :=
  env.Sent → ∀ e, env.waitEnd (c.request env) c.timeout = some e → e = .deadline ∨
    ∃ p, e = .completed p p.payloadOffset (p.size - p.payloadOffset) ∧
      p.payloadOffset ≤ p.size ∧ c.uses (p.buf p.payloadOffset) ≤ p.payload.length

/-- Without a packet that completes the request, the struct is passed back as it is. -/
theorem hciSendReq_unanswered {r : HciRequest} {timeout : Int} {env : ReqEnv}
    (h : env.Sent → ∀ p src len, env.waitEnd r timeout ≠ some (.completed p src len))
    (rparam : List UInt8) :
    hciSendReq { r with rparam := rparam } timeout env s = (do
      let res ← hciSendReq r timeout env s
      pure { res with req := { res.req with rparam := rparam } }) := by
  by_cases hin : env.FilterIn
  · cases hs : env.send with
    | none =>
      rw [hciSendReq_of_unsent hin hs, hciSendReq_of_unsent hin hs]
      rfl
    | some w =>
      cases w with
      | some e =>
        rw [hciSendReq_of_sendFails hin hs, hciSendReq_of_sendFails hin hs]
        rfl
      | none =>
        have hwait : env.waitEnd { r with rparam := rparam } timeout = env.waitEnd r timeout := rfl
        rw [hciSendReq_eq ⟨hin.1, hin.2, hs⟩, hciSendReq_eq ⟨hin.1, hin.2, hs⟩, hwait]
        cases he : env.waitEnd r timeout with
        | none => rfl
        | some e =>
          cases e with
          | completed p src len => exact absurd he (h ⟨hin.1, hin.2, hs⟩ p src len)
          | deadline => rfl
          | selectError e => rfl
          | readError e => rfl
          | endOfFile => rfl
          | refused => rfl
  · unfold hciSendReq
    cases hget : env.getsockopt with
    | some e => rfl
    | none =>
      cases hset : env.setsockopt with
      | some e => rfl
      | none => exact absurd ⟨hget, hset⟩ hin

/-- The call after a request that failed, or that does not come back. -/
theorem run_of_failed (hready : c.Ready)
    (h : ∀ res, hciSendReq (c.request env) c.timeout env.toReqEnv s = .done res → res.ret < 0) :
    c.run env s = (do
      let res ← hciSendReq (c.request env) c.timeout env.toReqEnv s
      pure ⟨-1, c.entry, res.sock⟩) := by
  have hd : sendForStatus (c.request env) c.timeout env.toReqEnv s = (do
      let res ← hciSendReq (c.request env) c.timeout env.toReqEnv s
      pure { res with ret := -1 }) := by
    unfold sendForStatus
    cases hx : hciSendReq (c.request env) c.timeout env.toReqEnv s with
    | blocked => rfl
    | fault => rfl
    | done res =>
      rw [Outcome.done_bind, if_pos (h res hx)]
      rfl
  cases c with
  | connect ble =>
    obtain ⟨q, hq⟩ := Option.ne_none_iff_exists'.mp hready
    have hcall : hciLeCreateConn (bleConnectCp ble) bleConnectTimeout env s = _ :=
      congrArg (fun x => x >>= _) hd
    rw [run, bleConnect, hq]
    simp only [hcall]
    cases hciSendReq ((connect ble).request env) (connect ble).timeout env.toReqEnv s <;> rfl
  | disconnect ble =>
    obtain ⟨q, hq⟩ := Option.ne_none_iff_exists'.mp hready
    have hcall :
        hciDisconnect ble.handle hciOeUserEndedConnection bleDisconnectTimeout env s = _ :=
      congrArg (fun x => x >>= _) hd
    rw [run, bleDisconnect, hq]
    simp only [hcall]
    cases hciSendReq ((disconnect ble).request env) (disconnect ble).timeout env.toReqEnv s <;> rfl
  | scanSetParams =>
    have hcall : LinuxBle.scanSetParams env s = _ := congrArg (fun x => x >>= _) hd
    rw [run, hcall]
    cases hciSendReq (scanSetParams.request env) scanSetParams.timeout env.toReqEnv s <;> rfl
  | scanEnable enable =>
    have hcall : LinuxBle.scanEnable enable env s = _ := congrArg (fun x => x >>= _) hd
    rw [run, hcall]
    cases hciSendReq ((scanEnable enable).request env) (scanEnable enable).timeout env.toReqEnv s
      <;> rfl

theorem run_of_not_ready (hready : ¬c.Ready) : c.run env s = .fault := by
  cases c with
  | connect ble =>
    rw [run, bleConnect, not_not.mp hready]
    rfl
  | disconnect ble =>
    rw [run, bleDisconnect, not_not.mp hready]
    rfl
  | scanSetParams => exact absurd trivial hready
  | scanEnable enable => exact absurd trivial hready

/-- A determined call that no reply completes fails, if it comes back. -/
theorem Determined.neg {res : ReqResult} (h : c.Determined env)
    (hno : ∀ p, ¬CompletedBy (c.request env) c.timeout env.toReqEnv s p)
    (hres : hciSendReq (c.request env) c.timeout env.toReqEnv s = .done res) : res.ret < 0 := by
  rcases hciSendReq_done_cases hres with ⟨-, e, rfl⟩ | ⟨-, e, -, rfl⟩ | ⟨hsent, e, x, he, hx, hxres⟩
  · exact (by decide : (-1 : Int) < 0)
  · exact (by decide : (-1 : Int) < 0)
  · rcases h hsent e he with rfl | ⟨p, rfl, -, -⟩
    · cases hx
      rw [hxres]
      exact (by decide : (-1 : Int) < 0)
    · exact absurd ⟨hsent, he, res, hres⟩ (hno p)

theorem Determined.uses_le (h : c.Determined env)
    (hcomp : CompletedBy (c.request env) c.timeout env.toReqEnv s p) :
    c.uses (p.buf p.payloadOffset) ≤ p.payload.length := by
  rcases h hcomp.1 _ hcomp.2.1 with he | ⟨q, he, -, hle⟩
  · cases he
  · rw [ReqEnd.completed.injEq] at he
    rw [he.1]
    exact hle

/-- The wait of a determined call ends with a packet only if that completes the call. -/
theorem Determined.waitEnd_ne (h : c.Determined env)
    (hno : ∀ p, ¬CompletedBy (c.request env) c.timeout env.toReqEnv s p) (hsent : env.Sent)
    (p : Packet) (src : Nat) (len : Int) :
    env.waitEnd (c.request env) c.timeout ≠ some (.completed p src len) := by
  intro he
  rcases h hsent _ he with hd | ⟨q, hq, hsize, -⟩
  · cases hd
  · rw [hq] at he
    obtain ⟨t, ht, hte⟩ := waitEnd_eq_some_iff.mp he
    obtain ⟨htq, hc⟩ := turnEnd_eq_completed_iff.mp hte
    exact hno q ((completedBy_iff (c.rlen_nonneg env)).mpr ⟨hsent, hc, hsize, t, ht, htq⟩)

/-- **A determined call shows the same over every stack.** -/
theorem Determined.run_stack (h : c.Determined env) (stack : Nat → UInt8) (s : Sock) :
    c.run { env with stack := stack } s = c.run env s := by
  by_cases hready : c.Ready
  · by_cases hcomp : ∃ p, CompletedBy (c.request env) c.timeout env.toReqEnv s p
    · obtain ⟨p, hcomp⟩ := hcomp
      exact run_stack_eq stack hready hcomp (h.uses_le hcomp)
    · -- both calls fail, or both wait
      have hno : ∀ p, ¬CompletedBy (c.request env) c.timeout env.toReqEnv s p :=
        fun p hp => hcomp ⟨p, hp⟩
      have hreq : c.request { env with stack := stack } =
          { c.request env with rparam := (c.request { env with stack := stack }).rparam } := by
        cases c <;> rfl
      have hsend := hciSendReq_unanswered (s := s) (h.waitEnd_ne hno)
        (c.request { env with stack := stack }).rparam
      rw [← hreq] at hsend
      rw [run_of_failed hready fun res => h.neg hno, run_of_failed hready fun res hres => ?_]
      · rw [hsend]
        cases hciSendReq (c.request env) c.timeout env.toReqEnv s <;> rfl
      · rw [hsend] at hres
        obtain ⟨res', hres', hpure⟩ := Outcome.bind_eq_done.mp hres
        cases hpure
        show res'.ret < 0
        exact h.neg hno hres'
  · rw [run_of_not_ready hready, run_of_not_ready hready]

end ReplyCall

/-- A command without an entry shows all of its result. -/
theorem callResult_of_shown {x y : Outcome CallResult}
    (h : (do let res ← x; pure (Shown.mk res.ret none res.sock)) =
      (do let res ← y; pure (Shown.mk res.ret none res.sock))) : x = y := by
  cases x with
  | blocked => cases y <;> first | rfl | cases h
  | fault => cases y <;> first | rfl | cases h
  | done a =>
    cases y with
    | blocked => cases h
    | fault => cases h
    | done b =>
      obtain ⟨ret, sock⟩ := a
      obtain ⟨ret', sock'⟩ := b
      cases h
      rfl

theorem eq_withStack {env env' : CallEnv} (h : env.toReqEnv = env'.toReqEnv) :
    env' = { env with stack := env'.stack } := by
  cases env
  cases env'
  cases h
  rfl

theorem scanSetParams_sameAnswers {env env' : CallEnv} (hsame : env.toReqEnv = env'.toReqEnv)
    (h : ReplyCall.scanSetParams.Determined env) : scanSetParams env = scanSetParams env' := by
  funext s
  rw [eq_withStack hsame]
  exact (callResult_of_shown (h.run_stack env'.stack s)).symm

theorem scanEnable_sameAnswers {env env' : CallEnv} {enable : UInt8}
    (hsame : env.toReqEnv = env'.toReqEnv) (h : (ReplyCall.scanEnable enable).Determined env) :
    scanEnable enable env = scanEnable enable env' := by
  funext s
  rw [eq_withStack hsame]
  exact (callResult_of_shown (h.run_stack env'.stack s)).symm

/-- Two scans that get the same answers, over whatever stacks. -/
structure ScanEnv.SameAnswers (env env' : ScanEnv) : Prop where
  start : env.start = env'.start
  setFilter : env.setFilter = env'.setFilter
  setParams : env.setParams.toReqEnv = env'.setParams.toReqEnv
  disable : env.disable.toReqEnv = env'.disable.toReqEnv
  setParamsAgain : env.setParamsAgain.toReqEnv = env'.setParamsAgain.toReqEnv
  enable : env.enable.toReqEnv = env'.enable.toReqEnv
  turns : env.turns = env'.turns
  stop : env.stop.toReqEnv = env'.stop.toReqEnv
  resetFilter : env.resetFilter = env'.resetFilter

/-- The commands of a scan are determined. -/
structure ScanEnv.Determined (env : ScanEnv) : Prop where
  setParams : ReplyCall.scanSetParams.Determined env.setParams
  disable : (ReplyCall.scanEnable 0x00).Determined env.disable
  setParamsAgain : ReplyCall.scanSetParams.Determined env.setParamsAgain
  enable : (ReplyCall.scanEnable 0x01).Determined env.enable
  stop : (ReplyCall.scanEnable 0x00).Determined env.stop

/-- **A scan with determined commands issues the same commands over every stack.** -/
theorem hciScanBle_sameAnswers {env env' : ScanEnv} (hsame : env.SameAnswers env')
    (h : env.Determined) (self : HciPtr) (hci : HciDevice) (bleList : BleList)
    (bleListLen scanTime : Int) (s : Sock) :
    hciScanBle self hci bleList bleListLen scanTime env s =
      hciScanBle self hci bleList bleListLen scanTime env' s := by
  unfold hciScanBle scanSetup scanParams scanFinish
  simp only [scanSetParams_sameAnswers hsame.setParams h.setParams,
    scanEnable_sameAnswers hsame.disable h.disable,
    scanSetParams_sameAnswers hsame.setParamsAgain h.setParamsAgain,
    scanEnable_sameAnswers hsame.enable h.enable, scanEnable_sameAnswers hsame.stop h.stop,
    hsame.start, hsame.setFilter, hsame.turns, hsame.resetFilter]

end LinuxBle
