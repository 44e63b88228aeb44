import Mathlib.Tactic.ByContra
import LinuxBle.Properties.SendReq
import LinuxBle.Ble.Connect

/-!
# Which event completes a call

* `numberingsApart_iff` — when a wrapper is completed by no event of the other numbering
* `connectAttributed_iff` — when a successful `ble_connect` has connected to its own device
* `disconnectAttributed_iff` — when `ble_disconnect` is completed by its own connection only
-/

namespace LinuxBle

open Infra

variable {r : HciRequest} {timeout : Int} {env : ReqEnv} {s : Sock} {p : Packet}

/-! ## Replies -/

/-- The reply has the bytes of the packet, and behind them what was there before. -/
theorem getD_copyReply {r' : HciRequest} {src : Nat} {len : Int}
    (h : copyReply r p src len = some r') (i : Nat) :
    r'.rparam.getD i 0 =
      if (i : Int) < min len r.rlen then p.buf (src + i) else r.rparam.getD i 0 := by
  unfold copyReply at h
  simp only at h
  split at h
  · cases h
  · next hn =>
    rw [Option.some.injEq] at h
    subst h
    simp only [List.getD_eq_getElem?_getD, List.getElem?_append, Packet.length_slice]
    by_cases hi : (i : Int) < min len r.rlen
    · have hi' : i < (min len r.rlen).toNat := by omega
      rw [if_pos hi', if_pos hi]
      simp [Packet.slice, hi']
    · have hi' : ¬i < (min len r.rlen).toNat := by omega
      rw [if_neg hi', if_neg hi, List.getElem?_drop]
      congr 2
      omega

/-- The wait ends with the packet `p`, which completes the request, and the call returns. -/
def CompletedBy (r : HciRequest) (timeout : Int) (env : ReqEnv) (s : Sock) (p : Packet) : Prop :=
  env.Sent ∧
    env.waitEnd r timeout = some (.completed p p.payloadOffset (p.size - p.payloadOffset)) ∧
    ∃ res, hciSendReq r timeout env s = .done res

/-- The socket that a completed request leaves. -/
def replySock (r : HciRequest) (timeout : Int) (env : ReqEnv) (s : Sock) : Sock :=
  ((waitSock r env s).setFilter s.filter env.restore).withErrno
    (waitErrno r timeout env (waitSock r env s).errno)

theorem hciSendReq_of_completed {src : Nat} {len : Int} (h : env.Sent)
    (he : env.waitEnd r timeout = some (.completed p src len)) :
    (copyReply r p src len = none ∧ hciSendReq r timeout env s = .fault) ∨
    ∃ r', copyReply r p src len = some r' ∧
      hciSendReq r timeout env s = .done ⟨0, r', replySock r timeout env s⟩ := by
  rw [hciSendReq_eq h, he]
  simp only [reqExit]
  cases copyReply r p src len with
  | none => exact Or.inl ⟨rfl, rfl⟩
  | some r' => exact Or.inr ⟨r', rfl, rfl⟩

/-- **What a completed request returns**: `0`, and the reply. -/
theorem CompletedBy.result (h : CompletedBy r timeout env s p) :
    ∃ r', copyReply r p p.payloadOffset (p.size - p.payloadOffset) = some r' ∧
      hciSendReq r timeout env s = .done ⟨0, r', replySock r timeout env s⟩ := by
  obtain ⟨hsent, he, res, hres⟩ := h
  rcases hciSendReq_of_completed (s := s) hsent he with ⟨-, hf⟩ | hd
  · rw [hf] at hres
    cases hres
  · exact hd

/-- **The packets that complete a request**, among those that arrive while it waits. -/
theorem completedBy_iff (hr : 0 ≤ r.rlen) :
    CompletedBy r timeout env s p ↔
      env.Sent ∧ Completes r p ∧ p.payloadOffset ≤ p.size ∧
        ∃ t, env.Reaches r timeout t ∧ t.Receives env.start timeout p := by
  constructor
  · intro h
    obtain ⟨r', hcopy, -⟩ := h.result
    obtain ⟨hsent, he, -⟩ := h
    obtain ⟨t, ht, hte⟩ := waitEnd_eq_some_iff.mp he
    obtain ⟨htp, hc⟩ := turnEnd_eq_completed_iff.mp hte
    exact ⟨hsent, hc, (copyReply_isSome hr).mp ⟨r', hcopy⟩, t, ht, htp⟩
  · rintro ⟨hsent, hc, hp, t, ht, htp⟩
    have he := waitEnd_eq_some_iff.mpr ⟨t, ht, turnEnd_eq_completed_iff.mpr ⟨htp, hc⟩⟩
    refine ⟨hsent, he, ?_⟩
    rcases hciSendReq_of_completed (s := s) hsent he with ⟨hn, -⟩ | ⟨r', -, hd⟩
    · obtain ⟨r', hr'⟩ := (copyReply_isSome hr).mpr hp
      rw [hn] at hr'
      cases hr'
    · exact ⟨_, hd⟩

/-! ## The two numberings -/

/-- An event of the other numbering that happens to have the number waited for. -/
def Awaits.ConfusedBy : Awaits → Packet → Prop
  | leSubevent c, p => p.buf 1 ≠ evtLeMetaEvent ∧ p.buf 1 = c
  | a, p => p.buf 1 = evtLeMetaEvent ∧ a.code = (p.buf 3).toNat

/-- No subevent that a wrapper waits for is the code of an event with a branch of its own. -/
theorem Wrapper.not_hasBranch {w : Wrapper} {c : UInt8} (h : w.form.awaits = .leSubevent c)
    (hp : p.buf 1 = c) : ¬p.HasBranch := by
  unfold Packet.HasBranch
  rw [hp]
  cases w <;> cases h <;> decide

/-- **The `switch` does not keep the numberings apart**: every confusing event completes. -/
theorem completes_of_confusedBy {w : Wrapper} {cparam rparam : List UInt8}
    (h : w.form.awaits.ConfusedBy p) : Completes (w.request cparam rparam) p := by
  unfold Completes
  show _ ∨ _ ∨ _ ∨ (_ ∧ w.form.awaits.code = _) ∨ (_ ∧ w.form.awaits.code = _)
  cases ha : w.form.awaits with
  | leSubevent c =>
    -- such an event reaches the default branch, which compares its code
    rw [ha] at h
    exact .inr (.inr (.inr (.inr ⟨Wrapper.not_hasBranch ha h.2, by rw [h.2]; rfl⟩)))
  | nothing =>
    rw [ha] at h
    exact .inr (.inr (.inr (.inl h)))
  | event c =>
    rw [ha] at h
    exact .inr (.inr (.inr (.inl h)))

/-- The filter of a request is about events. -/
theorem hciFilterTestPtype_reqFilter (event : Int) (opcode : UInt16) :
    hciFilterTestPtype hciEventPkt.toNat (reqFilter event opcode) = true := by
  show hciFilterTestPtype _ (hciFilterSetPtype hciEventPkt.toNat hciFilterClear) = true
  decide

/-- It lets every event through that would complete the request. -/
theorem reqFilter_admits (h : Completes r p) :
    hciFilterTestPtype hciEventPkt.toNat (reqFilter r.event r.opcode) = true ∧
      hciFilterTestEvent (p.buf 1).toNat (reqFilter r.event r.opcode) = true := by
  refine ⟨hciFilterTestPtype_reqFilter _ _, ?_⟩
  unfold reqFilter
  simp only [hciFilterTestEvent_setOpcode, hciFilterTestEvent_setEvent, Bool.or_eq_true,
    decide_eq_true_eq]
  rcases h with ⟨he, -⟩ | ⟨he, -⟩ | ⟨he, hr, -⟩ | ⟨he, -⟩ | ⟨-, hr⟩
  · rw [he]
    simp
  · rw [he]
    simp
  · rw [he, hr]
    simp
  · rw [he]
    simp
  · rw [hr]
    simp

/--
**No confusion exactly when no confusing event arrives.**

Neither the filter nor the `switch` looks at what the number in `event` stands for.
-/
theorem numberingsApart_iff (w : Wrapper) (cparam rparam : List UInt8) (timeout : Int)
    (env : ReqEnv) (s : Sock) :
    (∀ p, CompletedBy (w.request cparam rparam) timeout env s p → ¬w.form.awaits.ConfusedBy p) ↔
      (env.Sent → ∀ t p, env.Reaches (w.request cparam rparam) timeout t →
        t.Receives env.start timeout p → p.payloadOffset ≤ p.size →
        ¬w.form.awaits.ConfusedBy p) := by
  constructor
  · intro h hsent t p ht htp hp hconf
    exact h p ((completedBy_iff w.rlen_nonneg).mpr
      ⟨hsent, completes_of_confusedBy hconf, hp, t, ht, htp⟩) hconf
  · intro h p hcomp
    obtain ⟨hsent, -, hp, t, ht, htp⟩ := (completedBy_iff w.rlen_nonneg).mp hcomp
    exact h hsent t p ht htp hp

/-- LE Long Term Key Request, subevent `0x05`, for the connection `0x0041`. -/
def ltkRequest : Packet :=
  .ofBytes [0x04, 0x3E, 0x0D, 0x05, 0x41, 0x00, 1, 2, 3, 4, 5, 6, 7, 8, 0, 0] (by decide)

/-- It completes a Disconnect, which waits for the event `0x05`. -/
theorem disconnect_confused_by_ltkRequest :
    ¬∀ p, CompletedBy (Wrapper.disconnect.request [0x40, 0x00, 0x13] [0, 0, 0, 0]) 10000
        (.answered ltkRequest) ⟨hciFilterClear, [], .ofCode 0⟩ p →
      ¬Wrapper.disconnect.form.awaits.ConfusedBy p := by
  intro h
  exact h ltkRequest ⟨⟨rfl, rfl, rfl⟩, rfl, _, rfl⟩ ⟨by decide, by decide⟩

/-! ## What the callers make of a reply -/

/--
The byte `i` of the reply struct after the copy: as received, or whatever the uninitialised
struct held.
-/
def CallEnv.replyByte (env : CallEnv) (p : Packet) (i : Nat) : UInt8 :=
  if p.payloadOffset + i < p.size then p.buf (p.payloadOffset + i) else env.stack i

theorem getD_reply {env : CallEnv} {r' : HciRequest} {n i : Nat}
    (hrp : r.rparam = env.uninit n) (hin : i < n) (hir : (i : Int) < r.rlen)
    (h : copyReply r p p.payloadOffset (p.size - p.payloadOffset) = some r') :
    r'.rparam.getD i 0 = env.replyByte p i := by
  rw [getD_copyReply h, hrp, CallEnv.replyByte]
  by_cases hi : p.payloadOffset + i < p.size
  · rw [if_pos (by omega), if_pos hi]
  · rw [if_neg (by omega), if_neg hi]
    simp [CallEnv.uninit, hin]

/-- The status byte of the reply decides. -/
theorem sendForStatus_of_completedBy (h : CompletedBy r timeout env s p) :
    ∃ r', copyReply r p p.payloadOffset (p.size - p.payloadOffset) = some r' ∧
      sendForStatus r timeout env s =
        if r'.rparam.getD 0 0 = 0 then .done ⟨0, r', replySock r timeout env s⟩
        else .done ⟨-1, r', (replySock r timeout env s).withErrno .eio⟩ := by
  obtain ⟨r', hcopy, hd⟩ := h.result
  refine ⟨r', hcopy, ?_⟩
  rw [sendForStatus, hd, Outcome.done_bind, if_neg (by simp)]
  by_cases hst : r'.rparam.getD 0 0 = 0
  · rw [if_neg (not_not.mpr hst), if_pos hst]
    rfl
  · rw [if_pos hst, if_neg hst]
    rfl

/-! ## `ble_connect` -/

/-- The request that `ble_connect` issues. -/
def bleConnectRequest (ble : BleDevice) (env : CallEnv) : HciRequest :=
  leCreateConnRequest (bleConnectCp ble) env

/-- The request of `ble_connect` is completed by `p`. -/
def ConnectCompletedBy (ble : BleDevice) (env : CallEnv) (s : Sock) (p : Packet) : Prop :=
  ble.hci ≠ none ∧ CompletedBy (bleConnectRequest ble env) bleConnectTimeout env.toReqEnv s p

theorem bleConnect_of_completedBy {ble : BleDevice} {env : CallEnv}
    (h : ConnectCompletedBy ble env s p) :
    bleConnect ble env s =
      if env.replyByte p 0 = 0 then
        .done ⟨0, { ble with handle := le16 (env.replyByte p 1) (env.replyByte p 2) },
          replySock (bleConnectRequest ble env) bleConnectTimeout env.toReqEnv s⟩
      else
        .done ⟨-1, ble,
          (replySock (bleConnectRequest ble env) bleConnectTimeout env.toReqEnv s).withErrno
            .eio⟩ := by
  obtain ⟨hhci, hcomp⟩ := h
  obtain ⟨q, hq⟩ := Option.ne_none_iff_exists'.mp hhci
  obtain ⟨r', hcopy, hd⟩ := sendForStatus_of_completedBy hcomp
  have hbyte : ∀ i < 3, r'.rparam.getD i 0 = env.replyByte p i := fun i hi =>
    getD_reply (n := 18) rfl (by omega) (by show (i : Int) < 11; omega) hcopy
  unfold bleConnect hciLeCreateConn
  unfold bleConnectRequest at hd ⊢
  rw [hq]
  rw [hbyte 0 (by omega)] at hd
  by_cases hst : env.replyByte p 0 = 0
  · rw [if_pos hst] at hd ⊢
    simp only [hd, Outcome.done_bind, Outcome.pure_eq, hbyte 1 (by omega), hbyte 2 (by omega)]
    exact if_neg (by decide)
  · rw [if_neg hst] at hd ⊢
    simp only [hd, Outcome.done_bind, Outcome.pure_eq]
    exact if_pos (by decide)

/-- `p` is an LE Connection Complete. -/
def Packet.IsLeConnComplete (p : Packet) : Prop :=
  p.buf 1 = evtLeMetaEvent ∧ p.buf 3 = evtLeConnComplete

/-- `p` reports the new connection `handle` with the device `addr`, as far as it was received. -/
def Packet.Connects (p : Packet) (addr : BdAddr) (handle : UInt16) : Prop :=
  15 ≤ p.size ∧ p.buf 4 = 0 ∧ p.bdaddr 9 = addr ∧ p.buf16 5 = handle

/-- Connection completions are attributed to the right device. -/
structure ConnectAttributed (ble : BleDevice) (env : CallEnv) (s : Sock) : Prop where
  success : ∀ p res, ConnectCompletedBy ble env s p → p.IsLeConnComplete →
    bleConnect ble env s = .done res → res.ret = 0 → p.Connects ble.addr res.ble.handle
  otherPeer : ∀ p res, ConnectCompletedBy ble env s p → p.IsLeConnComplete →
    p.bdaddr 9 ≠ ble.addr → bleConnect ble env s = .done res →
    res.ret ≠ 0 ∧ res.ble.handle = ble.handle

theorem completes_of_isLeConnComplete (ble : BleDevice) (env : CallEnv)
    (h : p.IsLeConnComplete) : Completes (bleConnectRequest ble env) p :=
  .inr (.inr (.inr (.inl ⟨h.1, by rw [h.2]; rfl⟩)))

/-- The subevent is not zero, so it was received. -/
theorem size_of_isLeConnComplete (h : p.IsLeConnComplete) : 4 ≤ p.size := by
  by_contra hlt
  have := Packet.buf_of_size_le (p := p) (i := 3) (by omega) (by decide)
  rw [h.2] at this
  cases this

/-- Every LE Connection Complete that arrives while `ble_connect` waits completes it. -/
theorem connectCompletedBy_iff {ble : BleDevice} {env : CallEnv} (hp : p.IsLeConnComplete) :
    ConnectCompletedBy ble env s p ↔
      ble.hci ≠ none ∧ env.Sent ∧ ∃ t,
        env.Reaches (bleConnectRequest ble env) bleConnectTimeout t ∧
          t.Receives env.start bleConnectTimeout p := by
  have hrl : 0 ≤ (bleConnectRequest ble env).rlen := Wrapper.leCreateConn.rlen_nonneg
  have hsize : p.payloadOffset ≤ p.size := by
    rw [payloadOffset_leMeta hp.1]
    exact size_of_isLeConnComplete hp
  unfold ConnectCompletedBy
  rw [completedBy_iff hrl]
  constructor
  · rintro ⟨hhci, hsent, -, -, ht⟩
    exact ⟨hhci, hsent, ht⟩
  · rintro ⟨hhci, hsent, ht⟩
    exact ⟨hhci, hsent, completes_of_isLeConnComplete ble env hp, hsize, ht⟩

/-- The status and the handle in the reply are those of the event, if it is not cut short. -/
theorem replyByte_of_isLeConnComplete {env : CallEnv} {i : Nat} (hp : p.IsLeConnComplete)
    (hi : 4 + i < p.size) : env.replyByte p i = p.buf (4 + i) := by
  rw [CallEnv.replyByte, payloadOffset_leMeta hp.1, if_pos hi]

/--
**A successful `ble_connect` has its own device exactly when no other connection arrives.**

The peer address of the event is not looked at, here or in `hci_send_req`.
-/
theorem connectAttributed_iff (ble : BleDevice) (env : CallEnv) (s : Sock) :
    ConnectAttributed ble env s ↔
      (ble.hci ≠ none → env.Sent → ∀ t p,
        env.Reaches (bleConnectRequest ble env) bleConnectTimeout t →
        t.Receives env.start bleConnectTimeout p → p.IsLeConnComplete →
        env.replyByte p 0 = 0 → 15 ≤ p.size ∧ p.bdaddr 9 = ble.addr) := by
  constructor
  · intro law hhci hsent t p ht htp hp hst
    have hc : ConnectCompletedBy ble env s p :=
      (connectCompletedBy_iff hp).mpr ⟨hhci, hsent, t, ht, htp⟩
    have hd := bleConnect_of_completedBy hc
    rw [if_pos hst] at hd
    obtain ⟨hsize, -, haddr, -⟩ := law.success p _ hc hp hd rfl
    exact ⟨hsize, haddr⟩
  · intro hown
    have hown' : ∀ p, ConnectCompletedBy ble env s p → p.IsLeConnComplete →
        env.replyByte p 0 = 0 → 15 ≤ p.size ∧ p.bdaddr 9 = ble.addr := by
      intro p hc hp hst
      obtain ⟨hhci, hsent, t, ht, htp⟩ := (connectCompletedBy_iff hp).mp hc
      exact hown hhci hsent t p ht htp hp hst
    constructor
    · intro p res hc hp hres hret
      have hd := bleConnect_of_completedBy hc
      by_cases hst : env.replyByte p 0 = 0
      · obtain ⟨hsize, haddr⟩ := hown' p hc hp hst
        rw [if_pos hst, hres, Outcome.done.injEq,
          replyByte_of_isLeConnComplete hp (by omega),
          replyByte_of_isLeConnComplete hp (by omega)] at hd
        rw [replyByte_of_isLeConnComplete hp (by omega)] at hst
        rw [hd]
        exact ⟨hsize, hst, haddr, rfl⟩
      · -- a status that is set makes `ble_connect` fail
        rw [if_neg hst, hres, Outcome.done.injEq] at hd
        rw [hd] at hret
        cases hret
    · intro p res hc hp hne hres
      have hd := bleConnect_of_completedBy hc
      by_cases hst : env.replyByte p 0 = 0
      · exact absurd (hown' p hc hp hst).2 hne
      · rw [if_neg hst, hres, Outcome.done.injEq] at hd
        rw [hd]
        exact ⟨(by decide : (-1 : Int) ≠ 0), rfl⟩

/-- The entry of a device that was scanned but never connected. -/
def scannedDevice (addr : BdAddr) : BleDevice := { BleDevice.zero with addr := addr, hci := some 0 }

/-- LE Connection Complete: the connection `0x0041` with `06:05:04:03:02:01`. -/
def otherConnected : Packet :=
  .ofBytes [0x04, 0x3E, 0x13, 0x01, 0x00, 0x41, 0x00, 0x00, 0x00, 0x01, 0x02, 0x03, 0x04, 0x05,
    0x06, 0x0F, 0x00, 0x00, 0x00, 0x80, 0x0C, 0x00] (by decide)

/-- `ble_connect` to another device takes that connection for its own. -/
theorem not_connectAttributed_otherConnected :
    ¬ConnectAttributed (scannedDevice ⟨0x11, 0x12, 0x13, 0x14, 0x15, 0x16⟩)
      (.answered otherConnected) ⟨hciFilterClear, [], .ofCode 0⟩ := by
  intro law
  have hcon := law.success otherConnected _
    ⟨by decide, ⟨rfl, rfl, rfl⟩, rfl, _, rfl⟩ ⟨rfl, rfl⟩ rfl rfl
  exact absurd hcon.2.2.1 (by decide)

/-! ## `ble_disconnect` -/

/-- The request that `ble_disconnect` issues. -/
def bleDisconnectRequest (ble : BleDevice) (env : CallEnv) : HciRequest :=
  disconnectRequest ble.handle hciOeUserEndedConnection env

/-- The request of `ble_disconnect` is completed by `p`. -/
def DisconnectCompletedBy (ble : BleDevice) (env : CallEnv) (s : Sock) (p : Packet) : Prop :=
  ble.hci ≠ none ∧
    CompletedBy (bleDisconnectRequest ble env) bleDisconnectTimeout env.toReqEnv s p

theorem bleDisconnect_of_completedBy {ble : BleDevice} {env : CallEnv}
    (h : DisconnectCompletedBy ble env s p) :
    bleDisconnect ble env s =
      if env.replyByte p 0 = 0 then
        .done ⟨0, { ble with handle := 0 },
          replySock (bleDisconnectRequest ble env) bleDisconnectTimeout env.toReqEnv s⟩
      else
        .done ⟨-1, ble,
          (replySock (bleDisconnectRequest ble env) bleDisconnectTimeout env.toReqEnv s).withErrno
            .eio⟩ := by
  obtain ⟨hhci, hcomp⟩ := h
  obtain ⟨q, hq⟩ := Option.ne_none_iff_exists'.mp hhci
  obtain ⟨r', hcopy, hd⟩ := sendForStatus_of_completedBy hcomp
  have hbyte : r'.rparam.getD 0 0 = env.replyByte p 0 :=
    getD_reply (n := 4) rfl (by omega) (by show (0 : Int) < 4; omega) hcopy
  unfold bleDisconnect hciDisconnect
  unfold bleDisconnectRequest at hd ⊢
  rw [hq]
  rw [hbyte] at hd
  by_cases hst : env.replyByte p 0 = 0
  · rw [if_pos hst] at hd ⊢
    simp only [hd, Outcome.done_bind, Outcome.pure_eq]
    exact if_pos trivial
  · rw [if_neg hst] at hd ⊢
    simp only [hd, Outcome.done_bind, Outcome.pure_eq]
    exact if_neg (by decide)

/-- `p` is a Disconnection Complete. -/
def Packet.IsDisconnComplete (p : Packet) : Prop := p.buf 1 = evtDisconnComplete

/-- `p` reports the end of the connection `handle`, as far as it was received. -/
def Packet.Disconnects (p : Packet) (handle : UInt16) : Prop :=
  6 ≤ p.size ∧ p.buf 3 = 0 ∧ p.buf16 4 = handle

/-- Disconnection completions are attributed to the right connection. -/
structure DisconnectAttributed (ble : BleDevice) (env : CallEnv) (s : Sock) : Prop where
  success : ∀ p res, DisconnectCompletedBy ble env s p → p.IsDisconnComplete →
    bleDisconnect ble env s = .done res → res.ret = 0 →
    p.Disconnects ble.handle ∧ res.ble = { ble with handle := 0 }
  otherHandle : ∀ p, p.IsDisconnComplete → 6 ≤ p.size → p.buf16 4 ≠ ble.handle →
    ¬DisconnectCompletedBy ble env s p

theorem completes_of_isDisconnComplete (ble : BleDevice) (env : CallEnv)
    (h : p.IsDisconnComplete) : Completes (bleDisconnectRequest ble env) p := by
  unfold Packet.IsDisconnComplete at h
  refine .inr (.inr (.inr (.inr ⟨?_, by rw [h]; rfl⟩)))
  unfold Packet.HasBranch
  rw [h]
  decide

theorem payloadOffset_of_isDisconnComplete (h : p.IsDisconnComplete) : p.payloadOffset = 3 :=
  payloadOffset_other (by rw [h]; decide) (by rw [h]; decide)

/-- Every Disconnection Complete that arrives while `ble_disconnect` waits completes it. -/
theorem disconnectCompletedBy_iff {ble : BleDevice} {env : CallEnv} (hp : p.IsDisconnComplete) :
    DisconnectCompletedBy ble env s p ↔
      ble.hci ≠ none ∧ env.Sent ∧ 3 ≤ p.size ∧ ∃ t,
        env.Reaches (bleDisconnectRequest ble env) bleDisconnectTimeout t ∧
          t.Receives env.start bleDisconnectTimeout p := by
  have hrl : 0 ≤ (bleDisconnectRequest ble env).rlen := Wrapper.disconnect.rlen_nonneg
  unfold DisconnectCompletedBy
  rw [completedBy_iff hrl, payloadOffset_of_isDisconnComplete hp]
  constructor
  · rintro ⟨hhci, hsent, -, hsize, ht⟩
    exact ⟨hhci, hsent, hsize, ht⟩
  · rintro ⟨hhci, hsent, hsize, ht⟩
    exact ⟨hhci, hsent, completes_of_isDisconnComplete ble env hp, hsize, ht⟩

/--
**`ble_disconnect` is completed by its own connection exactly when no other one ends.**

The handle of the event is not looked at. A truncated event has no handle at all.
-/
theorem disconnectAttributed_iff (ble : BleDevice) (env : CallEnv) (s : Sock) :
    DisconnectAttributed ble env s ↔
      (ble.hci ≠ none → env.Sent → ∀ t p,
        env.Reaches (bleDisconnectRequest ble env) bleDisconnectTimeout t →
        t.Receives env.start bleDisconnectTimeout p → p.IsDisconnComplete → 3 ≤ p.size →
        if 6 ≤ p.size then p.buf16 4 = ble.handle else env.replyByte p 0 ≠ 0) := by
  constructor
  · intro law hhci hsent t p ht htp hp hsize
    have hc : DisconnectCompletedBy ble env s p :=
      (disconnectCompletedBy_iff hp).mpr ⟨hhci, hsent, hsize, t, ht, htp⟩
    split
    · next hsize6 =>
      by_contra hne
      exact law.otherHandle p hp hsize6 hne hc
    · next hsize6 =>
      intro hst
      have hd := bleDisconnect_of_completedBy hc
      rw [if_pos hst] at hd
      exact hsize6 (law.success p _ hc hp hd rfl).1.1
  · intro hown
    have hown' : ∀ p, DisconnectCompletedBy ble env s p → p.IsDisconnComplete →
        if 6 ≤ p.size then p.buf16 4 = ble.handle else env.replyByte p 0 ≠ 0 := by
      intro p hc hp
      obtain ⟨hhci, hsent, hsize, t, ht, htp⟩ := (disconnectCompletedBy_iff hp).mp hc
      exact hown hhci hsent t p ht htp hp hsize
    constructor
    · intro p res hc hp hres hret
      have hd := bleDisconnect_of_completedBy hc
      have hp' := hown' p hc hp
      by_cases hst : env.replyByte p 0 = 0
      · rw [if_pos hst, hres, Outcome.done.injEq] at hd
        split at hp'
        · next hsize =>
          rw [CallEnv.replyByte, payloadOffset_of_isDisconnComplete hp, if_pos (by omega)] at hst
          exact ⟨⟨hsize, hst, hp'⟩, by rw [hd]⟩
        · exact absurd hst hp'
      · -- a status that is set makes `ble_disconnect` fail
        rw [if_neg hst, hres, Outcome.done.injEq] at hd
        rw [hd] at hret
        cases hret
    · intro p hp hsize hne hc
      have hp' := hown' p hc hp
      rw [if_pos hsize] at hp'
      exact hne hp'

/-- Disconnection Complete for the connection `0x0041`. -/
def otherDisconnected : Packet :=
  .ofBytes [0x04, 0x05, 0x04, 0x00, 0x41, 0x00, 0x13] (by decide)

/-- `ble_disconnect` of the connection `0x0040` takes it for its own. -/
theorem not_disconnectAttributed_otherDisconnected :
    ¬DisconnectAttributed { scannedDevice .zero with handle := 0x0040 }
      (.answered otherDisconnected) ⟨hciFilterClear, [], .ofCode 0⟩ := by
  intro law
  exact law.otherHandle otherDisconnected rfl (by decide) (by decide)
    ⟨by decide, ⟨rfl, rfl, rfl⟩, rfl, _, rfl⟩

end LinuxBle
