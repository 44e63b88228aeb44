import Mathlib.Logic.Basic
import Mathlib.Tactic.ByContra
import LinuxBle.Hci.Requests

/-!
# How `hci_send_req` ends

* `dispatch_eq_copy_iff` — the packets that complete a request, and what is copied from them
* `hciSendReq_returns` — once the time is up the call does not wait any longer
* `outcomeLaw_iff` — when `0` and `-1` mean what they should
-/

namespace LinuxBle

open Infra

variable {r : HciRequest} {timeout : Int} {env : ReqEnv} {s : Sock} {p : Packet}

/-! ## The packets that complete a request -/

/-- The header of the event in front of what the request gets. -/
def Packet.payloadOffset (p : Packet) : Nat :=
  if p.buf 1 = evtCmdComplete then 6 else if p.buf 1 = evtLeMetaEvent then 4 else 3

/-- An event that has a branch of its own in the `switch`. -/
def Packet.HasBranch (p : Packet) : Prop :=
  p.buf 1 = evtCmdStatus ∨ p.buf 1 = evtCmdComplete ∨ p.buf 1 = evtRemoteNameReqComplete ∨
    p.buf 1 = evtLeMetaEvent

/--
The packets that complete a request: a Command Complete or (when it is waited for) a Command
Status of this command, the name of the remote device asked for, an LE meta event or another
event with the number waited for.
-/
def Completes (r : HciRequest) (p : Packet) : Prop :=
  (p.buf 1 = evtCmdStatus ∧ p.buf16 5 = r.opcode ∧ r.event = evtCmdStatus.toNat) ∨
  (p.buf 1 = evtCmdComplete ∧ p.buf16 4 = r.opcode) ∨
  (p.buf 1 = evtRemoteNameReqComplete ∧ r.event = evtRemoteNameReqComplete.toNat ∧
    p.bdaddr 4 = r.cparamBdaddr) ∨
  (p.buf 1 = evtLeMetaEvent ∧ r.event = (p.buf 3).toNat) ∨
  (¬p.HasBranch ∧ r.event = (p.buf 1).toNat)

/-- A Command Status that reports this command as refused. -/
def Refuses (r : HciRequest) (p : Packet) : Prop :=
  p.buf 1 = evtCmdStatus ∧ p.buf16 5 = r.opcode ∧ r.event ≠ evtCmdStatus.toNat ∧ p.buf 3 ≠ 0

/-! One equation for each branch of the `switch`. -/

theorem dispatch_cmdStatus (h : p.buf 1 = evtCmdStatus) :
    dispatch r p =
      if p.buf16 5 ≠ r.opcode then .skip
      else if r.event ≠ evtCmdStatus.toNat then if p.buf 3 ≠ 0 then .refuse else .skip
      else .copy 3 (p.size - evtParamOffset) := by
  simp only [dispatch, h, if_true]

theorem dispatch_cmdComplete (h : p.buf 1 = evtCmdComplete) :
    dispatch r p =
      if p.buf16 4 ≠ r.opcode then .skip
      else .copy (evtParamOffset + evtCmdCompleteSize)
        (p.size - evtParamOffset - evtCmdCompleteSize) := by
  simp only [dispatch, h]
  rw [if_neg (by decide), if_pos trivial]

theorem dispatch_remoteName (h : p.buf 1 = evtRemoteNameReqComplete) :
    dispatch r p =
      if (evtRemoteNameReqComplete.toNat : Int) ≠ r.event then .skip
      else if bacmp (p.bdaddr 4) r.cparamBdaddr ≠ 0 then .skip
      else .copy 3 (p.size - evtParamOffset) := by
  simp only [dispatch, h]
  rw [if_neg (by decide), if_neg (by decide), if_pos trivial]

theorem dispatch_leMeta (h : p.buf 1 = evtLeMetaEvent) :
    dispatch r p =
      if ((p.buf 3).toNat : Int) ≠ r.event then .skip
      else .copy 4 (p.size - evtParamOffset - 1) := by
  simp only [dispatch, h]
  rw [if_neg (by decide), if_neg (by decide), if_neg (by decide), if_pos trivial]

theorem dispatch_default (h : ¬p.HasBranch) :
    dispatch r p =
      if ((p.buf 1).toNat : Int) ≠ r.event then .skip
      else .copy 3 (p.size - evtParamOffset) := by
  unfold Packet.HasBranch at h
  simp only [not_or] at h
  simp only [dispatch]
  rw [if_neg h.1, if_neg h.2.1, if_neg h.2.2.1, if_neg h.2.2.2]

theorem payloadOffset_cmdComplete (h : p.buf 1 = evtCmdComplete) : p.payloadOffset = 6 := by
  rw [Packet.payloadOffset, if_pos h]

theorem payloadOffset_leMeta (h : p.buf 1 = evtLeMetaEvent) : p.payloadOffset = 4 := by
  rw [Packet.payloadOffset, if_neg (by rw [h]; decide), if_pos h]

theorem payloadOffset_other (hc : p.buf 1 ≠ evtCmdComplete) (hl : p.buf 1 ≠ evtLeMetaEvent) :
    p.payloadOffset = 3 := by
  rw [Packet.payloadOffset, if_neg hc, if_neg hl]

theorem dispatch_of_completes (h : Completes r p) :
    dispatch r p = .copy p.payloadOffset (p.size - p.payloadOffset) := by
  have six : (p.size : Int) - evtParamOffset - evtCmdCompleteSize = p.size - (6 : Nat) := by
    simp only [evtParamOffset, evtCmdCompleteSize]
    omega
  have four : (p.size : Int) - evtParamOffset - 1 = p.size - (4 : Nat) := by
    simp only [evtParamOffset]
    omega
  rcases h with ⟨he, ho, hr⟩ | ⟨he, ho⟩ | ⟨he, hr, ha⟩ | ⟨he, hr⟩ | ⟨hb, hr⟩
  · rw [dispatch_cmdStatus he, if_neg (not_not.mpr ho), if_neg (not_not.mpr hr),
      payloadOffset_other (by rw [he]; decide) (by rw [he]; decide)]
  · rw [dispatch_cmdComplete he, if_neg (not_not.mpr ho), payloadOffset_cmdComplete he, six]
    rfl
  · rw [dispatch_remoteName he, if_neg (not_not.mpr hr.symm),
      if_neg (not_not.mpr (bacmp_eq_zero_iff.mpr ha)),
      payloadOffset_other (by rw [he]; decide) (by rw [he]; decide)]
  · rw [dispatch_leMeta he, if_neg (not_not.mpr hr.symm), payloadOffset_leMeta he, four]
  · rw [dispatch_default hb, if_neg (not_not.mpr hr.symm),
      payloadOffset_other (fun h => hb (.inr (.inl h))) (fun h => hb (.inr (.inr (.inr h))))]

theorem dispatch_of_refuses (h : Refuses r p) : dispatch r p = .refuse := by
  obtain ⟨he, ho, hr, hs⟩ := h
  rw [dispatch_cmdStatus he, if_neg (not_not.mpr ho), if_pos hr, if_pos hs]

theorem dispatch_of_neither (hc : ¬Completes r p) (hr : ¬Refuses r p) : dispatch r p = .skip := by
  unfold Completes at hc
  unfold Refuses at hr
  simp only [not_or, not_and, ne_eq, not_not] at hc hr
  obtain ⟨h1, h2, h3, h4, h5⟩ := hc
  -- one case for each branch of the `switch`, which passes over the packet in all of them
  by_cases hs : p.buf 1 = evtCmdStatus
  · rw [dispatch_cmdStatus hs]
    by_cases ho : p.buf16 5 = r.opcode
    · rw [if_neg (not_not.mpr ho), if_pos (h1 hs ho), if_neg (not_not.mpr (hr hs ho (h1 hs ho)))]
    · rw [if_pos ho]
  by_cases hcc : p.buf 1 = evtCmdComplete
  · rw [dispatch_cmdComplete hcc, if_pos (h2 hcc)]
  by_cases hn : p.buf 1 = evtRemoteNameReqComplete
  · rw [dispatch_remoteName hn]
    by_cases he : r.event = evtRemoteNameReqComplete.toNat
    · rw [if_neg (not_not.mpr he.symm), if_pos fun h => h3 hn he (bacmp_eq_zero_iff.mp h)]
    · rw [if_pos fun h => he h.symm]
  by_cases hl : p.buf 1 = evtLeMetaEvent
  · rw [dispatch_leMeta hl, if_pos fun h => h4 hl h.symm]
  · have hb : ¬p.HasBranch := by
      rintro (h | h | h | h)
      · exact hs h
      · exact hcc h
      · exact hn h
      · exact hl h
    rw [dispatch_default hb, if_pos fun h => h5 hb h.symm]

theorem refuses_of_dispatch (h : dispatch r p = .refuse) : Refuses r p := by
  by_cases hc : Completes r p
  · rw [dispatch_of_completes hc] at h
    cases h
  · by_cases hr : Refuses r p
    · exact hr
    · rw [dispatch_of_neither hc hr] at h
      cases h

/-- **A packet is copied exactly when it completes the request.** -/
theorem dispatch_eq_copy_iff {src : Nat} {len : Int} :
    dispatch r p = .copy src len ↔
      Completes r p ∧ src = p.payloadOffset ∧ len = p.size - p.payloadOffset := by
  by_cases hc : Completes r p
  · rw [dispatch_of_completes hc, Verdict.copy.injEq]
    constructor
    · rintro ⟨rfl, rfl⟩
      exact ⟨hc, rfl, rfl⟩
    · rintro ⟨-, rfl, rfl⟩
      exact ⟨rfl, rfl⟩
  · refine iff_of_false (fun h => ?_) (fun h => hc h.1)
    by_cases hr : Refuses r p
    · rw [dispatch_of_refuses hr] at h
      cases h
    · rw [dispatch_of_neither hc hr] at h
      cases h

/-- A packet that has its header is copied; a shorter one makes the length negative. -/
theorem copyReply_isSome (hr : 0 ≤ r.rlen) :
    (∃ r', copyReply r p p.payloadOffset (p.size - p.payloadOffset) = some r') ↔
      p.payloadOffset ≤ p.size := by
  unfold copyReply
  by_cases h : p.payloadOffset ≤ p.size
  · refine iff_of_true ?_ h
    rw [if_neg (by omega)]
    exact ⟨_, rfl⟩
  · refine iff_of_false ?_ h
    rw [if_pos (by omega)]
    simp

/-! ## The iteration that ends the wait -/

/-- The packet that an iteration within the time handles. -/
def Turn.Receives (t : Turn) (start timeout : Int) (p : Packet) : Prop :=
  ¬t.now - start > timeout ∧ t.wait = .ready (.got p) ∧ p.size ≠ 0

/-- The wait of `r` comes to the iteration `t`: nothing ends it before. -/
def ReqEnv.Reaches (env : ReqEnv) (r : HciRequest) (timeout : Int) (t : Turn) : Prop :=
  ∃ pre post, env.turns = pre ++ t :: post ∧ ∀ u ∈ pre, turnEnd r env.start timeout u = none

/-- **The wait ends in the first iteration that ends it.** -/
theorem waitEnd_eq_some_iff {e : ReqEnd} :
    env.waitEnd r timeout = some e ↔
      ∃ t, env.Reaches r timeout t ∧ turnEnd r env.start timeout t = some e := by
  unfold ReqEnv.waitEnd ReqEnv.Reaches
  rw [List.findSome?_eq_some_iff]
  constructor
  · rintro ⟨pre, t, post, hts, he, hpre⟩
    exact ⟨t, ⟨pre, post, hts, hpre⟩, he⟩
  · rintro ⟨t, ⟨pre, post, hts, hpre⟩, he⟩
    exact ⟨pre, t, post, hts, he, hpre⟩

theorem turnEnd_of_late {start : Int} {t : Turn} (h : t.now - start > timeout) :
    turnEnd r start timeout t = some .deadline := by
  rw [turnEnd, if_pos h]

theorem turnEnd_of_receives {start : Int} {t : Turn} (h : t.Receives start timeout p) :
    turnEnd r start timeout t =
      match dispatch r p with
      | .skip => none
      | .refuse => some .refused
      | .copy src len => some (.completed p src len) := by
  obtain ⟨hl, hw, hp⟩ := h
  rw [turnEnd, if_neg hl, hw]
  exact if_neg hp

/-! ## What is returned -/

/-- The filter of the request was installed. -/
def ReqEnv.FilterIn (env : ReqEnv) : Prop := env.getsockopt = none ∧ env.setsockopt = none

instance : Decidable env.FilterIn := by
  unfold ReqEnv.FilterIn
  infer_instance

theorem ReqEnv.Sent.filterIn (h : env.Sent) : env.FilterIn := ⟨h.1, h.2.1⟩

theorem hciSendReq_of_noFilter (h : ¬env.FilterIn) :
    ∃ e, hciSendReq r timeout env s = .done ⟨-1, r, s.withErrno e⟩ := by
  unfold hciSendReq
  cases hget : env.getsockopt with
  | some e => exact ⟨e, rfl⟩
  | none =>
    cases hset : env.setsockopt with
    | some e => exact ⟨e, rfl⟩
    | none => exact absurd ⟨hget, hset⟩ h

theorem hciSendReq_of_unsent (h : env.FilterIn) (he : env.send = none) :
    hciSendReq r timeout env s = .blocked := by
  unfold ReqEnv.send at he
  unfold hciSendReq
  simp only [h.1, h.2, hciSendCmd_eq, he, Outcome.blocked_bind]

theorem hciSendReq_of_sendFails {e : Errno} (h : env.FilterIn) (he : env.send = some (some e)) :
    hciSendReq r timeout env s =
      .done (endReq env s.filter { s with filter := reqFilter r.event r.opcode } ⟨-1, e, r⟩) := by
  unfold ReqEnv.send at he
  unfold hciSendReq
  simp only [h.1, h.2, hciSendCmd_eq, he, Outcome.done_bind, Outcome.pure_eq]
  rw [if_pos (by decide)]
  cases hr : env.restore <;> simp [endReq, hr, Sock.setFilter, Sock.withErrno]

/--
**The courses a call can take**: no filter, no end of the writes, a failing write, a wait that
goes on, and a wait that ends.
-/
theorem hciSendReq_cases (r : HciRequest) (timeout : Int) (env : ReqEnv) (s : Sock) :
    (¬env.FilterIn ∧ ∃ e, hciSendReq r timeout env s = .done ⟨-1, r, s.withErrno e⟩) ∨
    (env.FilterIn ∧ env.send = none ∧ hciSendReq r timeout env s = .blocked) ∨
    (∃ e, env.FilterIn ∧ env.send = some (some e) ∧ hciSendReq r timeout env s =
      .done (endReq env s.filter { s with filter := reqFilter r.event r.opcode } ⟨-1, e, r⟩)) ∨
    (env.Sent ∧ env.waitEnd r timeout = none ∧ hciSendReq r timeout env s = .blocked) ∨
    (∃ e, env.Sent ∧ env.waitEnd r timeout = some e ∧ hciSendReq r timeout env s =
      endLoop env s.filter (waitSock r env s)
        (.leave (reqExit r 0 (waitErrno r timeout env (waitSock r env s).errno) e))) := by
  by_cases h : env.FilterIn
  · right
    cases hs : env.send with
    | none => exact Or.inl ⟨h, rfl, hciSendReq_of_unsent h hs⟩
    | some w =>
      right
      cases w with
      | some e => exact Or.inl ⟨e, h, rfl, hciSendReq_of_sendFails h hs⟩
      | none =>
        have hsent : env.Sent := ⟨h.1, h.2, hs⟩
        right
        rw [hciSendReq_eq hsent]
        cases he : env.waitEnd r timeout with
        | none => exact Or.inl ⟨hsent, rfl, rfl⟩
        | some e => exact Or.inr ⟨e, hsent, rfl, rfl⟩
  · exact Or.inl ⟨h, hciSendReq_of_noFilter h⟩

/-- What reaches the label `end` is what the call returns. -/
theorem hciSendReq_of_exit {e : ReqEnd} {x : ReqExit} (h : env.Sent)
    (he : env.waitEnd r timeout = some e)
    (hx : reqExit r 0 (waitErrno r timeout env (waitSock r env s).errno) e = some x) :
    hciSendReq r timeout env s = .done (endReq env s.filter (waitSock r env s) x) := by
  rw [hciSendReq_eq h, he]
  simp only [hx, endLoop]

/-- **The courses of a call that returns**: no filter, a failing write, or a wait that ends. -/
theorem hciSendReq_done_cases {res : ReqResult} (h : hciSendReq r timeout env s = .done res) :
    (¬env.FilterIn ∧ ∃ e, res = ⟨-1, r, s.withErrno e⟩) ∨
    (env.FilterIn ∧ ∃ e, env.send = some (some e) ∧
      res = endReq env s.filter { s with filter := reqFilter r.event r.opcode } ⟨-1, e, r⟩) ∨
    (env.Sent ∧ ∃ e x, env.waitEnd r timeout = some e ∧
      reqExit r 0 (waitErrno r timeout env (waitSock r env s).errno) e = some x ∧
      res = endReq env s.filter (waitSock r env s) x) := by
  rcases hciSendReq_cases r timeout env s with
    ⟨hno, e, hd⟩ | ⟨-, -, hd⟩ | ⟨e, hin, he, hd⟩ | ⟨-, -, hd⟩ | ⟨e, hsent, he, hd⟩
  · rw [h, Outcome.done.injEq] at hd
    exact Or.inl ⟨hno, e, hd⟩
  · rw [h] at hd
    cases hd
  · rw [h, Outcome.done.injEq] at hd
    exact Or.inr (Or.inl ⟨hin, e, he, hd⟩)
  · rw [h] at hd
    cases hd
  · rw [h] at hd
    cases hx : reqExit r 0 (waitErrno r timeout env (waitSock r env s).errno) e with
    | none =>
      rw [hx] at hd
      cases hd
    | some x =>
      rw [hx] at hd
      simp only [endLoop, Outcome.done.injEq] at hd
      exact Or.inr (Or.inr ⟨hsent, e, x, he, hx, hd⟩)

/-- What a call writes whose command is `command`. -/
def ReqEnv.writes (env : ReqEnv) (command : List UInt8) : List (List UInt8) :=
  if env.Sent then [command] else []

/-- **A call writes its command once or not at all**, and in the latter case it says so. -/
theorem hciSendReq_sent {res : ReqResult} (h : hciSendReq r timeout env s = .done res) :
    res.sock.sent = s.sent ++ env.writes r.command ∧ (¬env.Sent → res.ret = -1) := by
  unfold ReqEnv.writes
  rcases hciSendReq_done_cases h with ⟨hno, e, rfl⟩ | ⟨-, e, he, rfl⟩ | ⟨hsent, e, x, -, -, rfl⟩
  · rw [if_neg (fun hsent => hno hsent.filterIn)]
    exact ⟨by simp, fun _ => rfl⟩
  · have hns : ¬env.Sent := by
      intro hsent
      rw [hsent.2.2] at he
      cases he
    rw [if_neg hns]
    exact ⟨by simp [endReq], fun _ => rfl⟩
  · rw [if_pos hsent]
    exact ⟨by simp [endReq, waitSock], fun hns => absurd hsent hns⟩

/-- The wrappers pass this on. -/
theorem sendForStatus_sent {res : ReqResult} (h : sendForStatus r timeout env s = .done res) :
    res.sock.sent = s.sent ++ env.writes r.command ∧ (¬env.Sent → res.ret = -1) := by
  obtain ⟨res', hd, h⟩ := Outcome.bind_eq_done.mp h
  obtain ⟨hsent, hret⟩ := hciSendReq_sent hd
  split at h
  · cases h
    exact ⟨hsent, fun _ => rfl⟩
  · next hneg =>
    -- the result is not negative, so the command was written
    have hs : env.Sent := by
      by_contra hns
      rw [hret hns] at hneg
      exact hneg (by decide)
    split at h <;> cases h <;> exact ⟨hsent, fun hns => absurd hs hns⟩

theorem sendForStatus_of_done {res : ReqResult} (h : hciSendReq r timeout env s = .done res) :
    ∃ res', sendForStatus r timeout env s = .done res' := by
  unfold sendForStatus
  rw [h, Outcome.done_bind]
  split
  · exact ⟨_, rfl⟩
  · split
    · exact ⟨_, rfl⟩
    · exact ⟨_, rfl⟩

/-- The filter behind a command: `own`, the command's, where the old one is not put back. -/
def ReqEnv.filterAfter (env : ReqEnv) (own old : HciFilter) : HciFilter :=
  if env.FilterIn ∧ env.restore ≠ none then own else old

/-- Once installed, the filter of a request goes only if the restoring `setsockopt` succeeds. -/
theorem endReq_filter {s' : Sock} {x : ReqExit} (h : env.FilterIn)
    (hs : s'.filter = reqFilter r.event r.opcode) (of : HciFilter) :
    (endReq env of s' x).sock.filter = env.filterAfter (reqFilter r.event r.opcode) of := by
  unfold endReq ReqEnv.filterAfter
  cases hr : env.restore with
  | none =>
    rw [if_neg (fun h => h.2 rfl)]
    rfl
  | some e =>
    rw [if_pos ⟨h, by simp⟩]
    exact hs

/-- **The filter that a call leaves.** -/
theorem hciSendReq_filter {res : ReqResult} (h : hciSendReq r timeout env s = .done res) :
    res.sock.filter = env.filterAfter (reqFilter r.event r.opcode) s.filter := by
  rcases hciSendReq_done_cases h with ⟨hno, e, rfl⟩ | ⟨hin, e, -, rfl⟩ | ⟨hsent, e, x, -, -, rfl⟩
  · rw [ReqEnv.filterAfter, if_neg (fun h => hno h.1)]
    rfl
  · exact endReq_filter hin rfl s.filter
  · exact endReq_filter hsent.filterIn rfl s.filter

theorem sendForStatus_filter {res : ReqResult} (h : sendForStatus r timeout env s = .done res) :
    res.sock.filter = env.filterAfter (reqFilter r.event r.opcode) s.filter := by
  obtain ⟨res', hd, h⟩ := Outcome.bind_eq_done.mp h
  have hfilter := hciSendReq_filter hd
  split at h
  · cases h
    exact hfilter
  · split at h <;> cases h <;> exact hfilter

/-! ## When `0` and `-1` mean what they should -/

/-- The failing cases of one iteration, each with the `errno` prescribed for it, if any. -/
inductive Turn.FailsWith (t : Turn) (r : HciRequest) (start timeout : Int) : Option Errno → Prop
  | deadline : t.now - start > timeout → FailsWith t r start timeout (some .etimedout)
  | selectError {e : Errno} : ¬t.now - start > timeout → t.wait = .selectFail e →
      FailsWith t r start timeout none
  | readError {e : Errno} : ¬t.now - start > timeout → t.wait = .ready (.fail e) →
      e.isRetry = false → FailsWith t r start timeout none
  | endOfFile {p : Packet} : ¬t.now - start > timeout → t.wait = .ready (.got p) → p.size = 0 →
      FailsWith t r start timeout none
  | refused {p : Packet} : t.Receives start timeout p → Refuses r p →
      FailsWith t r start timeout (some .eio)

/--
The outcome law of `hci_send_req`.

`0` stands for a reply that was received and copied. A command that is not sent and every
failing iteration that the wait comes to give `-1`, the prescribed `errno`, and the request as
it was.
-/
structure OutcomeLaw (r : HciRequest) (timeout : Int) (env : ReqEnv) (s : Sock) : Prop where
  zero : ∀ res, env.FilterIn → hciSendReq r timeout env s = .done res → res.ret = 0 →
    ∃ t p, env.Reaches r timeout t ∧ t.Receives env.start timeout p ∧ Completes r p ∧
      copyReply r p p.payloadOffset (p.size - p.payloadOffset) = some res.req
  sendFails : ∀ e, env.FilterIn → env.send = some (some e) →
    ∃ res, hciSendReq r timeout env s = .done res ∧ res.ret = -1 ∧ res.req = r
  waitFails : ∀ t eo, env.Sent → env.Reaches r timeout t → t.FailsWith r env.start timeout eo →
    ∃ res, hciSendReq r timeout env s = .done res ∧ res.ret = -1 ∧ res.req = r ∧
      ∀ e ∈ eo, res.sock.errno = e

/-- A failing iteration ends the wait without a reply, and only the deadline is reported. -/
theorem turnEnd_of_failsWith {start : Int} {t : Turn} {eo : Option Errno}
    (h : t.FailsWith r start timeout eo) :
    ∃ e, turnEnd r start timeout t = some e ∧ (∀ p src len, e ≠ .completed p src len) ∧
      ∀ errno, ∃ x, reqExit r 0 errno e = some x ∧ x.req = r ∧ (∀ e' ∈ eo, x.errno = e') ∧
        x.ret = if t.now - start > timeout then -1 else 0 := by
  cases h with
  | deadline hl =>
    exact ⟨.deadline, turnEnd_of_late hl, by simp, fun _ => ⟨_, rfl, rfl, by simp, by simp [hl]⟩⟩
  | @selectError e hl hw =>
    exact ⟨.selectError e, by simp [turnEnd, hl, hw], by simp,
      fun _ => ⟨_, rfl, rfl, by simp, by simp [hl]⟩⟩
  | @readError e hl hw he =>
    exact ⟨.readError e, by simp [turnEnd, hl, hw, he], by simp,
      fun _ => ⟨_, rfl, rfl, by simp, by simp [hl]⟩⟩
  | endOfFile hl hw hp =>
    exact ⟨.endOfFile, by simp [turnEnd, hl, hw, hp], by simp,
      fun _ => ⟨_, rfl, rfl, by simp, by simp [hl]⟩⟩
  | refused hp hr =>
    exact ⟨.refused, by rw [turnEnd_of_receives hp, dispatch_of_refuses hr], by simp,
      fun _ => ⟨_, rfl, rfl, by simp, by simp [hp.1]⟩⟩

/-- Any other iteration that ends the wait does so with a packet that completes the request. -/
theorem turnEnd_cases {start : Int} {t : Turn} {e : ReqEnd}
    (h : turnEnd r start timeout t = some e) :
    (∃ eo, t.FailsWith r start timeout eo) ∨
    ∃ p, t.Receives start timeout p ∧ Completes r p ∧
      e = .completed p p.payloadOffset (p.size - p.payloadOffset) := by
  by_cases hl : t.now - start > timeout
  · exact Or.inl ⟨_, .deadline hl⟩
  · cases hw : t.wait with
    | timeout => simp [turnEnd, hl, hw] at h
    | selectFail e => exact Or.inl ⟨_, .selectError hl hw⟩
    | ready rd =>
      cases rd with
      | fail e =>
        cases he : e.isRetry with
        | true => simp [turnEnd, hl, hw, he] at h
        | false => exact Or.inl ⟨_, .readError hl hw he⟩
      | got p =>
        by_cases hp : p.size = 0
        · exact Or.inl ⟨_, .endOfFile hl hw hp⟩
        · have hr : t.Receives start timeout p := ⟨hl, hw, hp⟩
          rw [turnEnd_of_receives hr] at h
          cases hd : dispatch r p with
          | skip => simp [hd] at h
          | refuse => exact Or.inl ⟨_, .refused hr (refuses_of_dispatch hd)⟩
          | copy src len =>
            obtain ⟨hc, rfl, rfl⟩ := dispatch_eq_copy_iff.mp hd
            simp only [hd, Option.some.injEq] at h
            exact Or.inr ⟨p, hr, hc, h.symm⟩

/-- The iterations that complete a request. -/
theorem turnEnd_eq_completed_iff {start : Int} {t : Turn} :
    turnEnd r start timeout t = some (.completed p p.payloadOffset (p.size - p.payloadOffset)) ↔
      t.Receives start timeout p ∧ Completes r p := by
  constructor
  · intro h
    rcases turnEnd_cases h with ⟨eo, hf⟩ | ⟨q, hq, hc, heq⟩
    · obtain ⟨e, he, hne, -⟩ := turnEnd_of_failsWith hf
      rw [h, Option.some.injEq] at he
      exact absurd he.symm (hne _ _ _)
    · rw [ReqEnd.completed.injEq] at heq
      rw [heq.1]
      exact ⟨hq, hc⟩
  · rintro ⟨hp, hc⟩
    rw [turnEnd_of_receives hp, dispatch_of_completes hc]

/-- What the law asks for at a failing iteration holds, but for the result. -/
theorem hciSendReq_of_failsWith {t : Turn} {eo : Option Errno} (h : env.Sent)
    (hr : env.Reaches r timeout t) (hf : t.FailsWith r env.start timeout eo) :
    ∃ res, hciSendReq r timeout env s = .done res ∧ res.req = r ∧ (∀ e ∈ eo, res.sock.errno = e) ∧
      res.ret = if t.now - env.start > timeout then -1 else 0 := by
  obtain ⟨e, he, -, hx⟩ := turnEnd_of_failsWith hf
  obtain ⟨x, hx, hreq, herrno, hret⟩ := hx (waitErrno r timeout env (waitSock r env s).errno)
  exact ⟨_, hciSendReq_of_exit h (waitEnd_eq_some_iff.mpr ⟨t, hr, he⟩) hx, hreq, herrno, hret⟩

/-! ## When a call comes back -/

/-- Every packet that is received has its header, so that no length becomes negative. -/
def ReqEnv.Headed (env : ReqEnv) : Prop :=
  ∀ t ∈ env.turns, ∀ p, t.wait = .ready (.got p) → p.size ≠ 0 → p.payloadOffset ≤ p.size

/-- **The deadline ends every wait**: with the time up in some iteration, the call comes back. -/
theorem hciSendReq_returns {t : Turn} (hr : 0 ≤ r.rlen) (hsend : env.send ≠ none)
    (hhead : env.Headed) (ht : t ∈ env.turns) (hlate : t.now - env.start > timeout) :
    ∃ res, hciSendReq r timeout env s = .done res := by
  rcases hciSendReq_cases r timeout env s with
    ⟨-, e, h⟩ | ⟨-, hs, -⟩ | ⟨e, -, -, h⟩ | ⟨-, hw, -⟩ | ⟨e, hsent, he, -⟩
  · exact ⟨_, h⟩
  · exact absurd hs hsend
  · exact ⟨_, h⟩
  · -- the iteration with the time up would have ended the wait
    rw [ReqEnv.waitEnd, List.findSome?_eq_none_iff] at hw
    have hnone := hw t ht
    rw [turnEnd_of_late hlate] at hnone
    cases hnone
  · obtain ⟨u, hu, hue⟩ := waitEnd_eq_some_iff.mp he
    rcases turnEnd_cases hue with ⟨eo, hf⟩ | ⟨p, ⟨-, hw, hsize⟩, -, rfl⟩
    · obtain ⟨res, hres, -⟩ := hciSendReq_of_failsWith hsent hu hf
      exact ⟨res, hres⟩
    · obtain ⟨pre, post, hts, -⟩ := hu
      have hmem : u ∈ env.turns := by
        rw [hts]
        exact List.mem_append_right _ (List.mem_cons_self ..)
      obtain ⟨r', hcopy⟩ := (copyReply_isSome hr).mpr (hhead u hmem p hw hsize)
      exact ⟨_, hciSendReq_of_exit hsent he (by rw [reqExit, hcopy]; rfl)⟩

/-! ## The law -/

/-- `0` comes of a failing iteration, or of a packet that completes the request. -/
theorem hciSendReq_zero {res : ReqResult} (hin : env.FilterIn)
    (h : hciSendReq r timeout env s = .done res) (hret : res.ret = 0) :
    env.Sent ∧ ∃ t, env.Reaches r timeout t ∧
      ((∃ eo, t.FailsWith r env.start timeout eo) ∨
        ∃ p, t.Receives env.start timeout p ∧ Completes r p ∧
          copyReply r p p.payloadOffset (p.size - p.payloadOffset) = some res.req) := by
  rcases hciSendReq_done_cases h with
    ⟨hno, -⟩ | ⟨-, e, -, rfl⟩ | ⟨hsent, e, x, he, hx, rfl⟩
  · exact absurd hin hno
  · -- a command that is not written gives `-1`
    cases hret
  · obtain ⟨t, hr, ht⟩ := waitEnd_eq_some_iff.mp he
    refine ⟨hsent, t, hr, ?_⟩
    rcases turnEnd_cases ht with hf | ⟨p, hp, hc, rfl⟩
    · exact Or.inl hf
    · obtain ⟨r', hcopy, rfl⟩ := Option.map_eq_some_iff.mp hx
      exact Or.inr ⟨p, hp, hc, hcopy⟩

/--
**The outcome law holds when only the deadline fails.**

Every other failing iteration returns the `0` that `hci_send_cmd` left in the outer `ret`.
-/
theorem outcomeLaw_iff (r : HciRequest) (timeout : Int) (env : ReqEnv) (s : Sock) :
    OutcomeLaw r timeout env s ↔
      (env.Sent → ∀ t eo, env.Reaches r timeout t → t.FailsWith r env.start timeout eo →
        t.now - env.start > timeout) := by
  constructor
  · intro law hsent t eo hr hf
    obtain ⟨res, hres, hret, -⟩ := law.waitFails t eo hsent hr hf
    obtain ⟨res', hres', -, -, hret'⟩ := hciSendReq_of_failsWith hsent hr hf
    rw [hres, Outcome.done.injEq] at hres'
    rw [← hres', hret] at hret'
    by_cases hl : t.now - env.start > timeout
    · exact hl
    · rw [if_neg hl] at hret'
      cases hret'
  · intro hlate
    have hfails : ∀ t eo, env.Sent → env.Reaches r timeout t →
        t.FailsWith r env.start timeout eo →
        ∃ res, hciSendReq r timeout env s = .done res ∧ res.ret = -1 ∧ res.req = r ∧
          ∀ e ∈ eo, res.sock.errno = e := by
      intro t eo hsent hr hf
      obtain ⟨res, hres, hreq, herrno, hret⟩ := hciSendReq_of_failsWith hsent hr hf
      rw [if_pos (hlate hsent t eo hr hf)] at hret
      exact ⟨res, hres, hret, hreq, herrno⟩
    refine ⟨fun res hin hres hret => ?_, fun e hin he => ?_, hfails⟩
    · obtain ⟨hsent, t, hr, hf | ⟨p, hp, hc, hcopy⟩⟩ := hciSendReq_zero hin hres hret
      · obtain ⟨eo, hf⟩ := hf
        obtain ⟨res', hres', hret', -⟩ := hfails t eo hsent hr hf
        rw [hres, Outcome.done.injEq] at hres'
        rw [hres', hret'] at hret
        cases hret
      · exact ⟨t, p, hr, hp, hc, hcopy⟩
    · exact ⟨_, hciSendReq_of_sendFails hin he, rfl, rfl⟩

/-- LE Read White List Size, which any packet-free wait leaves as it is. -/
def whiteListSizeRequest : HciRequest where
  ogf := ogfLeCtl
  ocf := 0x000F
  event := 0
  cparam := []
  clen := 0
  rparam := [0xAA, 0xAA]
  rlen := 2

/-- The command is written, and the first `select` fails. -/
def selectFails (e : Errno) : ReqEnv where
  start := 0
  getsockopt := none
  setsockopt := none
  writev := [none]
  turns := [⟨0, .selectFail e⟩]
  restore := none

/-- A `select` that fails at once makes the call return `0`, with no reply. -/
theorem not_outcomeLaw_selectFails :
    ¬OutcomeLaw whiteListSizeRequest 1000 (selectFails (.ebadf))
      ⟨hciFilterClear, [], .ofCode 0⟩ := by
  intro law
  obtain ⟨res, hres, hret, -⟩ := law.waitFails ⟨0, .selectFail (.ebadf)⟩ none
    ⟨rfl, rfl, rfl⟩ ⟨[], [], rfl, by simp⟩ (.selectError (by decide) rfl)
  have hrun : hciSendReq whiteListSizeRequest 1000 (selectFails (.ebadf))
      ⟨hciFilterClear, [], .ofCode 0⟩ = .done ⟨0, whiteListSizeRequest,
        ⟨hciFilterClear, [[0x01, 0x0F, 0x20, 0x00]], .ebadf⟩⟩ := by rfl
  rw [hres, Outcome.done.injEq] at hrun
  rw [hrun] at hret
  cases hret

end LinuxBle
