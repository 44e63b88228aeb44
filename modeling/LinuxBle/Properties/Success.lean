import LinuxBle.Properties.Functions

/-!
# What success means

The functions of `hci.c` that send a command return `0` when the first byte of their reply struct
is zero, wherever it comes from.

* `HciFunction.ret_iff` — when they return `0`
* `HciFunction.refused` — what they make of a command that the controller refuses
-/

namespace LinuxBle

open Infra

namespace Wrapper

/-! ## The status -/

/-- The wrappers that ask for no reply: they look at no status. -/
def asksNothing : Wrapper → Bool
  | writeLocalName | readRemoteNameCancel | writeClassOfDev | writeVoiceSetting
  | writeCurrentIacLap | readStoredLinkKey | writeStoredLinkKey | deleteStoredLinkKey => true
  | _ => false

/-- The wrappers that clear their reply struct before the call. -/
def clearsReply : Wrapper → Bool
  | leReadWhiteListSize | leReadResolvingListSize => true
  | _ => false

/-- The status before the call: zero, or a byte of the stack. -/
def statusBefore (w : Wrapper) (env : CallEnv) : UInt8 :=
  if w.asksNothing || w.clearsReply then 0 else env.stack 0

/-- The status when the wait has ended: as received, or as it was. -/
def statusAfter (w : Wrapper) (env : CallEnv) : ReqEnd → UInt8
  | .completed p _ _ =>
    if !w.asksNothing && p.payloadOffset < p.size then p.buf p.payloadOffset else w.statusBefore env
  | _ => w.statusBefore env

theorem size_rp_pos_iff (w : Wrapper) : 0 < w.rp.size ↔ w.asksNothing = false := by
  cases w <;> decide

theorem getD_replyStruct (w : Wrapper) (env : CallEnv) :
    (w.replyStruct env).getD 0 0 = w.statusBefore env := by
  cases w <;> rfl

section

variable {w : Wrapper} {cp : w.Cp} {timeout : Int} {env : CallEnv} {s : Sock}

theorem byteAfter_issue (w : Wrapper) (cp : w.Cp) (env : CallEnv) (e : ReqEnd) :
    (w.issue cp env).byteAfter 0 e = w.statusAfter env e := by
  have hstruct : (w.issue cp env).rparam.getD 0 0 = w.statusBefore env := w.getD_replyStruct env
  have hasked : (0 : Int) < (w.issue cp env).rlen ↔ w.asksNothing = false := by
    rw [w.issue_rlen, ← w.size_rp_pos_iff]
    omega
  cases e with
  | completed p src len =>
    unfold HciRequest.byteAfter statusAfter
    rw [hstruct]
    simp [hasked]
  | _ => exact hstruct

/-! ## Success -/

/-- What `ask` returns is decided by how the wait ends, and by the status then. -/
theorem ask_ret_iff {β : Type} {out : w.Rp → β} {res : Called β}
    (h : w.ask cp out timeout env s = .done res) :
    res.ret = 0 ↔ env.Sent ∧ ∃ e, env.waitEnd (w.issue cp env) timeout = some e ∧
      e ≠ .deadline ∧ w.statusAfter env e = 0 := by
  obtain ⟨res', hsend, h⟩ := Outcome.bind_eq_done.mp h
  cases h
  obtain ⟨res₀, hreq, -, hcase⟩ := sendForStatus_done hsend
  have hret : res'.ret = 0 ↔ res₀.ret = 0 ∧ res₀.req.rparam.getD 0 0 = 0 := by
    rcases hcase with ⟨hz, hboth⟩ | ⟨hneg, hnot⟩
    · exact iff_of_true hz hboth
    · exact iff_of_false (by omega) hnot
  show res'.ret = 0 ↔ _
  rw [hret, hciSendReq_ret_iff hreq]
  constructor
  · rintro ⟨⟨hsent, e, he, hne⟩, hstatus⟩
    rw [getD_byteAfter 0 hreq hsent he, byteAfter_issue] at hstatus
    exact ⟨hsent, e, he, hne, hstatus⟩
  · rintro ⟨hsent, e, he, hne, hstatus⟩
    rw [getD_byteAfter 0 hreq hsent he, byteAfter_issue]
    exact ⟨⟨hsent, e, he, hne⟩, hstatus⟩

/-- What `ask` makes of a refusal: it takes its own struct for the reply. -/
theorem ask_refused {β : Type} (w : Wrapper) (cp : w.Cp) (out : w.Rp → β) {t : Turn} {p : Packet}
    (hsent : env.Sent) (hreach : env.Reaches (w.issue cp env) timeout t)
    (hp : t.Receives env.start timeout p) (hr : Refuses (w.issue cp env) p) :
    ∃ sock : Sock, sock.errno = .eio ∧ w.ask cp out timeout env s = .done
      (if w.statusBefore env = 0 then ⟨0, (w.rp.read (w.replyStruct env)).map out, sock⟩
      else ⟨-1, none, sock⟩) := by
  obtain ⟨res, hres, hreq, herrno, hret⟩ :=
    hciSendReq_of_failsWith (s := s) hsent hreach (.refused hp hr)
  rw [if_neg hp.1] at hret
  have hbefore : res.req.rparam = w.replyStruct env := by rw [hreq]; rfl
  unfold ask sendForStatus
  rw [hres, Outcome.done_bind, if_neg (by omega), hbefore, getD_replyStruct]
  by_cases hst : w.statusBefore env = 0
  · refine ⟨res.sock, herrno _ rfl, ?_⟩
    rw [if_neg (not_not.mpr hst), if_pos hst]
    simp only [Outcome.pure_eq, Outcome.done_bind, if_true, hbefore]
  · refine ⟨res.sock.withErrno .eio, rfl, ?_⟩
    rw [if_pos hst, if_neg hst]
    rfl

end

end Wrapper

section

variable {β : Type} {w : Wrapper} {cp : w.Cp} {out : w.Rp → β} {f : HciCall β} {timeout : Int}
  {env : CallEnv} {s : Sock}

/--
**A function that sends a command returns `0` exactly when its command was sent, the deadline did
not end the wait, and there is then a zero where it takes the status from.**

That is the status that the controller sent only where one was asked for and received. After a
failure, a refusal or a reply without a status it is what the struct had before, and eight
functions look at none.
-/
theorem HciFunction.ret_iff {res : Called β} (hf : HciFunction w cp out f)
    (h : f timeout env s = .done res) :
    res.ret = 0 ↔ env.Sent ∧ ∃ e, env.waitEnd (w.issue cp env) timeout = some e ∧
      e ≠ .deadline ∧ w.statusAfter env e = 0 := by
  obtain ⟨res', hask, hres⟩ := hf.ask_done h
  have hret := Wrapper.ask_ret_iff hask
  rw [hres]
  exact hret

/--
**A command that the controller refuses is reported as a success, unless a byte of the stack
prevents it.**

What is handed over then are the fields of the struct as it was before the call; among them may be a
number of laps that the struct has no room for.
-/
theorem HciFunction.refused (hf : HciFunction w cp out f) {t : Turn} {p : Packet}
    (hsent : env.Sent) (hreach : env.Reaches (w.issue cp env) timeout t)
    (hp : t.Receives env.start timeout p) (hr : Refuses (w.issue cp env) p) :
    ∃ (sock : Sock) (v : w.Rp), sock.errno = .eio ∧
      w.rp.read (w.replyStruct env) = some v ∧
      f timeout env s =
        if w.statusBefore env ≠ 0 then .done ⟨-1, none, sock⟩
        else if w.overruns v then .fault
        else .done ⟨0, some (out v), sock⟩ := by
  obtain ⟨sock, herrno, hask⟩ := w.ask_refused (s := s) cp id hsent hreach hp hr
  obtain ⟨v, hv⟩ := w.rp.read_of_le (w.size_le_length_replyStruct env)
  refine ⟨sock, v, herrno, hv, ?_⟩
  rw [hf.eq_call]
  by_cases hst : w.statusBefore env = 0
  · rw [if_pos hst, hv, Option.map_some, id_eq] at hask
    rw [if_neg (not_not.mpr hst), Wrapper.call_of_ask_some hask]
    cases w.overruns v <;> rfl
  · rw [if_neg hst] at hask
    rw [if_pos hst, Wrapper.call_of_ask_none hask]
    rfl

end

/-- Command Complete of Change Local Name: the controller does not allow it. -/
def disallowedName : Packet := .ofBytes [0x04, 0x0E, 0x04, 0x01, 0x13, 0x0C, 0x0C] (by decide)

/-- It is a success. -/
theorem HciFunction.ret_iff_disallowedName :
    ∃ res, hciWriteLocalName [0x62, 0x6C, 0x65] 1000 (.answered disallowedName)
      ⟨hciFilterClear, [], .ofCode 0⟩ = .done res ∧ res.ret = 0 := by
  obtain ⟨res, hres⟩ : ∃ res, hciWriteLocalName [0x62, 0x6C, 0x65] 1000 (.answered disallowedName)
      ⟨hciFilterClear, [], .ofCode 0⟩ = .done res := ⟨_, rfl⟩
  have hf : HciFunction .writeLocalName (changeLocalNameCp [0x62, 0x6C, 0x65]) noOutput
      (hciWriteLocalName [0x62, 0x6C, 0x65]) := .ask _ _ (by simp)
  exact ⟨res, hres, (HciFunction.ret_iff hf hres).mpr ⟨⟨rfl, rfl, rfl⟩, _, rfl, by simp, rfl⟩⟩

/-- Command Status of LE Read White List Size: the controller does not allow it. -/
def disallowedSize : Packet := .ofBytes [0x04, 0x0F, 0x04, 0x0C, 0x01, 0x0F, 0x20] (by decide)

/-- The white list has room for none, then. -/
theorem HciFunction.refused_disallowedSize :
    ∃ sock : Sock, sock.errno = .eio ∧ hciLeReadWhiteListSize 1000 (.answered disallowedSize)
      ⟨hciFilterClear, [], .ofCode 0⟩ = .done ⟨0, some 0, sock⟩ := by
  have hf : HciFunction .leReadWhiteListSize () Prod.snd hciLeReadWhiteListSize :=
    @HciFunction.ask _ .leReadWhiteListSize () Prod.snd (by simp)
  have hreach : (CallEnv.answered disallowedSize).Reaches
      (Wrapper.leReadWhiteListSize.issue () (.answered disallowedSize)) 1000
      ⟨0, .ready (.got disallowedSize)⟩ := ⟨[], [], rfl, by simp⟩
  have hrefused : Refuses (Wrapper.leReadWhiteListSize.issue () (.answered disallowedSize))
      disallowedSize := ⟨rfl, rfl, by decide, by decide⟩
  obtain ⟨sock, v, herrno, hv, hcall⟩ := HciFunction.refused (s := ⟨hciFilterClear, [], .ofCode 0⟩)
    hf ⟨rfl, rfl, rfl⟩ hreach ⟨by decide, rfl, by decide⟩ hrefused
  cases hv
  exact ⟨sock, herrno, hcall⟩

end LinuxBle
