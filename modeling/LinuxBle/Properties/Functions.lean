import LinuxBle.Properties.Remote

/-!
# The functions that send a command

Each of them is a call of its wrapper, with its own values for the parameters and its own fields of
the reply.

* `HciFunction.eq_call` — that is so for all of them
* `hciReadCurrentIacLap_eq_fault_iff` — a reply that makes the library read behind its own struct
-/

namespace LinuxBle

open Infra

section

variable {timeout : Int} {env : CallEnv} {s : Sock}

/-! ## What is returned -/

/-- The reply struct keeps its size. -/
theorem hciSendReq_length_rparam {r : HciRequest} {res : ReqResult}
    (hr : r.rlen ≤ r.rparam.length) (h : hciSendReq r timeout env.toReqEnv s = .done res) :
    res.req.rparam.length = r.rparam.length := by
  rcases hciSendReq_done_cases h with ⟨-, e, rfl⟩ | ⟨-, e, -, rfl⟩ | ⟨-, e, x, -, hx, rfl⟩
  · rfl
  · rfl
  · show x.req.rparam.length = _
    cases e with
    | completed p src len =>
      obtain ⟨r', hcopy, rfl⟩ := Option.map_eq_some_iff.mp hx
      obtain ⟨hnonneg, hle, -, hrparam⟩ := copyReply_inside hcopy
      show r'.rparam.length = _
      rw [hrparam, List.length_append, Packet.length_slice, List.length_drop]
      omega
    | _ =>
      cases hx
      rfl

theorem Wrapper.size_le_length_replyStruct (w : Wrapper) (env : CallEnv) :
    w.rp.size ≤ (w.replyStruct env).length := by
  have huninit : ∀ n : Nat, (env.uninit n).length = n := by simp [CallEnv.uninit]
  cases w with
  | leReadWhiteListSize => exact Nat.le_refl 2
  | leReadResolvingListSize => exact Nat.le_refl 2
  | leCreateConn =>
    rw [replyStruct, huninit]
    decide
  | _ => exact (huninit _).ge

/-- The wrappers have room for what they ask for. -/
theorem Wrapper.rlen_issue_le (w : Wrapper) (cp : w.Cp) (env : CallEnv) :
    (w.issue cp env).rlen ≤ (w.issue cp env).rparam.length := by
  rw [w.issue_rlen]
  exact Int.ofNat_le.mpr (w.size_le_length_replyStruct env)

theorem hciSendReq_ret {r : HciRequest} {res : ReqResult}
    (h : hciSendReq r timeout env.toReqEnv s = .done res) : res.ret = 0 ∨ res.ret = -1 := by
  rcases hciSendReq_done_cases h with ⟨-, e, rfl⟩ | ⟨-, e, -, rfl⟩ | ⟨-, e, x, -, hx, rfl⟩
  · exact .inr rfl
  · exact .inr rfl
  · show x.ret = 0 ∨ x.ret = -1
    cases e with
    | completed p src len =>
      obtain ⟨r', -, rfl⟩ := Option.map_eq_some_iff.mp hx
      exact .inl rfl
    | deadline =>
      cases hx
      exact .inr rfl
    | _ =>
      cases hx
      exact .inl rfl

/-- A wrapper succeeds if `hci_send_req` does and the status is zero; the reply stays as it is. -/
theorem sendForStatus_cases {r : HciRequest} {res : ReqResult}
    (h : hciSendReq r timeout env.toReqEnv s = .done res) :
    ∃ res', sendForStatus r timeout env.toReqEnv s = .done res' ∧ res'.req = res.req ∧
      ((res'.ret = 0 ∧ res.ret = 0 ∧ res.req.rparam.getD 0 0 = 0) ∨
        (res'.ret = -1 ∧ ¬(res.ret = 0 ∧ res.req.rparam.getD 0 0 = 0))) := by
  unfold sendForStatus
  rw [h, Outcome.done_bind]
  rcases hciSendReq_ret h with hret | hret
  · rw [if_neg (by omega)]
    by_cases hst : res.req.rparam.getD 0 0 = 0
    · rw [if_neg (not_not.mpr hst)]
      exact ⟨_, rfl, rfl, .inl ⟨rfl, hret, hst⟩⟩
    · rw [if_pos hst]
      exact ⟨_, rfl, rfl, .inr ⟨rfl, fun h => hst h.2⟩⟩
  · rw [if_pos (by omega)]
    exact ⟨_, rfl, rfl, .inr ⟨rfl, fun h => by omega⟩⟩

/-- A wrapper comes back when `hci_send_req` has. -/
theorem sendForStatus_done {r : HciRequest} {res' : ReqResult}
    (h : sendForStatus r timeout env.toReqEnv s = .done res') :
    ∃ res, hciSendReq r timeout env.toReqEnv s = .done res ∧ res'.req = res.req ∧
      ((res'.ret = 0 ∧ res.ret = 0 ∧ res.req.rparam.getD 0 0 = 0) ∨
        (res'.ret = -1 ∧ ¬(res.ret = 0 ∧ res.req.rparam.getD 0 0 = 0))) := by
  obtain ⟨res, hreq, -⟩ := Outcome.bind_eq_done.mp h
  obtain ⟨res₁, hres₁, hcases⟩ := sendForStatus_cases hreq
  rw [h, Outcome.done.injEq] at hres₁
  exact ⟨res, hreq, hres₁ ▸ hcases⟩

/-- Where a wrapper succeeds, there is a reply to be read. -/
theorem Wrapper.sendForStatus_read {w : Wrapper} {cp : w.Cp} {res : ReqResult}
    (h : sendForStatus (w.issue cp env) timeout env.toReqEnv s = .done res) :
    (res.ret = 0 ∧ ∃ v, w.rp.read res.req.rparam = some v) ∨ res.ret = -1 := by
  obtain ⟨res₀, hreq, hreply, hret⟩ := sendForStatus_done h
  rcases hret with ⟨hret, -⟩ | ⟨hret, -⟩
  · have hsize : w.rp.size ≤ res.req.rparam.length := by
      rw [hreply, hciSendReq_length_rparam (w.rlen_issue_le cp env) hreq]
      exact w.size_le_length_replyStruct env
    exact .inl ⟨hret, w.rp.read_of_le hsize⟩
  · exact .inr hret

theorem Wrapper.ask_of_sendForStatus {β : Type} (w : Wrapper) (cp : w.Cp) (out : w.Rp → β)
    {res : ReqResult} (h : sendForStatus (w.issue cp env) timeout env.toReqEnv s = .done res) :
    w.ask cp out timeout env s = .done
      ⟨res.ret, if res.ret = 0 then (w.rp.read res.req.rparam).map out else none, res.sock⟩ := by
  rw [Wrapper.ask, h]
  rfl

/-- **A function returns `0` and hands over a reply, or `-1` and leaves its pointers alone.** -/
theorem Wrapper.ask_done {β : Type} {w : Wrapper} {cp : w.Cp} {out : w.Rp → β} {res : Called β}
    (h : w.ask cp out timeout env s = .done res) :
    (res.ret = 0 ∧ ∃ v, res.out = some (out v)) ∨ (res.ret = -1 ∧ res.out = none) := by
  obtain ⟨res', hsend, h⟩ := Outcome.bind_eq_done.mp h
  cases h
  rcases Wrapper.sendForStatus_read hsend with ⟨hret, v, hv⟩ | hret
  · exact .inl ⟨hret, v, by simp [hret, hv]⟩
  · exact .inr ⟨hret, by simp [hret]⟩

/-- A packet with a whole reply in it. -/
def Wrapper.Replies (w : Wrapper) (p : Packet) (v : w.Rp) : Prop :=
  w.rp.read p.payload = some v ∧ w.status v = 0

/--
**Where a success comes from**: of a packet that completes the request, and then what is handed over
are the fields of its reply if all of them are there; or of an iteration that fails before the
deadline.
-/
theorem Wrapper.ask_zero {β : Type} {w : Wrapper} {cp : w.Cp} {out : w.Rp → β} {res : Called β}
    (h : w.ask cp out timeout env s = .done res) (hret : res.ret = 0) :
    env.Sent ∧ ∃ t, env.toReqEnv.Reaches (w.issue cp env) timeout t ∧
      ¬t.now - env.start > timeout ∧
      ((∃ p, t.Receives env.start timeout p ∧ Completes (w.issue cp env) p ∧
          (w.rp.size ≤ p.payload.length → ∃ v, w.Replies p v ∧ res.out = some (out v))) ∨
        ∃ eo, t.FailsWith (w.issue cp env) env.start timeout eo) := by
  obtain ⟨res', hsend, h⟩ := Outcome.bind_eq_done.mp h
  cases h
  simp only at hret
  obtain ⟨res₀, hreq, hreply, hcase⟩ := sendForStatus_done hsend
  -- the call succeeded, so `hci_send_req` did, and with a zero status
  obtain ⟨hzero, hstatus⟩ : res₀.ret = 0 ∧ res₀.req.rparam.getD 0 0 = 0 := by
    rcases hcase with ⟨-, h⟩ | ⟨hneg, -⟩
    · exact h
    · omega
  have hin : env.FilterIn := by
    rcases hciSendReq_done_cases hreq with ⟨-, e, rfl⟩ | ⟨hin, -⟩ | ⟨hsent, -⟩
    · cases hzero
    · exact hin
    · exact ⟨hsent.1, hsent.2.1⟩
  obtain ⟨hsent, t, hreach, hend⟩ := hciSendReq_zero hin hreq hzero
  refine ⟨hsent, t, hreach, ?_⟩
  rcases hend with ⟨eo, hf⟩ | ⟨p, hp, hc, hcopy⟩
  · obtain ⟨res₁, hres₁, -, -, hret₁⟩ := hciSendReq_of_failsWith (s := s) hsent hreach hf
    rw [hreq, Outcome.done.injEq] at hres₁
    subst hres₁
    refine ⟨fun hlate => ?_, .inr ⟨eo, hf⟩⟩
    rw [if_pos hlate, hzero] at hret₁
    cases hret₁
  · refine ⟨hp.1, .inl ⟨p, hp, hc, fun hsize => ?_⟩⟩
    obtain ⟨hlo, -, hhi, -⟩ := copyReply_inside hcopy
    rw [copyReply_of_le w.rlen_nonneg (by omega), Option.some.injEq] at hcopy
    obtain ⟨v, hv⟩ := w.rp.read_of_le hsize
    have hpayload : p.payload = w.rp.encode v ++ p.payload.drop w.rp.size := by
      rw [Packed.encode_read hv, List.take_append_drop]
    obtain ⟨hread, hst⟩ := read_answeredBy cp env hpayload
    rw [hcopy] at hread hst
    rw [hst] at hstatus
    exact ⟨v, ⟨hv, hstatus⟩, by simp [hret, hreply, hread]⟩

/-! ## One function after the other -/

/-- What is handed over is looked at by `g`. -/
def Called.map {α β : Type} (g : α → β) (res : Called α) : Called β :=
  ⟨res.ret, res.out.map g, res.sock⟩

/-- A function that hands over nothing. -/
def CallResult.called (res : CallResult) : Called Unit :=
  ⟨res.ret, if res.ret = 0 then some () else none, res.sock⟩

def ConnResult.called (res : ConnResult) : Called UInt16 :=
  ⟨res.ret, if res.ret = 0 then some res.handle else none, res.sock⟩

def NameResult.called (res : NameResult) : Called (List UInt8) :=
  ⟨res.ret, if res.ret = 0 then some res.name else none, res.sock⟩

/-- A function that makes of the reply what `ask` does. -/
theorem Wrapper.bind_eq_ask {β : Type} (w : Wrapper) (cp : w.Cp) (out : w.Rp → β)
    {g : ReqResult → Outcome (Called β)}
    (hzero : ∀ res v, res.ret = 0 → w.rp.read res.req.rparam = some v →
      g res = .done ⟨0, some (out v), res.sock⟩)
    (hneg : ∀ res, res.ret = -1 → g res = .done ⟨-1, none, res.sock⟩) :
    (sendForStatus (w.issue cp env) timeout env.toReqEnv s >>= g) =
      w.ask cp out timeout env s := by
  refine Outcome.bind_congr fun res hres => ?_
  rcases Wrapper.sendForStatus_read hres with ⟨hret, v, hv⟩ | hret
  · rw [hzero res v hret hv, hret, if_pos rfl, hv]
    rfl
  · rw [hneg res hret, hret, if_neg (by decide)]
    rfl

/-- A function that only looks at the status. -/
theorem Wrapper.called_eq_ask (w : Wrapper) (cp : w.Cp) :
    (sendForStatus (w.issue cp env) timeout env.toReqEnv s >>= fun res =>
      pure (CallResult.called ⟨res.ret, res.sock⟩)) = w.ask cp noOutput timeout env s := by
  refine w.bind_eq_ask cp noOutput (fun res v hret _ => ?_) fun res hret => ?_
  · simp [CallResult.called, hret, noOutput]
  · simp [CallResult.called, hret]

theorem hciDisconnect_eq_ask (handle : UInt16) (reason : UInt8) :
    (hciDisconnect handle reason timeout env s >>= fun res => pure res.called) =
      Wrapper.disconnect.ask (handle, reason) noOutput timeout env s :=
  (Outcome.bind_assoc ..).trans (Wrapper.called_eq_ask .disconnect (handle, reason))

theorem hciLeSetScanEnable_eq_ask (enable filterDup : UInt8) :
    (hciLeSetScanEnable enable filterDup timeout env s >>= fun res => pure res.called) =
      Wrapper.leSetScanEnable.ask (enable, filterDup) noOutput timeout env s :=
  (Outcome.bind_assoc ..).trans (Wrapper.called_eq_ask .leSetScanEnable (enable, filterDup))

theorem hciLeSetScanParameters_eq_ask (type : UInt8) (interval window : UInt16)
    (ownType filter : UInt8) :
    (hciLeSetScanParameters type interval window ownType filter timeout env s >>= fun res =>
      pure res.called) =
      Wrapper.leSetScanParameters.ask (type, interval, window, ownType, filter) noOutput timeout
        env s :=
  (Outcome.bind_assoc ..).trans
    (Wrapper.called_eq_ask .leSetScanParameters (type, interval, window, ownType, filter))

/-- The first bytes of a struct, and the fields that they are. -/
theorem Wrapper.getD_encode_read {w : Wrapper} {bytes : List UInt8} {v : w.Rp} {i : Nat}
    (h : w.rp.read bytes = some v) (hi : i < w.rp.size) :
    (w.rp.encode v).getD i 0 = bytes.getD i 0 := by
  rw [Packed.encode_read h, List.getD_eq_getElem?_getD, List.getD_eq_getElem?_getD,
    List.getElem?_take_of_lt hi]

theorem leCreateConn_read {bytes : List UInt8} {v : Wrapper.leCreateConn.Rp}
    (h : Wrapper.leCreateConn.rp.read bytes = some v) :
    v.2.1 = le16 (bytes.getD 1 0) (bytes.getD 2 0) := by
  rw [← Wrapper.getD_encode_read h (i := 1) (by decide),
    ← Wrapper.getD_encode_read h (i := 2) (by decide)]
  exact (le16_bytes v.2.1).symm

/-- `hci_le_create_conn` hands over the handle. -/
theorem hciLeCreateConn_eq_ask (cp : LeCreateConnCp) :
    (hciLeCreateConn cp timeout env s >>= fun res => pure res.called) =
      Wrapper.leCreateConn.ask cp (fun v => v.2.1) timeout env s := by
  refine (Outcome.bind_assoc ..).trans (Wrapper.leCreateConn.bind_eq_ask cp (fun v => v.2.1)
    (fun res v hret hv => ?_) fun res hret => ?_)
  · rw [leCreateConn_read hv]
    simp [ConnResult.called, hret]
  · simp [ConnResult.called, hret]

theorem readLocalName_read {bytes : List UInt8} {v : Wrapper.readLocalName.Rp}
    (h : Wrapper.readLocalName.rp.read bytes = some v) :
    v.2.toList.take 247 = (bytes.drop 1).take 247 := by
  have htake : v.1 :: v.2.toList = bytes.take 249 := Packed.encode_read h
  have hdrop := congrArg (List.take 247 ∘ List.drop 1) htake
  simpa [List.drop_take, List.take_take] using hdrop

/-- What `hci_read_local_name` hands over. -/
def nameOutput (len : Nat) (v : Wrapper.readLocalName.Rp) : List UInt8 :=
  strncpy (v.2.toList.take 247 ++ [0]) len

theorem hciReadLocalName_eq_ask (len : Nat) (name : List UInt8) :
    (hciReadLocalName len name timeout env s >>= fun res => pure res.called) =
      Wrapper.readLocalName.ask () (nameOutput len) timeout env s := by
  refine (Outcome.bind_assoc ..).trans (Wrapper.readLocalName.bind_eq_ask () (nameOutput len)
    (fun res v hret hv => ?_) fun res hret => ?_)
  · simp [NameResult.called, hret, nameOutput, readLocalName_read hv]
  · simp [NameResult.called, hret]

/-- Where no reply is asked for, it makes no difference whether a status is looked at. -/
theorem Wrapper.send_eq_ask (w : Wrapper) (cp : w.Cp) (h : w.rp.size = 0) :
    w.send cp timeout env s = w.ask cp noOutput timeout env s := by
  unfold Wrapper.send Wrapper.ask sendForStatus
  cases hreq : hciSendReq (w.issue cp env) timeout env.toReqEnv s with
  | blocked => rfl
  | fault => rfl
  | done res =>
    have hnil : res.req.rparam = [] := by
      have hlen := hciSendReq_length_rparam (w.rlen_issue_le cp env) hreq
      have hstruct : (w.issue cp env).rparam = [] := w.replyStruct_eq_nil h
      rw [hstruct] at hlen
      exact List.length_eq_zero_iff.mp hlen
    have hsize : w.rp.size ≤ ([] : List UInt8).length := Nat.le_of_eq h
    obtain ⟨v, hv⟩ := w.rp.read_of_le hsize
    simp only [Outcome.done_bind, hnil]
    rcases hciSendReq_ret hreq with hret | hret
    · simp [hret, hnil, hv, noOutput]
    · simp [hret]

/-- What `hci_read_current_iac_lap` hands over. -/
def lapsOutput (v : Wrapper.readCurrentIacLap.Rp) : UInt8 × List UInt8 :=
  (v.2.1, v.2.2.toList.take (3 * v.2.1.toNat))

theorem hciReadCurrentIacLap_eq_call :
    hciReadCurrentIacLap timeout env s =
      Wrapper.readCurrentIacLap.call () timeout env s >>= fun res => pure (res.map lapsOutput) := by
  unfold hciReadCurrentIacLap Wrapper.call
  cases Wrapper.readCurrentIacLap.ask () id timeout env s with
  | blocked => rfl
  | fault => rfl
  | done res =>
    obtain ⟨ret, out, sock⟩ := res
    cases out with
    | none => rfl
    | some v =>
      show (if maxIacLap < v.2.1.toNat then Outcome.fault
          else Outcome.done (Called.mk ret (some (lapsOutput v)) sock)) =
        ((if decide (maxIacLap < v.2.1.toNat) then Outcome.fault
          else Outcome.done (Called.mk ret (some v) sock)) >>= fun res =>
            Outcome.done (res.map lapsOutput))
      by_cases hmax : maxIacLap < v.2.1.toNat
      · rw [if_pos hmax, if_pos (decide_eq_true hmax)]
        rfl
      · rw [if_neg hmax, if_neg (by simpa using hmax)]
        rfl

theorem hciWriteCurrentIacLap_eq_send {numIac : UInt8} (lap : Nat → UInt8)
    (h : numIac.toNat ≤ maxIacLap) :
    hciWriteCurrentIacLap numIac lap timeout env s =
      Wrapper.writeCurrentIacLap.send (writtenLaps numIac lap h) timeout env s := dif_pos h

/-- Only what is handed over depends on the function. -/
theorem Wrapper.ask_eq_call {β : Type} {w : Wrapper} (hw : w ≠ .readCurrentIacLap) (cp : w.Cp)
    (out : w.Rp → β) :
    w.ask cp out timeout env s = w.call cp timeout env s >>= fun res => pure (res.map out) := by
  have hroom : ∀ o : Option w.Rp, o.any w.overruns = false := fun o => by
    cases o with
    | none => rfl
    | some v =>
      cases w with
      | readCurrentIacLap => exact absurd rfl hw
      | _ => rfl
  unfold Wrapper.call Wrapper.ask
  cases sendForStatus (w.issue cp env) timeout env.toReqEnv s with
  | blocked => rfl
  | fault => rfl
  | done res =>
    simp only [Outcome.done_bind, Outcome.pure_eq, Option.map_id, id_eq, hroom, Bool.false_eq_true,
      if_false, Called.map]
    split <;> rfl

/--
The functions of `hci.c` that send a command: `f` sends that of `w` with the parameters `cp`, and
hands over `out` of the reply.
-/
inductive HciFunction : {β : Type} → (w : Wrapper) → w.Cp → (w.Rp → β) → HciCall β → Prop
  | ask {β : Type} {w : Wrapper} (cp : w.Cp) (out : w.Rp → β) : w ≠ .readCurrentIacLap →
      HciFunction w cp out (w.ask cp out)
  | send {w : Wrapper} (cp : w.Cp) : w.rp.size = 0 → HciFunction w cp noOutput (w.send cp)
  | disconnect (handle : UInt16) (reason : UInt8) :
      HciFunction .disconnect (handle, reason) noOutput fun timeout env s =>
        hciDisconnect handle reason timeout env s >>= fun res => pure res.called
  | leSetScanEnable (enable filterDup : UInt8) :
      HciFunction .leSetScanEnable (enable, filterDup) noOutput fun timeout env s =>
        hciLeSetScanEnable enable filterDup timeout env s >>= fun res => pure res.called
  | leSetScanParameters (type : UInt8) (interval window : UInt16) (ownType filter : UInt8) :
      HciFunction .leSetScanParameters (type, interval, window, ownType, filter) noOutput
        fun timeout env s =>
          hciLeSetScanParameters type interval window ownType filter timeout env s >>= fun res =>
            pure res.called
  | leCreateConn (cp : LeCreateConnCp) :
      HciFunction .leCreateConn cp (fun v => v.2.1) fun timeout env s =>
        hciLeCreateConn cp timeout env s >>= fun res => pure res.called
  | readLocalName (len : Nat) (name : List UInt8) :
      HciFunction .readLocalName () (nameOutput len) fun timeout env s =>
        hciReadLocalName len name timeout env s >>= fun res => pure res.called
  | readCurrentIacLap : HciFunction .readCurrentIacLap () lapsOutput hciReadCurrentIacLap
  | writeCurrentIacLap {numIac : UInt8} (lap : Nat → UInt8) (h : numIac.toNat ≤ maxIacLap) :
      HciFunction .writeCurrentIacLap (writtenLaps numIac lap h) noOutput
        (hciWriteCurrentIacLap numIac lap)

/-- **Every function that sends a command is the call of its wrapper**, but for what it copies. -/
theorem HciFunction.eq_call {β : Type} {w : Wrapper} {cp : w.Cp} {out : w.Rp → β} {f : HciCall β}
    (h : HciFunction w cp out f) (timeout : Int) (env : CallEnv) (s : Sock) :
    f timeout env s = w.call cp timeout env s >>= fun res => pure (res.map out) := by
  cases h with
  | ask _ _ hw => exact Wrapper.ask_eq_call hw cp out
  | send _ hsize =>
    have hw : w ≠ .readCurrentIacLap := by
      rintro rfl
      cases hsize
    rw [w.send_eq_ask cp hsize, Wrapper.ask_eq_call hw]
  | disconnect handle reason =>
    exact (hciDisconnect_eq_ask handle reason).trans (Wrapper.ask_eq_call (by simp) _ _)
  | leSetScanEnable enable filterDup =>
    exact (hciLeSetScanEnable_eq_ask enable filterDup).trans (Wrapper.ask_eq_call (by simp) _ _)
  | leSetScanParameters type interval window ownType filter =>
    exact (hciLeSetScanParameters_eq_ask type interval window ownType filter).trans
      (Wrapper.ask_eq_call (by simp) _ _)
  | leCreateConn cp =>
    exact (hciLeCreateConn_eq_ask cp).trans (Wrapper.ask_eq_call (by simp) _ _)
  | readLocalName len name =>
    exact (hciReadLocalName_eq_ask len name).trans (Wrapper.ask_eq_call (by simp) _ _)
  | readCurrentIacLap => exact hciReadCurrentIacLap_eq_call
  | writeCurrentIacLap lap h =>
    exact (hciWriteCurrentIacLap_eq_send lap h).trans
      ((Wrapper.send_eq_ask _ _ rfl).trans (Wrapper.ask_eq_call (by simp) _ _))

/-- A function returns what `ask` does, if it returns. -/
theorem HciFunction.ask_done {β : Type} {w : Wrapper} {cp : w.Cp} {out : w.Rp → β}
    {f : HciCall β} {res : Called β} (hf : HciFunction w cp out f)
    (h : f timeout env s = .done res) :
    ∃ res', w.ask cp id timeout env s = .done res' ∧ res = res'.map out := by
  rw [hf.eq_call] at h
  obtain ⟨res', hcall, h⟩ := Outcome.bind_eq_done.mp h
  obtain ⟨res'', hask, hcall⟩ := Outcome.bind_eq_done.mp hcall
  split at hcall
  · cases hcall
  · cases hcall
    cases h
    exact ⟨res', hask, rfl⟩

/-! ## The laps -/

/-- The byte `i` of the reply struct when the wait has ended: as received, or as it was. -/
def HciRequest.byteAfter (r : HciRequest) (i : Nat) : ReqEnd → UInt8
  | .completed p _ _ =>
    if (i : Int) < r.rlen ∧ p.payloadOffset + i < p.size then p.buf (p.payloadOffset + i)
    else r.rparam.getD i 0
  | _ => r.rparam.getD i 0

/-- `hci_send_req` returns `0` when the command was sent and the wait did not end too late. -/
theorem hciSendReq_ret_iff {r : HciRequest} {res : ReqResult}
    (h : hciSendReq r timeout env.toReqEnv s = .done res) :
    res.ret = 0 ↔ env.Sent ∧ ∃ e, env.waitEnd r timeout = some e ∧ e ≠ .deadline := by
  rcases hciSendReq_done_cases h with ⟨hno, e, rfl⟩ | ⟨-, e, he, rfl⟩ | ⟨hsent, e, x, he, hx, rfl⟩
  · refine iff_of_false (fun hret => by cases hret) fun hs => hno hs.1.filterIn
  · refine iff_of_false (fun hret => by cases hret) fun hs => ?_
    rw [hs.1.2.2] at he
    cases he
  · rw [he]
    show x.ret = 0 ↔ _
    cases e with
    | deadline =>
      cases hx
      refine iff_of_false (fun hret => by cases hret) ?_
      rintro ⟨-, e, he, hne⟩
      cases he
      exact hne rfl
    | completed p src len =>
      obtain ⟨r', -, rfl⟩ := Option.map_eq_some_iff.mp hx
      exact iff_of_true rfl ⟨hsent, _, rfl, by simp⟩
    | _ =>
      cases hx
      exact iff_of_true rfl ⟨hsent, _, rfl, by simp⟩

/-- What the reply struct holds when `hci_send_req` has sent its command. -/
theorem getD_byteAfter {r : HciRequest} {res : ReqResult} {e : ReqEnd} (i : Nat)
    (h : hciSendReq r timeout env.toReqEnv s = .done res) (hsent : env.Sent)
    (he : env.waitEnd r timeout = some e) : res.req.rparam.getD i 0 = r.byteAfter i e := by
  rcases hciSendReq_done_cases h with ⟨hno, -⟩ | ⟨-, e', he', -⟩ | ⟨-, e', x, he', hx, rfl⟩
  · exact absurd hsent.filterIn hno
  · rw [hsent.2.2] at he'
    cases he'
  · rw [he, Option.some.injEq] at he'
    subst he'
    obtain ⟨t, -, hte⟩ := waitEnd_eq_some_iff.mp he
    show x.req.rparam.getD i 0 = _
    rcases turnEnd_cases hte with ⟨eo, hf⟩ | ⟨p, -, -, rfl⟩
    · -- nothing was received
      obtain ⟨e', he', hne, hreq⟩ := turnEnd_of_failsWith hf
      rw [hte, Option.some.injEq] at he'
      subst he'
      obtain ⟨x', hx', hxr, -⟩ := hreq (waitErrno r timeout env.toReqEnv
        (waitSock r env.toReqEnv s).errno)
      rw [hx, Option.some.injEq] at hx'
      rw [hx', hxr]
      cases e with
      | completed p src len => exact absurd rfl (hne p src len)
      | _ => rfl
    · obtain ⟨r', hcopy, rfl⟩ := Option.map_eq_some_iff.mp hx
      rw [getD_copyReply hcopy]
      exact ite_congr (propext (by omega)) (fun _ => rfl) fun _ => rfl

/-- The byte `i` of an uninitialised reply struct when `hci_send_req` has returned. -/
def CallEnv.structByte (env : CallEnv) (r : HciRequest) (timeout : Int) (i : Nat) : UInt8 :=
  match env.waitEnd r timeout with
  | some (.completed p _ _) => env.replyByte p i
  | _ => env.stack i

theorem getD_rparam {r : HciRequest} {res : ReqResult} {n i : Nat}
    (hrp : r.rparam = env.uninit n) (hin : i < n) (hir : (i : Int) < r.rlen)
    (h : hciSendReq r timeout env.toReqEnv s = .done res) (hret : res.ret = 0) :
    res.req.rparam.getD i 0 = env.structByte r timeout i := by
  obtain ⟨hsent, e, he, -⟩ := (hciSendReq_ret_iff h).mp hret
  have hstack : r.rparam.getD i 0 = env.stack i := by
    rw [hrp]
    simp [CallEnv.uninit, hin]
  unfold CallEnv.structByte
  rw [getD_byteAfter i h hsent he, he]
  cases e with
  | completed p src len =>
    simp only [HciRequest.byteAfter, CallEnv.replyByte, hir, true_and, hstack]
  | _ => exact hstack

/-- The request of `hci_read_current_iac_lap`. -/
def iacLapRequest (env : CallEnv) : HciRequest := Wrapper.readCurrentIacLap.issue () env

/--
**`hci_read_current_iac_lap` reads behind its own struct exactly when the reply says that there are
more laps than the struct has room for**, or when `hci_send_req` itself does.

The number is the byte behind the status, as it was received or as it was on the stack.
-/
theorem hciReadCurrentIacLap_eq_fault_iff (timeout : Int) (env : CallEnv) (s : Sock) :
    hciReadCurrentIacLap timeout env s = .fault ↔
      hciSendReq (iacLapRequest env) timeout env.toReqEnv s = .fault ∨
        ∃ res, hciSendReq (iacLapRequest env) timeout env.toReqEnv s = .done res ∧ res.ret = 0 ∧
          env.structByte (iacLapRequest env) timeout 0 = 0 ∧
          maxIacLap < (env.structByte (iacLapRequest env) timeout 1).toNat := by
  have hrp : (iacLapRequest env).rparam = env.uninit 194 := rfl
  have hrl : (iacLapRequest env).rlen = 194 := rfl
  cases hreq : hciSendReq (iacLapRequest env) timeout env.toReqEnv s with
  | blocked =>
    unfold iacLapRequest at hreq
    simp [hciReadCurrentIacLap, Wrapper.ask, sendForStatus, hreq]
  | fault =>
    unfold iacLapRequest at hreq
    simp [hciReadCurrentIacLap, Wrapper.ask, sendForStatus, hreq]
  | done res =>
    simp only [reduceCtorEq, false_or, Outcome.done.injEq, exists_eq_left']
    obtain ⟨res', hsend, hreply, hret⟩ := sendForStatus_cases hreq
    have hask := Wrapper.ask_of_sendForStatus .readCurrentIacLap () id hsend
    unfold hciReadCurrentIacLap
    rw [hask, Outcome.done_bind]
    rcases hret with ⟨hret', hret, hst⟩ | ⟨hret', hnot⟩
    · rw [← getD_rparam hrp (i := 0) (by omega) (by omega) hreq hret,
        ← getD_rparam hrp (i := 1) (by omega) (by omega) hreq hret]
      rcases Wrapper.ask_done hask with ⟨-, v, hv⟩ | ⟨hneg, -⟩
      · rw [if_pos hret'] at hv
        obtain ⟨⟨status, numIac, lap⟩, hread, rfl⟩ := Option.map_eq_some_iff.mp hv
        have hnum : numIac = res.req.rparam.getD 1 0 := by
          rw [← hreply]
          exact Wrapper.getD_encode_read hread (i := 1) (by decide)
        rw [if_pos hret', hread, ← hnum]
        show (if maxIacLap < numIac.toNat then Outcome.fault
          else .done (Called.mk res'.ret (some (numIac, lap.toList.take (3 * numIac.toNat)))
            res'.sock)) = _ ↔ _
        by_cases hmax : maxIacLap < numIac.toNat
        · rw [if_pos hmax]
          exact iff_of_true rfl ⟨hret, hst, hmax⟩
        · rw [if_neg hmax]
          exact iff_of_false (fun h => by cases h) fun h => hmax h.2.2
      · simp only at hneg
        omega
    · -- nothing is handed over, so nothing is copied
      rw [if_neg (by omega)]
      refine iff_of_false (fun h => by cases h) ?_
      rintro ⟨hret, hst, -⟩
      rw [← getD_rparam hrp (i := 0) (by omega) (by omega) hreq hret] at hst
      exact hnot ⟨hret, hst⟩

end

end LinuxBle
