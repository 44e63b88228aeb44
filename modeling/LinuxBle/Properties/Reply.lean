import LinuxBle.Properties.Attribution

/-!
# What a reply hands over

* `copiesReceived_iff` — when `hci_send_req` copies nothing but bytes that were received
* `hciSendReq_answers` — it answers with the first packet that completes the request

## Short packets

The buffer is cleared before every `read`, so the fields of a packet that is cut short read as
zero and may still match. The length that is left is then negative.
-/

namespace LinuxBle

open Infra

variable {r : HciRequest} {timeout : Int} {env : ReqEnv} {s : Sock} {p : Packet}

/-! ## The reply in the packet -/

/-- What follows the header of the event, as far as it was received. -/
def Packet.payload (p : Packet) : List UInt8 := p.bytes.drop p.payloadOffset

@[simp] theorem Packet.length_payload (p : Packet) :
    p.payload.length = p.size - p.payloadOffset := by
  simp [Packet.payload, Packet.size]

/-- What lies inside the packet was received. -/
theorem Packet.slice_of_le {src n : Nat} (h : src + n ≤ p.size) :
    p.slice src n = (p.bytes.drop src).take n := by
  have hsize := p.size_le
  unfold Packet.size at h
  refine List.ext_getElem (by simp; omega) fun i hi _ => ?_
  rw [Packet.length_slice] at hi
  simp only [Packet.slice, List.getElem_map, List.getElem_range, List.getElem_take,
    List.getElem_drop]
  unfold Packet.buf
  rw [if_pos (by omega), List.getD_eq_getElem?_getD, List.getElem?_eq_getElem (by omega)]
  rfl

/-- The request with the reply that the packet carries. -/
def HciRequest.answeredBy (r : HciRequest) (p : Packet) : HciRequest :=
  let n := min r.rlen p.payload.length
  { r with rlen := n, rparam := p.payload.take n.toNat ++ r.rparam.drop n.toNat }

/-- **A packet with its whole header hands over its payload**, as much of it as fits. -/
theorem copyReply_of_le (hr : 0 ≤ r.rlen) (hp : p.payloadOffset ≤ p.size) :
    copyReply r p p.payloadOffset (p.size - p.payloadOffset) = some (r.answeredBy p) := by
  have hmin : min ((p.size : Int) - p.payloadOffset) r.rlen = min r.rlen p.payload.length := by
    rw [Packet.length_payload]
    omega
  unfold copyReply HciRequest.answeredBy
  simp only [hmin]
  rw [if_neg (by omega), Packet.slice_of_le (by rw [Packet.length_payload]; omega)]
  rfl

/-! ## Only bytes that were received -/

/--
`hci_send_req` copies only bytes that were received, and no more than fit.

What it copies is a part of the packet that completed the request, inside what was received;
without such a packet the request stays as it was.
-/
structure CopiesReceived (r : HciRequest) (timeout : Int) (env : ReqEnv) (s : Sock) : Prop where
  safe : hciSendReq r timeout env s ≠ .fault
  inside : ∀ p res, CompletedBy r timeout env s p → hciSendReq r timeout env s = .done res →
    0 ≤ res.req.rlen ∧ res.req.rlen ≤ r.rlen ∧ p.payloadOffset + res.req.rlen ≤ p.size ∧
      res.req.rparam = p.slice p.payloadOffset res.req.rlen.toNat ++
        r.rparam.drop res.req.rlen.toNat
  otherwise : ∀ res, (∀ p, ¬CompletedBy r timeout env s p) →
    hciSendReq r timeout env s = .done res → res.req = r

/-- What a reply copies lies inside the packet. -/
theorem copyReply_inside {r' : HciRequest} {src : Nat} {len : Int}
    (h : copyReply r p src len = some r') :
    0 ≤ r'.rlen ∧ r'.rlen ≤ r.rlen ∧ r'.rlen ≤ len ∧
      r'.rparam = p.slice src r'.rlen.toNat ++ r.rparam.drop r'.rlen.toNat := by
  unfold copyReply at h
  simp only at h
  split at h
  · cases h
  · next hn =>
    cases h
    exact ⟨Int.not_lt.mp hn, Int.min_le_right _ _, Int.min_le_left _ _, rfl⟩

/-- A call that returns with no packet that completes the request leaves it alone. -/
theorem hciSendReq_req {res : ReqResult} (h : hciSendReq r timeout env s = .done res)
    (hno : ∀ p, ¬CompletedBy r timeout env s p) : res.req = r := by
  rcases hciSendReq_done_cases h with ⟨-, e, rfl⟩ | ⟨-, e, -, rfl⟩ | ⟨hsent, e, x, he, -, -⟩
  · rfl
  · rfl
  · obtain ⟨t, ht, hte⟩ := waitEnd_eq_some_iff.mp he
    rcases turnEnd_cases hte with ⟨eo, hf⟩ | ⟨p, -, -, rfl⟩
    · obtain ⟨res', hres', hreq, -⟩ := hciSendReq_of_failsWith hsent ht hf
      rw [h, Outcome.done.injEq] at hres'
      rw [hres', hreq]
    · exact absurd ⟨hsent, he, res, h⟩ (hno p)

/-- With packets that are long enough, a call waits or comes back. -/
theorem hciSendReq_blocked_or_done (hr : 0 ≤ r.rlen)
    (h : env.Sent → ∀ t p, env.Reaches r timeout t → t.Receives env.start timeout p →
      Completes r p → p.payloadOffset ≤ p.size) :
    hciSendReq r timeout env s = .blocked ∨ ∃ res, hciSendReq r timeout env s = .done res := by
  rcases hciSendReq_cases r timeout env s with
    ⟨-, e, hd⟩ | ⟨-, -, hd⟩ | ⟨e, -, -, hd⟩ | ⟨-, -, hd⟩ | ⟨e, hsent, he, -⟩
  · exact Or.inr ⟨_, hd⟩
  · exact Or.inl hd
  · exact Or.inr ⟨_, hd⟩
  · exact Or.inl hd
  · obtain ⟨t, ht, hte⟩ := waitEnd_eq_some_iff.mp he
    rcases turnEnd_cases hte with ⟨eo, hf⟩ | ⟨p, htp, hc, rfl⟩
    · obtain ⟨res, hd, -⟩ := hciSendReq_of_failsWith hsent ht hf
      exact Or.inr ⟨res, hd⟩
    · obtain ⟨-, -, hd⟩ := (completedBy_iff hr).mpr
        ⟨hsent, hc, h hsent t p ht htp hc, t, ht, htp⟩
      exact Or.inr hd

theorem hciSendReq_ne_fault (hr : 0 ≤ r.rlen)
    (h : env.Sent → ∀ t p, env.Reaches r timeout t → t.Receives env.start timeout p →
      Completes r p → p.payloadOffset ≤ p.size) :
    hciSendReq r timeout env s ≠ .fault := by
  intro hfault
  rcases hciSendReq_blocked_or_done (s := s) hr h with hb | ⟨res, hd⟩
  · rw [hfault] at hb
    cases hb
  · rw [hfault] at hd
    cases hd

/--
**`hci_send_req` copies only received bytes exactly when every packet that completes the request
has its whole header.**

A shorter one matches by the zeros behind it, and `memcpy` gets a negative length.
-/
theorem copiesReceived_iff (r : HciRequest) (timeout : Int) (env : ReqEnv) (s : Sock)
    (hr : 0 ≤ r.rlen) :
    CopiesReceived r timeout env s ↔
      (env.Sent → ∀ t p, env.Reaches r timeout t → t.Receives env.start timeout p →
        Completes r p → p.payloadOffset ≤ p.size) := by
  constructor
  · intro law hsent t p ht htp hc
    have he := waitEnd_eq_some_iff.mpr ⟨t, ht, turnEnd_eq_completed_iff.mpr ⟨htp, hc⟩⟩
    rcases hciSendReq_of_completed (s := s) hsent he with ⟨-, hfault⟩ | ⟨r', hcopy, -⟩
    · exact absurd hfault law.safe
    · exact (copyReply_isSome hr).mp ⟨r', hcopy⟩
  · intro h
    refine ⟨hciSendReq_ne_fault hr h, fun p res hcomp hres => ?_,
      fun res hno hres => hciSendReq_req hres hno⟩
    obtain ⟨r', hcopy, hd⟩ := hcomp.result
    rw [hres, Outcome.done.injEq] at hd
    rw [hd]
    obtain ⟨hnonneg, hle, hlen, hrparam⟩ := copyReply_inside hcopy
    have hend : p.payloadOffset + r'.rlen ≤ p.size := by omega
    exact ⟨hnonneg, hle, hend, hrparam⟩

/-- An LE meta event without parameters. -/
def emptyMetaEvent : Packet := .ofBytes [0x04, 0x3E, 0x00] (by decide)

/-- It matches a request that waits for nothing, and one byte less than none is copied. -/
theorem not_copiesReceived_emptyMetaEvent :
    ¬CopiesReceived whiteListSizeRequest 1000 (.answered emptyMetaEvent)
      ⟨hciFilterClear, [], .ofCode 0⟩ := by
  intro law
  exact law.safe rfl

/-- Command Complete of LE Read White List Size: there is room for eight. -/
def whiteListSizeEight : Packet :=
  .ofBytes [0x04, 0x0E, 0x05, 0x01, 0x0F, 0x20, 0x00, 0x08] (by decide)

theorem copiesReceived_whiteListSizeEight :
    CopiesReceived whiteListSizeRequest 1000 (.answered whiteListSizeEight)
      ⟨hciFilterClear, [], .ofCode 0⟩ := by
  refine (copiesReceived_iff whiteListSizeRequest 1000 (.answered whiteListSizeEight)
    ⟨hciFilterClear, [], .ofCode 0⟩ (by decide)).mpr ?_
  rintro - t p ⟨pre, post, hturns, -⟩ ⟨-, hw, -⟩ -
  have ht : t ∈ (ReqEnv.answered whiteListSizeEight).turns := by
    rw [hturns]
    exact List.mem_append_right _ List.mem_cons_self
  rw [List.mem_singleton.mp ht, Wait.ready.injEq, ReadResult.got.injEq] at hw
  rw [← hw]
  decide

/-! ## The first packet that completes the request -/

/--
An iteration that the wait passes over: in time, with nothing to read, a read to be repeated, or
a packet that neither completes the request nor reports it as refused.
-/
inductive Turn.Passes (t : Turn) (r : HciRequest) (start timeout : Int) : Prop
  | timeout : ¬t.now - start > timeout → t.wait = .timeout → Passes t r start timeout
  | retried {e : Errno} : ¬t.now - start > timeout → t.wait = .ready (.fail e) →
      e.isRetry = true → Passes t r start timeout
  | other {p : Packet} : t.Receives start timeout p → ¬Completes r p → ¬Refuses r p →
      Passes t r start timeout

theorem turnEnd_of_passes {start : Int} {t : Turn} (h : t.Passes r start timeout) :
    turnEnd r start timeout t = none := by
  cases h with
  | timeout hl hw => simp [turnEnd, hl, hw]
  | retried hl hw he => simp [turnEnd, hl, hw, he]
  | other hp hc hr => rw [turnEnd_of_receives hp, dispatch_of_neither hc hr]

/-- The iterations that a request takes, once it is sent. -/
def ReqEnv.consumed (env : ReqEnv) (r : HciRequest) (timeout : Int) (s : Sock) : List Turn :=
  taken (reqBody r env.start timeout 0) (waitSock r env s).errno env.turns

section

variable {pre post : List Turn} {t : Turn}

/-- **The wait takes the iterations up to the first one that ends it.** -/
theorem consumed_of_passes {e : ReqEnd} (hturns : env.turns = pre ++ t :: post)
    (hpre : ∀ u ∈ pre, u.Passes r env.start timeout)
    (he : turnEnd r env.start timeout t = some e) :
    env.consumed r timeout s = pre ++ [t] := by
  unfold ReqEnv.consumed
  rw [hturns]
  exact taken_decided (d := turnEnd r env.start timeout)
    (fun s i h => reqBody_of_turnEnd_none h 0 s) (fun s i e h => reqBody_of_turnEnd_some h 0 s) he
    post pre _ fun u hu => turnEnd_of_passes (hpre u hu)

/-- The first packet that completes the request is handed over. -/
theorem hciSendReq_of_first (hr : 0 ≤ r.rlen) (hsent : env.Sent)
    (hturns : env.turns = pre ++ t :: post) (hpre : ∀ u ∈ pre, u.Passes r env.start timeout)
    (ht : t.Receives env.start timeout p) (hc : Completes r p) (hp : p.payloadOffset ≤ p.size) :
    hciSendReq r timeout env s = .done (endReq env s.filter (waitSock r env s)
      ⟨0, waitErrno r timeout env (waitSock r env s).errno, r.answeredBy p⟩) := by
  have hreach : env.Reaches r timeout t :=
    ⟨pre, post, hturns, fun u hu => turnEnd_of_passes (hpre u hu)⟩
  refine hciSendReq_of_exit hsent
    (waitEnd_eq_some_iff.mpr ⟨t, hreach, turnEnd_eq_completed_iff.mpr ⟨ht, hc⟩⟩) ?_
  rw [reqExit, copyReply_of_le hr hp]
  rfl

/--
**`hci_send_req` answers with the first packet that completes the request.**

It takes the iterations up to that one, hands over the payload of the packet, and leaves the rest
of the reply as it was. Other iterations before, and anything after, make no difference.
-/
theorem hciSendReq_answers (r : HciRequest) (timeout : Int) (env : ReqEnv) (s : Sock)
    (hr : 0 ≤ r.rlen) (hsent : env.Sent) (hturns : env.turns = pre ++ t :: post)
    (hpre : ∀ u ∈ pre, u.Passes r env.start timeout) (ht : t.Receives env.start timeout p)
    (hc : Completes r p) (hp : p.payloadOffset ≤ p.size) :
    env.consumed r timeout s = pre ++ [t] ∧
    ∃ sock, hciSendReq r timeout env s = .done ⟨0, r.answeredBy p, sock⟩ ∧
      ∀ pre' post', (∀ u ∈ pre', u.Passes r env.start timeout) →
        ∃ sock', hciSendReq r timeout { env with turns := pre' ++ t :: post' } s =
          .done ⟨0, r.answeredBy p, sock'⟩ ∧ sock'.withErrno sock.errno = sock := by
  refine ⟨consumed_of_passes hturns hpre (turnEnd_eq_completed_iff.mpr ⟨ht, hc⟩), _,
    hciSendReq_of_first hr hsent hturns hpre ht hc hp, fun pre' post' hpre' => ?_⟩
  let env' : ReqEnv := { env with turns := pre' ++ t :: post' }
  have hsent' : env'.Sent := hsent
  refine ⟨_, hciSendReq_of_first hr hsent' rfl hpre' ht hc hp, ?_⟩
  show ((waitSock r env s).setFilter s.filter env.restore).withErrno _ = _
  cases env.restore <;> rfl

end

/-- Command Status of LE Read White List Size: the command is pending. -/
def whiteListSizePending : Packet :=
  .ofBytes [0x04, 0x0F, 0x04, 0x00, 0x01, 0x0F, 0x20] (by decide)

/-- Nothing to read at first, a Command Status, the reply, and more to come. -/
def whiteListSizeTurns : ReqEnv :=
  { ReqEnv.answered whiteListSizeEight with
    turns := [⟨0, .timeout⟩, ⟨1, .ready (.got whiteListSizePending)⟩] ++
      ⟨2, .ready (.got whiteListSizeEight)⟩ :: [⟨3, .timeout⟩] }

theorem hciSendReq_whiteListSizeTurns :
    whiteListSizeTurns.consumed whiteListSizeRequest 1000 ⟨hciFilterClear, [], .ofCode 0⟩ =
        whiteListSizeTurns.turns.take 3 ∧
      ∃ sock, hciSendReq whiteListSizeRequest 1000 whiteListSizeTurns
          ⟨hciFilterClear, [], .ofCode 0⟩ =
        .done ⟨0, { whiteListSizeRequest with rparam := [0x00, 0x08], rlen := 2 }, sock⟩ := by
  have hpre : ∀ u ∈ ([⟨0, .timeout⟩, ⟨1, .ready (.got whiteListSizePending)⟩] : List Turn),
      u.Passes whiteListSizeRequest 0 1000 := by
    intro u hu
    simp only [List.mem_cons, List.not_mem_nil, or_false] at hu
    rcases hu with rfl | rfl
    · exact .timeout (by decide) rfl
    · have hc : ¬Completes whiteListSizeRequest whiteListSizePending := by
        unfold Completes Packet.HasBranch
        decide
      have hr : ¬Refuses whiteListSizeRequest whiteListSizePending := by
        unfold Refuses
        decide
      exact .other ⟨by decide, rfl, by decide⟩ hc hr
  have hreply : Turn.Receives ⟨2, .ready (.got whiteListSizeEight)⟩ 0 1000 whiteListSizeEight :=
    ⟨by decide, rfl, by decide⟩
  obtain ⟨htaken, sock, h, -⟩ := hciSendReq_answers whiteListSizeRequest 1000 whiteListSizeTurns
    ⟨hciFilterClear, [], .ofCode 0⟩ (by decide) ⟨rfl, rfl, rfl⟩ rfl hpre hreply
    (.inr (.inl ⟨rfl, rfl⟩)) (by decide)
  exact ⟨htaken, sock, h⟩

end LinuxBle
