import LinuxBle.Properties.Reply
import LinuxBle.Properties.ScanTable

/-!
# Requests one after the other

A socket carries one request after the other. A reply says which command it is for only by its
opcode, so `hci_send_req` matches replies to calls of one command by the order in which they
arrive.

* `reads_filter` — a call reads at most one packet that completes it, and hands it over
* `converse_lag` — how far behind the replies are
-/

namespace LinuxBle

open Infra

/-! ## One call -/

/-- One call of `hci_send_req`, with the kernel's answers to it. -/
structure Call where
  req : HciRequest
  timeout : Int
  env : ReqEnv

/-- The packet that an iteration reads: at the deadline nothing is read. -/
def Turn.read? (t : Turn) (start timeout : Int) : Option Packet :=
  if t.now - start > timeout then none else t.packet?.filter fun p => p.size ≠ 0

theorem Turn.read?_eq_some_iff {t : Turn} {start timeout : Int} {p : Packet} :
    t.read? start timeout = some p ↔ t.Receives start timeout p := by
  unfold Turn.read? Turn.Receives Turn.packet?
  by_cases hl : t.now - start > timeout
  · simp [hl]
  · rw [if_neg hl, Option.filter_eq_some_iff]
    cases t.wait with
    | timeout => simp
    | selectFail e => simp
    | ready rd =>
      cases rd with
      | fail e => simp
      | got q =>
        simp only [Option.some.injEq, decide_eq_true_eq, Wait.ready.injEq, ReadResult.got.injEq]
        exact ⟨fun h => ⟨hl, h⟩, fun h => h.2⟩

/-- The iterations of a wait: those that do not end it, and the one that does. -/
def ReqEnv.waits (env : ReqEnv) (r : HciRequest) (timeout : Int) : List Turn :=
  (env.turns.takeWhile fun t => (turnEnd r env.start timeout t).isNone) ++
    (env.turns.dropWhile fun t => (turnEnd r env.start timeout t).isNone).take 1

/-- They are the iterations that the loop takes. -/
theorem ReqEnv.consumed_eq_waits (env : ReqEnv) (r : HciRequest) (timeout : Int) (s : Sock) :
    env.consumed r timeout s = env.waits r timeout :=
  taken_eq_takeWhile (fun errno _ h => reqBody_of_turnEnd_none h 0 errno)
    (fun errno _ _ h => reqBody_of_turnEnd_some h 0 errno) env.turns _

/-- The packet that completes a request. -/
def ReqEnd.packet? : ReqEnd → Option Packet
  | .completed p _ _ => some p
  | _ => none

namespace Call

/-- The packets that the call reads, in order. -/
def reads (c : Call) : List Packet :=
  if c.env.Sent then
    (c.env.waits c.req c.timeout).filterMap fun t => t.read? c.env.start c.timeout
  else []

/-- The packet that the call takes for the reply to its command. -/
def reply? (c : Call) : Option Packet :=
  if c.env.Sent then (c.env.waitEnd c.req c.timeout).bind ReqEnd.packet? else none

end Call

section

variable {r : HciRequest} {start timeout : Int} {W : Packet → Prop} [DecidablePred W]

/-- An iteration reads a packet that completes the request exactly when it ends with that one. -/
theorem filter_read? (hW : ∀ p, Completes r p ↔ W p) (t : Turn) :
    (t.read? start timeout).filter W = (turnEnd r start timeout t).bind ReqEnd.packet? := by
  refine Option.ext fun p => ?_
  rw [Option.filter_eq_some_iff, Turn.read?_eq_some_iff, decide_eq_true_eq, ← hW p,
    ← turnEnd_eq_completed_iff, Option.bind_eq_some_iff]
  constructor
  · exact fun h => ⟨_, h, rfl⟩
  · rintro ⟨e, he, hp⟩
    rcases turnEnd_cases he with ⟨eo, hf⟩ | ⟨q, -, -, rfl⟩
    · obtain ⟨e', he', hne, -⟩ := turnEnd_of_failsWith hf
      rw [he, Option.some.injEq] at he'
      cases e with
      | completed q src len => exact absurd he'.symm (hne q src len)
      | _ => cases hp
    · cases hp
      exact he

/-- **A call reads at most one packet that completes it, and takes that one for its reply.** -/
theorem Call.reads_filter (c : Call) (hW : ∀ p, Completes c.req p ↔ W p) :
    c.reads.filter W = c.reply?.toList := by
  unfold Call.reads Call.reply?
  by_cases hs : c.env.Sent
  · rw [if_pos hs, if_pos hs, List.filter_filterMap, funext (filter_read? hW)]
    exact filterMap_taken (turnEnd c.req c.env.start c.timeout) ReqEnd.packet? c.env.turns
  · rw [if_neg hs, if_neg hs]
    rfl

end

/-! ## Many calls -/

/-- Calls on one socket, one after the other. -/
def converse : List Call → Sock → Outcome (List ReqResult × Sock)
  | [], s => .done ([], s)
  | c :: cs, s => do
    let res ← hciSendReq c.req c.timeout c.env s
    let (ress, s) ← converse cs res.sock
    pure (res :: ress, s)

/-- The commands that were written. -/
def commands (cs : List Call) : Nat := cs.countP fun c => c.env.Sent

/-- The commands that were written and got no reply. -/
def unanswered (cs : List Call) : Nat := cs.countP fun c => c.env.Sent && c.reply?.isNone

/-- The request that a call returns. -/
def Call.returned (c : Call) : HciRequest :=
  match c.reply? with
  | some p => c.req.answeredBy p
  | none => c.req

theorem Call.sent_of_reply? {c : Call} {p : Packet} (h : c.reply? = some p) : c.env.Sent := by
  unfold Call.reply? at h
  split at h
  · next hs => exact hs
  · cases h

theorem Call.completedBy_of_reply? {c : Call} {p : Packet} {s : Sock} {res : ReqResult}
    (h : c.reply? = some p) (hd : hciSendReq c.req c.timeout c.env s = .done res) :
    CompletedBy c.req c.timeout c.env s p := by
  have hs := c.sent_of_reply? h
  rw [Call.reply?, if_pos hs, Option.bind_eq_some_iff] at h
  obtain ⟨e, he, hp⟩ := h
  obtain ⟨t, -, hte⟩ := waitEnd_eq_some_iff.mp he
  rcases turnEnd_cases hte with ⟨eo, hf⟩ | ⟨q, -, -, rfl⟩
  · obtain ⟨e', he', hne, -⟩ := turnEnd_of_failsWith hf
    rw [hte, Option.some.injEq] at he'
    cases e with
    | completed q src len => exact absurd he'.symm (hne q src len)
    | _ => cases hp
  · cases hp
    exact ⟨hs, he, res, hd⟩

/-- **What a call returns**: its request with the reply, or as it was. -/
theorem Call.result {c : Call} {s : Sock} {res : ReqResult} (hr : 0 ≤ c.req.rlen)
    (hd : hciSendReq c.req c.timeout c.env s = .done res) :
    res.req = c.returned ∧ (c.reply?.isSome → res.ret = 0) := by
  unfold Call.returned
  cases hp : c.reply? with
  | none =>
    refine ⟨hciSendReq_req hd fun p hc => ?_, fun h => by cases h⟩
    obtain ⟨hs, he, -⟩ := hc
    rw [Call.reply?, if_pos hs, he] at hp
    cases hp
  | some p =>
    have hc := Call.completedBy_of_reply? hp hd
    obtain ⟨-, -, hle, -⟩ := (completedBy_iff hr).mp hc
    obtain ⟨r', hcopy, hres⟩ := hc.result
    rw [copyReply_of_le hr hle, Option.some.injEq] at hcopy
    rw [hd, Outcome.done.injEq] at hres
    rw [hres, ← hcopy]
    exact ⟨rfl, fun _ => rfl⟩

theorem converse_results {cs : List Call} : ∀ {s s' : Sock} {ress : List ReqResult},
    (∀ c ∈ cs, 0 ≤ c.req.rlen) → converse cs s = .done (ress, s') →
    List.Forall₂ (fun c res => res.req = c.returned ∧ (c.reply?.isSome → res.ret = 0)) cs ress := by
  induction cs with
  | nil =>
    intro s s' ress _ h
    cases h
    exact .nil
  | cons c cs ih =>
    intro s s' ress hr h
    obtain ⟨res, hres, h⟩ := Outcome.bind_eq_done.mp h
    obtain ⟨⟨ress', s''⟩, hrest, h⟩ := Outcome.bind_eq_done.mp h
    cases h
    exact .cons (Call.result (hr c List.mem_cons_self) hres)
      (ih (fun c hc => hr c (List.mem_cons_of_mem _ hc)) hrest)

/-- Every command that was written got a reply or did not. -/
theorem countP_reply?_add (cs : List Call) :
    (cs.countP fun c => c.reply?.isSome) + unanswered cs = commands cs := by
  unfold unanswered commands
  induction cs with
  | nil => rfl
  | cons c cs ih =>
    simp only [List.countP_cons]
    cases hp : c.reply? with
    | none =>
      simp
      omega
    | some p =>
      have hs := c.sent_of_reply? hp
      simp [hs]
      omega

/-- The packets that complete a command are handed out once each, in the order of arrival. -/
theorem flatMap_reads_filter {W : Packet → Prop} [DecidablePred W] {cs : List Call}
    (hW : ∀ c ∈ cs, ∀ p, Completes c.req p ↔ W p) :
    (cs.flatMap Call.reads).filter W = cs.filterMap Call.reply? := by
  induction cs with
  | nil => rfl
  | cons c cs ih =>
    rw [List.flatMap_cons, List.filter_append, c.reads_filter (hW c List.mem_cons_self),
      ih fun c hc => hW c (List.mem_cons_of_mem _ hc)]
    cases hp : c.reply? with
    | none => rw [List.filterMap_cons_none hp, Option.toList_none, List.nil_append]
    | some p => rw [List.filterMap_cons_some hp, Option.toList_some, List.singleton_append]

/--
**Replies fall behind by the commands that got none.**

The calls are all for the command that the packets `W` complete, and `replies` are the answers to
its first, second, … issue, in the order in which they are read. The call that wrote issue `k`
then returns the answer to issue `k - lost`, where `lost` issues before it went unanswered.
-/
theorem converse_lag (W : Packet → Prop) [DecidablePred W] (cs : List Call)
    (replies : List Packet) {s s' : Sock} {ress : List ReqResult}
    (hW : ∀ c ∈ cs, ∀ p, Completes c.req p ↔ W p) (hr : ∀ c ∈ cs, 0 ≤ c.req.rlen)
    (hreplies : (cs.flatMap Call.reads).filter W <+: replies)
    (h : converse cs s = .done (ress, s')) {n : Nat} {c : Call} {p : Packet}
    (hc : cs[n]? = some c) (hp : c.reply? = some p) :
    c.env.consumed c.req c.timeout s = c.env.waits c.req c.timeout ∧
      ∃ k, k + unanswered (cs.take n) = commands (cs.take n) ∧ replies[k]? = some p ∧
        ∃ res, ress[n]? = some res ∧ res.ret = 0 ∧ res.req = c.req.answeredBy p := by
  refine ⟨c.env.consumed_eq_waits _ _ _, _, countP_reply?_add _, ?_, ?_⟩
  · -- what is read and completes the command is what the calls return, one packet each
    rw [flatMap_reads_filter hW] at hreplies
    obtain ⟨later, rfl⟩ := hreplies
    have hk := getElem?_filterMap_countP cs n c hc hp
    rw [List.getElem?_append_left (List.getElem?_eq_some_iff.mp hk).1]
    exact hk
  · obtain ⟨hlen, hall⟩ := List.forall₂_iff_get.mp (converse_results hr h)
    obtain ⟨hn, hcn⟩ := List.getElem?_eq_some_iff.mp hc
    have hres := hall n hn (hlen ▸ hn)
    simp only [List.get_eq_getElem, hcn] at hres
    refine ⟨ress[n], List.getElem?_eq_getElem (hlen ▸ hn), hres.2 (by rw [hp]; rfl), ?_⟩
    rw [hres.1, Call.returned, hp]

/-- LE Read White List Size twice: the first time nothing arrives before the time is up. -/
def whiteListSizeTwice : List Call :=
  [⟨whiteListSizeRequest, 1000, { ReqEnv.answered whiteListSizeEight with
      turns := [⟨2000, .timeout⟩] }⟩,
    ⟨whiteListSizeRequest, 1000, .answered whiteListSizeEight⟩]

instance : DecidablePred (Completes whiteListSizeRequest) := fun p => by
  unfold Completes Packet.HasBranch
  infer_instance

theorem converse_lag_whiteListSizeTwice :
    ∃ k, k + 1 = 1 ∧ [whiteListSizeEight][k]? = some whiteListSizeEight ∧
      ∃ ress s', converse whiteListSizeTwice ⟨hciFilterClear, [], .ofCode 0⟩ = .done (ress, s') ∧
        ∃ res, ress[1]? = some res ∧ res.ret = 0 ∧
          res.req = whiteListSizeRequest.answeredBy whiteListSizeEight := by
  have hsame : ∀ c ∈ whiteListSizeTwice, c.req = whiteListSizeRequest := by
    intro c hc
    simp only [whiteListSizeTwice, List.mem_cons, List.not_mem_nil, or_false] at hc
    rcases hc with rfl | rfl <;> rfl
  obtain ⟨-, k, hk, hreply, hres⟩ := converse_lag (Completes whiteListSizeRequest)
    whiteListSizeTwice [whiteListSizeEight] (s := ⟨hciFilterClear, [], .ofCode 0⟩) (n := 1)
    (c := ⟨whiteListSizeRequest, 1000, .answered whiteListSizeEight⟩) (p := whiteListSizeEight)
    (fun c hc p => by rw [hsame c hc]) (fun c hc => by rw [hsame c hc]; decide)
    ⟨[], rfl⟩ rfl rfl rfl
  exact ⟨k, hk, hreply, _, _, rfl, hres⟩

end LinuxBle
