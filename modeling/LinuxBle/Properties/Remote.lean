import LinuxBle.Hci.Functions
import LinuxBle.Properties.Conversation
import LinuxBle.Properties.Wire

/-!
# Calls of a controller

To its callers the library is a set of functions that a controller computes: the parameters are
written as a command, the controller reads them, and what it replies comes back in an event.

* `talk_replies` — calls of a controller that reads the wire return what it replied
-/

namespace LinuxBle

open Infra

/-! ## Commands with their parameters -/

/-- What a controller is asked: by which wrapper, and with which parameters. -/
abbrev Asked : Type := (w : Wrapper) × w.Cp

theorem Wrapper.length_cp_lt (w : Wrapper) (cp : w.Cp) : (w.cp.encode cp).length < 256 := by
  cases w with
  | writeCurrentIacLap =>
    -- the only parameters without a fixed size
    have hlaps : ∀ laps : List (Vector UInt8 3),
        (laps.flatMap fun lap => lap.toList).length = 3 * laps.length := by
      intro laps
      induction laps with
      | nil => rfl
      | cons lap laps ih =>
        rw [List.flatMap_cons, List.length_append, ih, Vector.length_toList, List.length_cons]
        omega
    have hmax : cp.val.length ≤ 64 := cp.property
    show (_ :: cp.val.flatMap fun lap => lap.toList).length < 256
    rw [List.length_cons, hlaps]
    omega
  | _ => exact Nat.lt_of_le_of_lt (Nat.le_of_eq (Packed.length_encode _ cp)) (by decide)

namespace Asked

def toHci (a : Asked) : HciCommand where
  opcode := cmdOpcodePack a.1.form.ogf a.1.form.ocf
  params := a.1.cp.encode a.2
  fits := a.1.length_cp_lt a.2

/-- The wrapper by its opcode, and the parameters, if nothing is left of them. -/
def ofHci (c : HciCommand) : Option Asked := do
  let w ← Wrapper.ofCommand (cmdOpcodeOgf c.opcode) (cmdOpcodeOcf c.opcode)
  let (cp, rest) ← w.cp.decode c.params
  if rest = [] then some ⟨w, cp⟩ else none

theorem ofHci_toHci (a : Asked) : ofHci a.toHci = some a := by
  obtain ⟨w, cp⟩ := a
  have hopcode := cmdOpcode_pack w.form_lt.1 w.form_lt.2
  have hdecode := w.cp.decode_encode cp []
  rw [List.append_nil] at hdecode
  simp [ofHci, toHci, hopcode.1, hopcode.2, Wrapper.ofCommand_form, hdecode]

/-- Commands on the wire, with the fields of their structs. -/
def codec : Codec Asked := commandPacket.refine toHci ofHci ofHci_toHci

/-- The command as it is written. -/
def packet (a : Asked) : List UInt8 := codec.encode a

theorem packet_eq (a : Asked) :
    a.packet = hciCommandPkt :: (bytes16 (cmdOpcodePack a.1.form.ogf a.1.form.ocf) ++
      UInt8.ofNat (a.1.cp.encode a.2).length :: a.1.cp.encode a.2) := commandPacket_encode a.toHci

theorem packet_ne_nil (a : Asked) : codec.encode a ≠ [] := by
  show a.packet ≠ []
  rw [packet_eq]
  exact List.cons_ne_nil _ _

end Asked

/-! ## Events with replies -/

namespace Wrapper

/-- What the event that carries a reply has in front of it. -/
def eventHeader (w : Wrapper) (plen ncmd : UInt8) : List UInt8 :=
  match w.form.awaits with
  | .nothing =>
    [hciEventPkt, evtCmdComplete, plen, ncmd] ++ bytes16 (cmdOpcodePack w.form.ogf w.form.ocf)
  | .event code => [hciEventPkt, code, plen]
  | .leSubevent code => [hciEventPkt, evtLeMetaEvent, plen, code]

/-- The event that carries a reply; there may be more behind it. -/
def Carries (w : Wrapper) (v : w.Rp) (p : Packet) : Prop :=
  ∃ plen ncmd extra, p.bytes = w.eventHeader plen ncmd ++ (w.rp.encode v ++ extra)

/--
The name of a device comes with the address of the device that was asked for, and there are no more
laps than the struct has room for.
-/
def Fits : (w : Wrapper) → w.Cp → w.Rp → Prop
  | readRemoteNameWithClockOffset, cp, v => v.2.1 = cp.1
  | w, _, v => w.overruns v = false

theorem Fits.overruns {w : Wrapper} {cp : w.Cp} {v : w.Rp} (h : w.Fits cp v) :
    w.overruns v = false := by
  cases w with
  | readCurrentIacLap => exact h
  | _ => rfl

/-- The events that wrappers wait for: the one with a branch of its own is the remote name. -/
theorem awaits_event {w : Wrapper} {code : UInt8} (h : w.form.awaits = .event code) :
    code ≠ evtCmdStatus ∧ code ≠ evtCmdComplete ∧ code ≠ evtLeMetaEvent ∧
      (code = evtRemoteNameReqComplete → w = readRemoteNameWithClockOffset) := by
  cases w <;> cases h <;> refine ⟨by decide, by decide, by decide, fun hname => ?_⟩ <;>
    first | rfl | exact absurd hname (by decide)

section

variable {w : Wrapper} {cp : w.Cp} {v : w.Rp} {env : CallEnv} {p : Packet}

theorem issue_command (w : Wrapper) (cp : w.Cp) (env : CallEnv) :
    (w.issue cp env).command = Asked.packet ⟨w, cp⟩ := by
  rw [Asked.packet_eq]
  exact w.command_request (w.replyStruct env) (w.length_cp_lt cp)

theorem buf_of_bytes {i : Nat} {bs : List UInt8} (h : p.bytes = bs) (hi : i < bs.length) :
    p.buf i = bs[i] := by
  have hsize := p.size_le
  rw [h] at hsize
  rw [Packet.buf, if_pos (Nat.lt_of_lt_of_le hi hsize), h, List.getD_eq_getElem?_getD,
    List.getElem?_eq_getElem hi, Option.getD_some]

/-- **The event that carries a reply completes the request**, and has the reply in its payload. -/
theorem Carries.completes (h : w.Carries v p) (env : CallEnv) (hfits : w.Fits cp v) :
    Completes (w.issue cp env) p ∧ p.payloadOffset ≤ p.size ∧
      ∃ extra, p.payload = w.rp.encode v ++ extra := by
  obtain ⟨plen, ncmd, extra, hbytes⟩ := h
  unfold eventHeader at hbytes
  cases ha : w.form.awaits with
  | nothing =>
    rw [ha] at hbytes
    have hevt : p.buf 1 = evtCmdComplete := buf_of_bytes hbytes (by simp)
    have hop : p.buf16 4 = cmdOpcodePack w.form.ogf w.form.ocf := by
      have hlo := buf_of_bytes (i := 4) hbytes (by simp [bytes16])
      have hhi := buf_of_bytes (i := 5) hbytes (by simp [bytes16])
      rw [Packet.buf16, hlo, hhi]
      exact le16_bytes _
    have hoff := payloadOffset_cmdComplete hevt
    refine ⟨.inr (.inl ⟨hevt, hop⟩), ?_, extra, ?_⟩
    · rw [hoff, Packet.size, hbytes]
      simp [bytes16]
    · rw [Packet.payload, hoff, hbytes]
      rfl
  | event code =>
    obtain ⟨hstatus, hcomplete, hmeta, hname⟩ := awaits_event ha
    rw [ha] at hbytes
    have hevt : p.buf 1 = code := buf_of_bytes hbytes (by simp)
    have hcode : (w.issue cp env).event = (p.buf 1).toNat := by
      show w.form.awaits.code = _
      rw [ha, hevt]
      rfl
    have hoff : p.payloadOffset = 3 := payloadOffset_other (hevt ▸ hcomplete) (hevt ▸ hmeta)
    refine ⟨?_, ?_, extra, ?_⟩
    · by_cases hremote : code = evtRemoteNameReqComplete
      · -- the remote name has a branch of its own, where the address is compared too
        obtain rfl := hname hremote
        have hlen : 10 ≤ ([hciEventPkt, code, plen] ++
            (readRemoteNameWithClockOffset.rp.encode v ++ extra)).length := by
          have hsize : readRemoteNameWithClockOffset.rp.size = 255 := rfl
          rw [List.length_append, List.length_append, Packed.length_encode, hsize]
          omega
        have haddr : p.bdaddr 4 = v.2.1 := by
          have hbuf := fun (i : Nat) (hi : i < 10) =>
            buf_of_bytes hbytes (Nat.lt_of_lt_of_le hi hlen)
          rw [Packet.bdaddr, hbuf 4 (by omega), hbuf 5 (by omega), hbuf 6 (by omega),
            hbuf 7 (by omega), hbuf 8 (by omega), hbuf 9 (by omega)]
          rfl
        refine .inr (.inr (.inl ⟨hevt.trans hremote, hcode.trans (by rw [hevt, hremote]), ?_⟩))
        exact haddr.trans hfits
      · refine .inr (.inr (.inr (.inr ⟨?_, hcode⟩)))
        rintro (hb | hb | hb | hb)
        · exact hstatus (hevt.symm.trans hb)
        · exact hcomplete (hevt.symm.trans hb)
        · exact hremote (hevt.symm.trans hb)
        · exact hmeta (hevt.symm.trans hb)
    · rw [hoff, Packet.size, hbytes]
      simp
    · rw [Packet.payload, hoff, hbytes]
      rfl
  | leSubevent code =>
    rw [ha] at hbytes
    have hevt : p.buf 1 = evtLeMetaEvent := buf_of_bytes hbytes (by simp)
    have hsub : p.buf 3 = code := buf_of_bytes hbytes (by simp)
    have hoff := payloadOffset_leMeta hevt
    refine ⟨.inr (.inr (.inr (.inl ⟨hevt, ?_⟩))), ?_, extra, ?_⟩
    · show w.form.awaits.code = _
      rw [ha, hsub]
      rfl
    · rw [hoff, Packet.size, hbytes]
      simp
    · rw [Packet.payload, hoff, hbytes]
      rfl

/-- Where nothing is asked for, there is no struct for it. -/
theorem replyStruct_eq_nil (h : w.rp.size = 0) : w.replyStruct env = [] := by
  cases w <;> first | rfl | exact absurd h (by decide)

/-- A reply is read off the struct, with its status in front. -/
theorem read_answeredBy (cp : w.Cp) (env : CallEnv) {extra : List UInt8}
    (h : p.payload = w.rp.encode v ++ extra) :
    w.rp.read ((w.issue cp env).answeredBy p).rparam = some v ∧
      ((w.issue cp env).answeredBy p).rparam.getD 0 0 = w.status v := by
  have hmin : (min (w.rp.size : Int) p.payload.length).toNat = w.rp.size := by
    rw [h, List.length_append, w.rp.length_encode]
    omega
  have hrparam : ((w.issue cp env).answeredBy p).rparam =
      w.rp.encode v ++ (w.replyStruct env).drop w.rp.size := by
    show p.payload.take (min w.form.rlen p.payload.length).toNat ++
      (w.replyStruct env).drop (min w.form.rlen p.payload.length).toNat = _
    rw [← w.size_rp, hmin, h, List.take_left' (w.rp.length_encode v)]
  rw [hrparam]
  refine ⟨Packed.read_encode_append v _, ?_⟩
  have hlen := w.rp.length_encode v
  unfold status
  by_cases hzero : w.rp.size = 0
  · rw [replyStruct_eq_nil hzero, List.drop_nil, List.append_nil]
  · rw [List.getD_eq_getElem?_getD, List.getD_eq_getElem?_getD,
      List.getElem?_append_left (by omega)]

/--
**What a function returns when the controller replies**: the fields of the reply if its status is
zero, and `EIO` otherwise, whatever arrives before.
-/
theorem ask_answered {β : Type} (out : w.Rp → β) {timeout : Int} {s : Sock} {pre post : List Turn}
    {t : Turn} (hsent : env.Sent) (hturns : env.turns = pre ++ t :: post)
    (hpre : ∀ u ∈ pre, u.Passes (w.issue cp env) env.start timeout)
    (ht : t.Receives env.start timeout p) (hcarries : w.Carries v p) (hfits : w.Fits cp v) :
    ∃ sock : Sock, sock.sent = s.sent ++ [Asked.packet ⟨w, cp⟩] ∧
      w.ask cp out timeout env s =
        .done (if w.status v = 0 then ⟨0, some (out v), sock⟩ else ⟨-1, none, sock⟩) := by
  obtain ⟨hc, hp, extra, hpayload⟩ := hcarries.completes env hfits
  obtain ⟨hread, hstatus⟩ := read_answeredBy cp env hpayload
  have hreq := hciSendReq_of_first (s := s) w.rlen_nonneg hsent hturns hpre ht hc hp
  have hsock : ∀ e : Errno, (((waitSock (w.issue cp env) env.toReqEnv s).setFilter s.filter
      env.restore).withErrno e).sent = s.sent ++ [Asked.packet ⟨w, cp⟩] := by
    intro e
    rw [Sock.withErrno_sent, Sock.setFilter_sent, ← issue_command w cp env]
    rfl
  unfold ask sendForStatus
  rw [hreq]
  simp only [Outcome.done_bind, endReq, hstatus]
  rw [if_neg (by decide)]
  by_cases hst : w.status v = 0
  · refine ⟨_, hsock (waitErrno (w.issue cp env) timeout env.toReqEnv
      (waitSock (w.issue cp env) env.toReqEnv s).errno), ?_⟩
    rw [if_neg (not_not.mpr hst), if_pos hst]
    simp only [Outcome.pure_eq, Outcome.done_bind, if_true, hread, Option.map_some]
  · refine ⟨_, hsock .eio, ?_⟩
    rw [if_pos hst, if_neg hst]
    rfl

theorem call_of_ask_some {timeout ret : Int} {s sock : Sock}
    (h : w.ask cp id timeout env s = .done ⟨ret, some v, sock⟩) :
    w.call cp timeout env s = if w.overruns v then .fault else .done ⟨ret, some v, sock⟩ := by
  rw [call, h]
  rfl

theorem call_of_ask_none {timeout ret : Int} {s sock : Sock}
    (h : w.ask cp id timeout env s = .done ⟨ret, none, sock⟩) :
    w.call cp timeout env s = .done ⟨ret, none, sock⟩ := by
  rw [call, h]
  rfl

/-- So it is for the whole reply, which fits. -/
theorem call_answered {timeout : Int} {s : Sock} {pre post : List Turn} {t : Turn}
    (hsent : env.Sent) (hturns : env.turns = pre ++ t :: post)
    (hpre : ∀ u ∈ pre, u.Passes (w.issue cp env) env.start timeout)
    (ht : t.Receives env.start timeout p) (hcarries : w.Carries v p) (hfits : w.Fits cp v) :
    ∃ sock : Sock, sock.sent = s.sent ++ [Asked.packet ⟨w, cp⟩] ∧
      w.call cp timeout env s =
        .done (if w.status v = 0 then ⟨0, some v, sock⟩ else ⟨-1, none, sock⟩) := by
  obtain ⟨sock, hsock, hask⟩ := ask_answered (s := s) id hsent hturns hpre ht hcarries hfits
  refine ⟨sock, hsock, ?_⟩
  by_cases hst : w.status v = 0
  · rw [if_pos hst, id_eq] at hask
    rw [if_pos hst, call_of_ask_some hask, hfits.overruns]
    rfl
  · rw [if_neg hst] at hask
    rw [if_neg hst, call_of_ask_none hask]

end

end Wrapper

/-! ## Controllers -/

/-- A controller: it has a state, and a reply for every command. -/
structure Controller (σ : Type) where
  serve : σ → (a : Asked) → σ × a.1.Rp
  fits : ∀ (st : σ) (a : Asked), a.1.Fits a.2 (serve st a).2

/-- What a call comes to: the value it returns, and the reply if there is one to hand over. -/
structure Reply where
  wrapper : Wrapper
  ret : Int
  out : Option wrapper.Rp

/-- What is to be made of a reply. -/
def Reply.of (w : Wrapper) (v : w.Rp) : Reply :=
  if w.status v = 0 then ⟨w, 0, some v⟩ else ⟨w, -1, none⟩

/-- What a controller replies to commands, one after the other. -/
def Controller.replies {σ : Type} (k : Controller σ) : σ → List Asked → List Reply × σ
  | st, [] => ([], st)
  | st, a :: as =>
    let served := k.serve st a
    let rest := k.replies served.1 as
    (Reply.of a.1 served.2 :: rest.1, rest.2)

/-- A call, and what the kernel answers to it. -/
structure Exchange where
  asked : Asked
  timeout : Int
  env : CallEnv

namespace Exchange

def request (e : Exchange) : HciRequest := e.asked.1.issue e.asked.2 e.env

/--
The controller reads the command that the call writes, and the event with its reply is the first
that the call does not pass over.
-/
inductive Heard {σ : Type} (k : Controller σ) (st : σ) (e : Exchange) : σ → Prop
  | intro {a : Asked} {rest : List UInt8} {pre post : List Turn} {t : Turn} {p : Packet} :
      e.env.Sent → Asked.codec.decode e.request.command = some (a, rest) →
      e.env.turns = pre ++ t :: post →
      (∀ u ∈ pre, u.Passes e.request e.env.start e.timeout) →
      t.Receives e.env.start e.timeout p → a.1.Carries (k.serve st a).2 p →
      Heard k st e (k.serve st a).1

end Exchange

/-- The controller hears calls one after the other. -/
inductive Served {σ : Type} (k : Controller σ) : σ → List Exchange → σ → Prop
  | nil {st : σ} : Served k st [] st
  | cons {st st' st'' : σ} {e : Exchange} {es : List Exchange} :
      e.Heard k st st' → Served k st' es st'' → Served k st (e :: es) st''

/-- Calls on one socket, one after the other. -/
def talk : List Exchange → Sock → Outcome (List Reply × Sock)
  | [], s => .done ([], s)
  | e :: es, s => do
    let res ← e.asked.1.call e.asked.2 e.timeout e.env s
    let (replies, s) ← talk es res.sock
    pure (⟨e.asked.1, res.ret, res.out⟩ :: replies, s)

section

variable {σ : Type} {k : Controller σ} {st st' : σ}

/-- One call returns what the controller replied to it. -/
theorem Exchange.Heard.call {e : Exchange} (h : e.Heard k st st') (s : Sock) :
    ∃ res : Called e.asked.1.Rp, e.asked.1.call e.asked.2 e.timeout e.env s = .done res ∧
      st' = (k.serve st e.asked).1 ∧ res.sock.sent = s.sent ++ [e.asked.packet] ∧
      ⟨e.asked.1, res.ret, res.out⟩ = Reply.of e.asked.1 (k.serve st e.asked).2 := by
  obtain ⟨⟨w, cp⟩, timeout, env⟩ := e
  cases h with
  | intro hsent hdecode hturns hpre ht hcarries =>
    -- what the controller reads is what was asked
    have hread := Asked.codec.decode_encode ⟨w, cp⟩ []
    rw [List.append_nil] at hread
    rw [Exchange.request, Wrapper.issue_command, Asked.packet, hread, Option.some.injEq,
      Prod.mk.injEq] at hdecode
    obtain ⟨rfl, -⟩ := hdecode
    obtain ⟨sock, hsock, hcall⟩ := Wrapper.call_answered (s := s) hsent hturns hpre ht hcarries
      (k.fits st ⟨w, cp⟩)
    refine ⟨_, hcall, rfl, ?_, ?_⟩
    · split <;> exact hsock
    · unfold Reply.of
      split <;> rfl

/--
**Calls of a controller that reads the wire return what it replied**, in their order, and it reads
the commands that were asked for and no others.
-/
theorem talk_replies {es : List Exchange} (h : Served k st es st') (s : Sock) :
    ∃ sent s', talk es s = .done ((k.replies st (es.map Exchange.asked)).1, s') ∧
      (k.replies st (es.map Exchange.asked)).2 = st' ∧ s'.sent = s.sent ++ sent ∧
      Asked.codec.parse sent.flatten = some (es.map Exchange.asked) := by
  suffices hrun : ∃ s', talk es s = .done ((k.replies st (es.map Exchange.asked)).1, s') ∧
      (k.replies st (es.map Exchange.asked)).2 = st' ∧
      s'.sent = s.sent ++ (es.map Exchange.asked).map Asked.packet by
    obtain ⟨s', htalk, hst, hsent⟩ := hrun
    refine ⟨_, s', htalk, hst, hsent, (Codec.parse_eq_some_iff Asked.packet_ne_nil).mpr ?_⟩
    rw [List.flatMap_def]
    rfl
  induction h generalizing s with
  | nil => exact ⟨s, rfl, rfl, (List.append_nil _).symm⟩
  | cons hheard _ ih =>
    obtain ⟨res, hask, rfl, hsent, hreply⟩ := hheard.call s
    obtain ⟨s', htalk, hst, hrest⟩ := ih res.sock
    refine ⟨s', ?_, hst, ?_⟩
    · simp only [talk, hask, Outcome.done_bind, htalk, Outcome.pure_eq, hreply]
      rfl
    · rw [hrest, hsent, List.append_assoc]
      rfl

end

/-- A controller with room for eight in its white list, and zeros in what else it replies. -/
def roomForEight : Controller Unit where
  serve _ a := ((), match a with
    | ⟨.leReadWhiteListSize, _⟩ => (0, 8)
    | ⟨.readCurrentIacLap, _⟩ => (0, 0, .replicate (3 * maxIacLap) 0)
    | ⟨.readRemoteNameWithClockOffset, cp⟩ => (0, cp.1, .replicate 248 0)
    | ⟨w, _⟩ => (w.rp.read (List.replicate w.rp.size 0)).get (by
        have hsize : w.rp.size ≤ (List.replicate w.rp.size (0 : UInt8)).length := by simp
        obtain ⟨v, hv⟩ := w.rp.read_of_le hsize
        rw [hv]
        rfl))
  fits _ a := by
    obtain ⟨w, cp⟩ := a
    cases w <;> rfl

/-- LE Read White List Size, answered after a while. -/
def whiteListSizeExchange : Exchange :=
  ⟨⟨.leReadWhiteListSize, ()⟩, 1000, ⟨whiteListSizeTurns, fun _ => 0xAA⟩⟩

theorem talk_replies_whiteListSizeTurns :
    ∃ (sent : List (List UInt8)) (s' : Sock),
      talk [whiteListSizeExchange] ⟨hciFilterClear, [], .ofCode 0⟩ =
        .done ([⟨.leReadWhiteListSize, 0, some (0, 8)⟩], s') ∧
      Asked.codec.parse sent.flatten = some [⟨.leReadWhiteListSize, ()⟩] := by
  have hdecode : Asked.codec.decode whiteListSizeExchange.request.command =
      some (⟨.leReadWhiteListSize, ()⟩, []) := by
    have hread := Asked.codec.decode_encode ⟨.leReadWhiteListSize, ()⟩ []
    rw [List.append_nil] at hread
    rw [Exchange.request, Wrapper.issue_command]
    exact hread
  have hpre : ∀ u ∈ ([⟨0, .timeout⟩, ⟨1, .ready (.got whiteListSizePending)⟩] : List Turn),
      u.Passes whiteListSizeExchange.request 0 1000 := by
    intro u hu
    simp only [List.mem_cons, List.not_mem_nil, or_false] at hu
    rcases hu with rfl | rfl
    · exact .timeout (by decide) rfl
    · have hc : ¬Completes whiteListSizeExchange.request whiteListSizePending := by
        unfold Completes Packet.HasBranch
        decide
      have hr : ¬Refuses whiteListSizeExchange.request whiteListSizePending := by
        unfold Refuses
        decide
      exact .other ⟨by decide, rfl, by decide⟩ hc hr
  have hheard : whiteListSizeExchange.Heard roomForEight () () :=
    .intro ⟨rfl, rfl, rfl⟩ hdecode rfl hpre (p := whiteListSizeEight) ⟨by decide, rfl, by decide⟩
      ⟨0x05, 0x01, [], rfl⟩
  obtain ⟨sent, s', htalk, -, -, hparse⟩ :=
    talk_replies (.cons hheard .nil) ⟨hciFilterClear, [], .ofCode 0⟩
  exact ⟨sent, s', htalk, hparse⟩

end LinuxBle
