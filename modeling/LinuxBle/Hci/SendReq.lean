import LinuxBle.Hci.Basic

/-!
# `hci_send_cmd` and `hci_send_req`

`hci_send_req` is the wait loop of this repository: it installs its own filter, writes the
command, and selects and reads until a packet ends the request, an error does, or the time is
up. The kernel's answers to one call are a `ReqEnv`.

## The two variables `ret`

The loop body declares a second `ret` for the result of `select`. Every `goto end` after that
declaration sets the inner variable and returns the outer one, which still holds the `0` of
`hci_send_cmd`. Only the deadline, checked before the declaration, sets the outer one. The model
keeps the outer variable as the parameter `ret` of the loop body.

## What ends a wait

`turnEnd` says for one iteration whether and how it ends the wait. It does not depend on what
happened before, so the first deciding iteration decides (`hciSendReq_eq`).
-/

namespace LinuxBle

open Infra

/-! ## Requests -/

/-- `struct hci_request`; `cparam` and `rparam` are the bytes the pointers lead to. -/
structure HciRequest where
  ogf : UInt16
  ocf : UInt16
  event : Int
  cparam : List UInt8
  clen : Int
  rparam : List UInt8
  rlen : Int
  deriving DecidableEq

/-- `cmd_opcode_pack`. -/
def cmdOpcodePack (ogf ocf : UInt16) : UInt16 :=
  (ocf &&& (0x03ff : UInt16)) ||| (ogf <<< (10 : UInt16))

/-- `cmd_opcode_ogf`. -/
def cmdOpcodeOgf (op : UInt16) : UInt16 := op >>> (10 : UInt16)

/-- `cmd_opcode_ocf`. -/
def cmdOpcodeOcf (op : UInt16) : UInt16 := op &&& (0x03ff : UInt16)

namespace HciRequest

/-- The opcode that the replies to this request carry. -/
def opcode (r : HciRequest) : UInt16 := cmdOpcodePack r.ogf r.ocf

/-- The packet that the request writes. -/
def command (r : HciRequest) : List UInt8 :=
  hciCommandPkt :: bytes16 r.opcode ++ [UInt8.ofInt r.clen] ++
    r.cparam.take (UInt8.ofInt r.clen).toNat

/-- `((remote_name_req_cp *) r->cparam)->bdaddr` -/
def cparamBdaddr (r : HciRequest) : BdAddr :=
  ⟨r.cparam.getD 0 0, r.cparam.getD 1 0, r.cparam.getD 2 0, r.cparam.getD 3 0,
    r.cparam.getD 4 0, r.cparam.getD 5 0⟩

end HciRequest

/-- The kernel's answers to one call of `hci_send_req`. -/
structure ReqEnv where
  /-- the clock at entry -/
  start : Int
  getsockopt : SysResult
  setsockopt : SysResult
  writev : List SysResult
  turns : List Turn
  /-- the `setsockopt` that puts the old filter back -/
  restore : SysResult

/-- The command is written at once, and the wait receives one packet. -/
def ReqEnv.answered (p : Packet) : ReqEnv where
  start := 0
  getsockopt := none
  setsockopt := none
  writev := [none]
  turns := [⟨0, .ready (.got p)⟩]
  restore := none

/-- `errno == EAGAIN || errno == EINTR` -/
def Errno.isRetry (e : Errno) : Bool := e = .eagain || e = .eintr

/-! ## `hci_send_cmd` -/

/-- The packet that one `writev` hands to the controller. -/
def cmdPacket (ogf ocf : UInt16) (plen : UInt8) (param : List UInt8) : List UInt8 :=
  hciCommandPkt :: bytes16 (cmdOpcodePack ogf ocf) ++ [plen] ++ param.take plen.toNat

/-- One round of `while (writev(dd, iv, ivn) < 0)`. -/
def writeBody (errno : Errno) : SysResult → Step Errno (SysResult × Errno)
  | none => .leave (none, errno)
  | some e => if e.isRetry then .next e else .leave (some e, e)

/-- `hci_send_cmd`. -/
def hciSendCmd (ogf ocf : UInt16) (plen : UInt8) (param : List UInt8) (writev : List SysResult)
    (s : Sock) : Outcome CallResult :=
  match loop writeBody s.errno writev with
  | .next _ => .blocked
  | .leave (none, errno) =>
    .done ⟨0, { s with sent := s.sent ++ [cmdPacket ogf ocf plen param], errno := errno }⟩
  | .leave (some e, _) => .done ⟨-1, s.withErrno e⟩

/-! ## `hci_send_req` -/

/-- The filter of a request: its event, the two command events, and every LE meta event. -/
def reqFilter (event : Int) (opcode : UInt16) : HciFilter :=
  hciFilterSetOpcode opcode.toNat <|
    hciFilterSetEvent event <|
    hciFilterSetEvent evtLeMetaEvent.toNat <|
    hciFilterSetEvent evtCmdComplete.toNat <|
    hciFilterSetEvent evtCmdStatus.toNat <|
    hciFilterSetPtype hciEventPkt.toNat hciFilterClear

/-- What the `switch` on the event type does with a packet. -/
inductive Verdict where
  /-- `continue` -/
  | skip
  /-- a refused command: `errno = EIO` -/
  | refuse
  /-- copy `MIN(len, r->rlen)` bytes from `buf + src` -/
  | copy (src : Nat) (len : Int)
  deriving DecidableEq

/-- `switch (hdr->evt)`; `len` is what is left after type and header, and may be negative. -/
def dispatch (r : HciRequest) (p : Packet) : Verdict :=
  let evt := p.buf 1
  let len : Int := p.size - evtParamOffset
  if evt = evtCmdStatus then
    if p.buf16 5 ≠ r.opcode then .skip
    else if r.event ≠ evtCmdStatus.toNat then
      if p.buf 3 ≠ 0 then .refuse else .skip
    else .copy 3 len
  else if evt = evtCmdComplete then
    if p.buf16 4 ≠ r.opcode then .skip
    else .copy (evtParamOffset + evtCmdCompleteSize) (len - evtCmdCompleteSize)
  else if evt = evtRemoteNameReqComplete then
    if (evt.toNat : Int) ≠ r.event then .skip
    else if bacmp (p.bdaddr 4) r.cparamBdaddr ≠ 0 then .skip
    else .copy 3 len
  else if evt = evtLeMetaEvent then
    if ((p.buf 3).toNat : Int) ≠ r.event then .skip
    else .copy 4 (len - 1)
  else
    if (evt.toNat : Int) ≠ r.event then .skip
    else .copy 3 len

/--
`r->rlen = MIN(len, r->rlen); memcpy(r->rparam, ptr, r->rlen);`

`none` when the length is negative: `memcpy` takes it as a huge `size_t`.
-/
def copyReply (r : HciRequest) (p : Packet) (src : Nat) (len : Int) : Option HciRequest :=
  let n := min len r.rlen
  if n < 0 then none
  else some { r with rlen := n, rparam := p.slice src n.toNat ++ r.rparam.drop n.toNat }

/-- What reaches the label `end`: the outer `ret`, `errno`, and the request. -/
structure ReqExit where
  ret : Int
  errno : Errno
  req : HciRequest

/-- One iteration of the receive loop. It leaves with `none` when it runs into a bad `memcpy`. -/
def reqBody (r : HciRequest) (start timeout ret : Int) (errno : Errno) (t : Turn) :
    Step Errno (Option ReqExit) :=
  if t.now - start > timeout then .leave (some ⟨-1, .etimedout, r⟩)
  else
    match t.wait with
    | .timeout => .next errno
    | .selectFail e => .leave (some ⟨ret, e, r⟩)  -- the `-1` is in the inner `ret`
    | .ready (.fail e) =>
      if e.isRetry then .next e else .leave (some ⟨ret, e, r⟩)  -- and here
    | .ready (.got p) =>
      if p.size = 0 then .leave (some ⟨ret, errno, r⟩)
      else
        match dispatch r p with
        | .skip => .next errno
        | .refuse => .leave (some ⟨ret, .eio, r⟩)  -- and here
        | .copy src len => .leave ((copyReply r p src len).map fun r' => ⟨ret, errno, r'⟩)

/-- What `hci_send_req` returns, the request with its reply, and the socket. -/
structure ReqResult where
  ret : Int
  req : HciRequest
  sock : Sock
  deriving DecidableEq

/-- The label `end`: put the old filter back and keep `errno`. -/
def endReq (env : ReqEnv) (of : HciFilter) (s : Sock) (x : ReqExit) : ReqResult :=
  ⟨x.ret, x.req, (s.setFilter of env.restore).withErrno x.errno⟩

/-- From the loop to the return. -/
def endLoop (env : ReqEnv) (of : HciFilter) (s : Sock) :
    Step Errno (Option ReqExit) → Outcome ReqResult
  | .next _ => .blocked
  | .leave none => .fault
  | .leave (some x) => .done (endReq env of s x)

/-- `hci_send_req`. -/
def hciSendReq (r : HciRequest) (timeout : Int) (env : ReqEnv) (s : Sock) : Outcome ReqResult :=
  match env.getsockopt with
  | some e => .done ⟨-1, r, s.withErrno e⟩
  | none =>
    let of := s.filter
    match env.setsockopt with
    | some e => .done ⟨-1, r, s.withErrno e⟩
    | none => do
      -- from here on every return goes through the label `end`
      let s₁ := s.setFilter (reqFilter r.event r.opcode) none
      let cmd ← hciSendCmd r.ogf r.ocf (UInt8.ofInt r.clen) r.cparam env.writev s₁
      if cmd.ret < 0 then pure (endReq env of cmd.sock ⟨cmd.ret, cmd.sock.errno, r⟩)
      else
        endLoop env of cmd.sock
          (loop (reqBody r env.start timeout cmd.ret) cmd.sock.errno env.turns)

/-! ## What the writes come to -/

/-- The first write that is not to be repeated decides. -/
def writeEnd : SysResult → Option SysResult
  | none => some none
  | some e => if e.isRetry then none else some (some e)

/-- How the command leaves: `none` while it is not written, `some none` when it is. -/
def ReqEnv.send (env : ReqEnv) : Option SysResult := env.writev.findSome? writeEnd

/-- `errno` after the writes that were repeated. -/
def writeErrno (errno : Errno) (writev : List SysResult) : Errno :=
  (writev.takeWhile fun w => (writeEnd w).isNone).foldl (fun e w => w.getD e) errno

theorem writeBody_of_writeEnd_none {w : SysResult} (h : writeEnd w = none) (errno : Errno) :
    writeBody errno w = .next (w.getD errno) := by
  cases w with
  | none => cases h
  | some e =>
    cases he : e.isRetry with
    | true => simp [writeBody, he]
    | false => simp [writeEnd, he] at h

theorem writeBody_of_writeEnd_some {w w' : SysResult} (h : writeEnd w = some w') (errno : Errno) :
    writeBody errno w = .leave (w', w'.getD errno) := by
  cases w with
  | none =>
    cases h
    rfl
  | some e =>
    cases he : e.isRetry with
    | true => simp [writeEnd, he] at h
    | false =>
      simp only [writeEnd, he, Bool.false_eq_true, if_false, Option.some.injEq] at h
      simp [writeBody, he, ← h]

theorem writeLoop_eq (errno : Errno) (writev : List SysResult) :
    loop writeBody errno writev =
      match writev.findSome? writeEnd with
      | none => .next (writev.foldl (fun e w => w.getD e) errno)
      | some w => .leave (w, w.getD (writeErrno errno writev)) := by
  rw [loop_decided (fun errno w h => writeBody_of_writeEnd_none h errno)
    (fun errno w w' h => writeBody_of_writeEnd_some h errno)]
  cases writev.findSome? writeEnd <;> rfl

theorem hciSendCmd_eq (ogf ocf : UInt16) (plen : UInt8) (param : List UInt8)
    (writev : List SysResult) (s : Sock) :
    hciSendCmd ogf ocf plen param writev s =
      match writev.findSome? writeEnd with
      | none => .blocked
      | some none => .done ⟨0, { s with
          sent := s.sent ++ [cmdPacket ogf ocf plen param]
          errno := writeErrno s.errno writev }⟩
      | some (some e) => .done ⟨-1, s.withErrno e⟩ := by
  unfold hciSendCmd
  rw [writeLoop_eq]
  cases writev.findSome? writeEnd with
  | none => rfl
  | some w => cases w <;> rfl

/-! ## What ends the wait -/

/-- The ways in which an iteration ends the wait. -/
inductive ReqEnd where
  | deadline
  | selectError (e : Errno)
  | readError (e : Errno)
  | endOfFile
  | refused
  | completed (p : Packet) (src : Nat) (len : Int)

/-- How one iteration ends the wait, if it does. -/
def turnEnd (r : HciRequest) (start timeout : Int) (t : Turn) : Option ReqEnd :=
  if t.now - start > timeout then some .deadline
  else
    match t.wait with
    | .timeout => none
    | .selectFail e => some (.selectError e)
    | .ready (.fail e) => if e.isRetry then none else some (.readError e)
    | .ready (.got p) =>
      if p.size = 0 then some .endOfFile
      else
        match dispatch r p with
        | .skip => none
        | .refuse => some .refused
        | .copy src len => some (.completed p src len)

/-- How the wait of a request ends: the first iteration that ends it. -/
def ReqEnv.waitEnd (env : ReqEnv) (r : HciRequest) (timeout : Int) : Option ReqEnd :=
  env.turns.findSome? (turnEnd r env.start timeout)

/-- Only an interrupted `read` touches `errno` without ending the wait. -/
def turnErrno (errno : Errno) (t : Turn) : Errno :=
  match t.wait with
  | .ready (.fail e) => e
  | _ => errno

/-- What reaches the label `end` for each way of ending; `ret` is the outer variable. -/
def reqExit (r : HciRequest) (ret : Int) (errno : Errno) : ReqEnd → Option ReqExit
  | .deadline => some ⟨-1, .etimedout, r⟩
  | .selectError e => some ⟨ret, e, r⟩
  | .readError e => some ⟨ret, e, r⟩
  | .endOfFile => some ⟨ret, errno, r⟩
  | .refused => some ⟨ret, .eio, r⟩
  | .completed p src len => (copyReply r p src len).map fun r' => ⟨ret, errno, r'⟩

theorem reqBody_eq (r : HciRequest) (start timeout ret : Int) (errno : Errno) (t : Turn) :
    reqBody r start timeout ret errno t =
      match turnEnd r start timeout t with
      | none => .next (turnErrno errno t)
      | some e => .leave (reqExit r ret errno e) := by
  unfold reqBody turnEnd turnErrno
  by_cases hlate : t.now - start > timeout
  · simp only [if_pos hlate, reqExit]
  · simp only [if_neg hlate]
    cases t.wait with
    | timeout => rfl
    | selectFail e => rfl
    | ready rd =>
      cases rd with
      | fail e => cases he : e.isRetry <;> simp [he, reqExit]
      | got p =>
        by_cases hp : p.size = 0
        · simp only [if_pos hp, reqExit]
        · cases hd : dispatch r p <;> simp only [if_neg hp, hd, reqExit]

theorem reqBody_of_turnEnd_none {r : HciRequest} {start timeout : Int} {t : Turn}
    (h : turnEnd r start timeout t = none) (ret : Int) (errno : Errno) :
    reqBody r start timeout ret errno t = .next (turnErrno errno t) := by
  rw [reqBody_eq, h]

theorem reqBody_of_turnEnd_some {r : HciRequest} {start timeout : Int} {t : Turn} {e : ReqEnd}
    (h : turnEnd r start timeout t = some e) (ret : Int) (errno : Errno) :
    reqBody r start timeout ret errno t = .leave (reqExit r ret errno e) := by
  rw [reqBody_eq, h]

/-- `errno` when the wait ends. -/
def waitErrno (r : HciRequest) (timeout : Int) (env : ReqEnv) (errno : Errno) : Errno :=
  (env.turns.takeWhile fun t => (turnEnd r env.start timeout t).isNone).foldl turnErrno errno

/-- The socket while a request waits: the request's filter is in, the command is written. -/
def waitSock (r : HciRequest) (env : ReqEnv) (s : Sock) : Sock :=
  { filter := reqFilter r.event r.opcode
    sent := s.sent ++ [r.command]
    errno := writeErrno s.errno env.writev }

section

variable {r : HciRequest} {timeout : Int} {env : ReqEnv} {s : Sock}

/-- The request is on the wire: its filter is installed and its command is written. -/
def ReqEnv.Sent (env : ReqEnv) : Prop :=
  env.getsockopt = none ∧ env.setsockopt = none ∧ env.send = some none

instance : Decidable env.Sent := by
  unfold ReqEnv.Sent
  infer_instance

/--
**`hci_send_req` after its command is written.**

The first iteration that ends the wait decides what is returned.
-/
theorem hciSendReq_eq (h : env.Sent) :
    hciSendReq r timeout env s =
      match env.waitEnd r timeout with
      | none => .blocked
      | some e =>
        endLoop env s.filter (waitSock r env s)
          (.leave (reqExit r 0 (waitErrno r timeout env (waitSock r env s).errno) e)) := by
  obtain ⟨hget, hset, hsend⟩ := h
  unfold ReqEnv.send at hsend
  unfold hciSendReq
  simp only [hget, hset, hciSendCmd_eq, hsend, Outcome.done_bind, Outcome.pure_eq]
  rw [if_neg (by decide), loop_decided (fun s i h => reqBody_of_turnEnd_none h 0 s)
    (fun s i e h => reqBody_of_turnEnd_some h 0 s)]
  unfold ReqEnv.waitEnd
  cases env.turns.findSome? (turnEnd r env.start timeout) <;> rfl

end

end LinuxBle
