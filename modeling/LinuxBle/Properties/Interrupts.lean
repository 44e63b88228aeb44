import LinuxBle.Properties.SendReq
import LinuxBle.Properties.ScanTable

/-!
# Interrupted waits

Two runs are compared: one as it is, and one with interrupted calls put in. `errno` may differ
between them, except where a failing call reports it.

* `hciSendReq_padded`, `hciScanBle_padded` — interrupted reads change nothing
* `invisible_iff` — interrupted selects do change something, in both functions
* `hciSendReq_select_put_in`, `hciScanBle_select_put_in` — namely those that the wait comes to
-/

namespace LinuxBle

open Infra

/-! ## Interruptions -/

/-- An interrupted call of a wait loop: which one it is, and how it fails. -/
inductive Interruption where
  | select (e : Errno)
  | read (e : Errno)

namespace Interruption

def errno : Interruption → Errno
  | select e | read e => e

def wait : Interruption → Wait
  | select e => .selectFail e
  | read e => .ready (.fail e)

end Interruption

section

variable (K : Interruption → Prop)

/-- An iteration before the deadline in which a call is interrupted in one of the ways `K`. -/
def Interrupts (start limit : Int) (t : Turn) : Prop :=
  ¬t.now - start > limit ∧ ∃ i, K i ∧ i.errno.isRetry = true ∧ t.wait = i.wait

/-- `env'` is `env` with interruptions put into its wait. -/
def ReqEnv.PaddedBy (timeout : Int) (env env' : ReqEnv) : Prop :=
  ∃ turns, env' = { env with turns := turns } ∧
    Padded (Interrupts K env.start timeout) env.turns turns

def CallEnv.PaddedBy (timeout : Int) (env env' : CallEnv) : Prop :=
  env.toReqEnv.PaddedBy K timeout env'.toReqEnv ∧ env'.stack = env.stack

theorem CallEnv.PaddedBy.refl {timeout : Int} (env : CallEnv) : env.PaddedBy K timeout env :=
  ⟨⟨env.turns, rfl, Padded.refl _⟩, rfl⟩

theorem CallEnv.PaddedBy.uninit {timeout : Int} {env env' : CallEnv}
    (h : env.PaddedBy K timeout env') (n : Nat) : env'.uninit n = env.uninit n := by
  unfold CallEnv.uninit
  rw [h.2]

/-- `env'` is `env` with interruptions put into its receive loop and into its commands. -/
structure ScanEnv.PaddedBy (scanTime : Int) (env env' : ScanEnv) : Prop where
  start : env'.start = env.start
  setFilter : env'.setFilter = env.setFilter
  setParams : env.setParams.PaddedBy K 10000 env'.setParams
  disable : env.disable.PaddedBy K 10000 env'.disable
  setParamsAgain : env.setParamsAgain.PaddedBy K 10000 env'.setParamsAgain
  enable : env.enable.PaddedBy K 10000 env'.enable
  turns : Padded (Interrupts K env.start scanTime) env.turns env'.turns
  stop : env.stop.PaddedBy K 10000 env'.stop
  resetFilter : env'.resetFilter = env.resetFilter

/-- No run of `hci_send_req` shows the interruptions `K`. -/
def InvisibleInSendReq : Prop :=
  ∀ r timeout env env' s, env.PaddedBy K timeout env' →
    Outcome.Rel (fun x y => x.ret = y.ret ∧ x.req = y.req) (hciSendReq r timeout env s)
      (hciSendReq r timeout env' s)

/-- No run of `hci_scan_ble` shows the interruptions `K`. -/
def InvisibleInScan : Prop :=
  ∀ self hci bleList bleListLen scanTime env env' s, env.PaddedBy K scanTime env' →
    Outcome.Rel (fun x y => x.ret = y.ret ∧ x.bleList = y.bleList)
      (hciScanBle self hci bleList bleListLen scanTime env s)
      (hciScanBle self hci bleList bleListLen scanTime env' s)

/-- Interrupted waits are invisible. -/
def Invisible : Prop := InvisibleInSendReq K ∧ InvisibleInScan K

end

/-! ## Runs that agree but for `errno` -/

/-- The same socket, but for `errno`. -/
structure Sock.Same (s t : Sock) : Prop where
  filter : s.filter = t.filter
  sent : s.sent = t.sent

theorem Sock.Same.refl (s : Sock) : s.Same s := ⟨rfl, rfl⟩

theorem Sock.Same.withErrno {s t : Sock} (h : s.Same t) (e e' : Errno) :
    (s.withErrno e).Same (t.withErrno e') := ⟨h.filter, h.sent⟩

theorem Sock.Same.setFilter {s t : Sock} (h : s.Same t) (f : HciFilter) (r : SysResult) :
    (s.setFilter f r).Same (t.setFilter f r) := by
  cases r with
  | none => exact ⟨rfl, h.sent⟩
  | some e => exact ⟨h.filter, h.sent⟩

/-- The same exit from the receive loop; `errno` counts where the exit is an error. -/
structure ReqExit.Same (x y : ReqExit) : Prop where
  ret : x.ret = y.ret
  req : x.req = y.req
  errno : x.ret ≠ 0 → x.errno = y.errno

structure ReqResult.Same (x y : ReqResult) : Prop where
  ret : x.ret = y.ret
  req : x.req = y.req
  sock : x.sock.Same y.sock
  errno : x.ret ≠ 0 → x.sock.errno = y.sock.errno

structure CallResult.Same (x y : CallResult) : Prop where
  ret : x.ret = y.ret
  sock : x.sock.Same y.sock
  errno : x.ret ≠ 0 → x.sock.errno = y.sock.errno

/-- One iteration of the receive loop does not look at `errno`. -/
theorem reqBody_same (r : HciRequest) (start timeout : Int) (errno errno' : Errno) (t : Turn) :
    Step.Rel (fun _ _ => True) (Option.Rel ReqExit.Same) (reqBody r start timeout 0 errno t)
      (reqBody r start timeout 0 errno' t) := by
  rw [reqBody_eq, reqBody_eq]
  cases turnEnd r start timeout t with
  | none => exact .next trivial
  | some e =>
    refine .leave ?_
    cases e with
    | deadline => exact .some ⟨rfl, rfl, fun _ => rfl⟩
    | selectError e => exact .some ⟨rfl, rfl, fun _ => rfl⟩
    | readError e => exact .some ⟨rfl, rfl, fun _ => rfl⟩
    | endOfFile => exact .some ⟨rfl, rfl, fun h => absurd rfl h⟩
    | refused => exact .some ⟨rfl, rfl, fun _ => rfl⟩
    | completed p src len =>
      simp only [reqExit]
      cases copyReply r p src len with
      | none => exact .none
      | some r' => exact .some ⟨rfl, rfl, fun h => absurd rfl h⟩

theorem endReq_same {env env' : ReqEnv} {of : HciFilter} {s t : Sock} {x y : ReqExit}
    (henv : env.restore = env'.restore) (hs : s.Same t) (h : x.Same y) :
    (endReq env of s x).Same (endReq env' of t y) := by
  unfold endReq
  rw [← henv]
  exact ⟨h.ret, h.req, (hs.setFilter of env.restore).withErrno x.errno y.errno, h.errno⟩

theorem endLoop_same {env env' : ReqEnv} {of : HciFilter} {s t : Sock}
    {a b : Step Errno (Option ReqExit)} (henv : env.restore = env'.restore) (hs : s.Same t)
    (h : Step.Rel (fun _ _ => True) (Option.Rel ReqExit.Same) a b) :
    Outcome.Rel ReqResult.Same (endLoop env of s a) (endLoop env' of t b) := by
  cases h with
  | next _ => exact .blocked
  | leave hxy =>
    cases hxy with
    | none => exact .fault
    | some hxy => exact .done (endReq_same henv hs hxy)

/-- The same table, whatever `errno` is. -/
structure ScanState.Same (x y : ScanState) : Prop where
  counter : x.counter = y.counter
  bleList : x.bleList = y.bleList

structure ScanExit.Same (x y : ScanExit) : Prop where
  counter : x.counter = y.counter
  bleList : x.bleList = y.bleList

theorem scanPacket_same {self : HciPtr} {bleListLen : Int} {x y : ScanState} (h : x.Same y)
    (p : Packet) : (scanPacket self bleListLen x p).Same (scanPacket self bleListLen y p) := by
  obtain ⟨hc, hl⟩ := h
  by_cases hp : p.Named
  · rw [scanPacket_of_named hp, scanPacket_of_named hp, ← hc, ← hl]
    split
    · exact ⟨rfl, rfl⟩
    · split
      · exact ⟨rfl, rfl⟩
      · exact ⟨hc, hl⟩
  · rw [scanPacket_of_not_named hp, scanPacket_of_not_named hp]
    exact ⟨hc, hl⟩

theorem scanBody_same {self : HciPtr} {bleListLen start scanTime : Int} {x y : ScanState}
    (h : x.Same y) (t : Turn) :
    Step.Rel ScanState.Same ScanExit.Same (scanBody self bleListLen start scanTime x t)
      (scanBody self bleListLen start scanTime y t) := by
  rw [scanBody_eq, scanBody_eq]
  cases scanTurnEnd start scanTime t with
  | none =>
    refine .next ?_
    unfold scanTurn
    split
    · exact ⟨h.counter, h.bleList⟩
    · exact scanPacket_same h _
    · exact h
  | some e =>
    refine .leave ?_
    cases e with
    | deadline => exact ⟨congrArg Nat.cast h.counter, h.bleList⟩
    | endOfFile => exact ⟨congrArg Nat.cast h.counter, h.bleList⟩
    | selectError e => exact ⟨rfl, h.bleList⟩
    | readError e => exact ⟨rfl, h.bleList⟩

/-! ## Interrupted reads -/

section

variable {K : Interruption → Prop} (hK : ∀ e, e.isRetry = true → ¬K (.select e))
include hK

/-- Where no `select` is interrupted, it is a `read` that is. -/
theorem Interrupts.read {start limit : Int} {t : Turn} (h : Interrupts K start limit t) :
    ¬t.now - start > limit ∧ ∃ e, e.isRetry = true ∧ t.wait = .ready (.fail e) := by
  obtain ⟨hl, i, hi, he, hw⟩ := h
  cases i with
  | select e => exact absurd hi (hK e he)
  | read e => exact ⟨hl, e, he, hw⟩

/-- An interrupted `read` sends the loop round once more. -/
theorem reqBody_interrupted {r : HciRequest} {start timeout ret : Int} {errno : Errno} {t : Turn}
    (h : Interrupts K start timeout t) :
    ∃ errno', reqBody r start timeout ret errno t = .next errno' := by
  obtain ⟨hl, e, he, hw⟩ := h.read hK
  refine ⟨e, ?_⟩
  simp only [reqBody, if_neg hl, hw, he, if_true]

/-- **Interrupted reads are invisible in `hci_send_req`.** -/
theorem hciSendReq_padded {r : HciRequest} {timeout : Int} {env env' : ReqEnv} {s t : Sock}
    (h : env.PaddedBy K timeout env') (hs : s.Same t) :
    Outcome.Rel ReqResult.Same (hciSendReq r timeout env s) (hciSendReq r timeout env' t) := by
  obtain ⟨turns, rfl, hp⟩ := h
  unfold hciSendReq
  simp only [hs.filter]
  cases env.getsockopt with
  | some e => exact .done ⟨rfl, rfl, hs.withErrno e e, fun _ => rfl⟩
  | none =>
    cases env.setsockopt with
    | some e => exact .done ⟨rfl, rfl, hs.withErrno e e, fun _ => rfl⟩
    | none =>
      simp only [hciSendCmd_eq]
      have hs₁ := hs.setFilter (reqFilter r.event r.opcode) none
      cases env.writev.findSome? writeEnd with
      | none => exact .blocked
      | some w =>
        cases w with
        | some e =>
          simp only [Outcome.done_bind, Outcome.pure_eq]
          rw [if_pos (by decide), if_pos (by decide)]
          exact .done (endReq_same rfl (hs₁.withErrno e e) ⟨rfl, rfl, fun _ => rfl⟩)
        | none =>
          simp only [Outcome.done_bind, Outcome.pure_eq]
          rw [if_neg (by decide), if_neg (by decide)]
          -- both runs are in the receive loop, where `errno` is all that may differ
          refine endLoop_same rfl ⟨rfl, congrArg (· ++ _) hs₁.sent⟩ (loop_padded ?_ ?_ hp trivial)
          · intro errno errno' u _ hu
            obtain ⟨errno'', hb⟩ := reqBody_interrupted hK hu
            exact ⟨errno'', hb, trivial⟩
          · exact fun errno errno' u _ => reqBody_same r env.start timeout errno errno' u

theorem sendForStatus_padded {rq : HciRequest} {timeout : Int} {env env' : ReqEnv} {s t : Sock}
    (h : env.PaddedBy K timeout env') (hs : s.Same t) :
    Outcome.Rel ReqResult.Same (sendForStatus rq timeout env s)
      (sendForStatus rq timeout env' t) := by
  refine (hciSendReq_padded hK h hs).bind fun x y hxy => ?_
  rw [← hxy.ret, ← hxy.req]
  split
  · next hneg =>
    exact .done ⟨rfl, rfl, hxy.sock, fun _ => hxy.errno (by omega)⟩
  · split
    · exact .done ⟨rfl, rfl, hxy.sock.withErrno .eio .eio, fun _ => rfl⟩
    · exact .done ⟨rfl, rfl, hxy.sock, fun h => absurd rfl h⟩

theorem scanEnable_padded {enable : UInt8} {env env' : CallEnv} {s t : Sock}
    (h : env.PaddedBy K 10000 env') (hs : s.Same t) :
    Outcome.Rel CallResult.Same (scanEnable enable env s) (scanEnable enable env' t) := by
  unfold scanEnable hciLeSetScanEnable
  rw [h.uninit]
  refine (sendForStatus_padded hK h.1 hs).bind fun x y hxy => ?_
  exact .done ⟨hxy.ret, hxy.sock, hxy.errno⟩

theorem scanSetParams_padded {env env' : CallEnv} {s t : Sock}
    (h : env.PaddedBy K 10000 env') (hs : s.Same t) :
    Outcome.Rel CallResult.Same (scanSetParams env s) (scanSetParams env' t) := by
  unfold scanSetParams hciLeSetScanParameters
  rw [h.uninit]
  refine (sendForStatus_padded hK h.1 hs).bind fun x y hxy => ?_
  exact .done ⟨hxy.ret, hxy.sock, hxy.errno⟩

/-- The set-up asks for `errno` only after a failing call, which sets it. -/
theorem scanParams_padded {scanTime : Int} {env env' : ScanEnv} {s t : Sock}
    (h : env.PaddedBy K scanTime env') (hs : s.Same t) :
    Outcome.Rel CallResult.Same (scanParams env s) (scanParams env' t) := by
  refine (scanSetParams_padded hK h.setParams hs).bind fun x y hxy => ?_
  rw [← hxy.ret]
  split
  · next hret =>
    rw [← hxy.errno hret]
    split
    · exact .done ⟨rfl, hxy.sock, fun _ => hxy.errno hret⟩
    · refine (scanEnable_padded hK h.disable hxy.sock).bind fun x y hxy => ?_
      rw [← hxy.ret]
      split
      · next hret => exact .done ⟨rfl, hxy.sock, fun _ => hxy.errno hret⟩
      · refine (scanSetParams_padded hK h.setParamsAgain hxy.sock).bind fun x y hxy => ?_
        rw [← hxy.ret]
        split
        · next hret => exact .done ⟨rfl, hxy.sock, fun _ => hxy.errno hret⟩
        · exact .done ⟨rfl, hxy.sock, fun h => absurd rfl h⟩
  · exact .done ⟨rfl, hxy.sock, fun h => absurd rfl h⟩

theorem scanSetup_padded {scanTime : Int} {env env' : ScanEnv} {s t : Sock}
    (h : env.PaddedBy K scanTime env') (hs : s.Same t) :
    Outcome.Rel CallResult.Same (scanSetup env s) (scanSetup env' t) := by
  refine (scanParams_padded hK h hs).bind fun x y hxy => ?_
  rw [← hxy.ret]
  split
  · next hret => exact .done ⟨rfl, hxy.sock, fun _ => hxy.errno hret⟩
  · refine (scanEnable_padded hK h.enable hxy.sock).bind fun x y hxy => ?_
    rw [← hxy.ret]
    split
    · next hret => exact .done ⟨rfl, hxy.sock, fun _ => hxy.errno hret⟩
    · exact .done ⟨rfl, hxy.sock, fun h => absurd rfl h⟩

theorem scanBody_interrupted {self : HciPtr} {bleListLen start scanTime : Int}
    {st : ScanState} {t : Turn} (h : Interrupts K start scanTime t) :
    ∃ errno, scanBody self bleListLen start scanTime st t = .next { st with errno := errno } := by
  obtain ⟨hl, e, he, hw⟩ := h.read hK
  refine ⟨e, ?_⟩
  simp only [scanBody, if_neg hl, hw, he, if_true]

/-- From the receive loop to the return. -/
theorem scanFinish_padded {hci : HciDevice} {scanTime : Int} {env env' : ScanEnv} {s t : Sock}
    {x y : ScanExit} (h : env.PaddedBy K scanTime env') (hs : s.Same t) (hxy : x.Same y) :
    Outcome.Rel (fun x y => x.ret = y.ret ∧ x.bleList = y.bleList) (scanFinish hci env s x)
      (scanFinish hci env' t y) :=
  (scanEnable_padded hK h.stop (hs.withErrno x.errno y.errno)).bind fun _ _ _ =>
    .done ⟨hxy.counter, hxy.bleList⟩

/-- **Interrupted reads are invisible in `hci_scan_ble`.** -/
theorem hciScanBle_padded {self : HciPtr} {hci : HciDevice} {bleList : BleList}
    {bleListLen scanTime : Int} {env env' : ScanEnv} {s : Sock}
    (h : env.PaddedBy K scanTime env') :
    Outcome.Rel (fun x y => x.ret = y.ret ∧ x.bleList = y.bleList)
      (hciScanBle self hci bleList bleListLen scanTime env s)
      (hciScanBle self hci bleList bleListLen scanTime env' s) := by
  unfold hciScanBle
  rw [h.setFilter, h.start]
  cases env.setFilter with
  | some e => exact .done ⟨rfl, rfl⟩
  | none =>
    refine (scanSetup_padded hK h (Sock.Same.refl _)).bind fun x y hxy => ?_
    rw [← hxy.ret]
    split
    · exact .done ⟨rfl, rfl⟩
    · have hpad : ∀ st st' t, ScanState.Same st st' → Interrupts K env.start scanTime t →
          ∃ st'', scanBody self bleListLen env.start scanTime st' t = .next st'' ∧
            ScanState.Same st st'' := fun st st' t hst ht => by
        obtain ⟨errno, hb⟩ := scanBody_interrupted hK ht
        exact ⟨_, hb, hst.counter, hst.bleList⟩
      have hloop := loop_padded (Q := ScanExit.Same) hpad (fun st st' t hst => scanBody_same hst t)
        h.turns (s := ⟨0, bleList, x.sock.errno⟩) (t := ⟨0, bleList, y.sock.errno⟩) ⟨rfl, rfl⟩
      revert hloop
      generalize loop (scanBody self bleListLen env.start scanTime) _ env.turns = a
      generalize loop (scanBody self bleListLen env.start scanTime) _ env'.turns = b
      intro hloop
      cases hloop with
      | next _ => exact .blocked
      | leave hexit => exact scanFinish_padded hK h hxy.sock hexit

end

/-! ## Interrupted selects -/

section

variable {K : Interruption → Prop}

/-- Command Complete for LE Read White List Size: status `0`, size `0x10`. -/
def whiteListSizeReply : Packet :=
  .ofBytes [0x04, 0x0E, 0x05, 0x01, 0x0F, 0x20, 0x00, 0x10] (by decide)

/-- One interrupted `select` at the beginning of a wait. -/
theorem interrupts_select {e : Errno} (he : e.isRetry = true) (hK : K (.select e)) :
    Interrupts K 0 1000 ⟨0, .selectFail e⟩ :=
  ⟨(by decide : ¬(0 : Int) - 0 > 1000), .select e, hK, he, rfl⟩

/-- In `hci_send_req` it ends a wait that would have received its reply. -/
theorem not_invisibleInSendReq_of_select {e : Errno} (he : e.isRetry = true)
    (hK : K (.select e)) : ¬InvisibleInSendReq K := by
  intro inv
  have hrel := inv whiteListSizeRequest 1000 (.answered whiteListSizeReply)
    { ReqEnv.answered whiteListSizeReply with
      turns := ⟨0, .selectFail e⟩ :: (ReqEnv.answered whiteListSizeReply).turns }
    ⟨hciFilterClear, [], .ofCode 0⟩ ⟨_, rfl, .pad _ (interrupts_select he hK) (Padded.refl _)⟩
  have hreply : hciSendReq whiteListSizeRequest 1000 (.answered whiteListSizeReply)
      ⟨hciFilterClear, [], .ofCode 0⟩ =
        .done ⟨0, { whiteListSizeRequest with rparam := [0x00, 0x10] },
          ⟨hciFilterClear, [[0x01, 0x0F, 0x20, 0x00]], .ofCode 0⟩⟩ := by rfl
  have hlost : hciSendReq whiteListSizeRequest 1000
      { ReqEnv.answered whiteListSizeReply with
        turns := ⟨0, .selectFail e⟩ :: (ReqEnv.answered whiteListSizeReply).turns }
      ⟨hciFilterClear, [], .ofCode 0⟩ = .done ⟨0, whiteListSizeRequest,
        ⟨hciFilterClear, [[0x01, 0x0F, 0x20, 0x00]], e⟩⟩ := by rfl
  rw [hreply, hlost] at hrel
  cases hrel with
  | done h =>
    have hreq : { whiteListSizeRequest with rparam := [0x00, 0x10] } = whiteListSizeRequest := h.2
    exact absurd hreq (by decide)

/-- In `hci_scan_ble` it makes a scan fail that would have found its device. -/
theorem not_invisibleInScan_of_select {e : Errno} (he : e.isRetry = true)
    (hK : K (.select e)) : ¬InvisibleInScan K := by
  intro inv
  have hpad : ScanEnv.PaddedBy K 1000 acceptedScan
      { acceptedScan with turns := ⟨0, .selectFail e⟩ :: acceptedScan.turns } :=
    ⟨rfl, rfl, .refl K _, .refl K _, .refl K _, .refl K _,
      .pad _ (interrupts_select he hK) (Padded.refl _), .refl K _, rfl⟩
  have hrel := inv 0 .zero (fun _ => .zero) 5 1000 acceptedScan _
    ⟨hciFilterClear, [], .ofCode 0⟩ hpad
  have hfound : ∃ x, hciScanBle 0 .zero (fun _ => .zero) 5 1000 acceptedScan
      ⟨hciFilterClear, [], .ofCode 0⟩ = .done x ∧ x.ret = 1 := ⟨_, rfl, rfl⟩
  have hlost : ∃ y, hciScanBle 0 .zero (fun _ => .zero) 5 1000
      { acceptedScan with turns := ⟨0, .selectFail e⟩ :: acceptedScan.turns }
      ⟨hciFilterClear, [], .ofCode 0⟩ = .done y ∧ y.ret = -1 := by
    have hretry : e = .eagain ∨ e = .eintr := by simpa [Errno.isRetry] using he
    rcases hretry with rfl | rfl
    · exact ⟨_, rfl, rfl⟩
    · exact ⟨_, rfl, rfl⟩
  obtain ⟨x, hx, hxr⟩ := hfound
  obtain ⟨y, hy, hyr⟩ := hlost
  rw [hx, hy] at hrel
  cases hrel with
  | done h =>
    have hret := h.1
    rw [hxr, hyr] at hret
    cases hret

end

/-! ## Which interruptions are invisible -/

theorem invisibleInSendReq_iff (K : Interruption → Prop) :
    InvisibleInSendReq K ↔ ∀ e, e.isRetry = true → ¬K (.select e) := by
  constructor
  · exact fun inv e he hK => not_invisibleInSendReq_of_select he hK inv
  · intro hK r timeout env env' s h
    exact (hciSendReq_padded hK h (Sock.Same.refl s)).mono fun _ _ hxy => ⟨hxy.ret, hxy.req⟩

theorem invisibleInScan_iff (K : Interruption → Prop) :
    InvisibleInScan K ↔ ∀ e, e.isRetry = true → ¬K (.select e) := by
  constructor
  · exact fun inv e he hK => not_invisibleInScan_of_select he hK inv
  · exact fun hK self hci bleList bleListLen scanTime env env' s h => hciScanBle_padded hK h

/--
**The invisible interruptions are those of `read`.**

Both loops retry an interrupted `read`, and an interrupted `select` ends both.

This is about kinds of interruptions, in all runs: of the interrupted selects that are put into one
run, only one that the wait comes to makes a difference (`hciSendReq_select_put_in`,
`hciScanBle_select_put_in`).
-/
theorem invisible_iff (K : Interruption → Prop) :
    Invisible K ↔ ∀ e, e.isRetry = true → ¬K (.select e) := by
  unfold Invisible
  rw [invisibleInSendReq_iff, invisibleInScan_iff, and_self_iff]

/-- Interruptions of every kind are not invisible: `EINTR` at `select` is one. -/
theorem not_invisible_all : ¬Invisible fun _ => True := fun inv =>
  not_invisibleInSendReq_of_select (e := .eintr) rfl trivial inv.1

/-! ## Which failing selects matter -/

/-- The wait of `r` goes on behind the iterations `pre`. -/
def ReqEnv.GoesOn (env : ReqEnv) (r : HciRequest) (timeout : Int) (pre : List Turn) : Prop :=
  env.Sent ∧ ∀ t ∈ pre, turnEnd r env.start timeout t = none

/-- A scan goes on listening behind the iterations `pre`. -/
def ScanEnv.GoesOn (env : ScanEnv) (scanTime : Int) (s : Sock) (pre : List Turn) : Prop :=
  env.Listens s ∧ ∀ t ∈ pre, scanTurnEnd env.start scanTime t = none

section

variable {now : Int} {e : Errno}

/-- What is received counts where the command was sent. -/
theorem hciSendReq_congr_turns {r : HciRequest} {timeout : Int} {env : ReqEnv} {s : Sock}
    {turns turns' : List Turn}
    (h : env.Sent → ∀ errno, loop (reqBody r env.start timeout 0) errno turns =
      loop (reqBody r env.start timeout 0) errno turns') :
    hciSendReq r timeout { env with turns := turns } s =
      hciSendReq r timeout { env with turns := turns' } s := by
  unfold hciSendReq
  cases hget : env.getsockopt with
  | some e => rfl
  | none =>
    cases hset : env.setsockopt with
    | some e => rfl
    | none =>
      simp only [hciSendCmd_eq]
      cases hsend : env.writev.findSome? writeEnd with
      | none => rfl
      | some w =>
        cases w with
        | some e => rfl
        | none =>
          simp only [Outcome.done_bind, h ⟨hget, hset, hsend⟩]
          rfl

/--
**A failing `select` that is put into the wait of `hci_send_req` ends it if the wait comes to it**,
with the return value `0` and nothing received. If not, the call is the same in everything.
-/
theorem hciSendReq_select_put_in (r : HciRequest) (timeout : Int) (env : ReqEnv) (s : Sock)
    (pre post : List Turn) (hnow : ¬now - env.start > timeout) :
    (env.GoesOn r timeout pre → ∃ res,
      hciSendReq r timeout { env with turns := pre ++ ⟨now, .selectFail e⟩ :: post } s =
        .done res ∧ res.ret = 0 ∧ res.req = r ∧ res.sock.errno = e) ∧
    (¬env.GoesOn r timeout pre →
      hciSendReq r timeout { env with turns := pre ++ ⟨now, .selectFail e⟩ :: post } s =
        hciSendReq r timeout { env with turns := pre ++ post } s) := by
  constructor
  · rintro ⟨hsent, hpre⟩
    have hend : ReqEnv.waitEnd { env with turns := pre ++ ⟨now, .selectFail e⟩ :: post } r timeout =
        some (.selectError e) :=
      waitEnd_eq_some_iff.mpr ⟨_, ⟨pre, post, rfl, hpre⟩, by simp [turnEnd, hnow]⟩
    exact ⟨_, hciSendReq_of_exit hsent hend rfl, rfl, rfl, rfl⟩
  · intro hno
    refine hciSendReq_congr_turns fun hsent errno => ?_
    refine loop_append_of_decided (d := turnEnd r env.start timeout) (fun errno t ht => ?_) _ _ pre
      errno ?_
    · obtain ⟨x, hx⟩ := Option.ne_none_iff_exists'.mp ht
      exact ⟨_, reqBody_of_turnEnd_some hx 0 errno⟩
    · by_contra hpre
      exact hno ⟨hsent, fun t ht => by_contra fun hd => hpre ⟨t, ht, hd⟩⟩

/-- In front of the reply `EINTR` makes the call lose it, behind the reply it does nothing. -/
theorem hciSendReq_select_put_in_answered :
    (∃ res, hciSendReq whiteListSizeRequest 1000 { ReqEnv.answered whiteListSizeReply with
        turns := ⟨0, .selectFail .eintr⟩ :: (ReqEnv.answered whiteListSizeReply).turns }
      ⟨hciFilterClear, [], .ofCode 0⟩ = .done res ∧ res.ret = 0 ∧
        res.req = whiteListSizeRequest ∧ res.sock.errno = .eintr) ∧
    hciSendReq whiteListSizeRequest 1000 { ReqEnv.answered whiteListSizeReply with
        turns := (ReqEnv.answered whiteListSizeReply).turns ++ [⟨0, .selectFail .eintr⟩] }
      ⟨hciFilterClear, [], .ofCode 0⟩ =
    hciSendReq whiteListSizeRequest 1000 (.answered whiteListSizeReply)
      ⟨hciFilterClear, [], .ofCode 0⟩ := by
  have hnow : ¬(0 : Int) - 0 > 1000 := by decide
  constructor
  · refine (hciSendReq_select_put_in whiteListSizeRequest 1000 (.answered whiteListSizeReply)
      ⟨hciFilterClear, [], .ofCode 0⟩ [] _ hnow).1 ?_
    exact ⟨⟨rfl, rfl, rfl⟩, fun t ht => by cases ht⟩
  · refine (hciSendReq_select_put_in whiteListSizeRequest 1000 (.answered whiteListSizeReply)
      ⟨hciFilterClear, [], .ofCode 0⟩ (ReqEnv.answered whiteListSizeReply).turns [] hnow).2
      fun hon => ?_
    have hend := hon.2 _ (List.mem_singleton_self _)
    cases hend

/--
**So it is in the receive loop of `hci_scan_ble`**, which then ends with `-1`, whatever it has found
by then. It comes back when the command that stops the scan does.
-/
theorem hciScanBle_select_put_in (self : HciPtr) (hci : HciDevice) (bleList : BleList)
    (bleListLen scanTime : Int) (env : ScanEnv) (s : Sock) (pre post : List Turn)
    (hnow : ¬now - env.start > scanTime) :
    (env.GoesOn scanTime s pre →
      (env.Stops → ∃ res, hciScanBle self hci bleList bleListLen scanTime
        { env with turns := pre ++ ⟨now, .selectFail e⟩ :: post } s = .done res) ∧
      ∀ res, hciScanBle self hci bleList bleListLen scanTime
        { env with turns := pre ++ ⟨now, .selectFail e⟩ :: post } s = .done res → res.ret = -1) ∧
    (¬env.GoesOn scanTime s pre →
      hciScanBle self hci bleList bleListLen scanTime
        { env with turns := pre ++ ⟨now, .selectFail e⟩ :: post } s =
      hciScanBle self hci bleList bleListLen scanTime { env with turns := pre ++ post } s) := by
  constructor
  · rintro ⟨⟨hset, up, hup, hret⟩, hpre⟩
    have hset' : ScanEnv.setFilter { env with turns := pre ++ ⟨now, .selectFail e⟩ :: post } =
        none := hset
    have hend : ScanEnv.scanEnd { env with turns := pre ++ ⟨now, .selectFail e⟩ :: post } scanTime =
        some (.selectError e) := by
      refine List.findSome?_eq_some_iff.mpr ⟨pre, _, post, rfl, ?_, hpre⟩
      simp [scanTurnEnd, hnow]
    rw [hciScanBle_eq hset' hup, if_neg (not_not.mpr hret), hend]
    constructor
    · intro hstop
      obtain ⟨off, hoff⟩ := hstop (up.sock.withErrno e)
      simp only [scanFinish, scanExit, hoff, Outcome.done_bind, Outcome.pure_eq]
      exact ⟨_, rfl⟩
    · exact fun res hres => (scanFinish_eq_done hres).1
  · intro hno
    unfold hciScanBle
    cases hset : env.setFilter with
    | some e => rfl
    | none =>
      show scanSetup env (s.setFilter scanFilter none) >>= _ = scanSetup env _ >>= _
      cases hup : scanSetup env (s.setFilter scanFilter none) with
      | blocked => rfl
      | fault => rfl
      | done up =>
        simp only [Outcome.done_bind]
        split
        · rfl
        · next hret =>
          have hloop : loop (scanBody self bleListLen env.start scanTime)
              ⟨0, bleList, up.sock.errno⟩ (pre ++ ⟨now, .selectFail e⟩ :: post) =
              loop (scanBody self bleListLen env.start scanTime)
              ⟨0, bleList, up.sock.errno⟩ (pre ++ post) := by
            refine loop_append_of_decided (d := scanTurnEnd env.start scanTime)
              (fun st t ht => ?_) _ _ pre _ ?_
            · obtain ⟨x, hx⟩ := Option.ne_none_iff_exists'.mp ht
              exact ⟨_, scanBody_of_scanTurnEnd_some hx self bleListLen st⟩
            · by_contra hpre
              exact hno ⟨⟨hset, up, hup, not_not.mp hret⟩,
                fun t ht => by_contra fun hd => hpre ⟨t, ht, hd⟩⟩
          rw [hloop]
          rfl

end

/-- The scan has heard its device when `EINTR` comes, and returns `-1`. -/
theorem hciScanBle_select_put_in_acceptedScan :
    ∃ res, hciScanBle 0 .zero (fun _ => .zero) 5 1000 { acceptedScan with
        turns := [⟨0, .ready (.got namedReport)⟩] ++ [⟨0, .selectFail .eintr⟩] }
      ⟨hciFilterClear, [], .ofCode 0⟩ = .done res ∧ res.ret = -1 := by
  have hon : acceptedScan.GoesOn 1000 ⟨hciFilterClear, [], .ofCode 0⟩
      [⟨0, .ready (.got namedReport)⟩] := by
    refine ⟨⟨rfl, _, rfl, rfl⟩, fun t ht => ?_⟩
    rw [List.mem_singleton.mp ht]
    rfl
  have hnow : ¬(0 : Int) - acceptedScan.start > 1000 := by decide
  obtain ⟨hreturns, hret⟩ := (hciScanBle_select_put_in (e := .eintr) 0 .zero (fun _ => .zero) 5
    1000 acceptedScan ⟨hciFilterClear, [], .ofCode 0⟩ _ [] hnow).1 hon
  obtain ⟨res, hres⟩ := hreturns fun _ => ⟨_, rfl⟩
  exact ⟨res, hres, hret res hres⟩

end LinuxBle
