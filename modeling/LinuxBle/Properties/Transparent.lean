import LinuxBle.Properties.SendReq

/-!
# What `hci_send_req` leaves on the socket

Every way out behind the installed filter passes through the label `end`, which puts the old
filter back and keeps `errno`.

* `hciSendReq_transparent` — the filter is the one on entry, and `errno` is that of the failure
-/

namespace LinuxBle

open Infra

variable {r : HciRequest} {timeout : Int} {env : ReqEnv} {s : Sock} {p : Packet}

/-! ## The failures -/

/-- An iteration of the wait fails, and `errno` says how. -/
inductive Turn.FailsBy (t : Turn) (r : HciRequest) (start timeout : Int) : Errno → Prop
  | deadline : t.now - start > timeout → FailsBy t r start timeout .etimedout
  | select {e : Errno} : ¬t.now - start > timeout → t.wait = .selectFail e →
      FailsBy t r start timeout e
  | read {e : Errno} : ¬t.now - start > timeout → t.wait = .ready (.fail e) →
      e.isRetry = false → FailsBy t r start timeout e
  | refused {p : Packet} : t.Receives start timeout p → Refuses r p →
      FailsBy t r start timeout .eio

/-- A call fails with the `errno` of the step that fails. -/
inductive FailsBy (r : HciRequest) (timeout : Int) (env : ReqEnv) : Errno → Prop
  | getsockopt {e : Errno} : env.getsockopt = some e → FailsBy r timeout env e
  | setsockopt {e : Errno} : env.getsockopt = none → env.setsockopt = some e →
      FailsBy r timeout env e
  | send {e : Errno} : env.FilterIn → env.send = some (some e) → FailsBy r timeout env e
  | wait {t : Turn} {e : Errno} : env.Sent → env.Reaches r timeout t →
      t.FailsBy r env.start timeout e → FailsBy r timeout env e

/-- What two results that differ in the filter have in common. -/
structure SameButFilter (res res' : ReqResult) : Prop where
  ret : res.ret = res'.ret
  req : res.req = res'.req
  sent : res.sock.sent = res'.sock.sent
  errno : res.sock.errno = res'.sock.errno

/--
`hci_send_req` is transparent to the filter of the socket and to `errno`.

`filter` supposes that the old filter can be put back where the new one could be put in; nothing
else depends on that call.
-/
structure Transparent (r : HciRequest) (timeout : Int) (env : ReqEnv) (s : Sock) : Prop where
  filter : (env.FilterIn → env.restore = none) →
    ∀ res, hciSendReq r timeout env s = .done res → res.sock.filter = s.filter
  errno : ∀ e, FailsBy r timeout env e →
    ∃ res, hciSendReq r timeout env s = .done res ∧ res.sock.errno = e
  negative : ∀ res, hciSendReq r timeout env s = .done res → res.ret < 0 →
    FailsBy r timeout env res.sock.errno
  restoring : ∀ w, Outcome.Rel SameButFilter (hciSendReq r timeout env s)
    (hciSendReq r timeout { env with restore := w } s)

/-! ## The filter -/

theorem hciSendReq_filter_of_restored (h : env.FilterIn → env.restore = none) {res : ReqResult}
    (hres : hciSendReq r timeout env s = .done res) : res.sock.filter = s.filter := by
  rw [hciSendReq_filter hres, ReqEnv.filterAfter, if_neg fun hf => hf.2 (h hf.1)]

/-! ## `errno` -/

theorem hciSendReq_of_getsockopt {e : Errno} (h : env.getsockopt = some e) :
    hciSendReq r timeout env s = .done ⟨-1, r, s.withErrno e⟩ := by
  simp only [hciSendReq, h]

theorem hciSendReq_of_setsockopt {e : Errno} (hget : env.getsockopt = none)
    (hset : env.setsockopt = some e) :
    hciSendReq r timeout env s = .done ⟨-1, r, s.withErrno e⟩ := by
  simp only [hciSendReq, hget, hset]

/-- The `errno` of a failing iteration reaches the label `end`. -/
theorem turnEnd_of_failsBy {start : Int} {t : Turn} {e : Errno}
    (h : t.FailsBy r start timeout e) :
    ∃ x ret, turnEnd r start timeout t = some x ∧
      ∀ errno, reqExit r 0 errno x = some ⟨ret, e, r⟩ := by
  cases h with
  | deadline hl => exact ⟨.deadline, -1, turnEnd_of_late hl, fun _ => rfl⟩
  | select hl hw => exact ⟨.selectError e, 0, by simp [turnEnd, hl, hw], fun _ => rfl⟩
  | read hl hw he => exact ⟨.readError e, 0, by simp [turnEnd, hl, hw, he], fun _ => rfl⟩
  | refused hp hr =>
    exact ⟨.refused, 0, by rw [turnEnd_of_receives hp, dispatch_of_refuses hr], fun _ => rfl⟩

/-- **A failing call returns with the `errno` of its failure.** -/
theorem hciSendReq_errno {e : Errno} (h : FailsBy r timeout env e) :
    ∃ res, hciSendReq r timeout env s = .done res ∧ res.sock.errno = e := by
  cases h with
  | getsockopt hget => exact ⟨_, hciSendReq_of_getsockopt hget, rfl⟩
  | setsockopt hget hset => exact ⟨_, hciSendReq_of_setsockopt hget hset, rfl⟩
  | send hin he => exact ⟨_, hciSendReq_of_sendFails hin he, rfl⟩
  | wait hsent ht hf =>
    obtain ⟨x, ret, hx, hexit⟩ := turnEnd_of_failsBy hf
    exact ⟨_, hciSendReq_of_exit hsent (waitEnd_eq_some_iff.mpr ⟨_, ht, hx⟩) (hexit _), rfl⟩

/-- A negative result comes of a failure. -/
theorem failsBy_of_neg {res : ReqResult} (h : hciSendReq r timeout env s = .done res)
    (hneg : res.ret < 0) : FailsBy r timeout env res.sock.errno := by
  cases hget : env.getsockopt with
  | some e =>
    rw [hciSendReq_of_getsockopt hget, Outcome.done.injEq] at h
    rw [← h]
    exact .getsockopt hget
  | none =>
    cases hset : env.setsockopt with
    | some e =>
      rw [hciSendReq_of_setsockopt hget hset, Outcome.done.injEq] at h
      rw [← h]
      exact .setsockopt hget hset
    | none =>
      rcases hciSendReq_done_cases h with
        ⟨hno, -⟩ | ⟨hin, e, he, rfl⟩ | ⟨hsent, e, x, he, hx, hres⟩
      · exact absurd ⟨hget, hset⟩ hno
      · exact .send hin he
      · obtain ⟨t, ht, hte⟩ := waitEnd_eq_some_iff.mp he
        rcases turnEnd_cases hte with ⟨eo, hf⟩ | ⟨p, -, -, rfl⟩
        · -- of the failing iterations, only the deadline sets the outer `ret`
          obtain ⟨res', hres', -, -, hret⟩ := hciSendReq_of_failsWith hsent ht hf
          rw [h, Outcome.done.injEq] at hres'
          have hlate : t.now - env.start > timeout := by
            by_contra hl
            rw [← hres', if_neg hl] at hret
            omega
          rw [turnEnd_of_late hlate, Option.some.injEq] at hte
          rw [← hte] at hx
          cases hx
          rw [hres]
          exact .wait hsent ht (.deadline hlate)
        · obtain ⟨r', -, rfl⟩ := Option.map_eq_some_iff.mp hx
          rw [hres] at hneg
          cases hneg

/-! ## The restoring call -/

theorem SameButFilter.refl (res : ReqResult) : SameButFilter res res := ⟨rfl, rfl, rfl, rfl⟩

/-- The label `end` keeps `errno`, whatever becomes of its `setsockopt`. -/
theorem sameButFilter_endReq (env env' : ReqEnv) (of : HciFilter) (s : Sock) (x : ReqExit) :
    SameButFilter (endReq env of s x) (endReq env' of s x) where
  ret := rfl
  req := rfl
  sent := by simp [endReq]
  errno := rfl

/-- **The restoring call has no influence on anything but the filter.** -/
theorem hciSendReq_restoring (r : HciRequest) (timeout : Int) (env : ReqEnv) (s : Sock)
    (w : SysResult) :
    Outcome.Rel SameButFilter (hciSendReq r timeout env s)
      (hciSendReq r timeout { env with restore := w } s) := by
  unfold hciSendReq
  cases env.getsockopt with
  | some e => exact .done (.refl _)
  | none =>
    cases env.setsockopt with
    | some e => exact .done (.refl _)
    | none =>
      simp only
      cases hciSendCmd r.ogf r.ocf (UInt8.ofInt r.clen) r.cparam env.writev
        (s.setFilter (reqFilter r.event r.opcode) none) with
      | blocked => exact .blocked
      | fault => exact .fault
      | done cmd =>
        simp only [Outcome.done_bind]
        by_cases hret : cmd.ret < 0
        · rw [if_pos hret, if_pos hret]
          exact .done (sameButFilter_endReq ..)
        · rw [if_neg hret, if_neg hret]
          cases loop (reqBody r env.start timeout cmd.ret) cmd.sock.errno env.turns with
          | next _ => exact .blocked
          | leave x =>
            cases x with
            | none => exact .fault
            | some x => exact .done (sameButFilter_endReq ..)

/--
**`hci_send_req` is transparent to the filter of the socket and to `errno`.**

Whatever a call returns, the socket has the filter that it had on entry, and a failing call
leaves the `errno` of its failure.
-/
theorem hciSendReq_transparent (r : HciRequest) (timeout : Int) (env : ReqEnv) (s : Sock) :
    Transparent r timeout env s where
  filter := fun h _ hres => hciSendReq_filter_of_restored h hres
  errno := fun _ h => hciSendReq_errno h
  negative := fun _ hres hneg => failsBy_of_neg hres hneg
  restoring := hciSendReq_restoring r timeout env s

end LinuxBle
