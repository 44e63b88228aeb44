import Mathlib.Data.List.Basic
import LinuxBle.Properties.SendReq
import LinuxBle.Properties.ScanTable

/-!
# What a scan leaves behind

`hci_scan_ble` installs its own filter and switches scanning on.

* `scanSetup_sent`, `scanSetup_filter` — the commands that the set-up writes, the filter it leaves
* `undone_iff` — when both are undone at the return
-/

namespace LinuxBle

open Infra

/-! ## The commands of a scan -/

/-- LE Set Scan Enable, as the scan sends it. -/
def scanEnableCommand (enable : UInt8) : List UInt8 := [0x01, 0x0C, 0x20, 0x02, enable, 0x00]

/-- LE Set Scan Parameters, as the scan sends it. -/
def scanParamsCommand : List UInt8 :=
  [0x01, 0x0B, 0x20, 0x07, 0x01, 0x10, 0x00, 0x10, 0x00, 0x00, 0x00]

variable {s : Sock} {env : ScanEnv}

theorem scanEnable_sent {enable : UInt8} {env : CallEnv} {off : CallResult}
    (h : scanEnable enable env s = .done off) :
    off.sock.sent = s.sent ++ env.writes (scanEnableCommand enable) ∧
      (¬env.Sent → off.ret = -1) := by
  obtain ⟨res, hd, h⟩ := Outcome.bind_eq_done.mp h
  cases h
  have hsent := sendForStatus_sent hd
  rw [Wrapper.command_request _ _ (by simp [leSetScanEnableCp])] at hsent
  exact hsent

theorem scanSetParams_sent {env : CallEnv} {res : CallResult}
    (h : scanSetParams env s = .done res) :
    res.sock.sent = s.sent ++ env.writes scanParamsCommand := by
  obtain ⟨res', hd, h⟩ := Outcome.bind_eq_done.mp h
  cases h
  have hsent := (sendForStatus_sent hd).1
  rw [Wrapper.command_request _ _ (by decide)] at hsent
  exact hsent

theorem not_mem_writes (env : CallEnv) {command : List UInt8}
    (h : command ≠ scanEnableCommand 0x01) : scanEnableCommand 0x01 ∉ env.writes command := by
  unfold ReqEnv.writes
  split
  · rw [List.mem_singleton]
    exact fun he => h he.symm
  · simp

/-- Setting the parameters does not switch scanning on. -/
theorem scanParams_sent {params : CallResult} (h : scanParams env s = .done params) :
    ∃ new, params.sock.sent = s.sent ++ new ∧ scanEnableCommand 0x01 ∉ new := by
  obtain ⟨first, hfirst, h⟩ := Outcome.bind_eq_done.mp h
  have hnp := not_mem_writes env.setParams (by decide : scanParamsCommand ≠ _)
  have hf := scanSetParams_sent hfirst
  split at h
  · split at h
    · cases h
      exact ⟨_, hf, hnp⟩
    · obtain ⟨off, hoff, h⟩ := Outcome.bind_eq_done.mp h
      have hnd := not_mem_writes env.disable (by decide : scanEnableCommand 0x00 ≠ _)
      have ho := (scanEnable_sent hoff).1
      rw [hf, List.append_assoc] at ho
      have hno : scanEnableCommand 0x01 ∉ env.setParams.writes scanParamsCommand ++
          env.disable.writes (scanEnableCommand 0x00) := by
        rw [List.mem_append]
        exact fun hm => hm.elim hnp hnd
      split at h
      · cases h
        exact ⟨_, ho, hno⟩
      · obtain ⟨again, hagain, h⟩ := Outcome.bind_eq_done.mp h
        have ha := scanSetParams_sent hagain
        rw [ho, List.append_assoc] at ha
        have hna := not_mem_writes env.setParamsAgain (by decide : scanParamsCommand ≠ _)
        refine ⟨_, ?_, fun hm => (List.mem_append.mp hm).elim hno hna⟩
        split at h <;> cases h <;> exact ha
  · cases h
    exact ⟨_, hf, hnp⟩

/-- The set-up comes to the command that switches scanning on, and it is written. -/
def ScanEnv.EnableSent (env : ScanEnv) (s : Sock) : Prop :=
  env.enable.Sent ∧ ∃ params, scanParams env s = .done params ∧ params.ret = 0

/-- **What the set-up writes**: scanning is switched on last, if at all. -/
theorem scanSetup_sent {up : CallResult} (h : scanSetup env s = .done up) :
    ∃ new, scanEnableCommand 0x01 ∉ new ∧
      ((env.EnableSent s ∧ up.sock.sent = s.sent ++ (new ++ [scanEnableCommand 0x01])) ∨
        (¬env.EnableSent s ∧ up.ret = -1 ∧ up.sock.sent = s.sent ++ new)) := by
  obtain ⟨params, hparams, h⟩ := Outcome.bind_eq_done.mp h
  obtain ⟨new, hnew, hno⟩ := scanParams_sent hparams
  refine ⟨new, hno, ?_⟩
  split at h
  · next hret =>
    cases h
    refine Or.inr ⟨?_, rfl, hnew⟩
    rintro ⟨-, params', hparams', hret'⟩
    rw [hparams, Outcome.done.injEq] at hparams'
    rw [hparams'] at hret
    exact hret hret'
  · next hret =>
    obtain ⟨on, hon, h⟩ := Outcome.bind_eq_done.mp h
    obtain ⟨hsent, hfail⟩ := scanEnable_sent hon
    unfold ReqEnv.writes at hsent
    rw [hnew, List.append_assoc] at hsent
    by_cases hs : env.enable.Sent
    · rw [if_pos hs] at hsent
      refine Or.inl ⟨⟨hs, params, hparams, not_not.mp hret⟩, ?_⟩
      split at h <;> cases h <;> exact hsent
    · rw [if_neg hs, List.append_nil] at hsent
      -- the command was not written, so the set-up fails
      have honret := hfail hs
      rw [if_pos (by rw [honret]; decide)] at h
      cases h
      exact Or.inr ⟨fun he => hs he.1, rfl, hsent⟩

/-! ## The filter after the set-up -/

/-- The filter that a wrapper installs while it waits. -/
def Wrapper.filter (w : Wrapper) : HciFilter :=
  reqFilter w.form.awaits.code (cmdOpcodePack w.form.ogf w.form.ocf)

theorem Wrapper.filter_request (w : Wrapper) (cparam rparam : List UInt8) :
    reqFilter (w.request cparam rparam).event (w.request cparam rparam).opcode = w.filter := rfl

/-- The commands that `2. set scan params` comes to, with the answers to each. -/
def ScanEnv.paramsCalls (env : ScanEnv) (s : Sock) : List (Wrapper × CallEnv) :=
  (.leSetScanParameters, env.setParams) ::
    match scanSetParams env.setParams s with
    | .done first =>
      if first.ret = 0 ∨ first.sock.errno ≠ .eio then []
      else
        (.leSetScanEnable, env.disable) ::
          match scanEnable 0x00 env.disable first.sock with
          | .done off => if off.ret ≠ 0 then [] else [(.leSetScanParameters, env.setParamsAgain)]
          | _ => []
    | _ => []

/-- The commands that the set-up comes to. -/
def ScanEnv.setupCalls (env : ScanEnv) (s : Sock) : List (Wrapper × CallEnv) :=
  env.paramsCalls s ++
    match scanParams env s with
    | .done params => if params.ret ≠ 0 then [] else [(.leSetScanEnable, env.enable)]
    | _ => []

/--
The filter that these commands leave behind the filter `f`: that of the last command that could
not put the old one back.
-/
def filterAfterCalls (calls : List (Wrapper × CallEnv)) (f : HciFilter) : HciFilter :=
  calls.foldl (fun f call => call.2.filterAfter call.1.filter f) f

theorem filterAfterCalls_append (calls calls' : List (Wrapper × CallEnv)) (f : HciFilter) :
    filterAfterCalls (calls ++ calls') f = filterAfterCalls calls' (filterAfterCalls calls f) :=
  List.foldl_append ..

theorem scanEnable_filter {enable : UInt8} {env : CallEnv} {off : CallResult}
    (h : scanEnable enable env s = .done off) :
    off.sock.filter = filterAfterCalls [(.leSetScanEnable, env)] s.filter := by
  obtain ⟨res, hd, h⟩ := Outcome.bind_eq_done.mp h
  cases h
  have hfilter := sendForStatus_filter hd
  rw [Wrapper.filter_request] at hfilter
  exact hfilter

theorem scanSetParams_filter {env : CallEnv} {res : CallResult}
    (h : scanSetParams env s = .done res) :
    res.sock.filter = filterAfterCalls [(.leSetScanParameters, env)] s.filter := by
  obtain ⟨res', hd, h⟩ := Outcome.bind_eq_done.mp h
  cases h
  have hfilter := sendForStatus_filter hd
  rw [Wrapper.filter_request] at hfilter
  exact hfilter

theorem scanParams_filter {params : CallResult} (h : scanParams env s = .done params) :
    params.sock.filter = filterAfterCalls (env.paramsCalls s) s.filter := by
  obtain ⟨first, hfirst, h⟩ := Outcome.bind_eq_done.mp h
  have hf := scanSetParams_filter hfirst
  unfold ScanEnv.paramsCalls
  simp only [hfirst]
  split at h
  · next hret =>
    split at h
    · next heio =>
      cases h
      rw [if_pos (Or.inr heio)]
      exact hf
    · next heio =>
      obtain ⟨off, hoff, h⟩ := Outcome.bind_eq_done.mp h
      have ho := scanEnable_filter hoff
      rw [hf] at ho
      rw [if_neg (not_or.mpr ⟨hret, heio⟩)]
      simp only [hoff]
      split at h
      · next hoffret =>
        cases h
        rw [if_pos hoffret]
        exact ho
      · next hoffret =>
        obtain ⟨again, hagain, h⟩ := Outcome.bind_eq_done.mp h
        have ha := scanSetParams_filter hagain
        rw [ho] at ha
        rw [if_neg hoffret]
        split at h <;> cases h <;> exact ha
  · next hret =>
    cases h
    rw [if_pos (Or.inl (not_not.mp hret))]
    exact hf

/-- **The filter that the set-up leaves.** -/
theorem scanSetup_filter {up : CallResult} (h : scanSetup env s = .done up) :
    up.sock.filter = filterAfterCalls (env.setupCalls s) s.filter := by
  obtain ⟨params, hparams, h⟩ := Outcome.bind_eq_done.mp h
  have hp := scanParams_filter hparams
  unfold ScanEnv.setupCalls
  simp only [hparams]
  split at h
  · next hret =>
    cases h
    rw [if_pos hret, List.append_nil]
    exact hp
  · next hret =>
    obtain ⟨on, hon, h⟩ := Outcome.bind_eq_done.mp h
    have hn := scanEnable_filter hon
    rw [if_neg hret, filterAfterCalls_append, ← hp]
    split at h <;> cases h <;> exact hn

/-- The filter of a scan when its set-up ends: its own, or that of such a command. -/
def ScanEnv.setupFilter (env : ScanEnv) (s : Sock) : HciFilter :=
  filterAfterCalls (env.setupCalls (s.setFilter scanFilter none)) scanFilter

/-! ## The cleanup -/

/-- Every command that switches scanning on is followed by one that switches it off. -/
def DisabledAfter (sent : List (List UInt8)) : Prop :=
  ∀ pre post, sent = pre ++ scanEnableCommand 0x01 :: post → scanEnableCommand 0x00 ∈ post

/--
What a scan changes is undone when it returns; that the old filter can be put back is asked for
where the scan comes to that.
-/
structure Undone (ptr : HciPtr) (hci : HciDevice) (bleList : BleList) (bleListLen scanTime : Int)
    (env : ScanEnv) (s : Sock) : Prop where
  filter : ∀ res, hciScanBle ptr hci bleList bleListLen scanTime env s = .done res →
    s.filter = hci.of → (env.Listens s → env.resetFilter = none) → res.sock.filter = hci.of
  scanning : ∀ res, hciScanBle ptr hci bleList bleListLen scanTime env s = .done res →
    ∃ new, res.sock.sent = s.sent ++ new ∧ DisabledAfter new

/-- A command fails before it is written. -/
def ReqEnv.Unsent (env : ReqEnv) : Prop := ¬env.FilterIn ∨ ∃ e, env.send = some (some e)

theorem disabledAfter_of_not_mem {sent : List (List UInt8)}
    (h : scanEnableCommand 0x01 ∉ sent) : DisabledAfter sent := by
  rintro pre post rfl
  exact absurd (List.mem_append_right _ (List.mem_cons_self ..)) h

/-- Only what follows the one command that switches scanning on counts. -/
theorem disabledAfter_append_iff {new post : List (List UInt8)}
    (hnew : scanEnableCommand 0x01 ∉ new) (hpost : scanEnableCommand 0x01 ∉ post) :
    DisabledAfter (new ++ scanEnableCommand 0x01 :: post) ↔ scanEnableCommand 0x00 ∈ post := by
  constructor
  · intro h
    exact h new post rfl
  · rintro hmem pre post' heq
    rw [List.append_cons_inj_of_notMem hnew hpost] at heq
    exact heq.2.2 ▸ hmem

theorem ReqEnv.Unsent.not_sent {env : ReqEnv} (h : env.Unsent) : ¬env.Sent := by
  intro hsent
  rcases h with hno | ⟨e, he⟩
  · exact hno hsent.filterIn
  · rw [hsent.2.2] at he
    cases he

/-- A command that fails before it is written comes back. -/
theorem hciSendReq_of_unsentFails {env : ReqEnv} (h : env.Unsent) (r : HciRequest)
    (timeout : Int) (s : Sock) : ∃ res, hciSendReq r timeout env s = .done res := by
  by_cases hin : env.FilterIn
  · rcases h with hno | ⟨e, he⟩
    · exact absurd hin hno
    · exact ⟨_, hciSendReq_of_sendFails hin he⟩
  · obtain ⟨e, hd⟩ : ∃ e, hciSendReq r timeout env s = .done ⟨-1, r, s.withErrno e⟩ :=
      hciSendReq_of_noFilter hin
    exact ⟨_, hd⟩

/-- A command that comes back without having been written has failed before. -/
theorem unsent_of_done {r : HciRequest} {timeout : Int} {env : ReqEnv} {res : ReqResult}
    (hns : ¬env.Sent) (h : hciSendReq r timeout env s = .done res) : env.Unsent := by
  rcases hciSendReq_done_cases h with ⟨hno, -⟩ | ⟨-, e, he, -⟩ | ⟨hs, -⟩
  · exact Or.inl hno
  · exact Or.inr ⟨e, he⟩
  · exact absurd hs hns

theorem scanEnable_of_unsent {env : CallEnv} (h : env.Unsent) (enable : UInt8) (s : Sock) :
    ∃ off, scanEnable enable env s = .done off := by
  obtain ⟨res, hres⟩ := hciSendReq_of_unsentFails h
    (Wrapper.leSetScanEnable.request (leSetScanEnableCp enable 0x00) (env.uninit 1)) 10000 s
  exact scanEnable_of_done hres

/-- The stopping command is written unless it fails before. -/
theorem scanEnable_sent_of_not_unsent {enable : UInt8} {env : CallEnv} {off : CallResult}
    (h : scanEnable enable env s = .done off) (hun : ¬env.Unsent) : env.Sent := by
  obtain ⟨res, hd, -⟩ := Outcome.bind_eq_done.mp h
  obtain ⟨res', hd', -⟩ := Outcome.bind_eq_done.mp hd
  by_contra hns
  exact hun (unsent_of_done hns hd')

section

variable {self : HciPtr} {hci : HciDevice} {bleList : BleList} {bleListLen scanTime : Int}
  {up : CallResult}

/-- A set-up that fails is left at once. -/
theorem hciScanBle_of_setup_fails (hset : env.setFilter = none)
    (hup : scanSetup env (s.setFilter scanFilter none) = .done up) (hret : up.ret ≠ 0) :
    hciScanBle self hci bleList bleListLen scanTime env s = .done ⟨-1, bleList, up.sock⟩ := by
  rw [hciScanBle_eq hset hup, if_pos hret]

/-- After a set-up that succeeds, every way out of the loop goes through the cleanup. -/
theorem hciScanBle_of_setup_succeeds (hset : env.setFilter = none)
    (hup : scanSetup env (s.setFilter scanFilter none) = .done up) (hret : up.ret = 0)
    {res : ScanResult}
    (h : hciScanBle self hci bleList bleListLen scanTime env s = .done res) :
    env.scanEnd scanTime ≠ none ∧ ∃ s' off, s'.sent = up.sock.sent ∧
      scanEnable 0x00 env.stop s' = .done off ∧
      res.sock = off.sock.setFilter hci.of env.resetFilter := by
  rw [hciScanBle_eq hset hup, if_neg (not_not.mpr hret)] at h
  cases he : env.scanEnd scanTime with
  | none =>
    rw [he] at h
    cases h
  | some e =>
    rw [he] at h
    obtain ⟨-, -, off, hoff, hsock⟩ := scanFinish_eq_done h
    exact ⟨by simp, _, off, Sock.withErrno_sent _ _, hoff, hsock⟩

/-- A stopping command that fails before it is written does not keep the call from returning. -/
theorem hciScanBle_of_stop_unsent (hset : env.setFilter = none)
    (hup : scanSetup env (s.setFilter scanFilter none) = .done up) (hret : up.ret = 0)
    (hend : env.scanEnd scanTime ≠ none) (hun : env.stop.Unsent) :
    ∃ res, hciScanBle self hci bleList bleListLen scanTime env s = .done res ∧
      res.sock.sent = up.sock.sent := by
  obtain ⟨e, he⟩ := Option.ne_none_iff_exists'.mp hend
  obtain ⟨off, hoff⟩ := scanEnable_of_unsent hun 0x00 (up.sock.withErrno
    (scanExit (scanned self bleList bleListLen scanTime env up.sock.errno) e).errno)
  have hsent := (scanEnable_sent hoff).1
  rw [ReqEnv.writes, if_neg hun.not_sent, List.append_nil, Sock.withErrno_sent] at hsent
  rw [hciScanBle_eq hset hup, if_neg (not_not.mpr hret), he]
  simp only [scanFinish, hoff, Outcome.done_bind, Outcome.pure_eq]
  exact ⟨_, rfl, by rw [Sock.setFilter_sent, hsent]⟩

/-! One lemma for each course of the call. -/

theorem undone_of_not_done
    (h : ∀ res, hciScanBle self hci bleList bleListLen scanTime env s ≠ .done res) :
    Undone self hci bleList bleListLen scanTime env s :=
  ⟨fun res hres => absurd hres (h res), fun res hres => absurd hres (h res)⟩

/-- Without its filter the call has changed nothing. -/
theorem undone_of_setFilter_fails {e : Errno} (hset : env.setFilter = some e) :
    Undone self hci bleList bleListLen scanTime env s := by
  have hrun : hciScanBle self hci bleList bleListLen scanTime env s =
      .done ⟨-1, bleList, s.withErrno e⟩ := by
    unfold hciScanBle
    rw [hset]
  refine ⟨fun res hres hof _ => ?_, fun res hres => ⟨[], ?_, disabledAfter_of_not_mem (by simp)⟩⟩
  · rw [hrun] at hres
    cases hres
    exact hof
  · rw [hrun] at hres
    cases hres
    exact (List.append_nil _).symm

theorem undone_iff_of_setup_fails (hset : env.setFilter = none)
    (hup : scanSetup env (s.setFilter scanFilter none) = .done up) (hret : up.ret ≠ 0) :
    Undone self hci bleList bleListLen scanTime env s ↔
      ¬env.EnableSent (s.setFilter scanFilter none) ∧
        (s.filter = hci.of → env.setupFilter s = hci.of) := by
  have hrun : hciScanBle self hci bleList bleListLen scanTime env s =
      .done ⟨-1, bleList, up.sock⟩ := hciScanBle_of_setup_fails hset hup hret
  have hleft : up.sock.filter = env.setupFilter s := scanSetup_filter hup
  obtain ⟨new, hno, hsent⟩ := scanSetup_sent hup
  rw [Sock.setFilter_sent] at hsent
  rw [← hleft]
  -- step 6 is not reached, whatever it would come to
  have hearly : ¬env.Listens s := by
    rintro ⟨-, up', hup', hret'⟩
    rw [hup, Outcome.done.injEq] at hup'
    exact hret (hup' ▸ hret')
  constructor
  · intro law
    refine ⟨fun hen => ?_, fun hof => law.filter _ hrun hof fun hl => absurd hl hearly⟩
    rcases hsent with ⟨-, hsent⟩ | ⟨hnot, -⟩
    · obtain ⟨new', hnew', hafter⟩ := law.scanning _ hrun
      rw [hsent, List.append_cancel_left_eq] at hnew'
      rw [← hnew', disabledAfter_append_iff hno (by simp)] at hafter
      cases hafter
    · exact hnot hen
  · rintro ⟨hnot, hfilter⟩
    refine ⟨fun res hres hof _ => ?_, fun res hres => ?_⟩
    · rw [hrun] at hres
      cases hres
      exact hfilter hof
    · rw [hrun] at hres
      cases hres
      rcases hsent with ⟨hen, -⟩ | ⟨-, -, hsent⟩
      · exact absurd hen hnot
      · exact ⟨new, hsent, disabledAfter_of_not_mem hno⟩

theorem undone_iff_of_setup_succeeds (hset : env.setFilter = none)
    (hup : scanSetup env (s.setFilter scanFilter none) = .done up) (hret : up.ret = 0) :
    Undone self hci bleList bleListLen scanTime env s ↔
      (env.scanEnd scanTime ≠ none → ¬env.stop.Unsent) := by
  obtain ⟨new, hno, hsent⟩ := scanSetup_sent hup
  rw [Sock.setFilter_sent] at hsent
  have hsent : up.sock.sent = s.sent ++ (new ++ [scanEnableCommand 0x01]) := by
    rcases hsent with ⟨-, hsent⟩ | ⟨-, hfail, -⟩
    · exact hsent
    · rw [hfail] at hret
      cases hret
  -- what counts now is the one command after the loop
  constructor
  · intro law hend hun
    obtain ⟨res, hres, hsame⟩ := hciScanBle_of_stop_unsent hset hup hret hend hun
    obtain ⟨new', hnew', hafter⟩ := law.scanning _ hres
    rw [hsame, hsent, List.append_cancel_left_eq] at hnew'
    rw [← hnew', disabledAfter_append_iff hno (by simp)] at hafter
    cases hafter
  · intro hstop
    refine ⟨fun res hres _ hreset => ?_, fun res hres => ?_⟩
    · obtain ⟨-, s', off, -, -, hsock⟩ := hciScanBle_of_setup_succeeds hset hup hret hres
      rw [hsock, hreset ⟨hset, up, hup, hret⟩, Sock.setFilter_none_filter]
    · obtain ⟨hend, s', off, hs', hoff, hsock⟩ := hciScanBle_of_setup_succeeds hset hup hret hres
      have hwritten := scanEnable_sent_of_not_unsent hoff (hstop hend)
      have hoffs := (scanEnable_sent hoff).1
      rw [ReqEnv.writes, if_pos hwritten, hs', hsent] at hoffs
      refine ⟨new ++ scanEnableCommand 0x01 :: [scanEnableCommand 0x00], ?_, ?_⟩
      · rw [hsock, Sock.setFilter_sent, hoffs]
        simp
      · rw [disabledAfter_append_iff hno (by decide)]
        exact List.mem_singleton_self _

/--
**A scan undoes its changes exactly when it is not left early and the last command goes out.**

The returns before the receive loop skip the cleanup. They do no harm only when scanning has not
been switched on and the filter happens to be the saved one; and the command that stops the scan
must not fail before it is written.
-/
theorem undone_iff (self : HciPtr) (hci : HciDevice) (bleList : BleList)
    (bleListLen scanTime : Int) (env : ScanEnv) (s : Sock) :
    Undone self hci bleList bleListLen scanTime env s ↔
      (env.setFilter = none → ∀ up, scanSetup env (s.setFilter scanFilter none) = .done up →
        (up.ret ≠ 0 → ¬env.EnableSent (s.setFilter scanFilter none) ∧
          (s.filter = hci.of → env.setupFilter s = hci.of)) ∧
        (up.ret = 0 → env.scanEnd scanTime ≠ none → ¬env.stop.Unsent)) := by
  constructor
  · intro law hset up hup
    exact ⟨fun hret => (undone_iff_of_setup_fails hset hup hret).mp law,
      fun hret => (undone_iff_of_setup_succeeds hset hup hret).mp law⟩
  · intro hcond
    cases hset : env.setFilter with
    | some e => exact undone_of_setFilter_fails hset
    | none =>
      cases hup : scanSetup env (s.setFilter scanFilter none) with
      | blocked => exact undone_of_not_done fun res => by simp [hciScanBle, hset, hup]
      | fault => exact undone_of_not_done fun res => by simp [hciScanBle, hset, hup]
      | done up =>
        obtain ⟨hearly, hlate⟩ := hcond hset up hup
        by_cases hret : up.ret = 0
        · exact (undone_iff_of_setup_succeeds hset hup hret).mpr (hlate hret)
        · exact (undone_iff_of_setup_fails hset hup hret).mpr (hearly hret)

end

/-- The controller rejects the command that switches scanning on. -/
def rejectedScan : ScanEnv := { acceptedScan with enable := .answered (scanEnableReply 0x0C) }

/-- The scan filter stays installed. -/
theorem not_undone_rejectedScan :
    ¬Undone 0 .zero (fun _ => .zero) 5 1000 rejectedScan ⟨hciFilterClear, [], .ofCode 0⟩ := by
  intro law
  have hfilter := law.filter ⟨-1, fun _ => .zero, ⟨scanFilter,
    [scanParamsCommand, scanEnableCommand 0x01], .eio⟩⟩ rfl rfl fun _ => rfl
  exact absurd hfilter (by decide)

end LinuxBle
