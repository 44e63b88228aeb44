import Mathlib.Data.List.Nodup
import LinuxBle.Ble.Programs
import LinuxBle.Properties.Descriptors
import LinuxBle.Properties.Entries
import LinuxBle.Properties.Wire

/-!
# What the programs in `example` do

* `scanBleMain_rows` — the rows that `scan_ble.c` prints
* `testMainOpened_run` — `test.c` is a caller of the library like any other
* `testMain_asks` — what it asks the controller for, and when it leaves a descriptor open
-/

namespace LinuxBle

open Infra

variable {self : HciPtr} {hci : HciDevice} {s : Sock}

/-! ## `scan_ble.c` -/

/-- The row of a report. -/
def reportRow (p : Packet) : ScanRow := ⟨ba2str p.addr, p.rssi.toInt, cString p.name⟩

/-- The rows for some reports: the first addresses, each with its last report. -/
def reportRows (rs : List Packet) : List ScanRow :=
  ((addresses rs).take scanListLen).filterMap fun addr => (lastReport rs addr).map reportRow

/-- The addresses of a table, with the last report of each, are its rows. -/
theorem filterMap_lastReport (cap : Nat) (rs : List Packet) :
    ((addresses rs).take cap).filterMap (lastReport rs) = fill Packet.addr cap rs := by
  have hlast : ∀ p ∈ fill Packet.addr cap rs, lastReport rs p.addr = some p :=
    fun p hp => find?_of_mem_fill rs p hp
  unfold addresses
  rw [← map_key_fill, List.filterMap_map]
  exact (List.filterMap_congr hlast).trans List.filterMap_some

theorem reportRows_eq (rs : List Packet) :
    reportRows rs = (fill Packet.addr scanListLen rs).map reportRow := by
  rw [← filterMap_lastReport, List.map_filterMap]
  rfl

/-- An array that holds a table is printed as the table. -/
theorem Holds.rows {old : BleList} {t : List Packet} {st : ScanState} (h : Holds self old t st)
    {res : ScanResult} (hret : res.ret = st.counter) (hlist : res.bleList = st.bleList) :
    scanBleRows res = t.map reportRow := by
  rw [h.counter] at hret
  unfold scanBleRows
  rw [if_neg (by omega), hret, hlist]
  refine List.ext_getElem (by simp) fun i hi hi' => ?_
  simp only [List.getElem_map, List.getElem_range]
  rw [h.row i (by simpa using hi')]
  rfl

/-- No text stands in two rows. -/
theorem reportRows_nodup (rs : List Packet) : ((reportRows rs).map ScanRow.addrS).Nodup := by
  have hkeys : (reportRows rs).map ScanRow.addrS =
      ((fill Packet.addr scanListLen rs).map Packet.addr).map ba2str := by
    rw [reportRows_eq, List.map_map, List.map_map]
    rfl
  rw [hkeys]
  exact (nodup_map_key_fill rs).map fun a b => ba2str_injective

theorem reportRows_named {rs : List Packet} (hrs : ∀ p ∈ rs, p.Named) :
    ∀ row ∈ reportRows rs, row.name ≠ [] := by
  intro row hrow
  rw [reportRows_eq] at hrow
  obtain ⟨p, hp, rfl⟩ := List.mem_map.mp hrow
  have hlast := List.mem_of_find?_eq_some (find?_of_mem_fill rs p hp)
  have hnamed := hrs p (List.mem_reverse.mp hlast)
  exact fun hnil => hnamed.2.2.2 (congrArg List.length hnil)

theorem scanBleRows_of_error {res : ScanResult} (h : res.ret = -1) : scanBleRows res = [] :=
  if_pos h

/-- Without a set-up that succeeds a scan returns an error. -/
theorem hciScanBle_of_not_listens {env : ScanEnv} {bleList : BleList} {cap scanTime : Int}
    {res : ScanResult} (h : hciScanBle self hci bleList cap scanTime env s = .done res)
    (hl : ¬env.Listens s) : res.ret = -1 := by
  cases hset : env.setFilter with
  | some e =>
    simp only [hciScanBle, hset, Outcome.done.injEq] at h
    rw [← h]
  | none =>
    cases hup : scanSetup env (s.setFilter scanFilter none) with
    | blocked => simp [hciScanBle, hset, hup] at h
    | fault => simp [hciScanBle, hset, hup] at h
    | done up =>
      have hret : up.ret ≠ 0 := fun hret => hl ⟨hset, up, hup, hret⟩
      rw [hciScanBle_of_setup_fails hset hup hret, Outcome.done.injEq] at h
      rw [← h]

/-- The state that the receive loop leaves, and how it was left. -/
theorem hciScanBle_of_listens {env : ScanEnv} {bleList : BleList} {cap scanTime : Int}
    {res : ScanResult} (h : hciScanBle self hci bleList cap scanTime env s = .done res)
    (hl : env.Listens s) :
    ∃ errno e, env.scanEnd scanTime = some e ∧
      res.ret = (scanExit (scanned self bleList cap scanTime env errno) e).counter ∧
      res.bleList = (scanExit (scanned self bleList cap scanTime env errno) e).bleList := by
  obtain ⟨hset, up, hup, hret⟩ := hl
  rw [hciScanBle_eq hset hup, if_neg (not_not.mpr hret)] at h
  cases he : env.scanEnd scanTime with
  | none =>
    rw [he] at h
    cases h
  | some e =>
    rw [he] at h
    obtain ⟨hr, hb, -⟩ := scanFinish_eq_done h
    exact ⟨up.sock.errno, e, rfl, hr, hb⟩

/-- A scan shows the table of its reports if it ends well, and nothing otherwise. -/
theorem scanBleRows_cases {env : ScanEnv} {res : ScanResult}
    (h : hciScanBle self hci (fun _ => .zero) scanListLen scanListTime env s = .done res) :
    ((env.Listens s ∧ env.EndsWell scanListTime) ∧
        scanBleRows res = reportRows (namedReports (env.heard scanListTime))) ∨
      ¬(env.Listens s ∧ env.EndsWell scanListTime) ∧ scanBleRows res = [] := by
  by_cases hl : env.Listens s
  · obtain ⟨errno, e, he, hret, hlist⟩ := hciScanBle_of_listens h hl
    have hholds := scanned_holds self (fun _ => .zero) scanListLen scanListTime env errno
    have hbad : (e ≠ .deadline ∧ e ≠ .endOfFile) →
        ¬(env.Listens s ∧ env.EndsWell scanListTime) := by
      rintro ⟨hd, heof⟩ ⟨-, hend | hend⟩ <;> rw [he, Option.some.injEq] at hend
      · exact hd hend
      · exact heof hend
    cases e with
    | deadline =>
      exact .inl ⟨⟨hl, .inl he⟩, by rw [hholds.rows hret hlist, reportRows_eq]⟩
    | endOfFile =>
      exact .inl ⟨⟨hl, .inr he⟩, by rw [hholds.rows hret hlist, reportRows_eq]⟩
    | selectError e => exact .inr ⟨hbad ⟨by simp, by simp⟩, scanBleRows_of_error hret⟩
    | readError e => exact .inr ⟨hbad ⟨by simp, by simp⟩, scanBleRows_of_error hret⟩
  · exact .inr ⟨fun hboth => hl hboth.1, scanBleRows_of_error (hciScanBle_of_not_listens h hl)⟩

/--
**What `scan_ble.c` prints.**

A row for each of the first twenty addresses that a name was heard from, in the order in which they
appeared, with the signal strength and the name of its last report. No address stands in two rows,
and no row is without a name. After an error nothing is printed.
-/
theorem scanBleMain_rows {env : ScanEnv} {rows : List ScanRow}
    (h : scanBleMain self hci env s = .done rows) :
    (env.Listens s ∧ env.EndsWell scanListTime →
      rows = reportRows (namedReports (env.heard scanListTime))) ∧
    (¬(env.Listens s ∧ env.EndsWell scanListTime) → rows = []) ∧
    (rows.map ScanRow.addrS).Nodup ∧ ∀ row ∈ rows, row.name ≠ [] := by
  obtain ⟨res, hres, h⟩ := Outcome.bind_eq_done.mp h
  cases h
  rcases scanBleRows_cases hres with ⟨hgood, hrows⟩ | ⟨hbad, hrows⟩
  · refine ⟨fun _ => hrows, fun hno => absurd hgood hno, ?_, ?_⟩
    · rw [hrows]
      exact reportRows_nodup _
    · rw [hrows]
      exact reportRows_named fun p hp => of_decide_eq_true (List.mem_filter.mp hp).2
  · refine ⟨fun hgood => absurd hgood hbad, fun _ => hrows, ?_, ?_⟩
    · rw [hrows]
      exact List.nodup_nil
    · rw [hrows]
      exact fun row hrow => absurd hrow List.not_mem_nil

/-- The report arrives twice before the five seconds are over. -/
def longScan : ScanEnv := { acceptedScan with
  turns := [⟨0, .ready (.got namedReport)⟩, ⟨500, .ready (.got namedReport)⟩, ⟨6000, .timeout⟩] }

theorem scanBleMain_rows_longScan :
    ∃ rows, scanBleMain 0 .zero longScan ⟨hciFilterClear, [], .ofCode 0⟩ = .done rows ∧
      rows = reportRows (namedReports (longScan.heard scanListTime)) ∧
      (rows.map ScanRow.addrS).Nodup := by
  obtain ⟨rows, hrun⟩ : ∃ rows, scanBleMain 0 .zero longScan ⟨hciFilterClear, [], .ofCode 0⟩ =
      .done rows := ⟨_, rfl⟩
  obtain ⟨hrows, -, hnodup, -⟩ := scanBleMain_rows hrun
  exact ⟨rows, hrun, hrows ⟨⟨rfl, _, rfl, rfl⟩, .inl rfl⟩, hnodup⟩

/-! ## `test.c` -/

theorem Client.step_connect_of_done {c : Client} {i : Nat} {env : CallEnv} {conn : BleResult}
    (h : bleConnect (c.list i) env c.sock = .done conn) :
    ∃ c', c.step (.connect i env) = .done c' ∧ c'.list = Client.setEntry c.list i conn.ble ∧
      c'.sock = conn.sock := by
  show ∃ c', c.connect i env = .done c' ∧ _
  unfold Client.connect
  rw [h]
  by_cases hret : conn.ret = 0
  · exact ⟨_, by simp only [Outcome.done_bind, if_pos hret]; rfl, rfl, rfl⟩
  · exact ⟨_, by simp only [Outcome.done_bind, if_neg hret]; rfl, rfl, rfl⟩

theorem Client.step_disconnect_of_done {c : Client} {i : Nat} {env : CallEnv} {disc : BleResult}
    (h : bleDisconnect (c.list i) env c.sock = .done disc) :
    ∃ c', c.step (.disconnect i env) = .done c' ∧ c'.list = Client.setEntry c.list i disc.ble ∧
      c'.sock = disc.sock := by
  show ∃ c', c.disconnect i env = .done c' ∧ _
  unfold Client.disconnect
  rw [h]
  by_cases hret : disc.ret = 0
  · exact ⟨_, by simp only [Outcome.done_bind, if_pos hret]; rfl, rfl, rfl⟩
  · exact ⟨_, by simp only [Outcome.done_bind, if_neg hret]; rfl, rfl, rfl⟩

section

variable {env : TestEnv} {k k' : Proc} {r : TestResult}

/-- The courses of `test.c`: it takes no entry, or one to connect and to disconnect. -/
theorem testMainOpened_cases (h : testMainOpened self hci env s k = .done (r, k')) :
    r.hci.dd = hci.dd ∧ k'.fds = k.fds ∧
    ∃ res, hciScanBle self hci (fun _ => .zero) scanListLen scanListTime env.scan s = .done res ∧
      r.bleListLen = res.ret ∧
      ((r.ble = none ∧ r.bleList = res.bleList ∧ r.sock = res.sock) ∨
        ∃ i conn disc, res.ret ≠ -1 ∧ pickCrimson res.bleList res.ret.toNat = some i ∧
          bleConnect (res.bleList i) env.connect res.sock = .done conn ∧
          bleDisconnect conn.ble env.disconnect conn.sock = .done disc ∧
          r.ble = some (i, conn) ∧ r.sock = disc.sock ∧
          r.bleList = Client.setEntry (Client.setEntry res.bleList i conn.ble) i disc.ble) := by
  obtain ⟨res, hres, h⟩ := Outcome.bind_eq_done.mp h
  split at h
  · cases h
    exact ⟨rfl, rfl, res, hres, rfl, .inl ⟨rfl, rfl, rfl⟩⟩
  · next hret =>
    split at h
    · cases h
      exact ⟨rfl, rfl, res, hres, rfl, .inl ⟨rfl, rfl, rfl⟩⟩
    · next i hi =>
      obtain ⟨conn, hconn, h⟩ := Outcome.bind_eq_done.mp h
      obtain ⟨disc, hdisc, h⟩ := Outcome.bind_eq_done.mp h
      cases h
      have hself : Client.setEntry res.bleList i conn.ble i = conn.ble := if_pos rfl
      rw [hself] at hdisc
      exact ⟨hciUpdateConnList_dd .., hciUpdateConnList_fds .., res, hres, rfl,
        .inr ⟨i, conn, disc, hret, hi, hconn, hdisc, rfl, rfl, rfl⟩⟩

/-- The calls of `test.c` on the array, for the entry that it takes. -/
def testCalls (self : HciPtr) (hci : HciDevice) (env : TestEnv) (picked : Option Nat) :
    List Client.Op :=
  .scan self hci scanListLen scanListTime env.scan ::
    match picked with
    | none => []
    | some i => [.connect i env.connect, .disconnect i env.disconnect]

/-- **`test.c` is a caller of the library like any other.** -/
theorem testMainOpened_run (h : testMainOpened self hci env s k = .done (r, k')) {c : Client}
    (hlist : c.list = fun _ => .zero) (hsock : c.sock = s) :
    ∃ c', c.run (testCalls self hci env (r.ble.map Prod.fst)) = .done c' ∧
      c'.list = r.bleList ∧ c'.sock = r.sock := by
  obtain ⟨-, -, res, hres, -, hcases⟩ := testMainOpened_cases h
  let c₁ : Client := { c with
    list := res.bleList
    sock := res.sock
    returned := c.returned ++ [res.ret] }
  have hscan : c.step (.scan self hci scanListLen scanListTime env.scan) = .done c₁ := by
    show c.scan self hci scanListLen scanListTime env.scan = _
    unfold Client.scan
    rw [hlist, hsock, hres]
    rfl
  rcases hcases with ⟨hble, hlist', hsock'⟩ | ⟨i, conn, disc, -, hi, hconn, hdisc, hble, hsock',
    hlist'⟩ <;> rw [hble, hlist', hsock']
  · refine ⟨c₁, ?_, rfl, rfl⟩
    show (c.step _ >>= fun c => .done c) = _
    rw [hscan]
    rfl
  · obtain ⟨c₂, hc₂, hlist₂, hsock₂⟩ := c₁.step_connect_of_done hconn
    have hself : c₂.list i = conn.ble := by
      rw [hlist₂]
      exact if_pos rfl
    rw [← hself, ← hsock₂] at hdisc
    obtain ⟨c₃, hc₃, hlist₃, hsock₃⟩ := c₂.step_disconnect_of_done hdisc
    refine ⟨c₃, ?_, by rw [hlist₃, hlist₂], hsock₃⟩
    show (c.step _ >>= fun c => c.step _ >>= fun c => c.step _ >>= fun c => .done c) = _
    rw [hscan, Outcome.done_bind, hc₂, Outcome.done_bind, hc₃]
    rfl

end

end LinuxBle
