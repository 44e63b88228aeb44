import Mathlib.Data.List.Induction
import LinuxBle.Properties.Descriptors

/-!
# The connection list

`HCIGETCONNLIST` takes the room in `conn.num` and gives back the number of connections in the
same field. `hci_update_conn_list` writes the room before its first call that can fail.

* `afterUpdates_showsReport` — the list is the last one reported as long as no call spoils it
* `connListReported_iff` — when a whole run shows reported lists only
-/

namespace LinuxBle

/-! ## The kernel -/

/-- How one call of `hci_update_conn_list` goes: the connections, where the `ioctl` succeeds. -/
structure ConnListAnswer where
  socket : SysResult
  conns : Except Errno (List HciConnInfo)
  length_le : ∀ es, conns = .ok es → es.length ≤ hciMaxConn

namespace ConnListAnswer

/-- What is written into `conn`: the number of connections, and these at the front of the list. -/
def env (a : ConnListAnswer) (hci : HciDevice) : ConnListEnv where
  socket := a.socket
  getConnList := a.conns.map fun es => (es.length.toUInt16, es ++ hci.conn.list.drop es.length)

/-- The connections that a call reports, unless it fails. -/
def report? (a : ConnListAnswer) : Option (List HciConnInfo) :=
  match a.socket, a.conns with
  | none, .ok es => some es
  | _, _ => none

end ConnListAnswer

/-- The connections reported last, and none before the first report. -/
def lastReported (as : List ConnListAnswer) : List HciConnInfo :=
  ((as.filterMap ConnListAnswer.report?).getLast?).getD []

theorem lastReported_append (as : List ConnListAnswer) (a : ConnListAnswer) :
    lastReported (as ++ [a]) = a.report?.getD (lastReported as) := by
  unfold lastReported
  rw [List.filterMap_append, List.filterMap_cons]
  cases a.report? with
  | none => simp
  | some es => simp

/-! ## One call -/

section

variable (hci : HciDevice) {a : ConnListAnswer} (k : Proc)

theorem hciUpdateConnList_of_report {es : List HciConnInfo} (h : a.report? = some es) :
    (hciUpdateConnList hci (a.env hci) k).ret = 0 ∧
      (hciUpdateConnList hci (a.env hci) k).hci.conn.num = es.length.toUInt16 ∧
      (hciUpdateConnList hci (a.env hci) k).hci.conn.list =
        es ++ hci.conn.list.drop es.length := by
  obtain ⟨socket, conns, hle⟩ := a
  cases socket with
  | some e => cases h
  | none =>
    cases conns with
    | error e => cases h
    | ok es' =>
      cases h
      exact ⟨rfl, rfl, rfl⟩

/-- **A failing call leaves the room in the place of the number.** -/
theorem hciUpdateConnList_of_fails (h : a.report? = none) :
    (hciUpdateConnList hci (a.env hci) k).ret = -1 ∧
      (hciUpdateConnList hci (a.env hci) k).hci.conn.num = hciMaxConn.toUInt16 ∧
      (hciUpdateConnList hci (a.env hci) k).hci.conn.list = hci.conn.list := by
  obtain ⟨socket, conns, hle⟩ := a
  cases socket with
  | some e => exact ⟨rfl, rfl, rfl⟩
  | none =>
    cases conns with
    | error e => exact ⟨rfl, rfl, rfl⟩
    | ok es' => cases h

theorem ConnListAnswer.length_le_of_report {es : List HciConnInfo} (h : a.report? = some es) :
    es.length ≤ hciMaxConn := by
  obtain ⟨socket, conns, hle⟩ := a
  cases socket with
  | some e => cases h
  | none =>
    cases conns with
    | error e => cases h
    | ok es' =>
      cases h
      exact hle es rfl

end

/-! ## Whole runs -/

/-- The call `a` of a run. -/
def update (s : HciDevice × Proc) (a : ConnListAnswer) : ConnListResult :=
  hciUpdateConnList s.1 (a.env s.1) s.2

/-- The device and the process after a sequence of calls. -/
def afterUpdates (s : HciDevice × Proc) (as : List ConnListAnswer) : HciDevice × Proc :=
  as.foldl (fun s a => ((update s a).hci, (update s a).proc)) s

theorem afterUpdates_append (s : HciDevice × Proc) (as : List ConnListAnswer)
    (a : ConnListAnswer) :
    afterUpdates s (as ++ [a]) =
      ((update (afterUpdates s as) a).hci, (update (afterUpdates s as) a).proc) := by
  simp [afterUpdates]

/-- The entries that a caller goes through: `conn.list[0 .. conn.num)`. -/
def ConnList.entries (conn : ConnList) : List HciConnInfo := conn.list.take conn.num.toNat

/--
The connection list is always one that the kernel reported: after each call the entries are those
of the last success, and a call that returns `-1` leaves number and list alone.
-/
structure ConnListReported (s : HciDevice × Proc) (as : List ConnListAnswer) : Prop where
  entries : ∀ pre a post, as = pre ++ a :: post →
    (afterUpdates s (pre ++ [a])).1.conn.entries = lastReported (pre ++ [a])
  failed : ∀ pre a post, as = pre ++ a :: post → (update (afterUpdates s pre) a).ret = -1 →
    (update (afterUpdates s pre) a).hci.conn.num = (afterUpdates s pre).1.conn.num ∧
      (update (afterUpdates s pre) a).hci.conn.list = (afterUpdates s pre).1.conn.list

/-- Every call that fails comes when the last report filled the whole list. -/
def FailsOnlyWhenFull (as : List ConnListAnswer) : Prop :=
  ∀ pre a post, as = pre ++ a :: post → a.report? = none →
    (lastReported pre).length = hciMaxConn

/-- The number is that of the last report, and so are the entries; the array has its size. -/
structure ShowsReport (conn : ConnList) (es : List HciConnInfo) : Prop where
  room : conn.list.length = hciMaxConn
  num : conn.num.toNat = es.length
  entries : conn.list.take es.length = es

theorem ShowsReport.entries_eq {conn : ConnList} {es : List HciConnInfo} (h : ShowsReport conn es) :
    conn.entries = es := by
  rw [ConnList.entries, h.num, h.entries]

theorem toNat_toUInt16_of_le {n : Nat} (h : n ≤ hciMaxConn) : n.toUInt16.toNat = n := by
  have hmax : hciMaxConn = 20 := rfl
  rw [Nat.toUInt16, UInt16.toNat_ofNat']
  omega

section

variable {s : HciDevice × Proc} {as : List ConnListAnswer} {a : ConnListAnswer}

/-- No call changes the size of the array. -/
theorem length_update (h : s.1.conn.list.length = hciMaxConn) :
    (update s a).hci.conn.list.length = hciMaxConn := by
  unfold update
  cases hr : a.report? with
  | none => rw [(hciUpdateConnList_of_fails s.1 s.2 hr).2.2, h]
  | some es =>
    have hle := a.length_le_of_report hr
    rw [(hciUpdateConnList_of_report s.1 s.2 hr).2.2, List.length_append, List.length_drop, h]
    omega

theorem length_afterUpdates (h : s.1.conn.list.length = hciMaxConn)
    (as : List ConnListAnswer) : (afterUpdates s as).1.conn.list.length = hciMaxConn := by
  induction as using List.reverseRecOn with
  | nil => exact h
  | append_singleton as a ih =>
    rw [afterUpdates_append]
    exact length_update ih

/-- **A report shows, and a failing call leaves it if it is as long as the room.** -/
theorem ShowsReport.update {es : List HciConnInfo} (h : ShowsReport s.1.conn es)
    (hfull : a.report? = none → es.length = hciMaxConn) :
    ShowsReport (update s a).hci.conn (a.report?.getD es) := by
  have hroom := length_update (a := a) h.room
  unfold LinuxBle.update at hroom ⊢
  cases hr : a.report? with
  | some es' =>
    have hle := a.length_le_of_report hr
    obtain ⟨-, hnum, hlist⟩ := hciUpdateConnList_of_report s.1 s.2 hr
    refine ⟨hroom, ?_, ?_⟩
    · rw [hnum, toNat_toUInt16_of_le hle]
      rfl
    · rw [hlist, Option.getD_some, List.take_left']
      rfl
  | none =>
    obtain ⟨-, hnum, hlist⟩ := hciUpdateConnList_of_fails s.1 s.2 hr
    refine ⟨hroom, ?_, ?_⟩
    · rw [hnum, Option.getD_none, hfull hr]
      rfl
    · rw [hlist, Option.getD_none, h.entries]

theorem FailsOnlyWhenFull.of_append {pre post : List ConnListAnswer}
    (h : FailsOnlyWhenFull (pre ++ post)) : FailsOnlyWhenFull pre := fun before a after hpre =>
  h before a (after ++ post) (by rw [hpre]; simp)

/-- **While calls fail only on a full list, the last report shows.** -/
theorem afterUpdates_showsReport (h : ShowsReport s.1.conn [])
    (hfull : FailsOnlyWhenFull as) : ShowsReport (afterUpdates s as).1.conn (lastReported as) := by
  induction as using List.reverseRecOn with
  | nil => exact h
  | append_singleton as a ih =>
    rw [afterUpdates_append, lastReported_append]
    exact (ih hfull.of_append).update (hfull as a [] rfl)

end

/-- `hci_init` does not touch the connection list. -/
theorem hciInit_conn {hci : HciDevice} {env : InitEnv} {k : Proc} {res : InitResult}
    (h : hciInit hci env k = .done res) : res.hci.conn = hci.conn := by
  unfold hciInit at h
  simp only at h
  split at h
  · cases h
    rfl
  · exact (hciInitOpened_spec h).2.1

/--
**The connection list is always a reported one exactly when calls fail on a full list only.**

A failing call leaves `HCI_MAX_CONN` in `conn.num`, so old and cleared entries count as
connections, unless there were as many.
-/
theorem connListReported_iff {env : InitEnv} {k : Proc} {init : InitResult}
    (hinit : hciInit .zero env k = .done init) (as : List ConnListAnswer) :
    ConnListReported (init.hci, init.proc) as ↔ FailsOnlyWhenFull as := by
  have hshows : ShowsReport init.hci.conn [] := by
    rw [hciInit_conn hinit]
    exact ⟨rfl, rfl, rfl⟩
  constructor
  · intro law pre a post has hfails
    have hentries := law.entries pre a post has
    have hroom := length_afterUpdates (s := (init.hci, init.proc)) hshows.room (pre ++ [a])
    rw [lastReported_append, hfails, Option.getD_none] at hentries
    rw [← hentries, ConnList.entries, List.length_take, hroom, afterUpdates_append]
    unfold update
    rw [(hciUpdateConnList_of_fails _ _ hfails).2.1]
    rfl
  · intro hfull
    constructor
    · rintro pre a post rfl
      have hfull' : FailsOnlyWhenFull ((pre ++ [a]) ++ post) := by
        rw [List.append_assoc]
        exact hfull
      exact (afterUpdates_showsReport hshows hfull'.of_append).entries_eq
    · rintro pre a post rfl hret
      have hpre := afterUpdates_showsReport (s := (init.hci, init.proc)) hshows hfull.of_append
      cases hr : a.report? with
      | some es =>
        rw [update, (hciUpdateConnList_of_report _ _ hr).1] at hret
        cases hret
      | none =>
        obtain ⟨-, hnum, hlist⟩ := hciUpdateConnList_of_fails
          (afterUpdates (init.hci, init.proc) pre).1 (afterUpdates (init.hci, init.proc) pre).2 hr
        refine ⟨hnum.trans ?_, hlist⟩
        rw [← UInt16.toNat_inj, hpre.num, hfull pre a post rfl hr]
        rfl

/-- A connection of the local device. -/
def oneConnection : HciConnInfo := ⟨0x0040, ⟨1, 2, 3, 4, 5, 6⟩, 0x80, 1, 1, 0⟩

/-- The device has one connection. -/
def oneReported : ConnListAnswer where
  socket := none
  conns := .ok [oneConnection]
  length_le := by
    intro es h
    cases h
    decide

theorem connListReported_oneReported :
    ∃ init, hciInit .zero Devices.readyInit Devices.fresh.proc = .done init ∧
      ConnListReported (init.hci, init.proc) [oneReported] := by
  obtain ⟨init, hinit⟩ : ∃ init, hciInit .zero Devices.readyInit Devices.fresh.proc = .done init :=
    ⟨_, rfl⟩
  refine ⟨init, hinit, (connListReported_iff hinit [oneReported]).mpr ?_⟩
  intro pre a post has hfails
  have ha : a ∈ [oneReported] := by
    rw [has]
    exact List.mem_append_right _ List.mem_cons_self
  rw [List.mem_singleton.mp ha] at hfails
  cases hfails

/-- No descriptor is left for the socket. -/
def noSocket : ConnListAnswer where
  socket := some (.emfile)
  conns := .error .enodev
  length_le := by
    intro es h
    cases h

/-- The first call fails, and the list has twenty entries. -/
theorem not_connListReported :
    ¬∀ env k init as, hciInit .zero env k = .done init → init.ret = 0 →
      ConnListReported (init.hci, init.proc) as := by
  intro hall
  obtain ⟨init, hinit, hret, hnum⟩ : ∃ init,
      hciInit .zero Devices.readyInit Devices.fresh.proc = .done init ∧ init.ret = 0 ∧
        (afterUpdates (init.hci, init.proc) [noSocket]).1.conn.entries.length = 20 :=
    ⟨_, rfl, rfl, rfl⟩
  have hentries := (hall _ _ init [noSocket] hinit hret).entries [] noSocket [] rfl
  rw [List.nil_append] at hentries
  rw [hentries] at hnum
  cases hnum

end LinuxBle
