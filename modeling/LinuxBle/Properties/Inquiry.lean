import Mathlib.Data.List.TakeWhile
import LinuxBle.Ble.Programs
import LinuxBle.Properties.Descriptors
import LinuxBle.Properties.Functions

/-!
# Inquiries

* `hciInquiry_eq_fault_iff` — `hci_inquiry` stays inside its buffer and hands over what was found
* `scanClassicMain_rows` — the rows that `scan_classic.c` prints, and where the names come from
-/

namespace LinuxBle

open Infra

/-! ## `hci_inquiry` -/

/-- The number of devices that the kernel finds at most; zero asks for as many as there may be. -/
def HciInquiryReq.limit (req : HciInquiryReq) : Nat :=
  if req.numRsp = 0 then 255 else req.numRsp.toNat

/-- The kernel keeps to the limit in the request. -/
def InquiryEnv.Limited (env : InquiryEnv) : Prop :=
  ∀ req infos, env.inquiry req = .ok infos → infos.length ≤ req.limit

section

variable (devId len nrsp flags : Int) (lap : Option (Vector UInt8 3)) (room : Option Nat)
  {env : InquiryEnv} (k : Proc)

/--
**There is room for as many devices as are asked for**, also when the number is cut to a byte.
-/
theorem limit_le_room : ((inquiryReq devId len nrsp lap flags).limit : Int) ≤ inquiryRoom nrsp := by
  show ((if inquiryNumRsp nrsp = 0 then 255 else (inquiryNumRsp nrsp).toNat : Nat) : Int) ≤ _
  unfold inquiryNumRsp inquiryRoom
  by_cases hpos : nrsp ≤ 0
  · rw [if_pos hpos, if_pos hpos]
    decide
  · rw [if_neg hpos, if_neg hpos]
    have hbyte : ((UInt8.ofInt nrsp).toNat : Int) = nrsp % 256 := by
      simp only [UInt8.ofInt, UInt8.toNat_ofNat']
      omega
    split
    · next hzero =>
      -- the number is a multiple of 256
      rw [hzero] at hbyte
      have : (0 : UInt8).toNat = 0 := rfl
      omega
    · omega

/-- What comes of a request: an error, or the devices that the kernel found. -/
def InquiryResult.Finds (res : InquiryResult) (env : InquiryEnv) (req : HciInquiryReq) : Prop :=
  (res.ret = -1 ∧ res.ii = none) ∨
    ∃ infos, env.inquiry req = .ok infos ∧ res.ret = infos.length ∧ res.ii = some infos

/-- What the kernel found does not fit into what `*ii` has room for. -/
def InquiryEnv.Overruns (env : InquiryEnv) (req : HciInquiryReq) (room : Option Nat) : Prop :=
  ∃ n infos, room = some n ∧ env.inquiry req = .ok infos ∧ n < infos.length

/-- With a kernel that keeps to the limit, only the memory of the caller may be too small. -/
theorem inquiryFill_cases (hlim : env.Limited) :
    (inquiryFill (inquiryReq devId len nrsp lap flags) nrsp room env k = .fault ∧
      env.Overruns (inquiryReq devId len nrsp lap flags) room) ∨
    ∃ res, inquiryFill (inquiryReq devId len nrsp lap flags) nrsp room env k = .done res ∧
      res.proc.fds = k.fds ∧ res.Finds env (inquiryReq devId len nrsp lap flags) ∧
      ¬env.Overruns (inquiryReq devId len nrsp lap flags) room := by
  have hle := limit_le_room devId len nrsp flags lap
  unfold inquiryFill
  cases hinq : env.inquiry (inquiryReq devId len nrsp lap flags) with
  | error e =>
    refine .inr ⟨_, rfl, rfl, .inl ⟨rfl, rfl⟩, ?_⟩
    rintro ⟨n, infos, -, hok, -⟩
    rw [hinq] at hok
    cases hok
  | ok infos =>
    have hlen := hlim _ _ hinq
    simp only
    rw [if_neg (by omega)]
    cases room with
    | some n =>
      simp only
      by_cases hn : n < infos.length
      · rw [if_pos hn]
        exact .inl ⟨rfl, n, infos, rfl, hinq, hn⟩
      · rw [if_neg hn]
        refine .inr ⟨_, rfl, rfl, .inr ⟨infos, hinq, rfl, rfl⟩, ?_⟩
        rintro ⟨n', infos', hroom, hok, hlt⟩
        cases hroom
        rw [hinq] at hok
        cases hok
        exact hn hlt
    | none =>
      have hfits : ¬env.Overruns (inquiryReq devId len nrsp lap flags) none := by
        rintro ⟨n, infos', hroom, -⟩
        cases hroom
      simp only
      cases env.mallocInfo with
      | some e => exact .inr ⟨_, rfl, rfl, .inl ⟨rfl, rfl⟩, hfits⟩
      | none => exact .inr ⟨_, rfl, rfl, .inr ⟨infos, hinq, rfl, rfl⟩, hfits⟩

/-- The device that is asked: without one, the first that is up. -/
def inquiryDev (devId : Int) (env : InquiryEnv) (k : Proc) : Int :=
  if devId < 0 then (hciGetRoute none env.route k).1 else devId

/-- `hci_inquiry` comes to its request. -/
def InquiryEnv.Asks (env : InquiryEnv) (devId : Int) (k : Proc) : Prop :=
  0 ≤ inquiryDev devId env k ∧ env.socket = none ∧ env.malloc = none

theorem hciInquiry_cases (hlim : env.Limited) :
    (hciInquiry devId len nrsp lap room flags env k = .fault ∧ env.Asks devId k ∧
      env.Overruns (inquiryReq (inquiryDev devId env k) len nrsp lap flags) room) ∨
    ∃ res, hciInquiry devId len nrsp lap room flags env k = .done res ∧
      res.proc.fds = k.fds ∧
      res.Finds env (inquiryReq (inquiryDev devId env k) len nrsp lap flags) ∧
      ¬(env.Asks devId k ∧
        env.Overruns (inquiryReq (inquiryDev devId env k) len nrsp lap flags) room) := by
  have hroute : ∃ k', (if devId < 0 then hciGetRoute none env.route k else (devId, k)) =
      (inquiryDev devId env k, k') ∧ k'.fds = k.fds := by
    unfold inquiryDev
    split
    · exact ⟨_, rfl, hciGetRoute_fds ..⟩
    · exact ⟨_, rfl, rfl⟩
  obtain ⟨k', hk', hfds⟩ := hroute
  unfold hciInquiry InquiryEnv.Asks
  rw [hk']
  simp only
  split
  · next hneg => exact .inr ⟨_, rfl, hfds, .inl ⟨rfl, rfl⟩, fun h => absurd h.1.1 (by omega)⟩
  · next hdev =>
    unfold Proc.socket
    cases env.socket with
    | some e => exact .inr ⟨_, rfl, hfds, .inl ⟨rfl, rfl⟩, fun h => by cases h.1.2.1⟩
    | none =>
      simp only
      cases env.malloc with
      | some e =>
        exact .inr ⟨_, rfl, (Proc.close_leastFree_fds rfl).trans hfds, .inl ⟨rfl, rfl⟩,
          fun h => by cases h.1.2.2⟩
      | none =>
        simp only
        rcases inquiryFill_cases (inquiryDev devId env k) len nrsp flags lap room
          { k' with fds := insert (leastFree k'.fds) k'.fds } hlim with
          ⟨hres, hover⟩ | ⟨res, hres, hsame, hfinds, hfits⟩
        · rw [hres]
          exact .inl ⟨rfl, ⟨by omega, trivial, trivial⟩, hover⟩
        · rw [hres]
          exact .inr ⟨_, rfl, (Proc.close_leastFree_fds hsame).trans hfds, hfinds,
            fun h => hfits h.2⟩

/--
**`hci_inquiry` goes wrong exactly when more is found than the caller has room for.** Otherwise it
hands over all of it in its order, and leaves the open descriptors as it found them.
-/
theorem hciInquiry_eq_fault_iff (hlim : env.Limited) :
    (hciInquiry devId len nrsp lap room flags env k = .fault ↔ env.Asks devId k ∧
      env.Overruns (inquiryReq (inquiryDev devId env k) len nrsp lap flags) room) ∧
    (hciInquiry devId len nrsp lap room flags env k ≠ .fault →
      ∃ res, hciInquiry devId len nrsp lap room flags env k = .done res ∧ res.proc.fds = k.fds ∧
        res.Finds env (inquiryReq (inquiryDev devId env k) len nrsp lap flags)) := by
  rcases hciInquiry_cases devId len nrsp flags lap room k hlim with
    ⟨hfault, hasks⟩ | ⟨res, hdone, hfds, hfinds, hfits⟩
  · exact ⟨iff_of_true hfault hasks, fun h => absurd hfault h⟩
  · have hne : hciInquiry devId len nrsp lap room flags env k ≠ .fault := by
      rw [hdone]
      exact fun h => by cases h
    exact ⟨iff_of_false hne hfits, fun _ => ⟨res, hdone, hfds, hfinds⟩⟩

end

/-- The inquiry finds one device. -/
def oneDevice : InquiryEnv where
  route := Devices.readyInit.route
  socket := none
  malloc := none
  inquiry _ := .ok [⟨⟨0x46, 0x0C, 0x2F, 0xDB, 0x93, 0xC0⟩, 1, 0, 0, #v[0x0C, 0x02, 0x5A], 0x1234⟩]
  mallocInfo := none

theorem oneDevice_limited : oneDevice.Limited := by
  intro req infos h
  cases h
  unfold HciInquiryReq.limit
  split
  · decide
  · next hzero =>
    have hpos : req.numRsp.toNat ≠ 0 := fun h => hzero (UInt8.toNat_inj.mp h)
    exact Nat.one_le_iff_ne_zero.mpr hpos

/-- 256 devices are asked for, by a caller with room for none. -/
theorem hciInquiry_eq_fault_iff_oneDevice :
    hciInquiry (-1) 8 256 none (some 0) ireqCacheFlush oneDevice ⟨{0, 1, 2}, .ofCode 0⟩ = .fault :=
  (hciInquiry_eq_fault_iff (-1) 8 256 ireqCacheFlush none (some 0) ⟨{0, 1, 2}, .ofCode 0⟩
    oneDevice_limited).1.mpr ⟨⟨by decide, rfl, rfl⟩, 0, _, rfl, rfl, by decide⟩

/-! ## `scan_classic.c` -/

theorem cString_append_zero (text rest : List UInt8) :
    cString (text ++ 0 :: rest) = cString text := by
  unfold cString
  induction text with
  | nil => rfl
  | cons c text ih =>
    rw [List.cons_append, List.takeWhile_cons, List.takeWhile_cons, ih]

theorem cString_append_zeros (text : List UInt8) (n : Nat) :
    cString (text ++ List.replicate n 0) = cString text := by
  cases n with
  | zero => rw [List.replicate_zero, List.append_nil]
  | succ n => exact cString_append_zero text _

/-- What is printed of a copied string. -/
theorem cString_strncpy (src : List UInt8) (len : Nat) :
    cString (strncpy src len) = cString (src.take len) :=
  (cString_append_zeros _ _).trans List.takeWhile_idem

/-- The request for the name of a device. -/
def nameRequest (info : InquiryInfo) (env : CallEnv) : HciRequest :=
  Wrapper.readRemoteNameWithClockOffset.issue (info.bdaddr, 0x02, 0, 0) env

/--
The iteration that ends the wait for a name began in the millisecond in which the wait began; its
`select` may still have taken half a second. It ended with a packet, whose name it is, or it failed.
-/
def NamedEarly (info : InquiryInfo) (env : CallEnv) (name : List UInt8) : Prop :=
  env.Sent ∧ ∃ t, env.toReqEnv.Reaches (nameRequest info env) 0 t ∧ t.now ≤ env.start ∧
    ((∃ p, t.Receives env.start 0 p ∧ Completes (nameRequest info env) p ∧
        (255 ≤ p.payload.length → name = cString ((p.payload.drop 7).take 247))) ∨
      ∃ eo, t.FailsWith (nameRequest info env) env.start 0 eo)

theorem remoteName_read {bytes : List UInt8} {v : Wrapper.readRemoteNameWithClockOffset.Rp}
    (h : Wrapper.readRemoteNameWithClockOffset.rp.read bytes = some v) :
    v.2.2.toList.take 247 = (bytes.drop 7).take 247 := by
  obtain ⟨status, ba, name⟩ := v
  have htake : status :: (ba.bytes ++ name.toList) = bytes.take 255 := Packed.encode_read h
  have hdrop := congrArg (List.take 247 ∘ List.drop 7) htake
  simpa [List.drop_take, List.take_take, BdAddr.bytes] using hdrop

/-- **A name is printed only if the iteration that ends the wait for it begins at once.** -/
theorem classicName_cases {info : InquiryInfo} {env : CallEnv} {s : Sock}
    {res : Called (List UInt8)} (h : hciReadRemoteName info.bdaddr 248 0 env s = .done res) :
    classicName res = unknownName ∨ NamedEarly info env (classicName res) := by
  unfold classicName
  by_cases hret : res.ret = 0
  · right
    rw [if_neg (not_not.mpr hret)]
    obtain ⟨hsent, t, hreach, hnow, hend⟩ := Wrapper.ask_zero h hret
    refine ⟨hsent, t, hreach, by omega, ?_⟩
    refine hend.imp_left fun ⟨p, hp, hc, hname⟩ => ⟨p, hp, hc, fun hlen => ?_⟩
    obtain ⟨⟨status, ba, name⟩, ⟨hread, -⟩, hout⟩ := hname hlen
    have htake : (name.toList.take 247 ++ [0]).take 248 = name.toList.take 247 ++ [0] :=
      List.take_of_length_le (by simp)
    have hname : name.toList.take 247 = (p.payload.drop 7).take 247 := remoteName_read hread
    rw [hout, Option.getD_some, cString_strncpy, htake, cString_append_zero, hname]
  · exact .inl (if_pos hret)

/-- A row stands for each device, in their order. -/
theorem classicRows_done {names : Nat → CallEnv} {infos : List InquiryInfo} {i : Nat}
    {s s' : Sock} {rows : List ClassicRow} (h : classicRows names i infos s = .done (rows, s')) :
    rows.map ClassicRow.addrS = infos.map (fun info => ba2str info.bdaddr) ∧
      ∀ j info row, infos[j]? = some info → rows[j]? = some row →
        row.name = unknownName ∨ NamedEarly info (names (i + j)) row.name := by
  induction infos generalizing i s rows with
  | nil =>
    cases h
    exact ⟨rfl, fun j info row hj => by cases hj⟩
  | cons info infos ih =>
    obtain ⟨res, hres, h⟩ := Outcome.bind_eq_done.mp h
    obtain ⟨⟨rows', s₁⟩, hrows, h⟩ := Outcome.bind_eq_done.mp h
    cases h
    obtain ⟨haddr, hname⟩ := ih hrows
    refine ⟨by simp [haddr], fun j info' row hj hrow => ?_⟩
    cases j with
    | zero =>
      cases hj
      cases hrow
      exact classicName_cases hres
    | succ j =>
      rw [show i + (j + 1) = i + 1 + j by omega]
      exact hname j info' row hj hrow

namespace ClassicEnv

/-- `dev_id`, and the process behind `hci_get_route`. -/
def dev (env : ClassicEnv) (k : Proc) : Int × Proc := hciGetRoute none env.route k

/-- `dd`, and the process behind `hci_open_dev`. -/
def opened (env : ClassicEnv) (k : Proc) : Int × Proc :=
  hciOpenDev (env.dev k).1 env.openDev (env.dev k).2

/-- What `hci_inquiry` comes to. -/
def inquired (env : ClassicEnv) (k : Proc) : Outcome InquiryResult :=
  hciInquiry (env.dev k).1 8 255 none none ireqCacheFlush env.inquiry (env.opened k).2

theorem opened_cases (env : ClassicEnv) (k : Proc) :
    ((env.opened k).1 < 0 ∧ (env.opened k).2.fds = k.fds) ∨
      (0 ≤ (env.dev k).1 ∧ (env.opened k).1 = leastFree k.fds ∧
        (env.opened k).2.fds = insert (leastFree k.fds) k.fds) := by
  have hdev : (env.dev k).2.fds = k.fds := hciGetRoute_fds none env.route k
  have hcases := hciOpenDev_cases (env.dev k).1 env.openDev (env.dev k).2
  rw [hdev] at hcases
  rcases hcases with ⟨hneg, hfds⟩ | hopened
  · exact .inl ⟨hneg.trans_lt (by decide), hfds⟩
  · exact .inr hopened

/-- The array is allocated by `hci_inquiry`, so there is room for all. -/
theorem inquired_done {env : ClassicEnv} {k : Proc} (hlim : env.inquiry.Limited)
    (hdev : 0 ≤ (env.dev k).1) :
    ∃ res, env.inquired k = .done res ∧ res.proc.fds = (env.opened k).2.fds ∧
      res.Finds env.inquiry (inquiryReq (env.dev k).1 8 255 none ireqCacheFlush) := by
  have hdevId : inquiryDev (env.dev k).1 env.inquiry (env.opened k).2 = (env.dev k).1 :=
    if_neg (by omega)
  have hcases := hciInquiry_cases (env.dev k).1 8 255 ireqCacheFlush none none (env.opened k).2 hlim
  rw [hdevId] at hcases
  rcases hcases with ⟨-, -, n, -, hnone, -⟩ | ⟨res, hres, hfds, hfinds, -⟩
  · cases hnone
  · exact ⟨res, hres, hfds, hfinds⟩

end ClassicEnv

/--
**What `scan_classic.c` prints, and what it leaves open.**

Without a device or a descriptor it prints nothing and has opened nothing, and after an inquiry that
fails it prints nothing and leaves its descriptor open. Otherwise the rows are the devices that the
inquiry found. With a timeout of zero the wait for a name is over as soon as the clock has moved
when an iteration begins.
-/
theorem scanClassicMain_rows {env : ClassicEnv} {s : Sock} {k k' : Proc}
    {rows : List ClassicRow} (hlim : env.inquiry.Limited)
    (h : scanClassicMain env s k = .done (rows, k')) :
    ((env.opened k).1 < 0 ∧ rows = [] ∧ k'.fds = k.fds) ∨
    (0 ≤ (env.opened k).1 ∧ ∃ res, env.inquired k = .done res ∧
      ((res.ret = -1 ∧ rows = [] ∧ k'.fds = insert (leastFree k.fds) k.fds) ∨
        ∃ infos, res.ret = infos.length ∧
          env.inquiry.inquiry (inquiryReq (env.dev k).1 8 255 none ireqCacheFlush) = .ok infos ∧
          rows.map ClassicRow.addrS = infos.map (fun info => ba2str info.bdaddr) ∧
          (∀ i info row, infos[i]? = some info → rows[i]? = some row →
            row.name = unknownName ∨ NamedEarly info (env.names i) row.name) ∧
          k'.fds = k.fds)) := by
  have hmain : scanClassicMain env s k =
      if (env.dev k).1 < 0 ∨ (env.opened k).1 < 0 then pure ([], (env.opened k).2)
      else env.inquired k >>= fun res =>
        if res.ret < 0 then pure ([], res.proc)
        else classicRows env.names 0 (res.ii.getD []) s >>= fun rows =>
          pure (rows.1, hciCloseDev (env.opened k).1 res.proc) := rfl
  rw [hmain] at h
  rcases env.opened_cases k with ⟨hneg, hfds⟩ | ⟨hdev, hdd, hfds⟩
  · rw [if_pos (.inr hneg)] at h
    cases h
    exact .inl ⟨hneg, rfl, hfds⟩
  · have hpos : 0 ≤ (env.opened k).1 := by omega
    obtain ⟨res, hres, hsame, hfinds⟩ := ClassicEnv.inquired_done hlim hdev
    refine .inr ⟨hpos, res, hres, ?_⟩
    rw [if_neg (by omega), hres, Outcome.done_bind] at h
    rcases hfinds with ⟨hret, -⟩ | ⟨infos, hinq, hret, hii⟩
    · rw [if_pos (by omega)] at h
      cases h
      exact .inl ⟨hret, rfl, hsame.trans hfds⟩
    · rw [if_neg (by omega)] at h
      obtain ⟨⟨rows', s'⟩, hrows, h⟩ := Outcome.bind_eq_done.mp h
      cases h
      rw [hii] at hrows
      obtain ⟨haddr, hname⟩ := classicRows_done hrows
      refine .inr ⟨infos, hret, hinq, haddr, fun i info row hi hrow => ?_, ?_⟩
      · have hfrom := hname i info row hi hrow
        rwa [Nat.zero_add] at hfrom
      · rw [hdd]
        exact Proc.close_leastFree_fds (hsame.trans hfds)

/-- One device is found, and it takes half a second to say what it is called. -/
def oneLate : ClassicEnv where
  route := Devices.readyInit.route
  openDev := ⟨none, none⟩
  inquiry := oneDevice
  names _ :=
    { CallEnv.answered Devices.localNameReply with turns := [⟨0, .timeout⟩, ⟨500, .timeout⟩] }

theorem scanClassicMain_rows_oneLate :
    ∃ k', scanClassicMain oneLate ⟨hciFilterClear, [], .ofCode 0⟩ ⟨{0, 1, 2}, .ofCode 0⟩ =
        .done ([⟨"C0:93:DB:2F:0C:46".toList, unknownName⟩], k') ∧ k'.fds = {0, 1, 2} := by
  obtain ⟨k', hmain⟩ : ∃ k', scanClassicMain oneLate ⟨hciFilterClear, [], .ofCode 0⟩
      ⟨{0, 1, 2}, .ofCode 0⟩ = .done ([⟨"C0:93:DB:2F:0C:46".toList, unknownName⟩], k') := ⟨_, rfl⟩
  rcases scanClassicMain_rows oneDevice_limited hmain with
    ⟨-, hnil, -⟩ | ⟨-, -, -, ⟨-, hnil, -⟩ | ⟨-, -, -, -, -, hfds⟩⟩
  · cases hnil
  · cases hnil
  · exact ⟨k', hmain, hfds⟩

end LinuxBle
