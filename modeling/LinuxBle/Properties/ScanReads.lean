import Mathlib.Logic.Basic
import LinuxBle.Properties.ScanTable

/-!
# What a scan reads of a packet

* `scanPacket_congr` — `Packet.scanReads` are all the bytes that matter
* `interpretsReceived_iff` — when all of them were received
-/

namespace LinuxBle

/-- The offsets that are read of an advertising report, or handed to `eir_parse_name`. -/
def Packet.reportReads (p : Packet) : List Nat :=
  [4, advDataLenOffset] ++ (List.range p.dataLen).map (advDataOffset + ·) ++
    (eirReads (fun i => p.buf (advDataOffset + i)) p.dataLen (bleNameSize - 1)).map
      (advDataOffset + ·) ++
    if strlen p.name = 0 then []
    else [advTypeOffset, advAddrTypeOffset, advDataOffset + p.dataLen] ++
      (List.range 6).map (advAddrOffset + ·)

/-- The offsets that the loop body reads. -/
def Packet.scanReads (p : Packet) : List Nat :=
  0 :: if p.buf 0 ≠ hciEventPkt then [] else
  1 :: if p.buf 1 ≠ evtLeMetaEvent then [] else
  3 :: if p.buf 3 ≠ evtLeAdvertisingReport then [] else p.reportReads

variable {p q : Packet}

/-- What holds of the offsets read, one check after the other. -/
theorem forall_mem_scanReads {P : Nat → Prop} :
    (∀ i ∈ p.scanReads, P i) ↔
      P 0 ∧ (p.buf 0 = hciEventPkt → P 1 ∧ (p.buf 1 = evtLeMetaEvent → P 3 ∧
        (p.buf 3 = evtLeAdvertisingReport → ∀ i ∈ p.reportReads, P i))) := by
  unfold Packet.scanReads
  rw [List.forall_mem_cons]
  by_cases h0 : p.buf 0 = hciEventPkt
  · rw [if_neg (not_not.mpr h0), List.forall_mem_cons]
    by_cases h1 : p.buf 1 = evtLeMetaEvent
    · rw [if_neg (not_not.mpr h1), List.forall_mem_cons]
      by_cases h3 : p.buf 3 = evtLeAdvertisingReport
      · rw [if_neg (not_not.mpr h3)]
        simp [h0, h1, h3]
      · simp [h0, h1, h3]
    · simp [h0, h1]
  · simp [h0]

/-! ## The reads are all that matters -/

theorem name_congr (hlen : p.dataLen = q.dataLen)
    (h : ∀ i ∈ eirReads (fun i => p.buf (advDataOffset + i)) p.dataLen (bleNameSize - 1),
      p.buf (advDataOffset + i) = q.buf (advDataOffset + i)) : p.name = q.name := by
  unfold Packet.name
  rw [eirParseName_congr h, hlen]

theorem bdaddr_congr {i : Nat} (h : ∀ j < 6, p.buf (i + j) = q.buf (i + j)) :
    p.bdaddr i = q.bdaddr i := by
  unfold Packet.bdaddr
  rw [h 1 (by omega), h 2 (by omega), h 3 (by omega), h 4 (by omega), h 5 (by omega),
    show p.buf i = q.buf i from h 0 (by omega)]

/-- Reports that agree on what is read of them have the same name. -/
theorem name_congr_of_reportReads (h : ∀ i ∈ p.reportReads, p.buf i = q.buf i) :
    p.name = q.name := by
  have hlen : p.dataLen = q.dataLen :=
    congrArg UInt8.toNat (h _ (by simp [Packet.reportReads]))
  refine name_congr hlen fun i hi => h _ ?_
  unfold Packet.reportReads
  exact List.mem_append_left _ (List.mem_append_right _ (List.mem_map.mpr ⟨i, hi, rfl⟩))

/-- If the name is not empty, they put the same values into an entry. -/
theorem copyValues_congr (h : ∀ i ∈ p.reportReads, p.buf i = q.buf i)
    (hname : strlen p.name ≠ 0) (self : HciPtr) : copyValues self p = copyValues self q := by
  have hn : p.name = q.name := name_congr_of_reportReads h
  have hlen : p.dataLen = q.dataLen :=
    congrArg UInt8.toNat (h _ (by simp [Packet.reportReads]))
  have hrest := fun i hi => h i (List.mem_append_right _ hi)
  rw [if_neg hname] at hrest
  have haddr : p.bdaddr advAddrOffset = q.bdaddr advAddrOffset :=
    bdaddr_congr fun j hj => hrest _ (List.mem_append_right _
      (List.mem_map.mpr ⟨j, List.mem_range.mpr hj, rfl⟩))
  funext ble
  unfold copyValues Packet.rssi
  rw [hn, haddr, hrest advAddrTypeOffset (by simp), ← hlen,
    hrest (advDataOffset + p.dataLen) (by simp)]

/-- **Packets that agree on what is read of them are recorded alike.** -/
theorem scanPacket_congr (h : ∀ i ∈ p.scanReads, p.buf i = q.buf i) (self : HciPtr)
    (bleListLen : Int) (st : ScanState) :
    scanPacket self bleListLen st p = scanPacket self bleListLen st q := by
  obtain ⟨h0, h⟩ := forall_mem_scanReads.mp h
  unfold scanPacket
  rw [← h0]
  by_cases he : p.buf 0 = hciEventPkt
  · obtain ⟨h1, h⟩ := h he
    rw [if_neg (not_not.mpr he), if_neg (not_not.mpr he), ← h1]
    by_cases hm : p.buf 1 = evtLeMetaEvent
    · obtain ⟨h3, h⟩ := h hm
      rw [if_neg (not_not.mpr hm), if_neg (not_not.mpr hm), ← h3]
      by_cases hr : p.buf 3 = evtLeAdvertisingReport
      · have h := h hr
        rw [if_neg (not_not.mpr hr), if_neg (not_not.mpr hr), ← name_congr_of_reportReads h]
        by_cases hn : strlen p.name = 0
        · rw [if_pos hn, if_pos hn]
        · have hvalues := copyValues_congr h hn self
          have haddr : p.bdaddr advAddrOffset = q.bdaddr advAddrOffset :=
            congrArg BleDevice.addr (congrFun hvalues .zero)
          have hrecord : ∀ (list : BleList) i, list.record self p i = list.record self q i :=
            fun list i => by
              unfold BleList.record
              rw [hvalues]
          rw [if_neg hn, if_neg hn, ← haddr]
          simp only [hrecord]
      · rw [if_pos hr, if_pos hr]
    · rw [if_pos hm, if_pos hm]
  · rw [if_pos he, if_pos he]

/-! ## When all of it was received -/

/--
Only bytes that were received are interpreted: a report cut short changes nothing, and neither do
the bytes behind the packet.
-/
structure InterpretsReceived (p : Packet) : Prop where
  reads : ∀ i ∈ p.scanReads, i < p.size
  short : p.size < advDataOffset ∨ p.size < advDataOffset + p.dataLen + 1 →
    ∀ self bleListLen st, scanPacket self bleListLen st p = st
  behind : ∀ q : Packet, (∀ i < p.size, p.buf i = q.buf i) →
    ∀ self bleListLen st, scanPacket self bleListLen st p = scanPacket self bleListLen st q

theorem advOffsets : advTypeOffset = 5 ∧ advAddrTypeOffset = 6 ∧ advAddrOffset = 7 ∧
    advDataLenOffset = 13 ∧ advDataOffset = 14 := ⟨rfl, rfl, rfl, rfl, rfl⟩

/--
The packet is as long as it must be for what the loop body makes of it: for the check of the
event type, for that of the subevent, for the data of a report, and for its rssi, which is read
when the data has a name, or by the parser when the last field ends behind the data.
-/
def Packet.LongEnough (p : Packet) : Prop :=
  p.buf 0 = hciEventPkt → 2 ≤ p.size ∧
    (p.buf 1 = evtLeMetaEvent → 4 ≤ p.size ∧
      (p.buf 3 = evtLeAdvertisingReport → advDataOffset + p.dataLen ≤ p.size ∧
        (strlen p.name ≠ 0 ∨ p.dataLen ∈
            eirReads (fun i => p.buf (advDataOffset + i)) p.dataLen (bleNameSize - 1) →
          advDataOffset + p.dataLen + 1 ≤ p.size)))

/-- What is read of a report was received when its data was, and the byte behind if it is used. -/
theorem reportReads_lt_iff {n : Nat} :
    (∀ i ∈ p.reportReads, i < n) ↔
      advDataOffset + p.dataLen ≤ n ∧ (strlen p.name ≠ 0 ∨ p.dataLen ∈
          eirReads (fun i => p.buf (advDataOffset + i)) p.dataLen (bleNameSize - 1) →
        advDataOffset + p.dataLen + 1 ≤ n) := by
  have hoff := advOffsets
  unfold Packet.reportReads
  constructor
  · intro h
    constructor
    · have h13 := h advDataLenOffset (by simp)
      by_cases hzero : p.dataLen = 0
      · omega
      · have hlast := h (advDataOffset + (p.dataLen - 1)) (by
          simp only [List.mem_cons, List.mem_append, List.mem_map, List.mem_range]
          exact .inl (.inl (.inr ⟨_, by omega, rfl⟩)))
        omega
    · intro hused
      refine h (advDataOffset + p.dataLen) ?_
      rcases hused with hn | hr
      · rw [if_neg hn]
        simp
      · simp only [List.mem_cons, List.mem_append, List.mem_map]
        exact .inl (.inr ⟨_, hr, rfl⟩)
  · rintro ⟨hdata, hlast⟩ i hi
    simp only [List.mem_append, List.mem_cons, List.not_mem_nil, or_false, List.mem_map,
      List.mem_range] at hi
    rcases hi with ((hi | ⟨j, hj, rfl⟩) | ⟨j, hj, rfl⟩) | hi
    · omega
    · omega
    · -- the parser reads at most one byte behind its input
      have hle := eirReads_le j hj
      by_cases hjl : j = p.dataLen
      · have := hlast (.inr (hjl ▸ hj))
        omega
      · omega
    · split at hi
      · cases hi
      · next hn =>
        have := hlast (.inl hn)
        simp only [List.mem_append, List.mem_cons, List.not_mem_nil, or_false, List.mem_map,
          List.mem_range] at hi
        rcases hi with (hi | hi | hi) | ⟨j, hj, rfl⟩ <;> omega

/-- The offsets read were received exactly when the packet is long enough for each check. -/
theorem scanReads_lt_iff (hsize : p.size ≠ 0) :
    (∀ i ∈ p.scanReads, i < p.size) ↔ p.LongEnough := by
  rw [forall_mem_scanReads]
  unfold Packet.LongEnough
  constructor
  · rintro ⟨-, h⟩ h0
    refine ⟨(h h0).1, fun h1 => ⟨((h h0).2 h1).1, fun h3 => ?_⟩⟩
    exact reportReads_lt_iff.mp (((h h0).2 h1).2 h3)
  · intro h
    refine ⟨by omega, fun h0 => ⟨(h h0).1, fun h1 => ⟨((h h0).2 h1).1, fun h3 => ?_⟩⟩⟩
    exact reportReads_lt_iff.mpr (((h h0).2 h1).2 h3)

/-- A packet that is long enough but ends before the rssi has no name. -/
theorem scanPacket_of_short (h : p.LongEnough)
    (hshort : p.size < advDataOffset ∨ p.size < advDataOffset + p.dataLen + 1) (self : HciPtr)
    (bleListLen : Int) (st : ScanState) : scanPacket self bleListLen st p = st := by
  apply scanPacket_of_not_named
  rintro ⟨h0, h1, h3, hn⟩
  have hrssi := (((h h0).2 h1).2 h3).2 (.inl hn)
  omega

/--
**A scan interprets only what it received exactly when the packet is long enough.**

The loop body never compares `data_len` with what `read` returned.
-/
theorem interpretsReceived_iff (p : Packet) :
    (p.size ≠ 0 → InterpretsReceived p) ↔ (p.size ≠ 0 → p.LongEnough) := by
  refine forall_congr' fun hsize => ?_
  constructor
  · intro h
    exact (scanReads_lt_iff hsize).mp h.reads
  · intro h
    have hreads := (scanReads_lt_iff hsize).mpr h
    exact ⟨hreads, scanPacket_of_short h, fun q hagree =>
      scanPacket_congr fun i hi => hagree i (hreads i hi)⟩

/-- A report that says it has 32 bytes of data but ends after the name. -/
def overlongReport : Packet :=
  .ofBytes [0x04, 0x3E, 0x2C, 0x02, 0x01, 0x00, 0x00, 0x01, 0x02, 0x03, 0x04, 0x05, 0x06,
    0x20, 0x03, 0x09, 0x41, 0x42] (by decide)

/-- It is recorded all the same, with an rssi that was not received. -/
theorem not_interpretsReceived_overlongReport :
    ¬(overlongReport.size ≠ 0 → InterpretsReceived overlongReport) := by
  intro h
  have hshort := (h (by decide)).short (.inr (by decide)) 0 1 ⟨0, fun _ => .zero, .ofCode 0⟩
  exact absurd (congrArg ScanState.counter hshort) (by decide)

end LinuxBle
