import LinuxBle.Infra.Bits
import LinuxBle.Hci.Filter
import LinuxBle.Properties.Noise
import LinuxBle.Properties.ScanUndo

/-!
# What a filter lets through

The masks of a filter are sets of classes: event codes that differ by a multiple of 64 share one
bit, and so do packet types that differ by a multiple of 32.

* `FilterOp.sets_run` — the filter tools are operations on these sets
* `FilterOp.run_lastWord` — the last call that concerns an event decides about it
* `Client.run_filtered` — what the kernel filters out, no call would have used
-/

namespace LinuxBle

open Infra

/-! ## Filters as sets -/

/-- What a filter says: the classes of packet types and of events it lets through. -/
structure FilterSets where
  types : Set (Fin 32)
  events : Set (Fin 64)
  opcode : UInt16

/-- The class of a packet type; vendor packets have class `0`. -/
def ptypeClass (t : Int) : Fin 32 :=
  ⟨ptypeBit t, by unfold ptypeBit; split <;> omega⟩

/-- The class of an event. -/
def eventClass (e : Int) : Fin 64 := ⟨eventBit e, by unfold eventBit; omega⟩

def HciFilter.sets (f : HciFilter) : FilterSets := ⟨bits f.typeMask, bits f.eventMask, f.opcode⟩

/-- What a filter tool means for the sets. -/
def FilterOp.onSets : FilterOp → FilterSets → FilterSets
  | clear, _ => ⟨∅, ∅, 0⟩
  | setPtype t, F => { F with types := insert (ptypeClass t) F.types }
  | clearPtype t, F => { F with types := F.types \ {ptypeClass t} }
  | allPtypes, F => { F with types := Set.univ }
  | setEvent e, F => { F with events := insert (eventClass e) F.events }
  | clearEvent e, F => { F with events := F.events \ {eventClass e} }
  | allEvents, F => { F with events := Set.univ }
  | setOpcode opcode, F => { F with opcode := UInt16.ofInt opcode }
  | clearOpcode, F => { F with opcode := 0 }

theorem bits_hciSetBit {w : Nat} (k : Fin w) (mask : BitVec w) :
    bits (hciSetBit k.val mask) = insert k (bits mask) := bits_or_shiftLeft k

theorem bits_hciClearBit {w : Nat} (k : Fin w) (mask : BitVec w) :
    bits (hciClearBit k.val mask) = bits mask \ {k} := bits_and_not_shiftLeft k

/-- **Each tool is an operation on the sets.** -/
theorem FilterOp.sets_apply (op : FilterOp) (f : HciFilter) :
    (op.apply f).sets = op.onSets f.sets := by
  cases op with
  | clear =>
    show FilterSets.mk (bits 0#32) (bits 0#64) 0 = _
    rw [bits_zero, bits_zero]
    rfl
  | setPtype t =>
    show FilterSets.mk (bits (hciSetBit (ptypeClass t).val f.typeMask)) _ _ = _
    rw [bits_hciSetBit]
    rfl
  | clearPtype t =>
    show FilterSets.mk (bits (hciClearBit (ptypeClass t).val f.typeMask)) _ _ = _
    rw [bits_hciClearBit]
    rfl
  | allPtypes =>
    show FilterSets.mk (bits (BitVec.allOnes 32)) _ _ = _
    rw [bits_allOnes]
    rfl
  | setEvent e =>
    show FilterSets.mk _ (bits (hciSetBit (eventClass e).val f.eventMask)) _ = _
    rw [bits_hciSetBit]
    rfl
  | clearEvent e =>
    show FilterSets.mk _ (bits (hciClearBit (eventClass e).val f.eventMask)) _ = _
    rw [bits_hciClearBit]
    rfl
  | allEvents =>
    show FilterSets.mk _ (bits (BitVec.allOnes 64)) _ = _
    rw [bits_allOnes]
    rfl
  | setOpcode opcode => rfl
  | clearOpcode => rfl

/-- **A sequence of calls is the sequence of operations on the sets.** -/
theorem FilterOp.sets_run : ∀ (ops : List FilterOp) (f : HciFilter),
    (FilterOp.run ops f).sets = ops.foldl (fun F op => op.onSets F) f.sets
  | [], _ => rfl
  | op :: ops, f => by
    have ih := FilterOp.sets_run ops (op.apply f)
    rw [FilterOp.sets_apply] at ih
    exact ih

theorem hciFilterTestEvent_iff {e : Int} {f : HciFilter} :
    hciFilterTestEvent e f = true ↔ eventClass e ∈ f.sets.events := Iff.rfl

theorem hciFilterTestPtype_iff {t : Int} {f : HciFilter} :
    hciFilterTestPtype t f = true ↔ ptypeClass t ∈ f.sets.types := Iff.rfl

/-! ## The last word -/

/-- What a call says about event `e`, if it concerns it. -/
def FilterOp.eventVerdict (e : Int) : FilterOp → Option Bool
  | clear => some false
  | setEvent e' => if eventBit e = eventBit e' then some true else none
  | clearEvent e' => if eventBit e = eventBit e' then some false else none
  | allEvents => some true
  | _ => none

/-- What a call says about packet type `t`, if it concerns it. -/
def FilterOp.ptypeVerdict (t : Int) : FilterOp → Option Bool
  | clear => some false
  | setPtype t' => if ptypeBit t = ptypeBit t' then some true else none
  | clearPtype t' => if ptypeBit t = ptypeBit t' then some false else none
  | allPtypes => some true
  | _ => none

def FilterOp.opcodeVerdict : FilterOp → Option UInt16
  | clear | clearOpcode => some 0
  | setOpcode opcode => some (UInt16.ofInt opcode)
  | _ => none

theorem FilterOp.testEvent_apply (e : Int) (op : FilterOp) (f : HciFilter) :
    hciFilterTestEvent e (op.apply f) = (op.eventVerdict e).getD (hciFilterTestEvent e f) := by
  have hclass : ∀ e', eventClass e = eventClass e' ↔ eventBit e = eventBit e' := fun e' =>
    Fin.ext_iff
  rw [Bool.eq_iff_iff, hciFilterTestEvent_iff, op.sets_apply f]
  cases op with
  | clear => simp [onSets, eventVerdict]
  | setEvent e' =>
    by_cases he : eventBit e = eventBit e'
    · simp [onSets, eventVerdict, he, (hclass e').mpr he]
    · simp [onSets, eventVerdict, he, mt (hclass e').mp he, hciFilterTestEvent_iff]
  | clearEvent e' =>
    by_cases he : eventBit e = eventBit e'
    · simp [onSets, eventVerdict, he, (hclass e').mpr he]
    · simp [onSets, eventVerdict, he, mt (hclass e').mp he, hciFilterTestEvent_iff]
  | allEvents => simp [onSets, eventVerdict]
  | _ => rfl

theorem FilterOp.testPtype_apply (t : Int) (op : FilterOp) (f : HciFilter) :
    hciFilterTestPtype t (op.apply f) = (op.ptypeVerdict t).getD (hciFilterTestPtype t f) := by
  have hclass : ∀ t', ptypeClass t = ptypeClass t' ↔ ptypeBit t = ptypeBit t' := fun t' =>
    Fin.ext_iff
  rw [Bool.eq_iff_iff, hciFilterTestPtype_iff, op.sets_apply f]
  cases op with
  | clear => simp [onSets, ptypeVerdict]
  | setPtype t' =>
    by_cases ht : ptypeBit t = ptypeBit t'
    · simp [onSets, ptypeVerdict, ht, (hclass t').mpr ht]
    · simp [onSets, ptypeVerdict, ht, mt (hclass t').mp ht, hciFilterTestPtype_iff]
  | clearPtype t' =>
    by_cases ht : ptypeBit t = ptypeBit t'
    · simp [onSets, ptypeVerdict, ht, (hclass t').mpr ht]
    · simp [onSets, ptypeVerdict, ht, mt (hclass t').mp ht, hciFilterTestPtype_iff]
  | allPtypes => simp [onSets, ptypeVerdict]
  | _ => rfl

theorem FilterOp.opcode_apply (op : FilterOp) (f : HciFilter) :
    (op.apply f).opcode = op.opcodeVerdict.getD f.opcode := by
  cases op <;> rfl

/--
**The last call that concerns an event, a packet type or the opcode decides about it.**

A call concerns an event or a type when it names one of its class; without any such call it is
as it was before.
-/
theorem FilterOp.run_lastWord (ops : List FilterOp) (f : HciFilter) :
    (∀ e, hciFilterTestEvent e (FilterOp.run ops f) =
      (ops.filterMap (FilterOp.eventVerdict e)).getLast?.getD (hciFilterTestEvent e f)) ∧
    (∀ t, hciFilterTestPtype t (FilterOp.run ops f) =
      (ops.filterMap (FilterOp.ptypeVerdict t)).getLast?.getD (hciFilterTestPtype t f)) ∧
    (FilterOp.run ops f).opcode = (ops.filterMap FilterOp.opcodeVerdict).getLast?.getD f.opcode :=
  ⟨fun e => foldl_lastWord (fun f op => FilterOp.testEvent_apply e op f) ops f,
    fun t => foldl_lastWord (fun f op => FilterOp.testPtype_apply t op f) ops f,
    foldl_lastWord (fun f op => op.opcode_apply f) ops f⟩

/-! ## What the kernel holds back -/

/--
The packets that a filter passes to its socket.

Type and event must be let through; of the replies to commands, only those to the opcode of the
filter are, if it has one.
-/
def HciFilter.Admits (f : HciFilter) (p : Packet) : Prop :=
  hciFilterTestPtype (p.buf 0).toNat f = true ∧
    (p.buf 0 = hciEventPkt → hciFilterTestEvent (p.buf 1).toNat f = true ∧
      (f.opcode ≠ 0 →
        (eventBit (p.buf 1).toNat = evtCmdComplete.toNat →
          hciFilterTestOpcode (p.buf16 4).toNat f = true) ∧
        (eventBit (p.buf 1).toNat = evtCmdStatus.toNat →
          hciFilterTestOpcode (p.buf16 5).toNat f = true)))

/-- The filter that is installed while a listener waits. -/
def Listener.filter : Listener → HciFilter
  | command w => w.filter
  | reports => scanFilter

theorem waitSock_filter (w : Wrapper) (cparam rparam : List UInt8) (env : ReqEnv) (s : Sock) :
    (waitSock (w.request cparam rparam) env s).filter = (Listener.command w).filter := rfl

/-- A scan listens under its own filter, if every command of the set-up could put it back. -/
theorem scanSetup_filter_of_restored {env : ScanEnv} {s : Sock} {up : CallResult}
    (hup : scanSetup env (s.setFilter scanFilter none) = .done up)
    (hrestored : ∀ call ∈ env.setupCalls (s.setFilter scanFilter none), call.2.restore = none) :
    up.sock.filter = Listener.reports.filter := by
  have hfold : ∀ (calls : List (Wrapper × CallEnv)) (f : HciFilter),
      (∀ call ∈ calls, call.2.restore = none) → filterAfterCalls calls f = f := by
    intro calls
    induction calls with
    | nil => exact fun _ _ => rfl
    | cons call calls ih =>
      intro f h
      have hf : call.2.filterAfter call.1.filter f = f :=
        if_neg fun hr => hr.2 (h call List.mem_cons_self)
      rw [filterAfterCalls, List.foldl_cons, hf]
      exact ih f fun c hc => h c (List.mem_cons_of_mem _ hc)
  rw [scanSetup_filter hup, hfold _ _ hrestored]
  rfl

/-- What a command waits for is an event code or a subevent below `64`. -/
theorem Wrapper.awaits_lt (w : Wrapper) : w.form.awaits.code < 64 := by
  cases w <;> decide

section

variable {w : Wrapper} {cparam rparam : List UInt8} {p : Packet}

/-- So is every event that a command uses, and no two of them share a bit. -/
theorem buf_lt_of_dispatch (h : dispatch (w.request cparam rparam) p ≠ .skip) :
    (p.buf 1).toNat < 64 := by
  by_cases hb : p.HasBranch
  · rcases hb with he | he | he | he <;> rw [he] <;> decide
  · have hlt := w.awaits_lt
    have he : ((p.buf 1).toNat : Int) = w.form.awaits.code := by
      by_contra hne
      rw [dispatch_default hb] at h
      exact h (if_pos hne)
    omega

theorem buf_eq_of_eventBit {c : UInt8} (hlt : (p.buf 1).toNat < 64)
    (h : eventBit (p.buf 1).toNat = c.toNat) : p.buf 1 = c := by
  unfold eventBit at h
  exact UInt8.toNat_inj.mp (by omega)

/-- It admits replies to its own opcode. -/
theorem hciFilterTestOpcode_command {opcode : UInt16}
    (h : opcode = (w.request cparam rparam).opcode) :
    hciFilterTestOpcode opcode.toNat (Listener.command w).filter = true := by
  rw [h]
  exact decide_eq_true (congrArg (fun n : UInt16 => (n.toNat : Int)) (ofInt_toNat16 _))

/-- **The filter of a command admits every event that the command uses.** -/
theorem admits_of_dispatch (hp : p.buf 0 = hciEventPkt)
    (h : dispatch (w.request cparam rparam) p ≠ .skip) :
    (Listener.command w).filter.Admits p := by
  have hlt := buf_lt_of_dispatch h
  have htype : hciFilterTestPtype hciEventPkt.toNat (Listener.command w).filter = true :=
    hciFilterTestPtype_reqFilter _ _
  have hevent : hciFilterTestEvent (p.buf 1).toNat (Listener.command w).filter = true := by
    by_cases hc : Completes (w.request cparam rparam) p
    · exact (reqFilter_admits hc).2
    · have hr : Refuses (w.request cparam rparam) p := by
        by_contra hr
        exact h (dispatch_of_neither hc hr)
      unfold Listener.filter Wrapper.filter reqFilter
      simp only [hciFilterTestEvent_setOpcode, hciFilterTestEvent_setEvent, hr.1]
      simp
  refine ⟨hp ▸ htype, fun _ => ⟨hevent, fun _ => ⟨fun hbit => ?_, fun hbit => ?_⟩⟩⟩
  · -- with another opcode the event would have been skipped
    by_contra ho
    have ho' : p.buf16 4 ≠ (w.request cparam rparam).opcode := fun he =>
      ho (hciFilterTestOpcode_command he)
    rw [dispatch_cmdComplete (buf_eq_of_eventBit hlt hbit)] at h
    exact h (if_pos ho')
  · by_contra ho
    have ho' : p.buf16 5 ≠ (w.request cparam rparam).opcode := fun he =>
      ho (hciFilterTestOpcode_command he)
    rw [dispatch_cmdStatus (buf_eq_of_eventBit hlt hbit)] at h
    exact h (if_pos ho')

/-- The filter of a scan admits every report that is recorded. -/
theorem admits_of_named (h : p.Named) : Listener.reports.filter.Admits p := by
  obtain ⟨h0, h1, -⟩ := h
  refine ⟨?_, fun _ => ⟨?_, fun hop => absurd rfl hop⟩⟩
  · rw [h0]
    rfl
  · rw [h1]
    rfl

end

/--
The packets that the kernel may hold back from a wait: its filter does not admit them.

A command relies on its filter for the type of a packet, so for commands this is about events.
-/
def HeldBack : Listener → Packet → Prop
  | .command w, p => p.buf 0 = hciEventPkt ∧ ¬(Listener.command w).filter.Admits p
  | .reports, p => ¬Listener.reports.filter.Admits p

theorem ignores_of_heldBack {l : Listener} {p : Packet} (h : HeldBack l p) : l.Ignores p := by
  cases l with
  | command w =>
    intro cparam rparam
    by_contra hd
    exact h.2 (admits_of_dispatch h.1 hd)
  | reports => exact fun hn => h (admits_of_named hn)

/--
**What the kernel holds back, no call would have used.**

Every run of calls comes to the same state whether the packets that the filters stop are delivered
or not. These filters are installed then: that of a command while it waits, and that of a scan while
it listens, unless a command of its set-up could not put it back.
-/
theorem Client.run_filtered (c : Client) {ops ops' : List Op}
    (h : List.Forall₂ (Op.NoisedBy HeldBack) ops ops') :
    c.run ops' = c.run ops ∧
    (∀ (w : Wrapper) (cparam rparam : List UInt8) (env : ReqEnv) (s : Sock),
      (waitSock (w.request cparam rparam) env s).filter = (Listener.command w).filter) ∧
    ∀ (env : ScanEnv) (s : Sock) (up : CallResult),
      scanSetup env (s.setFilter scanFilter none) = .done up →
      (∀ call ∈ env.setupCalls (s.setFilter scanFilter none), call.2.restore = none) →
      up.sock.filter = Listener.reports.filter :=
  ⟨run_noised (fun _ _ hp => ignores_of_heldBack hp) h c, waitSock_filter,
    fun _ _ _ hup hrestored => scanSetup_filter_of_restored hup hrestored⟩

/-- A Disconnection Complete, which neither a scan nor its commands wait for. -/
def droppedLink : Packet := .ofBytes [0x04, 0x05, 0x04, 0x00, 0x40, 0x00, 0x13] (by decide)

/-- A scan during which a link drops while it starts, and another while it listens. -/
theorem Client.run_filtered_droppedLink :
    (Client.fresh).run [.scan 0 .zero 5 1000 { acceptedScan with
      enable := { acceptedScan.enable with
        turns := ⟨0, .ready (.got droppedLink)⟩ :: acceptedScan.enable.turns }
      turns := ⟨0, .ready (.got droppedLink)⟩ :: acceptedScan.turns }] =
    (Client.fresh).run [.scan 0 .zero 5 1000 acceptedScan] := by
  have hbrings : ∀ l limit, HeldBack l droppedLink → 0 ≤ limit →
      Turn.Brings ⟨0, .ready (.got droppedLink)⟩ (HeldBack l) 0 limit := fun l limit hl hlimit =>
    ⟨droppedLink, ⟨by show ¬(0 : Int) - 0 > limit; omega, rfl, by decide⟩, hl⟩
  have henable : HeldBack (.command .leSetScanEnable) droppedLink :=
    ⟨rfl, fun h => absurd (h.2 rfl).1 (by decide)⟩
  have hreports : HeldBack .reports droppedLink := fun h => absurd (h.2 rfl).1 (by decide)
  refine (run_filtered fresh (.cons (.scan ?_) .nil)).1
  refine ⟨rfl, rfl, ⟨_, rfl, Padded.refl _⟩, ⟨_, rfl, Padded.refl _⟩, ⟨_, rfl, Padded.refl _⟩,
    ⟨_, rfl, ?_⟩, ?_, ⟨_, rfl, Padded.refl _⟩, rfl⟩
  · exact .pad _ (hbrings _ 10000 henable (by decide)) (Padded.refl _)
  · exact .pad _ (hbrings _ 1000 hreports (by decide)) (Padded.refl _)

end LinuxBle
