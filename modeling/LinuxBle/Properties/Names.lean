import Mathlib.Data.List.Flatten
import LinuxBle.Hci.Names
import LinuxBle.Infra.Lines
import LinuxBle.Infra.Numeral

/-!
# What is written for a number, and what is read

* `hciCommandstostr_lines` — the lines that `hci_commandstostr` writes, and when they do not fit
  into the memory that it asks for
* `hciStr2bit_bitNames`, `hciStr2uint_hciUint2str` — which texts are read back
* `hciDflagstostr_eq_fault_iff`, `hciLmtostr_eq_fault_iff` — memory that is too small
-/

namespace LinuxBle

open Infra

/-! ## Names on lines -/

namespace NameForm

variable {form : NameForm} {pref : List Char}

/-- What stands on a line behind the prefix. -/
def lineText (form : NameForm) (line : List (List Char)) : List Char := line.flatMap form.text

/-- There is room on a line for a name; what stands around it is left out. -/
def fits (form : NameForm) (maxwidth : Nat) (line : List (List Char)) (name : List Char) : Bool :=
  (form.lineText line).length + name.length ≤ maxwidth

/-- The whole text: each line behind the prefix. -/
def layout (form : NameForm) (pref : List Char) (lines : List (List (List Char))) : List Char :=
  "\n".toList.intercalate (lines.map fun line => pref ++ form.lineText line)

/-- What is written for some names, when `line` is on the last line already. -/
def written (form : NameForm) (pref : List Char) (maxwidth : Nat) :
    List (List Char) → List (List Char) → List Char
  | _, [] => []
  | line, name :: names =>
    if form.fits maxwidth line name then
      form.text name ++ form.written pref maxwidth (line ++ [name]) names
    else ("\n".toList ++ pref) ++ (form.text name ++ form.written pref maxwidth [name] names)

theorem lineText_append_singleton (line : List (List Char)) (name : List Char) :
    form.lineText (line ++ [name]) = form.lineText line ++ form.text name := by
  simp [lineText]

/-- The second loop writes that, in one piece or in many. -/
theorem putNames_eq (form : NameForm) (pref : List Char) {size maxwidth : Nat}
    {st : Progress size} {start : List Char} {line : List (List Char)}
    (hbuf : st.buf.text = start ++ form.lineText line)
    (hoff : st.off = start.length) {β : Type} (f : List Char → β) (names : List (List Char)) :
    (form.putNames pref maxwidth st names >>= fun st => pure (f st.buf.text)) =
      st.buf.put (form.written pref maxwidth line names) >>= fun b => pure (f b.text) := by
  induction names generalizing st start line with
  | nil =>
    rw [putNames, written, Buffer.put_nil]
    rfl
  | cons name names ih =>
    -- `off` is where the last line begins, so the line is what is written behind it
    have hline : st.buf.text.drop st.off = form.lineText line := by
      rw [hbuf, hoff, List.drop_left]
    rw [putNames, put, hline]
    by_cases hfits : form.fits maxwidth line name = true
    · have hroom : ¬maxwidth < (form.lineText line).length + name.length := by
        simpa [fits] using hfits
      rw [if_neg hroom, written, if_pos hfits, ← Buffer.put_put]
      simp only [Outcome.pure_eq, Outcome.done_bind, Outcome.bind_assoc]
      refine Outcome.bind_congr fun b hb => ih ?_ hoff
      rw [lineText_append_singleton, ← List.append_assoc, ← hbuf]
      exact Buffer.put_eq_done_iff.mp hb
    · have hroom : maxwidth < (form.lineText line).length + name.length := by
        simpa [fits] using hfits
      rw [if_pos hroom, written, if_neg hfits, ← Buffer.put_put _ ("\n".toList ++ pref)]
      simp only [Outcome.pure_eq, Outcome.done_bind, Outcome.bind_assoc]
      refine Outcome.bind_congr fun b _ => ?_
      rw [← Buffer.put_put, Outcome.bind_assoc]
      refine Outcome.bind_congr fun b' hb' => ih ?_ rfl
      simpa [lineText] using Buffer.put_eq_done_iff.mp hb'

theorem layout_cons (line : List (List Char)) {lines : List (List (List Char))} (h : lines ≠ []) :
    form.layout pref (line :: lines) =
      pref ++ form.lineText line ++ "\n".toList ++ form.layout pref lines := by
  unfold layout
  rw [List.map_cons, List.intercalate_cons_of_ne_nil (by simpa using h)]

/-- What is written are the lines, below each other. -/
theorem layout_fillLines (form : NameForm) (pref : List Char) (maxwidth : Nat)
    (line names : List (List Char)) :
    form.layout pref (fillLines (form.fits maxwidth) line names) =
      pref ++ form.lineText line ++ form.written pref maxwidth line names := by
  induction names generalizing line with
  | nil => simp [fillLines, layout, written]
  | cons name names ih =>
    unfold fillLines written
    split
    · next hfits =>
      rw [ih, lineText_append_singleton]
      simp
    · next hfits =>
      have hne : fillLines (form.fits maxwidth) [name] names ≠ [] :=
        List.ne_nil_of_length_pos (length_fillLines_pos ..)
      rw [layout_cons line hne, ih]
      simp [lineText]

theorem length_layout (form : NameForm) (pref : List Char) {lines : List (List (List Char))}
    (h : lines ≠ []) :
    (form.layout pref lines).length + 1 =
      lines.length * (pref.length + 1) + (form.lineText lines.flatten).length := by
  induction lines with
  | nil => exact absurd rfl h
  | cons line lines ih =>
    cases lines with
    | nil =>
      simp [layout]
      omega
    | cons next lines =>
      have hrest := ih (List.cons_ne_nil _ _)
      have hflat : form.lineText (line :: next :: lines).flatten =
          form.lineText line ++ form.lineText (next :: lines).flatten := List.flatMap_append
      have hfeed : "\n".toList.length = 1 := rfl
      rw [layout_cons line (List.cons_ne_nil _ _), hflat, List.length_cons (a := line),
        Nat.add_mul _ 1]
      simp only [List.length_append, hfeed, Nat.one_mul]
      omega

theorem foldl_space (names : List (List Char)) (size : Nat) :
    names.foldl (fun size name => size + form.space pref name) size =
      size + names.length * pref.length + (form.lineText names).length := by
  induction names generalizing size with
  | nil => simp [lineText]
  | cons name names ih =>
    have hline : form.lineText (name :: names) = form.text name ++ form.lineText names :=
      List.flatMap_cons
    rw [List.foldl_cons, ih, hline, List.length_append, List.length_cons, Nat.add_mul]
    simp only [space, text, List.length_append, Nat.one_mul]
    omega

theorem total_eq (names : List (List Char)) :
    form.total pref names = 10 + names.length * pref.length + (form.lineText names).length :=
  foldl_space names 10

theorem size_eq {names : List (List Char)} (h : form.total pref names < 2 ^ 31) :
    form.size pref names = form.total pref names := by
  have hnat : (BitVec.ofNat 32 (form.total pref names)).toNat = form.total pref names := by
    rw [BitVec.toNat_ofNat]
    omega
  rw [size, BitVec.toInt_eq_toNat_of_lt (by omega), hnat]

/-- **The text comes whole, if there is memory for it.** -/
theorem tostr_eq {names : List (List Char)} {pref : Option (List Char)} (width : Int)
    (h : form.total (pref.getD []) names < 2 ^ 31) :
    form.tostr names pref width none =
      let text := form.layout (pref.getD [])
        (fillLines (form.fits (form.maxwidth width)) [] names)
      if text.length < form.total (pref.getD []) names then .done (some text) else .fault := by
  have hpos : ¬form.size (pref.getD []) names < 0 := by
    rw [size_eq h]
    omega
  have hputs : ∀ b : Buffer (form.size (pref.getD []) names).toNat,
      (form.putNames (pref.getD []) (form.maxwidth width) ⟨b, b.text.length⟩ names >>=
        fun st => pure (some st.buf.text)) =
      b.put (form.written (pref.getD []) (form.maxwidth width) [] names) >>=
        fun b => pure (some b.text) := by
    intro b
    exact putNames_eq form _ (List.append_nil b.text).symm rfl some names
  have hlayout := layout_fillLines form (pref.getD []) (form.maxwidth width) [] names
  rw [show form.lineText [] = [] from rfl, List.append_nil] at hlayout
  have hnat : (form.size (pref.getD []) names).toNat = form.total (pref.getD []) names := by
    rw [size_eq h, Int.toNat_natCast]
  unfold tostr
  simp only [Option.isSome_none, Bool.false_eq_true, false_or, if_neg hpos, hputs]
  rw [hlayout, ← hnat, ← Buffer.text_put some]
  refine Outcome.bind_congr fun b _ => ?_
  rw [← Buffer.put_put, Outcome.bind_assoc]

/-- A line with more than one name is no longer than what stands around a name lets it be. -/
theorem length_lineText_le {maxwidth : Nat} {line : List (List Char)}
    (h : LineFits (form.fits maxwidth) 1 line) (hlen : 1 < line.length) :
    (form.lineText line).length ≤ maxwidth + (form.before.length + form.behind.length) := by
  rcases List.eq_nil_or_concat line with rfl | ⟨pre, last, rfl⟩
  · exact absurd hlen (by decide)
  · rw [List.concat_eq_append] at h hlen ⊢
    rw [List.length_append, List.length_singleton] at hlen
    have hlast : (form.lineText pre).length + last.length ≤ maxwidth := by
      simpa [fits] using h pre last [] rfl (by omega)
    rw [lineText_append_singleton]
    simp only [text, List.length_append]
    omega

theorem maxwidth_eq (form : NameForm) {width : Int} (hlo : form.margin ≤ width)
    (hhi : width - form.margin < 2 ^ 31) : (form.maxwidth width : Int) = width - form.margin := by
  rw [maxwidth, BitVec.toNat_ofInt]
  omega

/--
**The lines for some names**: all of them in their order, each line filled before the next begins
and, unless it has but one name, no longer than `width`.

They do not fit into the memory that is asked for when they and their prefixes take more than ten
characters beyond a prefix for each name: without a prefix, from the eleventh line on.
-/
theorem tostr_lines {names : List (List Char)} {pref : Option (List Char)} (width : Int)
    (hmargin : form.margin = (form.before.length + form.behind.length : Nat))
    (h : form.total (pref.getD []) names < 2 ^ 31) :
    ∃ lines, Filled (form.fits (form.maxwidth width)) 0 lines ∧ lines.flatten = names ∧
      (form.margin ≤ width → width < 2 ^ 31 → ∀ line ∈ lines, 1 < line.length →
        (form.lineText line).length ≤ width) ∧
      form.tostr names pref width none =
        if lines.length * ((pref.getD []).length + 1) ≤
            10 + names.length * (pref.getD []).length then
          .done (some (form.layout (pref.getD []) lines))
        else .fault := by
  have hfilled : Filled (form.fits (form.maxwidth width)) 0
      (fillLines (form.fits (form.maxwidth width)) [] names) :=
    filled_fillLines names (lineFits_of_length_le (Nat.zero_le _))
  have hflat := flatten_fillLines (form.fits (form.maxwidth width)) [] names
  rw [List.nil_append] at hflat
  refine ⟨_, hfilled, hflat, fun hlo hhi line hline hlen => ?_, ?_⟩
  · have hmax := form.maxwidth_eq hlo (by omega)
    have hle := length_lineText_le (hfilled.lineFits (by decide) line hline) hlen
    omega
  · have hlen := length_layout form (pref.getD []) (List.ne_nil_of_length_pos
      (length_fillLines_pos (form.fits (form.maxwidth width)) [] names))
    rw [hflat] at hlen
    rw [tostr_eq width h]
    simp only [total_eq]
    exact ite_congr (propext (by omega)) (fun _ => rfl) fun _ => rfl

end NameForm

/--
**The lines that `hci_commandstostr` writes, and when there is no room for them.**

With a width from `3` on no line of several names is longer than that behind its prefix; with a
smaller one `width - 3` wraps, and all names stand on one line.
-/
theorem hciCommandstostr_lines (commands : Vector UInt8 64) (pref : Option (List Char))
    (width : Int) (h : commandForm.total (pref.getD []) (commandNames commands) < 2 ^ 31) :
    ∃ lines, Filled (commandForm.fits (commandForm.maxwidth width)) 0 lines ∧
      lines.flatten = commandNames commands ∧
      (3 ≤ width → width < 2 ^ 31 → ∀ line ∈ lines, 1 < line.length →
        (commandForm.lineText line).length ≤ width) ∧
      hciCommandstostr commands pref width none =
        if lines.length * ((pref.getD []).length + 1) ≤
            10 + (commandNames commands).length * (pref.getD []).length then
          .done (some (commandForm.layout (pref.getD []) lines))
        else .fault :=
  NameForm.tostr_lines width rfl h

/-- Two commands are supported. -/
def twoCommands : Vector UInt8 64 := (Vector.replicate 64 0).set 0 3

theorem hciCommandstostr_lines_twoCommands :
    hciCommandstostr twoCommands none 20 none =
      .done (some "'Inquiry' \n'Inquiry Cancel' ".toList) := by
  have hnames : commandNames twoCommands = ["Inquiry".toList, "Inquiry Cancel".toList] := by
    decide +kernel
  obtain ⟨lines, hfilled, hflat, -, htext⟩ := hciCommandstostr_lines twoCommands none 20 (by
    rw [hnames]
    decide)
  have hlines : lines = [["Inquiry".toList], ["Inquiry Cancel".toList]] := by
    rw [hfilled.eq_fillLines, hflat, hnames]
    rfl
  rw [htext, hlines, hnames]
  rfl

/-- `lmp_featurestostr` writes its lines in the same way. -/
theorem lmpFeaturestostr_lines (features : Vector UInt8 8) (pref : Option (List Char))
    (width : Int) (h : featureForm.total (pref.getD []) (featureNames features) < 2 ^ 31) :
    ∃ lines, Filled (featureForm.fits (featureForm.maxwidth width)) 0 lines ∧
      lines.flatten = featureNames features ∧
      (1 ≤ width → width < 2 ^ 31 → ∀ line ∈ lines, 1 < line.length →
        (featureForm.lineText line).length ≤ width) ∧
      lmpFeaturestostr features pref width none =
        if lines.length * ((pref.getD []).length + 1) ≤
            10 + (featureNames features).length * (pref.getD []).length then
          .done (some (featureForm.layout (pref.getD []) lines))
        else .fault :=
  NameForm.tostr_lines width rfl h

/-! ## Bits -/

/-- All bits that have a name. -/
def namedBits (map : List HciMap) : BitVec 32 := map.foldl (fun bits m => bits ||| m.val) 0

/-- The names of the bits of a number. -/
def bitNames (map : List HciMap) (val : BitVec 32) : List (List Char) :=
  (map.filter fun m => m.val &&& val ≠ 0).map fun m => m.str.toList

/-- The tables for `hci_bit2str` and `hci_str2bit`. -/
def bitMaps : List (List HciMap) := [pktTypeMap, scoPtypeMap, linkPolicyMap, linkModeMap]

/-- What these tables have in common: plain and different names, and one bit at most for each. -/
structure ReadableMap (map : List HciMap) : Prop where
  plain : ∀ m ∈ map, m.str.toList ≠ [] ∧ ',' ∉ m.str.toList ∧ ' ' ∉ m.str.toList
  unlike : ∀ m ∈ map, ∀ m' ∈ map, strcaseeq m.str.toList m'.str.toList = true → m = m'
  oneBit : ∀ m ∈ map, m.val = 0 ∨ ∃ i < 32, m.val = BitVec.twoPow 32 i
  short : (map.flatMap bitText).length < 120

theorem readableMap_of_mem {map : List HciMap} (h : map ∈ bitMaps) : ReadableMap map := by
  simp only [bitMaps, List.mem_cons, List.not_mem_nil, or_false] at h
  rcases h with rfl | rfl | rfl | rfl <;>
    exact ⟨by decide, by decide, by decide, by decide⟩

/-- `hci_bit2str` has memory enough for these tables. -/
theorem hciBit2str_eq {map : List HciMap} (hmap : ReadableMap map) (val : BitVec 32) :
    hciBit2str map val none =
      .done (some ((map.filter fun m => m.val &&& val ≠ 0).flatMap bitText)) := by
  have hsub : ((map.filter fun m => m.val &&& val ≠ 0).flatMap bitText).Sublist
      (map.flatMap bitText) := List.filter_sublist.flatMap bitText
  have hshort := Nat.lt_of_le_of_lt hsub.length_le hmap.short
  rw [List.flatMap_def] at hshort ⊢
  unfold hciBit2str
  rw [if_neg (by decide), Buffer.text_putAll some, if_pos hshort]

/-- An entry is named by a piece, and has the bit `i`. -/
def Names (map : List HciMap) (t : List Char) (i : Nat) : Bool :=
  map.any fun m => strcaseeq m.str.toList t && m.val.getLsbD i

theorem str2bitPiece_spec (map : List HciMap) (st : BitVec 32 × Int) (t : List Char) :
    (∀ i, (str2bitPiece map st t).1.getLsbD i = (st.1.getLsbD i || Names map t i)) ∧
      (str2bitPiece map st t).2 =
        if map.any fun m => strcaseeq m.str.toList t then 1 else st.2 := by
  unfold str2bitPiece Names
  induction map generalizing st with
  | nil => exact ⟨fun i => (Bool.or_false _).symm, rfl⟩
  | cons m map ih =>
    rw [List.foldl_cons]
    obtain ⟨hbits, hset⟩ := ih (if strcaseeq m.str.toList t then (st.1 ||| m.val, 1) else st)
    refine ⟨fun i => ?_, ?_⟩
    · rw [hbits i]
      cases ht : strcaseeq m.str.toList t <;> simp [ht, Bool.or_assoc]
    · rw [hset]
      cases ht : strcaseeq m.str.toList t <;> simp [ht]

theorem str2bitPieces_spec (map : List HciMap) (st : BitVec 32 × Int) (ts : List (List Char)) :
    (∀ i, (ts.foldl (str2bitPiece map) st).1.getLsbD i =
      (st.1.getLsbD i || ts.any fun t => Names map t i)) ∧
    (ts.foldl (str2bitPiece map) st).2 =
      if ts.any fun t => map.any fun m => strcaseeq m.str.toList t then 1 else st.2 := by
  induction ts generalizing st with
  | nil => exact ⟨fun i => (Bool.or_false _).symm, rfl⟩
  | cons t ts ih =>
    obtain ⟨hbits, hset⟩ := str2bitPiece_spec map st t
    obtain ⟨hbits', hset'⟩ := ih (str2bitPiece map st t)
    rw [List.foldl_cons]
    refine ⟨fun i => ?_, ?_⟩
    · rw [hbits', hbits, List.any_cons, Bool.or_assoc]
    · rw [hset', hset, List.any_cons]
      cases map.any fun m => strcaseeq m.str.toList t <;> simp

/-- **What `hci_str2bit` reads**: the bits of all entries that a piece of the string names. -/
theorem hciStr2bit_spec (map : List HciMap) (str : List Char) (val : BitVec 32) :
    (∀ i, (hciStr2bit map (some str) none val).2.getLsbD i =
      (str.splitOn ',').any fun t => Names map t i) ∧
    (hciStr2bit map (some str) none val).1 =
      if (str.splitOn ',').any fun t => map.any fun m => strcaseeq m.str.toList t then 1
      else 0 := by
  obtain ⟨hbits, hset⟩ := str2bitPieces_spec map (0, 0) (str.splitOn ',')
  exact ⟨fun i => by rw [hciStr2bit, hbits]; simp, hset⟩

/-- Only letters have another letter case. -/
theorem toLower_eq_iff {c d : Char} (hd : d.toNat < 65) : c.toLower = d ↔ c = d := by
  rw [← Char.toNat_inj, ← Char.toNat_inj, toNat_toLower]
  split <;> omega

theorem strcaseeq_refl (s : List Char) : strcaseeq s s = true := decide_eq_true rfl

theorem getLsbD_namedBits (map : List HciMap) (i : Nat) :
    (namedBits map).getLsbD i = map.any fun m => m.val.getLsbD i := by
  have hfold : ∀ (map : List HciMap) (bits : BitVec 32),
      (map.foldl (fun bits m => bits ||| m.val) bits).getLsbD i =
        (bits.getLsbD i || map.any fun m => m.val.getLsbD i) := by
    intro map
    induction map with
    | nil => exact fun bits => (Bool.or_false _).symm
    | cons m map ih =>
      intro bits
      rw [List.foldl_cons, ih, BitVec.getLsbD_or, List.any_cons, Bool.or_assoc]
  rw [namedBits, hfold]
  simp

section

variable {map : List HciMap} {val : BitVec 32}

/-- An entry with one bit is selected if that bit is set. -/
theorem ReadableMap.selected_iff (hmap : ReadableMap map) {m : HciMap} (hm : m ∈ map) (i : Nat) :
    m.val &&& val ≠ 0 ∧ m.val.getLsbD i = true ↔
      m.val.getLsbD i = true ∧ val.getLsbD i = true := by
  rcases hmap.oneBit m hm with hzero | ⟨j, hj, hval⟩
  · -- an entry without a bit, like `NONE`, is never selected
    simp [hzero]
  · have hpow : BitVec.twoPow 32 j ≠ 0 := by
      intro hzero
      have hbit := congrArg (fun b : BitVec 32 => b.getLsbD j) hzero
      simp [hj] at hbit
    rw [hval, BitVec.twoPow_and, BitVec.getLsbD_twoPow, decide_eq_true hj, Bool.true_and,
      decide_eq_true_eq]
    constructor
    · rintro ⟨hne, rfl⟩
      refine ⟨rfl, ?_⟩
      cases hbit : val.getLsbD j with
      | true => rfl
      | false =>
        rw [hbit] at hne
        exact absurd rfl hne
    · rintro ⟨rfl, hbit⟩
      rw [hbit]
      exact ⟨hpow, rfl⟩

theorem ReadableMap.not_strcaseeq_nil (hmap : ReadableMap map) {m : HciMap} (hm : m ∈ map) :
    strcaseeq m.str.toList [] = false := by
  have hne := (hmap.plain m hm).1
  simpa [strcaseeq] using hne

/-- Nothing with a blank in it is a name. -/
theorem ReadableMap.not_strcaseeq_of_blank (hmap : ReadableMap map) {m : HciMap} (hm : m ∈ map)
    {t : List Char} (ht : ' ' ∈ t) : strcaseeq m.str.toList t = false := by
  refine decide_eq_false fun heq => (hmap.plain m hm).2.2 ?_
  have hmem : ' ' ∈ m.str.toList.map Char.toLower := by
    rw [heq]
    exact List.mem_map.mpr ⟨' ', ht, rfl⟩
  obtain ⟨c, hc, hlower⟩ := List.mem_map.mp hmem
  rw [toLower_eq_iff (by decide)] at hlower
  exact hlower ▸ hc

theorem comma_mem_iff {t t' : List Char} (h : t.map Char.toLower = t'.map Char.toLower) :
    ',' ∈ t ↔ ',' ∈ t' := by
  have hmap : ∀ s : List Char, ',' ∈ s ↔ ',' ∈ s.map Char.toLower := by
    intro s
    rw [List.mem_map]
    constructor
    · exact fun hs => ⟨',', hs, rfl⟩
    · rintro ⟨c, hc, hlower⟩
      rw [toLower_eq_iff (by decide)] at hlower
      exact hlower ▸ hc
  rw [hmap t, h, ← hmap t']

/-- The pieces of texts with commas between them. -/
theorem any_splitOn_intercalate {texts : List (List Char)} (h : ∀ t ∈ texts, ',' ∉ t)
    {P : List Char → Bool} (hnil : P [] = false) :
    (([','].intercalate texts).splitOn ',').any P = texts.any P := by
  by_cases hne : texts = []
  · rw [hne]
    simp [hnil]
  · rw [List.splitOn_intercalate ',' h hne]

theorem splitOn_of_not_mem {text : List Char} (h : ',' ∉ text) : text.splitOn ',' = [text] := by
  have hone : ([','].intercalate [text]).splitOn ',' = [text] :=
    List.splitOn_intercalate ',' (by simpa using h) (by simp)
  rwa [List.intercalate_singleton] at hone

/-- A text without commas is read as one name. -/
theorem hciStr2bit_of_not_named {text : List Char} (hcomma : ',' ∉ text)
    (hnot : ∀ m ∈ map, strcaseeq m.str.toList text = false) (v : BitVec 32) :
    hciStr2bit map (some text) none v = (0, 0) := by
  have hsplit := splitOn_of_not_mem hcomma
  obtain ⟨hbits, hset⟩ := hciStr2bit_spec map text v
  rw [hsplit] at hbits hset
  refine Prod.ext ?_ (BitVec.eq_of_getLsbD_eq fun i _ => ?_)
  · rw [hset, if_neg]
    simpa using hnot
  · have hno : Names map text i = false := by
      refine List.any_eq_false.mpr fun m hm => ?_
      simp [hnot m hm]
    rw [hbits, List.any_cons, hno]
    exact BitVec.getLsbD_zero.symm

/-- The names of the bits of a number, in any letter case, name the bits of that number. -/
theorem ReadableMap.any_names_iff (hmap : ReadableMap map) {texts : List (List Char)}
    (h : texts.map (List.map Char.toLower) = (bitNames map val).map (List.map Char.toLower))
    (Q : HciMap → Bool) :
    (texts.any fun t => map.any fun m => strcaseeq m.str.toList t && Q m) =
      map.any fun m => decide (m.val &&& val ≠ 0) && Q m := by
  have hlower : ∀ ts : List (List Char),
      (ts.any fun t => map.any fun m => strcaseeq m.str.toList t && Q m) =
        (ts.map (List.map Char.toLower)).any fun t =>
          map.any fun m => decide (m.str.toList.map Char.toLower = t) && Q m := by
    intro ts
    rw [List.any_map]
    rfl
  rw [hlower, h, ← hlower, bitNames, List.any_map, Bool.eq_iff_iff]
  simp only [List.any_eq_true, List.mem_filter, Function.comp_apply, Bool.and_eq_true]
  constructor
  · rintro ⟨m', ⟨hm', hval⟩, m, hm, heq, hQ⟩
    rw [← hmap.unlike m hm m' hm' heq] at hval
    exact ⟨m, hm, hval, hQ⟩
  · rintro ⟨m, hm, hval, hQ⟩
    exact ⟨m, ⟨hm, hval⟩, m, hm, strcaseeq_refl _, hQ⟩

theorem ReadableMap.any_selected (hmap : ReadableMap map) (val : BitVec 32) (i : Nat) :
    (map.any fun m => decide (m.val &&& val ≠ 0) && m.val.getLsbD i) =
      (val &&& namedBits map).getLsbD i := by
  rw [BitVec.getLsbD_and, getLsbD_namedBits, Bool.eq_iff_iff]
  simp only [List.any_eq_true, Bool.and_eq_true, decide_eq_true_eq]
  constructor
  · rintro ⟨m, hm, hsel⟩
    obtain ⟨hbit, hval⟩ := (hmap.selected_iff hm i).mp hsel
    exact ⟨hval, m, hm, hbit⟩
  · rintro ⟨hval, m, hm, hbit⟩
    exact ⟨m, hm, (hmap.selected_iff hm i).mpr ⟨hbit, hval⟩⟩

/-- A number has a named bit if an entry is selected. -/
theorem ReadableMap.any_selected_iff (hmap : ReadableMap map) (val : BitVec 32) :
    (map.any fun m => decide (m.val &&& val ≠ 0)) = true ↔ ¬val &&& namedBits map = 0 := by
  rw [List.any_eq_true]
  constructor
  · rintro ⟨m, hm, hsel⟩ hzero
    rcases hmap.oneBit m hm with hval | ⟨j, hj, hval⟩
    · simp [hval] at hsel
    · have hbit : (val &&& namedBits map).getLsbD j = false := by
        rw [hzero]
        exact BitVec.getLsbD_zero
      rw [← hmap.any_selected, List.any_eq_false] at hbit
      refine hbit m hm ?_
      rw [hsel, hval, BitVec.getLsbD_twoPow]
      simp [hj]
  · intro hne
    by_cases hany : ∃ m ∈ map, decide (m.val &&& val ≠ 0) = true
    · exact hany
    · refine absurd (BitVec.eq_of_getLsbD_eq fun i _ => ?_) hne
      rw [← hmap.any_selected, List.any_eq_false.mpr]
      · exact BitVec.getLsbD_zero.symm
      · exact fun m hm hsel => hany ⟨m, hm, (Bool.and_eq_true_iff.mp hsel).1⟩

end

/--
**What `hci_bit2str` writes is never read by `hci_str2bit`**: it puts blanks between the names. With
commas between them, and in any letter case, the names are read as the bits that they were written
for.
-/
theorem hciStr2bit_bitNames {map : List HciMap} (hmem : map ∈ bitMaps) (val v : BitVec 32) :
    (∃ text, hciBit2str map val none = .done (some text) ∧
      hciStr2bit map (some text) none v = (0, 0)) ∧
    ∀ texts : List (List Char),
      texts.map (List.map Char.toLower) = (bitNames map val).map (List.map Char.toLower) →
      hciStr2bit map (some ([','].intercalate texts)) none v =
        (if val &&& namedBits map = 0 then 0 else 1, val &&& namedBits map) := by
  have hmap := readableMap_of_mem hmem
  constructor
  · refine ⟨_, hciBit2str_eq hmap val, hciStr2bit_of_not_named ?_ (fun m hm => ?_) v⟩
    · intro hcomma
      obtain ⟨m, hm, hc⟩ := List.mem_flatMap.mp hcomma
      rcases List.mem_append.mp hc with hname | hblank
      · exact (hmap.plain m (List.mem_filter.mp hm).1).2.1 hname
      · simp at hblank
    · -- the text is empty, or there is a blank in it
      cases hsel : map.filter fun m => m.val &&& val ≠ 0 with
      | nil => exact hmap.not_strcaseeq_nil hm
      | cons m' ms => exact hmap.not_strcaseeq_of_blank hm (by simp [bitText])
  · intro texts htexts
    -- a comma has no other letter case, so it would be in the name as well
    have hcomma : ∀ t ∈ texts, ',' ∉ t := by
      intro t ht hc
      have hmem' := List.mem_map_of_mem (f := List.map Char.toLower) ht
      rw [htexts] at hmem'
      obtain ⟨t', ht', heq⟩ := List.mem_map.mp hmem'
      obtain ⟨m, hm, rfl⟩ := List.mem_map.mp ht'
      exact (hmap.plain m (List.mem_filter.mp hm).1).2.1 ((comma_mem_iff heq).mpr hc)
    obtain ⟨hbits, hset⟩ := hciStr2bit_spec map ([','].intercalate texts) v
    refine Prod.ext ?_ (BitVec.eq_of_getLsbD_eq fun i _ => ?_)
    · have hany := hmap.any_names_iff htexts fun _ => true
      simp only [Bool.and_true] at hany
      rw [hset, any_splitOn_intercalate hcomma, hany]
      · by_cases hzero : val &&& namedBits map = 0
        · rw [if_pos hzero, if_neg ((hmap.any_selected_iff val).not.mpr (not_not.mpr hzero))]
        · rw [if_neg hzero, if_pos ((hmap.any_selected_iff val).mpr hzero)]
      · exact List.any_eq_false.mpr fun m hm => by simp [hmap.not_strcaseeq_nil hm]
    · rw [hbits, any_splitOn_intercalate hcomma, ← hmap.any_selected]
      · exact hmap.any_names_iff htexts fun m => m.val.getLsbD i
      · exact List.any_eq_false.mpr fun m hm => by simp [hmap.not_strcaseeq_nil hm]

/-- The packet types `DM1` and `DH1`, in lower case. -/
theorem hciStr2bit_bitNames_dm1 :
    hciStr2bit pktTypeMap (some "dm1,dh1".toList) none 7 = (1, 0x0018) := by
  have hmem : pktTypeMap ∈ bitMaps := by decide
  exact (hciStr2bit_bitNames hmem 0x0018 7).2 ["dm1".toList, "dh1".toList] (by decide)

/-! ## Numbers -/

/-- The tables for `hci_uint2str` and `hci_str2uint`. -/
def numberMaps : List (List HciMap) := [verMap, palMap]

theorem hciUint2str_eq {map : List HciMap} (hshort : ∀ m ∈ map, m.str.toList.length < 50)
    (val : BitVec 32) :
    hciUint2str map val none =
      .done (some (((map.find? fun m => m.val = val).map fun m => m.str.toList).getD [])) := by
  unfold hciUint2str
  rw [if_neg (by decide)]
  cases hfind : map.find? fun m => m.val = val with
  | none => exact (Buffer.text_put some 50 []).trans (if_pos (by decide))
  | some m =>
    exact (Buffer.text_put some 50 m.str.toList).trans
      (if_pos (hshort m (List.mem_of_find?_eq_some hfind)))

/-- **The name of a version is read as that version**, and nothing where there is no name. -/
theorem hciStr2uint_hciUint2str {map : List HciMap} (hmem : map ∈ numberMaps)
    (val v : BitVec 32) :
    ∃ text, hciUint2str map val none = .done (some text) ∧
      hciStr2uint map (some text) none v =
        if ∃ m ∈ map, m.val = val then (1, val) else (0, v) := by
  have hplain : (∀ m ∈ map, m.str.toList.length < 50 ∧ m.str.toList ≠ [] ∧ ',' ∉ m.str.toList) ∧
      ∀ m ∈ map, ∀ m' ∈ map, strcaseeq m.str.toList m'.str.toList = true → m = m' := by
    simp only [numberMaps, List.mem_cons, List.not_mem_nil, or_false] at hmem
    rcases hmem with rfl | rfl <;> exact ⟨by decide, by decide⟩
  obtain ⟨hplain, hunlike⟩ := hplain
  refine ⟨_, hciUint2str_eq (fun m hm => (hplain m hm).1) val, ?_⟩
  cases hfind : map.find? fun m => m.val = val with
  | none =>
    have hno : ¬∃ m ∈ map, m.val = val := by
      rintro ⟨m, hm, hval⟩
      exact List.find?_eq_none.mp hfind m hm (decide_eq_true hval)
    have hpiece : map.find? (fun m => strcaseeq m.str.toList []) = none := by
      refine List.find?_eq_none.mpr fun m hm => ?_
      simpa [strcaseeq] using (hplain m hm).2.1
    rw [if_neg hno]
    simp [hciStr2uint, str2uintPiece, hpiece]
  | some m =>
    have hm := List.mem_of_find?_eq_some hfind
    have hval : m.val = val := by simpa using List.find?_some hfind
    have hsplit := splitOn_of_not_mem (hplain m hm).2.2
    have hpiece : map.find? (fun m' => strcaseeq m'.str.toList m.str.toList) = some m := by
      cases hfind' : map.find? fun m' => strcaseeq m'.str.toList m.str.toList with
      | none => exact absurd (strcaseeq_refl _) (List.find?_eq_none.mp hfind' m hm)
      | some m' =>
        have heq : strcaseeq m'.str.toList m.str.toList = true :=
          List.find?_some (p := fun m' : HciMap => strcaseeq m'.str.toList m.str.toList) hfind'
        rw [hunlike m' (List.mem_of_find?_eq_some hfind') m hm heq]
    rw [if_pos ⟨m, hm, hval⟩]
    simp [hciStr2uint, str2uintPiece, hsplit, hpiece, hval]

/-! ## Memory that is too small -/

theorem length_flatMap_filter {α : Type} (p : α → Bool) (f : α → List Char) (l : List α) :
    ((l.filter p).flatMap f).length =
      l.foldr (fun a n => (if p a then (f a).length else 0) + n) 0 := by
  induction l with
  | nil => rfl
  | cons a l ih =>
    rw [List.foldr_cons, ← ih]
    cases hp : p a with
    | true => rw [List.filter_cons_of_pos hp, List.flatMap_cons, List.length_append, if_pos rfl]
    | false =>
      rw [List.filter_cons_of_neg (by simp [hp]), if_neg (by simp)]
      omega

/--
**`hci_dflagstostr` writes behind its memory for a device with almost all flags**: all of them, or
all but `UP` and at most one of `INIT`, `RAW` and `AUTH`.
-/
theorem hciDflagstostr_eq_fault_iff (flags : BitVec 32) :
    hciDflagstostr flags none = .fault ↔
      let up := hciTestBit 0 flags
      let init := hciTestBit 1 flags
      let auth := hciTestBit 5 flags
      let raw := hciTestBit 8 flags
      (hciTestBit 2 flags && hciTestBit 3 flags && hciTestBit 4 flags && hciTestBit 6 flags &&
        hciTestBit 7 flags) = true ∧
      ((init && auth && raw) = true ∨
        up = false ∧ (init && auth || init && raw || auth && raw) = true) := by
  have hsum : ∀ g : Nat → Bool,
      devFlagsMap.foldr (fun m n => (if g m.val.toNat then (bitText m).length else 0) + n) 0 =
        (if g 0 then 3 else 0) + ((if g 1 then 5 else 0) + ((if g 2 then 8 else 0) +
          ((if g 8 then 4 else 0) + ((if g 3 then 6 else 0) + ((if g 4 then 6 else 0) +
            ((if g 7 then 8 else 0) + ((if g 5 then 5 else 0) +
              ((if g 6 then 8 else 0) + 0)))))))) := fun _ => rfl
  have hlen : (dflagsTexts flags).flatten.length = (if hciTestBit 0 flags then 0 else 5) +
      devFlagsMap.foldr (fun m n =>
        (if hciTestBit m.val.toNat flags then (bitText m).length else 0) + n) 0 := by
    rw [← length_flatMap_filter, dflagsTexts, List.flatten_append, List.length_append,
      ← List.flatMap_def]
    cases hciTestBit 0 flags <;> rfl
  unfold hciDflagstostr
  rw [if_neg (by decide), Buffer.text_putAll_eq_fault_iff some, hlen,
    hsum fun n => hciTestBit n flags]
  -- only the flags are left, and the lengths of their names
  generalize hciTestBit 0 flags = b0, hciTestBit 1 flags = b1, hciTestBit 2 flags = b2,
    hciTestBit 3 flags = b3, hciTestBit 4 flags = b4, hciTestBit 5 flags = b5,
    hciTestBit 6 flags = b6, hciTestBit 7 flags = b7, hciTestBit 8 flags = b8
  revert b0 b1 b2 b3 b4 b5 b6 b7 b8
  decide

/-- What `hci_lmtostr` writes. -/
def lmText (lm : BitVec 32) : List Char :=
  (if lm &&& hciLmMaster = 0 then "SLAVE ".toList else []) ++
    (linkModeMap.filter fun m => m.val &&& lm ≠ 0).flatMap bitText

theorem hciLmtostr_eq (lm : BitVec 32) :
    hciLmtostr lm none none =
      if (lmText lm).length < 50 then .done (some (lmText lm)) else .fault := by
  have hmap : ReadableMap linkModeMap := readableMap_of_mem (by decide)
  rw [← Buffer.text_put some]
  unfold hciLmtostr lmText
  rw [if_neg (by decide)]
  refine Outcome.bind_congr fun b _ => ?_
  rw [← Buffer.put_put, Outcome.bind_assoc, hciBit2str_eq hmap]
  by_cases hslave : lm &&& hciLmMaster = 0
  · rw [if_pos hslave, if_pos hslave]
    rfl
  · rw [if_neg hslave, if_neg hslave, Buffer.put_nil]
    rfl

/--
**`hci_lmtostr` writes behind its memory exactly when six of its seven flags are set**: `ACCEPT`,
`AUTH`, `ENCRYPT`, `TRUSTED`, `RELIABLE` and `SECURE`.
-/
theorem hciLmtostr_eq_fault_iff (lm : BitVec 32) :
    hciLmtostr lm none none = .fault ↔
      ∀ val ∈ ([0x8000, 0x0002, 0x0004, 0x0008, 0x0010, 0x0020] : List (BitVec 32)),
        val &&& lm ≠ 0 := by
  have hsum : ∀ g : BitVec 32 → Bool,
      linkModeMap.foldr (fun m n => (if g m.val then (bitText m).length else 0) + n) 0 =
        (if g 0 then 5 else 0) + ((if g 0x8000 then 7 else 0) + ((if g 0x0001 then 7 else 0) +
          ((if g 0x0002 then 5 else 0) + ((if g 0x0004 then 8 else 0) +
            ((if g 0x0008 then 8 else 0) + ((if g 0x0010 then 9 else 0) +
              ((if g 0x0020 then 7 else 0) + 0))))))) := fun _ => rfl
  have hslave : (if lm &&& hciLmMaster = 0 then "SLAVE ".toList else []).length =
      if decide (0x0001 &&& lm ≠ 0) then 0 else 6 := by
    rw [BitVec.and_comm]
    by_cases hmaster : hciLmMaster &&& lm = 0
    · rw [if_pos hmaster, if_neg (by simpa using hmaster)]
      rfl
    · rw [if_neg hmaster, if_pos (by simpa using hmaster)]
      rfl
  have hall : (∀ val ∈ ([0x8000, 0x0002, 0x0004, 0x0008, 0x0010, 0x0020] : List (BitVec 32)),
        val &&& lm ≠ 0) ↔
      ([0x8000, 0x0002, 0x0004, 0x0008, 0x0010, 0x0020].all fun val =>
        decide (val &&& lm ≠ 0)) = true := by
    simp only [List.all_eq_true, decide_eq_true_eq]
  -- `NONE` is in the table but has no bit, so its name is never written
  have hnone : decide ((0 : BitVec 32) &&& lm ≠ 0) = false := by simp
  rw [hciLmtostr_eq, Outcome.ite_eq_fault_iff, hall, lmText, List.length_append, hslave,
    length_flatMap_filter, hsum fun val => decide (val &&& lm ≠ 0), hnone]
  simp only [List.all_cons, List.all_nil]
  generalize decide ((0x8000 : BitVec 32) &&& lm ≠ 0) = accept,
    decide ((0x0001 : BitVec 32) &&& lm ≠ 0) = master,
    decide ((0x0002 : BitVec 32) &&& lm ≠ 0) = auth,
    decide ((0x0004 : BitVec 32) &&& lm ≠ 0) = encrypt,
    decide ((0x0008 : BitVec 32) &&& lm ≠ 0) = trusted,
    decide ((0x0010 : BitVec 32) &&& lm ≠ 0) = reliable,
    decide ((0x0020 : BitVec 32) &&& lm ≠ 0) = secure
  revert accept master auth encrypt trusted reliable secure
  decide

end LinuxBle
