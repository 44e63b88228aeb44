import LinuxBle.Hci.Address
import LinuxBle.Properties.Descriptors

/-!
# Addresses as text

* `str2ba_cases` — the texts that `str2ba` accepts are those that `ba2str` writes, in any case
* `strtoba_cases` — the same of `strtoba` and `batostr`
* `hciDevid_resolves` — which device a text names
-/

namespace LinuxBle

open Infra

/-! ## Two digits -/

theorem isxdigit_of_toUpper {c : Char} {n : Nat} (hn : n < 16) (h : c.toUpper = upperDigit n) :
    digitValue c = some n := by
  rw [← digitValue_toUpper, h, digitValue_upperDigit hn]

/-- Two hexadecimal digits are what `%2.2X` writes for some byte, up to case. -/
theorem isxdigit_pair_iff {c d : Char} :
    (isxdigit c = true ∧ isxdigit d = true) ↔ ∃ b, [c.toUpper, d.toUpper] = hex2 b := by
  constructor
  · rintro ⟨hc, hd⟩
    obtain ⟨m, hm, hm16⟩ := isDigitOf_iff.mp hc
    obtain ⟨n, hn, hn16⟩ := isDigitOf_iff.mp hd
    have hval : (UInt8.ofNat (16 * m + n)).toNat = 16 * m + n := by
      rw [UInt8.toNat_ofNat']
      omega
    refine ⟨UInt8.ofNat (16 * m + n), ?_⟩
    show [c.toUpper, d.toUpper] = [upperDigit _, upperDigit _]
    rw [hval, toUpper_of_digitValue hm hm16, toUpper_of_digitValue hn hn16,
      show (16 * m + n) / 16 = m by omega, show (16 * m + n) % 16 = n by omega]
  · rintro ⟨b, hb⟩
    obtain ⟨hc, hd⟩ : c.toUpper = upperDigit (b.toNat / 16) ∧
        d.toUpper = upperDigit (b.toNat % 16) := by
      simpa [hex2, upperDigit] using hb
    have hlt := b.toNat_lt
    exact ⟨isDigitOf_iff.mpr ⟨_, isxdigit_of_toUpper (by omega) hc, by omega⟩,
      isDigitOf_iff.mpr ⟨_, isxdigit_of_toUpper (by omega) hd, by omega⟩⟩

theorem ofInt_toNat (b : UInt8) : UInt8.ofInt (b.toNat : Int) = b := by
  have hlt := b.toNat_lt
  rw [← UInt8.toNat_inj]
  simp only [UInt8.ofInt, UInt8.toNat_ofNat']
  omega

/-- `strtol` reads the byte back, if no digit follows. -/
theorem strtolByte_of_hex2 {c d : Char} {str : List Char} {b : UInt8}
    (h : [c.toUpper, d.toUpper] = hex2 b) (hstr : ∀ e ∈ str.head?, isxdigit e = false) :
    strtolByte (c :: d :: str) = b := by
  obtain ⟨hc, hd⟩ := isxdigit_pair_iff.mpr ⟨b, h⟩
  obtain ⟨hc', hd'⟩ : c.toUpper = upperDigit (b.toNat / 16) ∧
      d.toUpper = upperDigit (b.toNat % 16) := by
    simpa [hex2, upperDigit] using h
  have hlt := b.toNat_lt
  have hds : ∀ e ∈ [c, d], isDigitOf 16 e = true := by
    simp only [List.mem_cons, List.not_mem_nil, or_false, forall_eq_or_imp, forall_eq]
    exact ⟨hc, hd⟩
  have hread := strtol_append hds hstr (by simp) (by simp)
  have hnum : numeral 16 [c, d] = b.toNat := by
    simp only [numeral, List.foldl_cons, List.foldl_nil, isxdigit_of_toUpper (by omega) hc',
      isxdigit_of_toUpper (by omega) hd', Option.getD_some]
    omega
  rw [hnum] at hread
  have hmin : min (2 ^ 63 - 1) (b.toNat : Int) = b.toNat := by omega
  unfold strtolByte
  rw [List.cons_append, List.cons_append, List.nil_append, hmin] at hread
  rw [hread, ofInt_toNat]

/-! ## Bytes with colons between them -/

/-- Bytes as `%2.2X`, with colons between them. -/
def colonHex : List UInt8 → List Char
  | [] => []
  | [b] => hex2 b
  | b :: b' :: bs => hex2 b ++ ':' :: colonHex (b' :: bs)

theorem toUpper_eq_colon_iff {c : Char} : c.toUpper = ':' ↔ c = ':' := by
  rw [← Char.toNat_inj, ← Char.toNat_inj, toNat_toUpper]
  show _ = 58 ↔ _ = 58
  split <;> omega

/-- `bachk` accepts what consists of such bytes, in any case. -/
theorem bachkLoop_eq_zero_iff : ∀ (n : Nat) (str : List Char), str.length = 3 * n + 2 →
    (bachkLoop str = 0 ↔ ∃ bs, bs.length = n + 1 ∧ str.map Char.toUpper = colonHex bs)
  | 0, str, h => by
    obtain ⟨c, d, rfl⟩ := List.length_eq_two.mp h
    have hpair := @isxdigit_pair_iff c d
    have hloop : bachkLoop [c, d] = 0 ↔ isxdigit c = true ∧ isxdigit d = true := by
      unfold bachkLoop
      cases isxdigit c <;> cases isxdigit d <;> simp
    rw [hloop, hpair]
    constructor
    · rintro ⟨b, hb⟩
      exact ⟨[b], rfl, hb⟩
    · rintro ⟨bs, hlen, hbs⟩
      obtain ⟨b, rfl⟩ := List.length_eq_one_iff.mp hlen
      exact ⟨b, hbs⟩
  | n + 1, str, h => by
    obtain ⟨c, d, e, str, rfl⟩ : ∃ c d e str', str = c :: d :: e :: str' := by
      match str, h with
      | c :: d :: e :: str', _ => exact ⟨c, d, e, str', rfl⟩
    have hlen : str.length = 3 * n + 2 := by
      simp only [List.length_cons] at h
      omega
    have ih := bachkLoop_eq_zero_iff n str hlen
    have hpair := @isxdigit_pair_iff c d
    have hloop : bachkLoop (c :: d :: e :: str) = 0 ↔
        (isxdigit c = true ∧ isxdigit d = true) ∧ e = ':' ∧ bachkLoop str = 0 := by
      rw [bachkLoop]
      cases isxdigit c <;> cases isxdigit d <;> by_cases he : e = ':' <;> simp [he]
    rw [hloop, hpair, ih]
    constructor
    · rintro ⟨⟨b, hb⟩, rfl, bs, hbs, hstr⟩
      obtain ⟨b', bs', rfl⟩ := List.exists_cons_of_length_eq_add_one hbs
      refine ⟨b :: b' :: bs', by simpa using hbs, ?_⟩
      simp only [List.map_cons, hstr, colonHex, ← hb]
      rfl
    · rintro ⟨bs, hbs, hstr⟩
      obtain ⟨b, b', bs', rfl⟩ : ∃ b b' bs', bs = b :: b' :: bs' := by
        match bs, hbs with
        | b :: b' :: bs', _ => exact ⟨b, b', bs', rfl⟩
      simp only [List.map_cons, colonHex, hex2, List.map_nil, List.cons_append, List.nil_append,
        List.cons.injEq] at hstr
      obtain ⟨hc, hd, he, hrest⟩ := hstr
      refine ⟨⟨b, ?_⟩, toUpper_eq_colon_iff.mp he, b' :: bs', by simpa using hbs, hrest⟩
      rw [hc, hd]
      rfl

/-! ## Addresses -/

/-- The bytes of the text, from the left. -/
def BdAddr.reversed (a : BdAddr) : List UInt8 := [a.b5, a.b4, a.b3, a.b2, a.b1, a.b0]

theorem length_ba2str (a : BdAddr) : (ba2str a).length = 17 := rfl

section

variable {str : List Char} {a : BdAddr}

/-- `bachk` accepts the texts that `ba2str` writes, in any case. -/
theorem bachk_eq_zero_iff : bachk (some str) = 0 ↔ ∃ a, str.map Char.toUpper = ba2str a := by
  by_cases hlen : str.length = 17
  · have hchk : bachk (some str) = bachkLoop str := by
      rw [bachk, if_neg (not_not_intro hlen)]
    rw [hchk, bachkLoop_eq_zero_iff 5 str hlen]
    constructor
    · rintro ⟨bs, hbs, h⟩
      match bs, hbs with
      | [b5, b4, b3, b2, b1, b0], _ => exact ⟨⟨b0, b1, b2, b3, b4, b5⟩, h⟩
    · rintro ⟨a, h⟩
      exact ⟨a.reversed, rfl, h⟩
  · have hchk : bachk (some str) = -1 := by rw [bachk, if_pos hlen]
    rw [hchk]
    refine iff_of_false (by decide) fun ⟨a, h⟩ => hlen ?_
    rw [← List.length_map (f := Char.toUpper), h, length_ba2str]

theorem bachkLoop_cases (str : List Char) : bachkLoop str = 0 ∨ bachkLoop str = -1 := by
  fun_induction bachkLoop str with
  | case1 => exact .inl rfl
  | case5 => exact .inl rfl
  | case9 c d e str _ _ _ ih => exact ih
  | _ => exact .inr rfl

theorem bachk_cases (str : Option (List Char)) : bachk str = 0 ∨ bachk str = -1 := by
  cases str with
  | none => exact .inr rfl
  | some str =>
    by_cases hlen : str.length = 17
    · rw [bachk, if_neg (not_not_intro hlen)]
      exact bachkLoop_cases str
    · exact .inr (by rw [bachk, if_pos hlen])

/-- The byte that is read three characters for each of the bytes before it. -/
theorem strtolByte_drop {n : Nat} {b : UInt8} {rest : List Char}
    (h : (str.map Char.toUpper).drop n = hex2 b ++ rest) (hrest : ∀ e ∈ rest.head?, e = ':') :
    strtolByte (str.drop n) = b := by
  rw [← List.map_drop] at h
  obtain ⟨c, d, str', hstr⟩ : ∃ c d str', str.drop n = c :: d :: str' := by
    have hlen := congrArg List.length h
    match hn : str.drop n with
    | [] => simp [hn, hex2] at hlen
    | [c] => simp [hn, hex2] at hlen
    | c :: d :: str' => exact ⟨c, d, str', rfl⟩
  rw [hstr, List.map_cons, List.map_cons] at h
  obtain ⟨hc, hd, hstr'⟩ : c.toUpper = upperDigit (b.toNat / 16) ∧
      d.toUpper = upperDigit (b.toNat % 16) ∧ str'.map Char.toUpper = rest := by
    simpa [hex2, upperDigit] using h
  rw [hstr]
  refine strtolByte_of_hex2 (by rw [hc, hd]; rfl) fun e he => ?_
  have hcolon : e.toUpper = ':' := hrest _ (by
    rw [← hstr', List.head?_map]
    exact Option.mem_map_of_mem _ he)
  rw [toUpper_eq_colon_iff.mp hcolon]
  decide

/-- **`str2ba` reads what `ba2str` writes**, in any case. -/
theorem str2ba_of_ba2str (h : str.map Char.toUpper = ba2str a) : str2ba (some str) = (0, a) := by
  have hchk : bachk (some str) = 0 := bachk_eq_zero_iff.mpr ⟨a, h⟩
  have h0 : strtolByte str = a.b5 :=
    strtolByte_drop (n := 0) (by rw [h]; rfl) (by simp)
  have h3 : strtolByte (str.drop 3) = a.b4 := strtolByte_drop (by rw [h]; rfl) (by simp)
  have h6 : strtolByte (str.drop 6) = a.b3 := strtolByte_drop (by rw [h]; rfl) (by simp)
  have h9 : strtolByte (str.drop 9) = a.b2 := strtolByte_drop (by rw [h]; rfl) (by simp)
  have h12 : strtolByte (str.drop 12) = a.b1 := strtolByte_drop (by rw [h]; rfl) (by simp)
  have h15 : strtolByte (str.drop 15) = a.b0 :=
    strtolByte_drop (by rw [h]; exact (List.append_nil _).symm) (by simp)
  unfold str2ba
  rw [if_neg (by omega)]
  simp only [Option.getD_some, h0, h3, h6, h9, h12, h15]

/-- `ba2str` writes upper case. -/
theorem map_toUpper_ba2str (a : BdAddr) : (ba2str a).map Char.toUpper = ba2str a := by
  have hhex : ∀ b : UInt8, (hex2 b).map Char.toUpper = hex2 b := fun b => by
    have hlt := b.toNat_lt
    have hdigit : ∀ n : Nat, n < 16 → (upperDigit n).toUpper = upperDigit n := fun n hn =>
      toUpper_of_digitValue (digitValue_upperDigit hn) hn
    show [(upperDigit _).toUpper, (upperDigit _).toUpper] = [upperDigit _, upperDigit _]
    rw [hdigit _ (by omega), hdigit _ (by omega)]
  have hcolon : [':'].map Char.toUpper = [':'] := rfl
  simp only [ba2str, List.map_append, hhex, hcolon]

/-- `ba2str` writes different texts for different addresses. -/
theorem ba2str_injective {b : BdAddr} (h : ba2str a = ba2str b) : a = b := by
  have ha := str2ba_of_ba2str (map_toUpper_ba2str a)
  have hb := str2ba_of_ba2str (map_toUpper_ba2str b)
  rw [h, hb, Prod.mk.injEq] at ha
  exact ha.2.symm

/--
**`str2ba` accepts the texts that `ba2str` writes, in any case, and no other.**

Anything else gives the zero address.
-/
theorem str2ba_cases (str : List Char) :
    (∃ a, str.map Char.toUpper = ba2str a ∧ str2ba (some str) = (0, a)) ∨
      (∀ a, str.map Char.toUpper ≠ ba2str a) ∧ str2ba (some str) = (-1, .zero) := by
  rcases bachk_cases (some str) with h | h
  · obtain ⟨a, ha⟩ := bachk_eq_zero_iff.mp h
    exact .inl ⟨a, ha, str2ba_of_ba2str ha⟩
  · refine .inr ⟨fun a ha => ?_, ?_⟩
    · rw [bachk_eq_zero_iff.mpr ⟨a, ha⟩] at h
      cases h
    · rw [str2ba, if_pos (by omega)]

end

/-- `batostr` writes the bytes in the order of memory. -/
theorem batostr_eq (a : BdAddr) : batostr a = ba2str (baswap a) := rfl

theorem baswap_baswap (a : BdAddr) : baswap (baswap a) = a := rfl

/-- **`strtoba` reads what `batostr` writes**, in any case; it gives zero for anything else. -/
theorem strtoba_cases (str : List Char) :
    (∃ a, str.map Char.toUpper = batostr a ∧ strtoba (some str) = a) ∨
      (∀ a, str.map Char.toUpper ≠ batostr a) ∧ strtoba (some str) = .zero := by
  unfold strtoba
  rcases str2ba_cases str with ⟨a, ha, hread⟩ | ⟨hno, hread⟩
  · exact .inl ⟨baswap a, by rw [batostr_eq, baswap_baswap, ha], by rw [hread]⟩
  · exact .inr ⟨fun a => hno (baswap a), by rw [hread]; rfl⟩

/-! ## Devices -/

/-- A device that the kernel knows. -/
structure Adapter where
  id : UInt16
  flags : BitVec 32
  bdaddr : BdAddr
  deriving DecidableEq

namespace Adapter

def up (a : Adapter) : Bool := hciTestBit hciUp a.flags

def devInfo (a : Adapter) : HciDevInfo := ⟨a.bdaddr, a.flags⟩

end Adapter

/-- The devices that the kernel knows; their numbers are different. -/
structure Adapters where
  list : List Adapter
  nodup : (list.map Adapter.id).Nodup

namespace Adapters

/-- Those that it lists: it is asked for `HCI_MAX_DEV` of them. -/
def listed (ads : Adapters) : List Adapter := ads.list.take 16

/-- What the kernel answers to `hci_devid`, when nothing fails. -/
def devid (ads : Adapters) : DevidEnv where
  info n := ⟨none, match ads.list.find? fun a => a.id = n with
    | some a => .ok a.devInfo
    | none => .error .enodev⟩
  list := ⟨none, none, .ok (ads.listed.map fun a => ⟨a.id, a.flags, .ok a.devInfo⟩)⟩

/-- The device with this number is up. -/
def isUp (ads : Adapters) (n : UInt16) : Bool := ads.list.any fun a => a.id = n && a.up

/-- The number of the first listed device that is up and has this address, or `-1`. -/
def idOf (ads : Adapters) (ba : BdAddr) : Int :=
  match ads.listed.find? fun a => a.up && a.bdaddr = ba with
  | some a => a.id.toNat
  | none => -1

end Adapters

/-- The name that the kernel gives to a device. -/
def hciName (n : UInt16) : List Char := ['h', 'c', 'i'] ++ Nat.toDigits 10 n.toNat

section

variable (ads : Adapters) (k : Proc)

/-- The numbers are different, so the device that is asked for is the one that is up. -/
theorem Adapters.isUp_eq (n : UInt16) :
    ads.isUp n = ((ads.list.find? fun a => a.id = n).any Adapter.up) := by
  have hnodup := ads.nodup
  unfold Adapters.isUp
  revert hnodup
  generalize ads.list = list
  intro hnodup
  induction list with
  | nil => rfl
  | cons a list ih =>
    rw [List.map_cons, List.nodup_cons] at hnodup
    rw [List.any_cons, List.find?_cons]
    by_cases hid : a.id = n
    · have hrest : (list.any fun b => b.id = n && b.up) = false := by
        refine List.any_eq_false.mpr fun b hb hup => hnodup.1 ?_
        simp only [Bool.and_eq_true, decide_eq_true_eq] at hup
        rw [hid, ← hup.1]
        exact List.mem_map_of_mem hb
      simp [hid, hrest]
    · rw [ih hnodup.2]
      simp [hid]

theorem hciDevba_of_ok {env : DevInfoEnv} {di : HciDevInfo} (hsocket : env.socket = none)
    (hinfo : env.info = .ok di) :
    (hciDevba env k).1 = if hciTestBit hciUp di.flags then 0 else -1 := by
  unfold hciDevba hciDevinfo Proc.socket
  simp only [hsocket, hinfo]
  cases hciTestBit hciUp di.flags <;> rfl

theorem hciDevba_of_error {env : DevInfoEnv} {e : Errno} (hsocket : env.socket = none)
    (hinfo : env.info = .error e) : (hciDevba env k).1 = -1 := by
  unfold hciDevba hciDevinfo Proc.socket
  simp only [hsocket, hinfo]
  rfl

/-- `hci_devba` succeeds for the devices that are up. -/
theorem hciDevba_devid (n : UInt16) :
    (hciDevba (ads.devid.info n) k).1 = if ads.isUp n then 0 else -1 := by
  rw [Adapters.isUp_eq]
  cases hfind : ads.list.find? fun a => a.id = n with
  | none =>
    have hinfo : (ads.devid.info n).info = .error .enodev := by simp only [Adapters.devid, hfind]
    exact hciDevba_of_error k rfl hinfo
  | some a =>
    have hinfo : (ads.devid.info n).info = .ok a.devInfo := by simp only [Adapters.devid, hfind]
    exact hciDevba_of_ok k rfl hinfo

theorem hciDevba_fds (env : DevInfoEnv) (k : Proc) : (hciDevba env k).2.2.fds = k.fds := by
  rw [← hciDevinfo_fds env k]
  unfold hciDevba
  simp only
  split
  · rfl
  · split <;> rfl

theorem hciDevid_fds (str : List Char) (env : DevidEnv) (k : Proc) :
    (hciDevid str env k).2.fds = k.fds := by
  unfold hciDevid
  split
  · simp only
    split
    · exact hciDevba_fds ..
    · exact hciDevba_fds ..
  · exact hciForEachDev_fds ..

/-- A text that begins with `hci` stands for the number behind it, as `atoi` reads it. -/
theorem hciDevid_hci {text : List Char} (h : text ≠ []) :
    (hciDevid (['h', 'c', 'i'] ++ text) ads.devid k).1 =
      if ads.isUp (UInt16.ofInt (atoi text)) then atoi text else -1 := by
  have hlen := List.length_pos_iff.mpr h
  have hret := hciDevba_devid ads k (UInt16.ofInt (atoi text))
  have hdrop : (['h', 'c', 'i'] ++ text).drop 3 = text := rfl
  unfold hciDevid
  rw [if_pos ⟨rfl, by simp; omega⟩]
  simp only [hdrop]
  rcases hba : hciDevba (ads.devid.info (UInt16.ofInt (atoi text))) k with ⟨ret, ba, k'⟩
  rw [hba] at hret
  simp only at hret ⊢
  rw [hret]
  cases ads.isUp (UInt16.ofInt (atoi text)) <;> rfl

/-- Every other text stands for the address that `str2ba` makes of it. -/
theorem hciDevid_other {str : List Char} (h : ¬(str.take 3 = ['h', 'c', 'i'] ∧ 4 ≤ str.length)) :
    (hciDevid str ads.devid k).1 = ads.idOf (str2ba (some str)).2 := by
  have hsame : (fun dr => hciTestBit hciUp dr.devOpt && sameBdaddr (str2ba (some str)).2 dr) ∘
      (fun a : Adapter => (⟨a.id, a.flags, .ok a.devInfo⟩ : DevReq)) =
      fun a => a.up && a.bdaddr = (str2ba (some str)).2 := by
    funext a
    have hba : bacmp (str2ba (some str)).2 a.bdaddr = 0 ↔ a.bdaddr = (str2ba (some str)).2 :=
      bacmp_eq_zero_iff.trans eq_comm
    simp [sameBdaddr, hba, Adapter.up, Adapter.devInfo]
  unfold hciDevid
  rw [if_neg h]
  show findDev _ _ (ads.listed.map _) = _
  unfold findDev Adapters.idOf
  rw [List.find?_map, hsame]
  cases ads.listed.find? fun a => a.up && a.bdaddr = (str2ba (some str)).2 <;> rfl

/-- `h` is no hexadecimal digit. -/
theorem take_ne_hci {str : List Char} {a : BdAddr} (h : str.map Char.toUpper = ba2str a) :
    str.take 3 ≠ ['h', 'c', 'i'] := by
  intro hhci
  have hlt := a.b5.toNat_lt
  have hhead : upperDigit (a.b5.toNat / 16) = 'H' := by
    have htake := congrArg (fun l => (l.map Char.toUpper).head?) hhci
    rw [List.map_take, h] at htake
    exact Option.some.inj htake
  have hval := digitValue_upperDigit (n := a.b5.toNat / 16) (by omega)
  rw [hhead] at hval
  have h17 : 17 = a.b5.toNat / 16 := Option.some.inj hval
  omega

end

/--
**Which device a text names.**

The name of a device gives its number if the device is up. What stands behind `hci` in another text
is read by `atoi`, of which 16 bits are looked up and all of it is returned. An address, in any
case, gives the first listed device that is up and has it; every other text is not refused, but
stands for the zero address. No descriptor stays open.
-/
theorem hciDevid_resolves (ads : Adapters) (k : Proc) :
    (∀ n, (hciDevid (hciName n) ads.devid k).1 = if ads.isUp n then (n.toNat : Int) else -1) ∧
    (∀ text, text ≠ [] → (hciDevid (['h', 'c', 'i'] ++ text) ads.devid k).1 =
      if ads.isUp (UInt16.ofInt (atoi text)) then atoi text else -1) ∧
    (∀ str a, str.map Char.toUpper = ba2str a →
      (hciDevid str ads.devid k).1 = ads.idOf a) ∧
    (∀ str, ¬(str.take 3 = ['h', 'c', 'i'] ∧ 4 ≤ str.length) →
      (∀ a, str.map Char.toUpper ≠ ba2str a) →
      (hciDevid str ads.devid k).1 = ads.idOf .zero) ∧
    ∀ str, (hciDevid str ads.devid k).2.fds = k.fds := by
  refine ⟨fun n => ?_, fun text h => hciDevid_hci ads k h, fun str a h => ?_,
    fun str hhci h => ?_, fun str => hciDevid_fds ..⟩
  · have hlt := n.toNat_lt
    have hatoi : atoi (Nat.toDigits 10 n.toNat) = n.toNat := atoi_toDigits (by omega)
    rw [hciName, hciDevid_hci ads k Nat.toDigits_ne_nil, hatoi, ofInt_toNat16]
  · rw [hciDevid_other ads k fun hhci => take_ne_hci h hhci.1, str2ba_of_ba2str h]
  · rw [hciDevid_other ads k hhci]
    rcases str2ba_cases str with ⟨a, ha, -⟩ | ⟨-, hread⟩
    · exact absurd ha (h a)
    · rw [hread]

/-- A text without a number stands for the device `0`. -/
example (ads : Adapters) (k : Proc) :
    (hciDevid ['h', 'c', 'i', 'x'] ads.devid k).1 = if ads.isUp 0 then 0 else -1 :=
  @hciDevid_hci ads k ['x'] (by decide)

end LinuxBle
