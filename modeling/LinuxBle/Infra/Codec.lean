/-!
# Formats that can be read off the front of a stream

A `Codec` writes a value as bytes and reads one from the front of whatever follows, and carries the
proof that the two agree in both directions. Codecs are put together by `pair`, `refine` and
`counted`.

* `Codec.parse_eq_some_iff` — a stream of values is read in one way only
-/

namespace Infra

universe u

/-- A format: what it writes it reads back, and it reads nothing else. -/
structure Codec (α : Type u) where
  encode : α → List UInt8
  decode : List UInt8 → Option (α × List UInt8)
  decode_encode : ∀ a rest, decode (encode a ++ rest) = some (a, rest)
  encode_decode : ∀ {bytes a rest}, decode bytes = some (a, rest) → bytes = encode a ++ rest

namespace Codec

variable {α β : Type u}

/-! ## Putting formats together -/

/-- One byte. -/
def byte : Codec UInt8 where
  encode b := [b]
  decode
    | [] => none
    | b :: rest => some (b, rest)
  decode_encode _ _ := rfl
  encode_decode {bytes a rest} h := by
    cases bytes with
    | nil => cases h
    | cons b bytes =>
      cases h
      rfl

/-- One value behind the other. -/
def pair (c : Codec α) (d : Codec β) : Codec (α × β) where
  encode ab := c.encode ab.1 ++ d.encode ab.2
  decode bytes := do
    let (a, bytes) ← c.decode bytes
    let (b, bytes) ← d.decode bytes
    pure ((a, b), bytes)
  decode_encode ab rest := by
    rw [List.append_assoc]
    simp [c.decode_encode, d.decode_encode]
  encode_decode {bytes ab rest} h := by
    obtain ⟨⟨a, bytes'⟩, ha, h⟩ := Option.bind_eq_some_iff.mp h
    obtain ⟨⟨b, bytes''⟩, hb, h⟩ := Option.bind_eq_some_iff.mp h
    cases h
    rw [c.encode_decode ha, d.encode_decode hb, List.append_assoc]

/--
Those values of a format that stand for something.

`guess` finds out for what; what it finds must be written as the value again.
-/
def refine [DecidableEq α] (c : Codec α) (write : β → α) (guess : α → Option β)
    (h : ∀ b, guess (write b) = some b) : Codec β where
  encode b := c.encode (write b)
  decode bytes := do
    let (a, bytes) ← c.decode bytes
    let b ← (guess a).filter fun b => write b = a
    pure (b, bytes)
  decode_encode b rest := by
    have hguess : (guess (write b)).filter (fun b' => write b' = write b) = some b := by
      rw [h b]
      exact Option.filter_some_pos (decide_eq_true rfl)
    simp [c.decode_encode, hguess]
  encode_decode {bytes b rest} hd := by
    obtain ⟨⟨a, bytes'⟩, ha, hd⟩ := Option.bind_eq_some_iff.mp hd
    obtain ⟨b', hb, hd⟩ := Option.bind_eq_some_iff.mp hd
    cases hd
    obtain ⟨-, hwrite⟩ := Option.filter_eq_some_iff.mp hb
    rw [c.encode_decode ha, of_decide_eq_true hwrite]

/-- As many bytes as the byte in front of them says. -/
def block : Codec { bytes : List UInt8 // bytes.length < 256 } where
  encode b := UInt8.ofNat b.val.length :: b.val
  decode
    | [] => none
    | n :: bytes =>
      if h : n.toNat ≤ bytes.length then
        some (⟨bytes.take n.toNat, by
          have hlt := n.toNat_lt
          rw [List.length_take]
          omega⟩, bytes.drop n.toNat)
      else none
  decode_encode b rest := by
    obtain ⟨bytes, hlen⟩ := b
    have hn : (UInt8.ofNat bytes.length).toNat = bytes.length := by
      rw [UInt8.toNat_ofNat', Nat.mod_eq_of_lt hlen]
    simp only [List.cons_append, hn]
    rw [dif_pos (by simp)]
    simp
  encode_decode {bytes b rest} h := by
    cases bytes with
    | nil => cases h
    | cons n bytes =>
      simp only at h
      split at h
      · next hle =>
        cases h
        simp [List.length_take, Nat.min_eq_left hle]
      · cases h

/-- `n` values, one behind the other. -/
def decodeN (c : Codec α) : Nat → List UInt8 → Option (List α × List UInt8)
  | 0, bytes => some ([], bytes)
  | n + 1, bytes => do
    let (a, bytes) ← c.decode bytes
    let (as, bytes) ← decodeN c n bytes
    pure (a :: as, bytes)

theorem decodeN_flatMap (c : Codec α) (as : List α) (rest : List UInt8) :
    c.decodeN as.length (as.flatMap c.encode ++ rest) = some (as, rest) := by
  induction as with
  | nil => rfl
  | cons a as ih =>
    rw [List.flatMap_cons, List.append_assoc, List.length_cons, decodeN, c.decode_encode]
    simp [ih]

theorem flatMap_of_decodeN (c : Codec α) {n : Nat} : ∀ {bytes rest : List UInt8} {as : List α},
    c.decodeN n bytes = some (as, rest) →
    as.length = n ∧ bytes = as.flatMap c.encode ++ rest := by
  induction n with
  | zero =>
    intro bytes rest as h
    cases h
    exact ⟨rfl, rfl⟩
  | succ n ih =>
    intro bytes rest as h
    obtain ⟨⟨a, bytes'⟩, ha, h⟩ := Option.bind_eq_some_iff.mp h
    obtain ⟨⟨as', rest'⟩, has, h⟩ := Option.bind_eq_some_iff.mp h
    cases h
    obtain ⟨hlen, hbytes⟩ := ih has
    refine ⟨by rw [List.length_cons, hlen], ?_⟩
    rw [c.encode_decode ha, hbytes, List.flatMap_cons, List.append_assoc]

/-- At most `max` values, behind a byte that says how many there are. -/
def counted (c : Codec α) (max : Nat) (hmax : max < 256) :
    Codec { as : List α // as.length ≤ max } where
  encode as := UInt8.ofNat as.val.length :: as.val.flatMap c.encode
  decode
    | [] => none
    | n :: bytes => do
      let (as, rest) ← c.decodeN n.toNat bytes
      if h : as.length ≤ max then pure (⟨as, h⟩, rest) else none
  decode_encode as rest := by
    obtain ⟨as, hlen⟩ := as
    have hn : (UInt8.ofNat as.length).toNat = as.length := by
      rw [UInt8.toNat_ofNat', Nat.mod_eq_of_lt (by omega)]
    simp only [List.cons_append, hn, c.decodeN_flatMap]
    exact dif_pos hlen
  encode_decode {bytes as rest} h := by
    cases bytes with
    | nil => cases h
    | cons n bytes =>
      obtain ⟨⟨as', rest'⟩, has, h⟩ := Option.bind_eq_some_iff.mp h
      obtain ⟨hlen, hbytes⟩ := c.flatMap_of_decodeN has
      by_cases hmax : as'.length ≤ max
      · simp only [dif_pos hmax] at h
        cases h
        rw [hlen, UInt8.ofNat_toNat, hbytes, List.cons_append]
      · simp [dif_neg hmax] at h

/-! ## Streams -/

/-- Values one after the other; `fuel` bounds their number. -/
def parseFuel (c : Codec α) : Nat → List UInt8 → Option (List α)
  | _, [] => some []
  | 0, _ :: _ => none
  | fuel + 1, b :: bytes => do
    let (a, rest) ← c.decode (b :: bytes)
    let as ← parseFuel c fuel rest
    pure (a :: as)

/-- The values that a stream consists of. -/
def parse (c : Codec α) (bytes : List UInt8) : Option (List α) := c.parseFuel bytes.length bytes

variable {c : Codec α}

theorem flatMap_of_parseFuel : ∀ {fuel : Nat} {bytes : List UInt8} {as : List α},
    c.parseFuel fuel bytes = some as → bytes = as.flatMap c.encode
  | _, [], as, h => by
    rw [parseFuel, Option.some.injEq] at h
    rw [← h]
    rfl
  | 0, _ :: _, as, h => by cases h
  | fuel + 1, b :: bytes, as, h => by
    obtain ⟨⟨a, rest⟩, ha, h⟩ := Option.bind_eq_some_iff.mp h
    obtain ⟨as', has, h⟩ := Option.bind_eq_some_iff.mp h
    cases h
    rw [c.encode_decode ha, List.flatMap_cons, ← flatMap_of_parseFuel has]

theorem parseFuel_flatMap (hne : ∀ a, c.encode a ≠ []) : ∀ (as : List α) {fuel : Nat},
    as.length ≤ fuel → c.parseFuel fuel (as.flatMap c.encode) = some as
  | [], fuel, _ => by
    cases fuel <;> rfl
  | a :: as, 0, h => absurd h (by simp)
  | a :: as, fuel + 1, h => by
    have ih : c.parseFuel fuel (as.flatMap c.encode) = some as :=
      parseFuel_flatMap hne as (by simpa using h)
    rw [List.flatMap_cons]
    obtain ⟨b, bytes, hb⟩ := List.exists_cons_of_ne_nil (hne a)
    have hread := c.decode_encode a (as.flatMap c.encode)
    rw [hb, List.cons_append] at hread ⊢
    simp [parseFuel, hread, ih]

/-- **A stream of values is read in one way only**, if no value is written as nothing. -/
theorem parse_eq_some_iff (hne : ∀ a, c.encode a ≠ []) {bytes : List UInt8} {as : List α} :
    c.parse bytes = some as ↔ bytes = as.flatMap c.encode := by
  constructor
  · exact flatMap_of_parseFuel
  · rintro rfl
    refine parseFuel_flatMap hne as ?_
    induction as with
    | nil => exact Nat.zero_le _
    | cons a as ih =>
      have hpos := List.length_pos_iff.mpr (hne a)
      rw [List.flatMap_cons, List.length_append, List.length_cons]
      omega

end Codec

end Infra
