import LinuxBle.Infra.Packed
import LinuxBle.Hci.Requests

/-!
# The structs of the commands

What `hci.h` lays down for the parameters of a command (`..._cp`) and for its reply (`..._rp` or
`evt_...`): the fields in their order, packed, little endian.

The tables have a row for each wrapper of `hci.c`. A row is the format itself; `Wrapper.Cp` and
`Wrapper.Rp` are the values that the struct may have.
-/

namespace LinuxBle

open Infra

/-! ## Fields -/

/-- The bytes of a word are read back. -/
theorem le16_bytes (x : UInt16) : le16 x.toUInt8 (x >>> 8).toUInt8 = x := by
  have hx := x.toNat_lt
  rw [← UInt16.toNat_inj, toNat_le16, UInt16.toNat_toUInt8, UInt16.toNat_toUInt8,
    UInt16.toNat_shiftRight]
  show (x.toNat >>> 8) % 256 * 256 + x.toNat % 256 = _
  rw [Nat.shiftRight_eq_div_pow]
  omega

theorem le16_lo (lo hi : UInt8) : (le16 lo hi).toUInt8 = lo := by
  have hlo := lo.toNat_lt
  rw [← UInt8.toNat_inj, UInt16.toNat_toUInt8, toNat_le16]
  omega

theorem le16_hi (lo hi : UInt8) : (le16 lo hi >>> 8).toUInt8 = hi := by
  have hlo := lo.toNat_lt
  have hhi := hi.toNat_lt
  rw [← UInt8.toNat_inj, UInt16.toNat_toUInt8, UInt16.toNat_shiftRight, toNat_le16]
  show ((hi.toNat * 256 + lo.toNat) >>> 8) % 256 = _
  rw [Nat.shiftRight_eq_div_pow]
  omega

/-- A little endian `uint32_t`. -/
def le32 (lo hi : UInt16) : UInt32 := lo.toUInt32 ||| hi.toUInt32 <<< 16

theorem toNat_le32 (lo hi : UInt16) : (le32 lo hi).toNat = hi.toNat * 65536 + lo.toNat := by
  have hlo := lo.toNat_lt
  have hhi := hi.toNat_lt
  have hshift : (hi.toUInt32 <<< 16).toNat = hi.toNat <<< 16 := by
    rw [UInt32.toNat_shiftLeft, UInt16.toNat_toUInt32, Nat.mod_eq_of_lt]
    · rfl
    · show hi.toNat <<< 16 < 4294967296
      rw [Nat.shiftLeft_eq]
      omega
  unfold le32
  rw [UInt32.toNat_or, hshift, UInt16.toNat_toUInt32, Nat.or_comm,
    ← Nat.shiftLeft_add_eq_or_of_lt (by omega), Nat.shiftLeft_eq]

namespace Field

/-- `uint8_t` -/
def u8 : Packed UInt8 := .byte

/-- `int8_t` -/
def i8 : Packed Int8 := u8.map ⟨UInt8.toInt8, Int8.toUInt8, fun _ => rfl, fun _ => rfl⟩

/-- `uint16_t` -/
def u16 : Packed UInt16 :=
  (u8.pair u8).map {
    toFun := fun b => le16 b.1 b.2
    invFun := fun x => (x.toUInt8, (x >>> 8).toUInt8)
    left_inv := fun b => Prod.ext (le16_lo b.1 b.2) (le16_hi b.1 b.2)
    right_inv := le16_bytes }

/-- `uint32_t` -/
def u32 : Packed UInt32 :=
  (u16.pair u16).map {
    toFun := fun b => le32 b.1 b.2
    invFun := fun x => (x.toUInt16, (x >>> 16).toUInt16)
    left_inv := fun b => by
      have hlo := b.1.toNat_lt
      have hhi := b.2.toNat_lt
      refine Prod.ext ?_ ?_
      · rw [← UInt16.toNat_inj, UInt32.toNat_toUInt16, toNat_le32]
        omega
      · rw [← UInt16.toNat_inj, UInt32.toNat_toUInt16, UInt32.toNat_shiftRight, toNat_le32]
        show ((b.2.toNat * 65536 + b.1.toNat) >>> 16) % 65536 = _
        rw [Nat.shiftRight_eq_div_pow]
        omega
    right_inv := fun x => by
      have hx := x.toNat_lt
      rw [← UInt32.toNat_inj, toNat_le32, UInt32.toNat_toUInt16, UInt32.toNat_toUInt16,
        UInt32.toNat_shiftRight]
      show (x.toNat >>> 16) % 65536 * 65536 + x.toNat % 65536 = _
      rw [Nat.shiftRight_eq_div_pow]
      omega }

/-- `bdaddr_t` -/
def bdaddr : Packed BdAddr :=
  (u8.pair (u8.pair (u8.pair (u8.pair (u8.pair u8))))).map {
    toFun := fun b => ⟨b.1, b.2.1, b.2.2.1, b.2.2.2.1, b.2.2.2.2.1, b.2.2.2.2.2⟩
    invFun := fun a => (a.b0, a.b1, a.b2, a.b3, a.b4, a.b5)
    left_inv := fun _ => rfl
    right_inv := fun _ => rfl }

/-- `uint8_t [n]` -/
def bytes (n : Nat) : Packed (Vector UInt8 n) := .array n

@[simp] theorem encode_u16 (x : UInt16) : u16.encode x = bytes16 x := rfl

@[simp] theorem encode_bdaddr (a : BdAddr) : bdaddr.encode a = a.bytes := rfl

end Field

open LinuxBle.Field

/-! ## Parameters -/

/-- `MAX_IAC_LAP` -/
abbrev maxIacLap : Nat := 0x40

/-- `write_current_iac_lap_cp`, as much of it as is sent. -/
def iacLaps : Codec { laps : List (Vector UInt8 3) // laps.length ≤ maxIacLap } :=
  (bytes 3).toCodec.counted maxIacLap (by decide)

/-- `le_create_connection_cp` -/
def leCreateConnCp : Packed LeCreateConnCp :=
  (u16.pair (u16.pair (u8.pair (u8.pair (bdaddr.pair (u8.pair (u16.pair (u16.pair (u16.pair
    (u16.pair (u16.pair u16))))))))))).map {
      toFun := fun (a, b, c, d, e, f, g, h, i, j, k, l) => ⟨a, b, c, d, e, f, g, h, i, j, k, l⟩
      invFun := fun cp => (cp.interval, cp.window, cp.initiatorFilter, cp.peerBdaddrType,
        cp.peerBdaddr, cp.ownBdaddrType, cp.minInterval, cp.maxInterval, cp.latency,
        cp.supervisionTimeout, cp.minCeLength, cp.maxCeLength)
      left_inv := fun _ => rfl
      right_inv := fun _ => rfl }

namespace Wrapper

/-- What `cparam` leads to: `clen` bytes of the struct for the parameters. -/
def params : Wrapper → (α : Type) × Codec α
  | createConnection => ⟨_, (bdaddr.pair (u16.pair (u8.pair (u8.pair (u16.pair u8))))).toCodec⟩
  | leAddResolvingList => ⟨_, (u8.pair (bdaddr.pair ((bytes 16).pair (bytes 16)))).toCodec⟩
  | leAddWhiteList | leRmWhiteList | leRmResolvingList => ⟨_, (u8.pair bdaddr).toCodec⟩
  | leReadWhiteListSize | leClearWhiteList | leClearResolvingList | leReadResolvingListSize
  | readLocalName | readLocalVersion | readLocalCommands | readLocalFeatures | readBdAddr
  | readClassOfDev | readVoiceSetting | readCurrentIacLap | readInquiryScanType
  | readInquiryMode | readAfhMode | readExtInquiryResponse | readSimplePairingMode
  | readLocalOobData | readInqResponseTxPowerLevel => ⟨_, Packed.nothing.toCodec⟩
  | leSetAddressResolutionEnable | readLocalExtFeatures | writeInquiryScanType
  | writeInquiryMode | writeAfhMode | writeSimplePairingMode | leSetAdvertiseEnable =>
    ⟨_, u8.toCodec⟩
  | writeInquiryTransmitPowerLevel => ⟨_, i8.toCodec⟩
  | writeLocalName => ⟨_, (bytes 248).toCodec⟩
  | readRemoteNameWithClockOffset => ⟨_, (bdaddr.pair (u8.pair (u8.pair u16))).toCodec⟩
  | readRemoteNameCancel => ⟨_, bdaddr.toCodec⟩
  | readRemoteVersion | readRemoteFeatures | readClockOffset | writeVoiceSetting
  | authenticateLink | changeLinkKey | exitParkMode | readLinkPolicy
  | readLinkSupervisionTimeout | readLinkQuality | readRssi | readAfhMap
  | leReadRemoteFeatures => ⟨_, u16.toCodec⟩
  | disconnect | readRemoteExtFeatures | encryptLink | readTransmitPowerLevel | readClock =>
    ⟨_, (u16.pair u8).toCodec⟩
  | writeClassOfDev => ⟨_, (bytes 3).toCodec⟩
  | writeCurrentIacLap => ⟨_, iacLaps⟩
  | readStoredLinkKey | deleteStoredLinkKey | switchRole => ⟨_, (bdaddr.pair u8).toCodec⟩
  | writeStoredLinkKey => ⟨_, (u8.pair (bdaddr.pair (bytes 16))).toCodec⟩
  | parkMode => ⟨_, (u16.pair (u16.pair u16)).toCodec⟩
  | writeExtInquiryResponse => ⟨_, (u8.pair (bytes 240)).toCodec⟩
  | writeLinkPolicy | writeLinkSupervisionTimeout => ⟨_, (u16.pair u16).toCodec⟩
  | setAfhClassification => ⟨_, (bytes 10).toCodec⟩
  | leSetScanEnable => ⟨_, (u8.pair u8).toCodec⟩
  | leSetScanParameters => ⟨_, (u8.pair (u16.pair (u16.pair (u8.pair u8)))).toCodec⟩
  | leCreateConn => ⟨_, leCreateConnCp.toCodec⟩
  | leConnUpdate =>
    ⟨_, (u16.pair (u16.pair (u16.pair (u16.pair (u16.pair (u16.pair u16)))))).toCodec⟩

/-- The parameters of the command. -/
abbrev Cp (w : Wrapper) : Type := w.params.1

/-- Their format. -/
def cp (w : Wrapper) : Codec w.Cp := w.params.2

/-! ## Replies -/

/--
What `rparam` leads to: `rlen` bytes of the struct for the reply.

`hci_le_create_conn` asks for less than its struct, by the size of another one; where nothing is
asked for, nothing is looked at.
-/
def reply : Wrapper → (α : Type) × Packed α
  | leAddWhiteList | leRmWhiteList | leClearWhiteList | leAddResolvingList | leRmResolvingList
  | leClearResolvingList | leSetAddressResolutionEnable | writeInquiryScanType
  | writeInquiryMode | writeAfhMode | writeExtInquiryResponse | writeSimplePairingMode
  | writeInquiryTransmitPowerLevel | setAfhClassification | leSetScanEnable
  | leSetScanParameters | leSetAdvertiseEnable => ⟨_, u8⟩
  | writeLocalName | readRemoteNameCancel | writeClassOfDev | writeVoiceSetting
  | writeCurrentIacLap | readStoredLinkKey | writeStoredLinkKey | deleteStoredLinkKey =>
    ⟨_, .nothing⟩
  | leReadWhiteListSize | leReadResolvingListSize | readInquiryScanType | readInquiryMode
  | readAfhMode | readSimplePairingMode => ⟨_, u8.pair u8⟩
  | readInqResponseTxPowerLevel => ⟨_, u8.pair i8⟩
  | readVoiceSetting | authenticateLink | changeLinkKey | writeLinkPolicy
  | writeLinkSupervisionTimeout => ⟨_, u8.pair u16⟩
  | disconnect | encryptLink | readLinkQuality => ⟨_, u8.pair (u16.pair u8)⟩
  | readTransmitPowerLevel | readRssi => ⟨_, u8.pair (u16.pair i8)⟩
  | readClockOffset | readLinkPolicy | readLinkSupervisionTimeout => ⟨_, u8.pair (u16.pair u16)⟩
  | readRemoteFeatures | leReadRemoteFeatures => ⟨_, u8.pair (u16.pair (bytes 8))⟩
  | createConnection => ⟨_, u8.pair (u16.pair (bdaddr.pair (u8.pair u8)))⟩
  | readLocalName => ⟨_, u8.pair (bytes 248)⟩
  | readRemoteNameWithClockOffset => ⟨_, u8.pair (bdaddr.pair (bytes 248))⟩
  | readRemoteVersion => ⟨_, u8.pair (u16.pair (u8.pair (u16.pair u16)))⟩
  | readRemoteExtFeatures => ⟨_, u8.pair (u16.pair (u8.pair (u8.pair (bytes 8))))⟩
  | readLocalVersion => ⟨_, u8.pair (u8.pair (u16.pair (u8.pair (u16.pair u16))))⟩
  | readLocalCommands => ⟨_, u8.pair (bytes 64)⟩
  | readLocalFeatures => ⟨_, u8.pair (bytes 8)⟩
  | readLocalExtFeatures => ⟨_, u8.pair (u8.pair (u8.pair (bytes 8)))⟩
  | readBdAddr => ⟨_, u8.pair bdaddr⟩
  | readClassOfDev => ⟨_, u8.pair (bytes 3)⟩
  | readCurrentIacLap => ⟨_, u8.pair (u8.pair (bytes (3 * maxIacLap)))⟩
  | switchRole => ⟨_, u8.pair (bdaddr.pair u8)⟩
  | parkMode | exitParkMode => ⟨_, u8.pair (u16.pair (u8.pair u16))⟩
  | readExtInquiryResponse => ⟨_, u8.pair (u8.pair (bytes 240))⟩
  | readLocalOobData => ⟨_, u8.pair ((bytes 16).pair (bytes 16))⟩
  | readAfhMap => ⟨_, u8.pair (u16.pair (u8.pair (bytes 10)))⟩
  | readClock => ⟨_, u8.pair (u16.pair (u32.pair u16))⟩
  | leCreateConn => ⟨_, u8.pair (u16.pair (u8.pair (u8.pair bdaddr)))⟩
  | leConnUpdate => ⟨_, u8.pair (u16.pair (u16.pair (u16.pair u16)))⟩

/-- What the controller replies. -/
abbrev Rp (w : Wrapper) : Type := w.reply.1

/-- Its format. -/
def rp (w : Wrapper) : Packed w.Rp := w.reply.2

/-- That is what the wrappers ask for. -/
theorem size_rp (w : Wrapper) : (w.rp.size : Int) = w.form.rlen := by
  cases w <;> rfl

/-- The status, in front of what else is replied; where nothing is asked for, it is none. -/
def status (w : Wrapper) (v : w.Rp) : UInt8 := (w.rp.encode v).getD 0 0

end Wrapper

end LinuxBle
