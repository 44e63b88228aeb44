import LinuxBle.Infra.Numeral
import LinuxBle.Hci.Devices

/-!
# Addresses and devices as text

The functions of `bluetooth.c` that write and read a `bdaddr_t` as text, and those of `hci.c` that
look up a device by such a text. A string is the list of its characters before the NUL.
-/

namespace LinuxBle

open Infra

/-! ## `bluetooth.c` -/

/-- `baswap` -/
def baswap (src : BdAddr) : BdAddr := ⟨src.b5, src.b4, src.b3, src.b2, src.b1, src.b0⟩

/-- `batostr`, when there is memory for it. -/
def batostr (ba : BdAddr) : List Char :=
  hex2 ba.b0 ++ [':'] ++ hex2 ba.b1 ++ [':'] ++ hex2 ba.b2 ++ [':'] ++
    hex2 ba.b3 ++ [':'] ++ hex2 ba.b4 ++ [':'] ++ hex2 ba.b5

/-- `ba2oui` -/
def ba2oui (ba : BdAddr) : List Char :=
  hex2 ba.b5 ++ ['-'] ++ hex2 ba.b4 ++ ['-'] ++ hex2 ba.b3

/-- `isxdigit` -/
def isxdigit (c : Char) : Bool := isDigitOf 16 c

/-- `while (*str)` of `bachk`: two hexadecimal digits, and a colon unless the string ends. -/
def bachkLoop : List Char → Int
  | [] => 0
  | [_] => -1  -- the NUL is no digit
  | [c, d] => if !isxdigit c then -1 else if !isxdigit d then -1 else 0
  | c :: d :: e :: str =>
    if !isxdigit c then -1
    else if !isxdigit d then -1
    else if e ≠ ':' then -1
    else bachkLoop str

/-- `bachk`; `none` is the null pointer. -/
def bachk : Option (List Char) → Int
  | none => -1
  | some str => if str.length ≠ 17 then -1 else bachkLoop str

/-- `strtol(str, NULL, 16)`, stored in a byte. -/
def strtolByte (str : List Char) : UInt8 := UInt8.ofInt (strtol 16 str)

/-- `str2ba`: what it returns, and the address. -/
def str2ba (str : Option (List Char)) : Int × BdAddr :=
  if bachk str < 0 then (-1, .zero)
  else
    let str := str.getD []
    -- from `ba->b[5]` on, three characters for each byte
    (0, ⟨strtolByte (str.drop 15), strtolByte (str.drop 12), strtolByte (str.drop 9),
      strtolByte (str.drop 6), strtolByte (str.drop 3), strtolByte str⟩)

/-- `strtoba`, when there is memory for it; it does not look at what `str2ba` returns. -/
def strtoba (str : Option (List Char)) : BdAddr := baswap (str2ba str).2

/-! ## `hci.c` -/

/-- `hci_devba`: what it returns, and the address when that is `0`. -/
def hciDevba (env : DevInfoEnv) (k : Proc) : Int × BdAddr × Proc :=
  let (ret, di, k) := hciDevinfo env k
  if ret ≠ 0 then (-1, .zero, k)
  else if !hciTestBit hciUp di.flags then (-1, .zero, k.withErrno (.enetdown))
  else (0, di.bdaddr, k)

/-- The answers to `hci_devid`: to `hci_devinfo` for each device, and to `hci_for_each_dev`. -/
structure DevidEnv where
  info : UInt16 → DevInfoEnv
  list : DevListEnv

/-- `hci_devid`; `hci_devinfo` keeps 16 bits of the number. -/
def hciDevid (str : List Char) (env : DevidEnv) (k : Proc) : Int × Proc :=
  if str.take 3 = ['h', 'c', 'i'] ∧ 4 ≤ str.length then
    let id := atoi (str.drop 3)
    let (ret, _, k) := hciDevba (env.info (UInt16.ofInt id)) k
    if ret < 0 then (-1, k) else (id, k)
  else
    let k := k.withErrno .enodev
    let ba := (str2ba (some str)).2
    hciForEachDev hciUp (sameBdaddr ba) env.list k

end LinuxBle
