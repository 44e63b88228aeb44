import LinuxBle.Hci.Basic
import LinuxBle.Hci.Requests
import LinuxBle.Infra.Buffer

/-!
# Names for numbers

The functions of `hci.c` that write what a number stands for, and that read it.

* one name for each bit, with a blank behind it: `hci_bit2str`, read by `hci_str2bit`
* one name for the whole number: `hci_uint2str`, read by `hci_str2uint`
* names on lines of a given width: `hci_commandstostr` and `lmp_featurestostr`, which first add up
  how much memory the names need

A null pointer is `none`, for strings that are given and for strings that are returned.
-/

namespace LinuxBle

open Infra

/-- `hci_map` -/
structure HciMap where
  str : String
  val : BitVec 32
  deriving DecidableEq

/-! ## Bits -/

/-- What `hci_bit2str` writes for one entry. -/
def bitText (m : HciMap) : List Char := m.str.toList ++ [' ']

/-- `hci_bit2str` -/
def hciBit2str (map : List HciMap) (val : BitVec 32) (malloc : SysResult) :
    Outcome (Option (List Char)) :=
  if malloc.isSome then .done none
  else do
    let b ← Buffer.new 120
    let b ← b.putAll ((map.filter fun m => m.val &&& val ≠ 0).map bitText)
    pure (some b.text)

/-- `!strcasecmp(s, t)` in the C locale. -/
def strcaseeq (s t : List Char) : Bool := s.map Char.toLower = t.map Char.toLower

/-- The loop of `hci_str2bit` over the entries, for one piece of the string. -/
def str2bitPiece (map : List HciMap) (st : BitVec 32 × Int) (t : List Char) : BitVec 32 × Int :=
  map.foldl (fun st m => if strcaseeq m.str.toList t then (st.1 ||| m.val, 1) else st) st

/-- `hci_str2bit`: what it returns, and `*val`. -/
def hciStr2bit (map : List HciMap) (str : Option (List Char)) (strdup : SysResult)
    (val : BitVec 32) : Int × BitVec 32 :=
  match str, strdup with
  | some str, none =>
    let st := (str.splitOn ',').foldl (str2bitPiece map) (0, 0)
    (st.2, st.1)
  | _, _ => (0, val)

/-! ## Numbers -/

/-- `hci_uint2str` -/
def hciUint2str (map : List HciMap) (val : BitVec 32) (malloc : SysResult) :
    Outcome (Option (List Char)) :=
  if malloc.isSome then .done none
  else do
    let b ← Buffer.new 50
    match map.find? fun m => m.val = val with
    | some m =>
      let b ← b.put m.str.toList
      pure (some b.text)
    | none => pure (some b.text)

/-- The loop of `hci_str2uint` over the entries, for one piece of the string. -/
def str2uintPiece (map : List HciMap) (st : BitVec 32 × Int) (t : List Char) : BitVec 32 × Int :=
  match map.find? fun m => strcaseeq m.str.toList t with
  | some m => (m.val, 1)
  | none => st

/-- `hci_str2uint`: what it returns, and `*val`; without memory there are no pieces. -/
def hciStr2uint (map : List HciMap) (str : Option (List Char)) (strdup : SysResult)
    (val : BitVec 32) : Int × BitVec 32 :=
  match str, strdup with
  | some str, none =>
    let st := (str.splitOn ',').foldl (str2uintPiece map) (val, 0)
    (st.2, st.1)
  | _, _ => (0, val)

/-! ## Device flags -/

/-- `dev_flags_map`; the values are numbers of bits. -/
def devFlagsMap : List HciMap :=
  [⟨"UP", 0⟩, ⟨"INIT", 1⟩, ⟨"RUNNING", 2⟩, ⟨"RAW", 8⟩, ⟨"PSCAN", 3⟩, ⟨"ISCAN", 4⟩, ⟨"INQUIRY", 7⟩,
   ⟨"AUTH", 5⟩, ⟨"ENCRYPT", 6⟩]

/-- What `hci_dflagstostr` writes. -/
def dflagsTexts (flags : BitVec 32) : List (List Char) :=
  (if hciTestBit 0 flags then [] else ["DOWN ".toList]) ++
    (devFlagsMap.filter fun m => hciTestBit m.val.toNat flags).map bitText

/-- `hci_dflagstostr` -/
def hciDflagstostr (flags : BitVec 32) (malloc : SysResult) : Outcome (Option (List Char)) :=
  if malloc.isSome then .done none
  else do
    let b ← Buffer.new 50
    let b ← b.putAll (dflagsTexts flags)
    pure (some b.text)

/-! ## Packet types -/

/-- `pkt_type_map` -/
def pktTypeMap : List HciMap :=
  [⟨"DM1", 0x0008⟩, ⟨"DM3", 0x0400⟩, ⟨"DM5", 0x4000⟩, ⟨"DH1", 0x0010⟩, ⟨"DH3", 0x0800⟩,
   ⟨"DH5", 0x8000⟩, ⟨"HV1", 0x0020⟩, ⟨"HV2", 0x0040⟩, ⟨"HV3", 0x0080⟩, ⟨"2-DH1", 0x0002⟩,
   ⟨"2-DH3", 0x0100⟩, ⟨"2-DH5", 0x1000⟩, ⟨"3-DH1", 0x0004⟩, ⟨"3-DH3", 0x0200⟩, ⟨"3-DH5", 0x2000⟩]

/-- `sco_ptype_map` -/
def scoPtypeMap : List HciMap :=
  [⟨"HV1", 0x0001⟩, ⟨"HV2", 0x0002⟩, ⟨"HV3", 0x0004⟩, ⟨"EV3", 0x0008⟩, ⟨"EV4", 0x0010⟩,
   ⟨"EV5", 0x0020⟩, ⟨"2-EV3", 0x0040⟩, ⟨"2-EV5", 0x0100⟩, ⟨"3-EV3", 0x0080⟩, ⟨"3-EV5", 0x0200⟩]

def hciPtypetostr (ptype : BitVec 32) : SysResult → Outcome (Option (List Char)) :=
  hciBit2str pktTypeMap ptype

def hciStrtoptype (str : Option (List Char)) : SysResult → BitVec 32 → Int × BitVec 32 :=
  hciStr2bit pktTypeMap str

def hciScoptypetostr (ptype : BitVec 32) : SysResult → Outcome (Option (List Char)) :=
  hciBit2str scoPtypeMap ptype

def hciStrtoscoptype (str : Option (List Char)) : SysResult → BitVec 32 → Int × BitVec 32 :=
  hciStr2bit scoPtypeMap str

/-! ## Links -/

/-- `link_policy_map` -/
def linkPolicyMap : List HciMap :=
  [⟨"NONE", 0⟩, ⟨"RSWITCH", 0x0001⟩, ⟨"HOLD", 0x0002⟩, ⟨"SNIFF", 0x0004⟩, ⟨"PARK", 0x0008⟩]

def hciLptostr (lp : BitVec 32) : SysResult → Outcome (Option (List Char)) :=
  hciBit2str linkPolicyMap lp

def hciStrtolp (str : Option (List Char)) : SysResult → BitVec 32 → Int × BitVec 32 :=
  hciStr2bit linkPolicyMap str

/-- `HCI_LM_MASTER` -/
abbrev hciLmMaster : BitVec 32 := 0x0001

/-- `link_mode_map` -/
def linkModeMap : List HciMap :=
  [⟨"NONE", 0⟩, ⟨"ACCEPT", 0x8000⟩, ⟨"MASTER", 0x0001⟩, ⟨"AUTH", 0x0002⟩, ⟨"ENCRYPT", 0x0004⟩,
   ⟨"TRUSTED", 0x0008⟩, ⟨"RELIABLE", 0x0010⟩, ⟨"SECURE", 0x0020⟩]

/-- `hci_lmtostr`; `malloc` is for its own string, `malloc'` for that of `hci_bit2str`. -/
def hciLmtostr (lm : BitVec 32) (malloc malloc' : SysResult) : Outcome (Option (List Char)) :=
  if malloc.isSome then .done none
  else do
    let b ← Buffer.new 50
    let b ← if lm &&& hciLmMaster = 0 then b.put "SLAVE ".toList else pure b
    match ← hciBit2str linkModeMap lm malloc' with
    | none => pure none
    | some s =>
      let b ← b.put s
      pure (some b.text)

def hciStrtolm (str : Option (List Char)) : SysResult → BitVec 32 → Int × BitVec 32 :=
  hciStr2bit linkModeMap str

/-! ## Versions -/

/-- `ver_map` -/
def verMap : List HciMap :=
  [⟨"1.0b", 0x00⟩, ⟨"1.1", 0x01⟩, ⟨"1.2", 0x02⟩, ⟨"2.0", 0x03⟩, ⟨"2.1", 0x04⟩, ⟨"3.0", 0x05⟩,
   ⟨"4.0", 0x06⟩, ⟨"4.1", 0x07⟩, ⟨"4.2", 0x08⟩, ⟨"5.0", 0x09⟩, ⟨"5.1", 0x0a⟩]

/-- `pal_map` -/
def palMap : List HciMap := [⟨"3.0", 0x01⟩]

def hciVertostr (ver : BitVec 32) : SysResult → Outcome (Option (List Char)) :=
  hciUint2str verMap ver

def hciStrtover (str : Option (List Char)) : SysResult → BitVec 32 → Int × BitVec 32 :=
  hciStr2uint verMap str

def lmpVertostr (ver : BitVec 32) : SysResult → Outcome (Option (List Char)) :=
  hciUint2str verMap ver

def lmpStrtover (str : Option (List Char)) : SysResult → BitVec 32 → Int × BitVec 32 :=
  hciStr2uint verMap str

def palVertostr (ver : BitVec 32) : SysResult → Outcome (Option (List Char)) :=
  hciUint2str palMap ver

def palStrtover (str : Option (List Char)) : SysResult → BitVec 32 → Int × BitVec 32 :=
  hciStr2uint palMap str

/-! ## Names on lines -/

/-- What stands around a name, and what the width is reduced by. -/
structure NameForm where
  before : List Char
  behind : List Char
  margin : Int

namespace NameForm

/-- A name as it is written. -/
def text (form : NameForm) (name : List Char) : List Char := form.before ++ (name ++ form.behind)

/-- The memory for a name: room for a new line is in it, but for its line feed. -/
def space (form : NameForm) (pref name : List Char) : Nat :=
  name.length + pref.length + (form.before.length + form.behind.length)

/-- `size` after the first loop, as a number and as the `int` that it is. -/
def total (form : NameForm) (pref : List Char) (names : List (List Char)) : Nat :=
  names.foldl (fun size name => size + form.space pref name) 10

def size (form : NameForm) (pref : List Char) (names : List (List Char)) : Int :=
  (BitVec.ofNat 32 (form.total pref names)).toInt

/-- `maxwidth`, which is unsigned. -/
def maxwidth (form : NameForm) (width : Int) : Nat := (BitVec.ofInt 32 (width - form.margin)).toNat

/-- The string, and the length at which its last line begins behind the prefix: `off`. -/
structure Progress (size : Nat) where
  buf : Buffer size
  off : Nat

/-- The second loop for one name. -/
def put {size : Nat} (form : NameForm) (pref : List Char) (maxwidth : Nat) (st : Progress size)
    (name : List Char) : Outcome (Progress size) := do
  let st ←
    if maxwidth < (st.buf.text.drop st.off).length + name.length then do
      let b ← st.buf.put ("\n".toList ++ pref)
      pure ⟨b, b.text.length⟩
    else pure st
  let b ← st.buf.put (form.text name)
  pure { st with buf := b }

def putNames {size : Nat} (form : NameForm) (pref : List Char) (maxwidth : Nat) :
    Progress size → List (List Char) → Outcome (Progress size)
  | st, [] => .done st
  | st, name :: names => do
    let st ← form.put pref maxwidth st name
    form.putNames pref maxwidth st names

/-- The function for given names; a negative size is more memory than there is. -/
def tostr (form : NameForm) (names : List (List Char)) (pref : Option (List Char)) (width : Int)
    (malloc : SysResult) : Outcome (Option (List Char)) :=
  let pref := pref.getD []
  if malloc.isSome ∨ form.size pref names < 0 then .done none
  else do
    let b ← Buffer.new (form.size pref names).toNat
    let b ← b.put pref
    let st ← form.putNames pref (form.maxwidth width) ⟨b, b.text.length⟩ names
    pure (some st.buf.text)

end NameForm

/-- `commands_map` -/
def commandsMap : List HciMap :=
  [⟨"Inquiry", 0⟩, ⟨"Inquiry Cancel", 1⟩, ⟨"Periodic Inquiry Mode", 2⟩,
   ⟨"Exit Periodic Inquiry Mode", 3⟩, ⟨"Create Connection", 4⟩, ⟨"Disconnect", 5⟩,
   ⟨"Add SCO Connection", 6⟩, ⟨"Cancel Create Connection", 7⟩, ⟨"Accept Connection Request", 8⟩,
   ⟨"Reject Connection Request", 9⟩, ⟨"Link Key Request Reply", 10⟩,
   ⟨"Link Key Request Negative Reply", 11⟩, ⟨"PIN Code Request Reply", 12⟩,
   ⟨"PIN Code Request Negative Reply", 13⟩, ⟨"Change Connection Packet Type", 14⟩,
   ⟨"Authentication Requested", 15⟩, ⟨"Set Connection Encryption", 16⟩,
   ⟨"Change Connection Link Key", 17⟩, ⟨"Master Link Key", 18⟩, ⟨"Remote Name Request", 19⟩,
   ⟨"Cancel Remote Name Request", 20⟩, ⟨"Read Remote Supported Features", 21⟩,
   ⟨"Read Remote Extended Features", 22⟩, ⟨"Read Remote Version Information", 23⟩,
   ⟨"Read Clock Offset", 24⟩, ⟨"Read LMP Handle", 25⟩, ⟨"Reserved", 26⟩, ⟨"Reserved", 27⟩,
   ⟨"Reserved", 28⟩, ⟨"Reserved", 29⟩, ⟨"Reserved", 30⟩, ⟨"Reserved", 31⟩, ⟨"Reserved", 32⟩,
   ⟨"Hold Mode", 33⟩, ⟨"Sniff Mode", 34⟩, ⟨"Exit Sniff Mode", 35⟩, ⟨"Park State", 36⟩,
   ⟨"Exit Park State", 37⟩, ⟨"QoS Setup", 38⟩, ⟨"Role Discovery", 39⟩, ⟨"Switch Role", 40⟩,
   ⟨"Read Link Policy Settings", 41⟩, ⟨"Write Link Policy Settings", 42⟩,
   ⟨"Read Default Link Policy Settings", 43⟩, ⟨"Write Default Link Policy Settings", 44⟩,
   ⟨"Flow Specification", 45⟩, ⟨"Set Event Mask", 46⟩, ⟨"Reset", 47⟩, ⟨"Set Event Filter", 48⟩,
   ⟨"Flush", 49⟩, ⟨"Read PIN Type", 50⟩, ⟨"Write PIN Type", 51⟩, ⟨"Create New Unit Key", 52⟩,
   ⟨"Read Stored Link Key", 53⟩, ⟨"Write Stored Link Key", 54⟩, ⟨"Delete Stored Link Key", 55⟩,
   ⟨"Write Local Name", 56⟩, ⟨"Read Local Name", 57⟩, ⟨"Read Connection Accept Timeout", 58⟩,
   ⟨"Write Connection Accept Timeout", 59⟩, ⟨"Read Page Timeout", 60⟩, ⟨"Write Page Timeout", 61⟩,
   ⟨"Read Scan Enable", 62⟩, ⟨"Write Scan Enable", 63⟩, ⟨"Read Page Scan Activity", 64⟩,
   ⟨"Write Page Scan Activity", 65⟩, ⟨"Read Inquiry Scan Activity", 66⟩,
   ⟨"Write Inquiry Scan Activity", 67⟩, ⟨"Read Authentication Enable", 68⟩,
   ⟨"Write Authentication Enable", 69⟩, ⟨"Read Encryption Mode", 70⟩, ⟨"Write Encryption Mode", 71⟩,
   ⟨"Read Class Of Device", 72⟩, ⟨"Write Class Of Device", 73⟩, ⟨"Read Voice Setting", 74⟩,
   ⟨"Write Voice Setting", 75⟩, ⟨"Read Automatic Flush Timeout", 76⟩,
   ⟨"Write Automatic Flush Timeout", 77⟩, ⟨"Read Num Broadcast Retransmissions", 78⟩,
   ⟨"Write Num Broadcast Retransmissions", 79⟩, ⟨"Read Hold Mode Activity", 80⟩,
   ⟨"Write Hold Mode Activity", 81⟩, ⟨"Read Transmit Power Level", 82⟩,
   ⟨"Read Synchronous Flow Control Enable", 83⟩, ⟨"Write Synchronous Flow Control Enable", 84⟩,
   ⟨"Set Host Controller To Host Flow Control", 85⟩, ⟨"Host Buffer Size", 86⟩,
   ⟨"Host Number Of Completed Packets", 87⟩, ⟨"Read Link Supervision Timeout", 88⟩,
   ⟨"Write Link Supervision Timeout", 89⟩, ⟨"Read Number of Supported IAC", 90⟩,
   ⟨"Read Current IAC LAP", 91⟩, ⟨"Write Current IAC LAP", 92⟩, ⟨"Read Page Scan Period Mode", 93⟩,
   ⟨"Write Page Scan Period Mode", 94⟩, ⟨"Read Page Scan Mode", 95⟩, ⟨"Write Page Scan Mode", 96⟩,
   ⟨"Set AFH Channel Classification", 97⟩, ⟨"Reserved", 98⟩, ⟨"Reserved", 99⟩,
   ⟨"Read Inquiry Scan Type", 100⟩, ⟨"Write Inquiry Scan Type", 101⟩, ⟨"Read Inquiry Mode", 102⟩,
   ⟨"Write Inquiry Mode", 103⟩, ⟨"Read Page Scan Type", 104⟩, ⟨"Write Page Scan Type", 105⟩,
   ⟨"Read AFH Channel Assessment Mode", 106⟩, ⟨"Write AFH Channel Assessment Mode", 107⟩,
   ⟨"Reserved", 108⟩, ⟨"Reserved", 109⟩, ⟨"Reserved", 110⟩, ⟨"Reserved", 111⟩, ⟨"Reserved", 112⟩,
   ⟨"Reserved", 113⟩, ⟨"Reserved", 114⟩, ⟨"Read Local Version Information", 115⟩,
   ⟨"Read Local Supported Commands", 116⟩, ⟨"Read Local Supported Features", 117⟩,
   ⟨"Read Local Extended Features", 118⟩, ⟨"Read Buffer Size", 119⟩, ⟨"Read Country Code", 120⟩,
   ⟨"Read BD ADDR", 121⟩, ⟨"Read Failed Contact Counter", 122⟩,
   ⟨"Reset Failed Contact Counter", 123⟩, ⟨"Get Link Quality", 124⟩, ⟨"Read RSSI", 125⟩,
   ⟨"Read AFH Channel Map", 126⟩, ⟨"Read BD Clock", 127⟩, ⟨"Read Loopback Mode", 128⟩,
   ⟨"Write Loopback Mode", 129⟩, ⟨"Enable Device Under Test Mode", 130⟩,
   ⟨"Setup Synchronous Connection", 131⟩, ⟨"Accept Synchronous Connection", 132⟩,
   ⟨"Reject Synchronous Connection", 133⟩, ⟨"Reserved", 134⟩, ⟨"Reserved", 135⟩,
   ⟨"Read Extended Inquiry Response", 136⟩, ⟨"Write Extended Inquiry Response", 137⟩,
   ⟨"Refresh Encryption Key", 138⟩, ⟨"Reserved", 139⟩, ⟨"Sniff Subrating", 140⟩,
   ⟨"Read Simple Pairing Mode", 141⟩, ⟨"Write Simple Pairing Mode", 142⟩,
   ⟨"Read Local OOB Data", 143⟩, ⟨"Read Inquiry Response Transmit Power Level", 144⟩,
   ⟨"Write Inquiry Transmit Power Level", 145⟩, ⟨"Read Default Erroneous Data Reporting", 146⟩,
   ⟨"Write Default Erroneous Data Reporting", 147⟩, ⟨"Reserved", 148⟩, ⟨"Reserved", 149⟩,
   ⟨"Reserved", 150⟩, ⟨"IO Capability Request Reply", 151⟩,
   ⟨"User Confirmation Request Reply", 152⟩, ⟨"User Confirmation Request Negative Reply", 153⟩,
   ⟨"User Passkey Request Reply", 154⟩, ⟨"User Passkey Request Negative Reply", 155⟩,
   ⟨"Remote OOB Data Request Reply", 156⟩, ⟨"Write Simple Pairing Debug Mode", 157⟩,
   ⟨"Enhanced Flush", 158⟩, ⟨"Remote OOB Data Request Negative Reply", 159⟩, ⟨"Reserved", 160⟩,
   ⟨"Reserved", 161⟩, ⟨"Send Keypress Notification", 162⟩,
   ⟨"IO Capability Request Negative Reply", 163⟩, ⟨"Read Encryption Key Size", 164⟩,
   ⟨"Reserved", 165⟩, ⟨"Reserved", 166⟩, ⟨"Reserved", 167⟩, ⟨"Create Physical Link", 168⟩,
   ⟨"Accept Physical Link", 169⟩, ⟨"Disconnect Physical Link", 170⟩, ⟨"Create Logical Link", 171⟩,
   ⟨"Accept Logical Link", 172⟩, ⟨"Disconnect Logical Link", 173⟩, ⟨"Logical Link Cancel", 174⟩,
   ⟨"Flow Specification Modify", 175⟩, ⟨"Read Logical Link Accept Timeout", 176⟩,
   ⟨"Write Logical Link Accept Timeout", 177⟩, ⟨"Set Event Mask Page 2", 178⟩,
   ⟨"Read Location Data", 179⟩, ⟨"Write Location Data", 180⟩, ⟨"Read Local AMP Info", 181⟩,
   ⟨"Read Local AMP_ASSOC", 182⟩, ⟨"Write Remote AMP_ASSOC", 183⟩, ⟨"Read Flow Control Mode", 184⟩,
   ⟨"Write Flow Control Mode", 185⟩, ⟨"Read Data Block Size", 186⟩, ⟨"Reserved", 187⟩,
   ⟨"Reserved", 188⟩, ⟨"Enable AMP Receiver Reports", 189⟩, ⟨"AMP Test End", 190⟩,
   ⟨"AMP Test Command", 191⟩, ⟨"Read Enhanced Transmit Power Level", 192⟩, ⟨"Reserved", 193⟩,
   ⟨"Read Best Effort Flush Timeout", 194⟩, ⟨"Write Best Effort Flush Timeout", 195⟩,
   ⟨"Short Range Mode", 196⟩, ⟨"Read LE Host Support", 197⟩, ⟨"Write LE Host Support", 198⟩,
   ⟨"Reserved", 199⟩, ⟨"LE Set Event Mask", 200⟩, ⟨"LE Read Buffer Size", 201⟩,
   ⟨"LE Read Local Supported Features", 202⟩, ⟨"Reserved", 203⟩, ⟨"LE Set Random Address", 204⟩,
   ⟨"LE Set Advertising Parameters", 205⟩, ⟨"LE Read Advertising Channel TX Power", 206⟩,
   ⟨"LE Set Advertising Data", 207⟩, ⟨"LE Set Scan Response Data", 208⟩,
   ⟨"LE Set Advertise Enable", 209⟩, ⟨"LE Set Scan Parameters", 210⟩, ⟨"LE Set Scan Enable", 211⟩,
   ⟨"LE Create Connection", 212⟩, ⟨"LE Create Connection Cancel", 213⟩,
   ⟨"LE Read White List Size", 214⟩, ⟨"LE Clear White List", 215⟩,
   ⟨"LE Add Device To White List", 216⟩, ⟨"LE Remove Device From White List", 217⟩,
   ⟨"LE Connection Update", 218⟩, ⟨"LE Set Host Channel Classification", 219⟩,
   ⟨"LE Read Channel Map", 220⟩, ⟨"LE Read Remote Used Features", 221⟩, ⟨"LE Encrypt", 222⟩,
   ⟨"LE Rand", 223⟩, ⟨"LE Start Encryption", 224⟩, ⟨"LE Long Term Key Request Reply", 225⟩,
   ⟨"LE Long Term Key Request Negative Reply", 226⟩, ⟨"LE Read Supported States", 227⟩,
   ⟨"LE Receiver Test", 228⟩, ⟨"LE Transmitter Test", 229⟩, ⟨"LE Test End", 230⟩, ⟨"Reserved", 231⟩]

/-- `commands[val / 8] & (1 << (val % 8))` -/
def commandBit (commands : Vector UInt8 64) (val : Nat) : Bool :=
  commands.toList.getD (val / 8) 0 &&& (1 : UInt8) <<< UInt8.ofNat (val % 8) ≠ 0

/-- The names that the loops of `hci_commandstostr` come to. -/
def commandNames (commands : Vector UInt8 64) : List (List Char) :=
  (commandsMap.filter fun m => commandBit commands m.val.toNat).map fun m => m.str.toList

/-- `"'%s' "` -/
def commandForm : NameForm := ⟨"'".toList, "' ".toList, 3⟩

def hciCmdtostr (cmd : BitVec 32) : SysResult → Outcome (Option (List Char)) :=
  hciUint2str commandsMap cmd

def hciCommandstostr (commands : Vector UInt8 64) : Option (List Char) → Int → SysResult →
    Outcome (Option (List Char)) :=
  commandForm.tostr (commandNames commands)

/-- `lmp_features_map` -/
def lmpFeaturesMap : List (List HciMap) :=
  [[⟨"<3-slot packets>", 0x01⟩, ⟨"<5-slot packets>", 0x02⟩, ⟨"<encryption>", 0x04⟩,
    ⟨"<slot offset>", 0x08⟩, ⟨"<timing accuracy>", 0x10⟩, ⟨"<role switch>", 0x20⟩,
    ⟨"<hold mode>", 0x40⟩, ⟨"<sniff mode>", 0x80⟩],
   [⟨"<park state>", 0x01⟩, ⟨"<RSSI>", 0x02⟩, ⟨"<channel quality>", 0x04⟩, ⟨"<SCO link>", 0x08⟩,
    ⟨"<HV2 packets>", 0x10⟩, ⟨"<HV3 packets>", 0x20⟩, ⟨"<u-law log>", 0x40⟩, ⟨"<A-law log>", 0x80⟩],
   [⟨"<CVSD>", 0x01⟩, ⟨"<paging scheme>", 0x02⟩, ⟨"<power control>", 0x04⟩,
    ⟨"<transparent SCO>", 0x08⟩, ⟨"<broadcast encrypt>", 0x80⟩],
   [⟨"<no. 24>", 0x01⟩, ⟨"<EDR ACL 2 Mbps>", 0x02⟩, ⟨"<EDR ACL 3 Mbps>", 0x04⟩,
    ⟨"<enhanced iscan>", 0x08⟩, ⟨"<interlaced iscan>", 0x10⟩, ⟨"<interlaced pscan>", 0x20⟩,
    ⟨"<inquiry with RSSI>", 0x40⟩, ⟨"<extended SCO>", 0x80⟩],
   [⟨"<EV4 packets>", 0x01⟩, ⟨"<EV5 packets>", 0x02⟩, ⟨"<no. 34>", 0x04⟩,
    ⟨"<AFH cap. slave>", 0x08⟩, ⟨"<AFH class. slave>", 0x10⟩, ⟨"<BR/EDR not supp.>", 0x20⟩,
    ⟨"<LE support>", 0x40⟩, ⟨"<3-slot EDR ACL>", 0x80⟩],
   [⟨"<5-slot EDR ACL>", 0x01⟩, ⟨"<sniff subrating>", 0x02⟩, ⟨"<pause encryption>", 0x04⟩,
    ⟨"<AFH cap. master>", 0x08⟩, ⟨"<AFH class. master>", 0x10⟩, ⟨"<EDR eSCO 2 Mbps>", 0x20⟩,
    ⟨"<EDR eSCO 3 Mbps>", 0x40⟩, ⟨"<3-slot EDR eSCO>", 0x80⟩],
   [⟨"<extended inquiry>", 0x01⟩, ⟨"<LE and BR/EDR>", 0x02⟩, ⟨"<no. 50>", 0x04⟩,
    ⟨"<simple pairing>", 0x08⟩, ⟨"<encapsulated PDU>", 0x10⟩, ⟨"<err. data report>", 0x20⟩,
    ⟨"<non-flush flag>", 0x40⟩, ⟨"<no. 55>", 0x80⟩],
   [⟨"<LSTO>", 0x01⟩, ⟨"<inquiry TX power>", 0x02⟩, ⟨"<EPC>", 0x04⟩, ⟨"<no. 59>", 0x08⟩,
    ⟨"<no. 60>", 0x10⟩, ⟨"<no. 61>", 0x20⟩, ⟨"<no. 62>", 0x40⟩, ⟨"<extended features>", 0x80⟩]]

/-- The names that the loops of `lmp_featurestostr` come to. -/
def featureNames (features : Vector UInt8 8) : List (List Char) :=
  (lmpFeaturesMap.zip features.toList).flatMap fun (map, byte) =>
    (map.filter fun m => m.val &&& BitVec.ofNat 32 byte.toNat ≠ 0).map fun m => m.str.toList

/-- `"%s "` -/
def featureForm : NameForm := ⟨[], " ".toList, 1⟩

def lmpFeaturestostr (features : Vector UInt8 8) : Option (List Char) → Int → SysResult →
    Outcome (Option (List Char)) :=
  featureForm.tostr (featureNames features)

end LinuxBle
