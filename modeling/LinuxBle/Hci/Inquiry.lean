import LinuxBle.Hci.Devices

/-!
# `hci_inquiry`

The kernel answers the request in the buffer that it came in: it writes how many devices it found
over their limit, and the devices behind the request. `hci_inquiry` copies them out.
-/

namespace LinuxBle

open Infra

/-- `inquiry_info` -/
structure InquiryInfo where
  bdaddr : BdAddr
  pscanRepMode : UInt8
  pscanPeriodMode : UInt8
  pscanMode : UInt8
  devClass : Vector UInt8 3
  clockOffset : UInt16
  deriving DecidableEq

/-- `struct hci_inquiry_req` -/
structure HciInquiryReq where
  devId : UInt16
  flags : UInt16
  lap : Vector UInt8 3
  length : UInt8
  numRsp : UInt8
  deriving DecidableEq

/-- `IREQ_CACHE_FLUSH` -/
abbrev ireqCacheFlush : Int := 0x0001

/-- The answers to `hci_inquiry`; what `HCIINQUIRY` finds depends on the request. -/
structure InquiryEnv where
  route : RouteEnv
  socket : SysResult
  malloc : SysResult
  inquiry : HciInquiryReq → Except Errno (List InquiryInfo)
  /-- for the `malloc` of what is handed over -/
  mallocInfo : SysResult

/-- What `hci_inquiry` returns, what `*ii` leads to, and the process. -/
structure InquiryResult where
  ret : Int
  ii : Option (List InquiryInfo)
  proc : Proc

/-- `num_rsp` in the request, a `uint8_t`. -/
def inquiryNumRsp (nrsp : Int) : UInt8 := if nrsp ≤ 0 then 0 else UInt8.ofInt nrsp

/-- The number of devices that the buffer has room for. -/
def inquiryRoom (nrsp : Int) : Int := if nrsp ≤ 0 then 255 else nrsp

/-- The request for given arguments. -/
def inquiryReq (devId len nrsp : Int) (lap : Option (Vector UInt8 3)) (flags : Int) :
    HciInquiryReq where
  devId := UInt16.ofInt devId
  flags := UInt16.ofInt flags
  lap := lap.getD #v[0x33, 0x8b, 0x9e]
  length := UInt8.ofInt len
  numRsp := inquiryNumRsp nrsp

/--
What `hci_inquiry` does with its socket and its buffer; `room` is what `*ii` has room for, unless it
is null.
-/
def inquiryFill (req : HciInquiryReq) (nrsp : Int) (room : Option Nat) (env : InquiryEnv)
    (k : Proc) : Outcome InquiryResult :=
  match env.inquiry req with
  | .error e => .done ⟨-1, none, k.withErrno e⟩
  | .ok infos =>
    if inquiryRoom nrsp < infos.length then .fault  -- the kernel writes behind the buffer
    else
      match room with
      | some n => if n < infos.length then .fault else .done ⟨infos.length, some infos, k⟩
      | none =>
        match env.mallocInfo with
        | some e => .done ⟨-1, none, k.withErrno e⟩
        | none => .done ⟨infos.length, some infos, k⟩

/-- `hci_inquiry` -/
def hciInquiry (devId len nrsp : Int) (lap : Option (Vector UInt8 3)) (room : Option Nat)
    (flags : Int) (env : InquiryEnv) (k : Proc) : Outcome InquiryResult :=
  let (devId, k) := if devId < 0 then hciGetRoute none env.route k else (devId, k)
  if devId < 0 then .done ⟨-1, none, k.withErrno .enodev⟩
  else
    match k.socket env.socket with
    | (none, k) => .done ⟨-1, none, k⟩
    | (some dd, k) => do
      let res ← match env.malloc with
        | some e => .done ⟨-1, none, k.withErrno e⟩
        | none => inquiryFill (inquiryReq devId len nrsp lap flags) nrsp room env k
      pure { res with proc := (res.proc.close dd).withErrno res.proc.errno }

end LinuxBle
