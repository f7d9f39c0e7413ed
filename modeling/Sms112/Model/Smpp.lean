import Sms112.Model.Conf
import Sms112.Model.Tcp

/-!
# Requests and their responses

The sending side of `sms112_smpp.cpp` and of `sms112_smpp_cmd.cpp`: a request
is registered in the store, sent, and waited for; the receiver thread fills in
the response and wakes the waiter (`sms112_oper_resp`).
-/

namespace Sms112

variable (conf : SConf) (lib : Smpp34)

/-- `sms112_make_timespec_timeout`: its result and the `timespec`
afterwards. -/
def makeTimespecTimeout (timeSpec : Timespec) (sec addUSec : Nat) :
    Prog (Int × Timespec) := do
  let timeVal ← call .gettimeofday
  if timeVal.ret = 0 then
    if timeVal.tvUsec + addUSec < 1000000 then
      return (0, { tvSec := timeVal.tvSec + sec
                   tvNsec := (timeVal.tvUsec + addUSec : Nat) * 1000 })
    else
      return (0, { tvSec := timeVal.tvSec + sec + 1
                   tvNsec := ((timeVal.tvUsec : Int) - 1000000 + addUSec) *
                     1000 })
  else
    return (-1, timeSpec)

/-- The body of `sms112_smpp_send`. -/
def smppSendBody (data : Octets) (seqNum : Nat) (reqData : ReqPtr) :
    Prog Int := do
  let iFnRes ← call (.reqStorAdd seqNum reqData)
  if iFnRes ≠ 0 then
    return iFnRes
  let iFnRes ← tcpSend data
  if iFnRes ≠ 0 then
    return iFnRes
  let garbage ← call .uninitialised
  let (_, timeSpec) ← makeTimespecTimeout garbage.timespec 1 0
  let iFnRes ← call (.timedLockReq reqData timeSpec)
  let dataLen ← call (.getReqDataLen reqData)
  if dataLen ≠ 0 then
    return 0
  else
    return iFnRes

/-- `sms112_smpp_send`. -/
def smppSend (data : Octets) (seqNum : Nat) (reqData : ReqPtr) :
    Prog Int := do
  call (.enterSend reqData)
  let iRetVal ← smppSendBody data seqNum reqData
  call (.leaveSend reqData)
  return iRetVal

/-- `sizeof( muiLocalBuffer )`. -/
def localBufferSize : Nat := 1024

/-- What `sms112_smpp_connect`, `sms112_smpp_disconn` and
`sms112_smpp_enq_link` do with the response they were woken for. -/
def readResponse (request : Pdu) (respId : Nat) (freesTlv : Bool)
    (reqData : ReqPtr) : Prog Int := do
  let buffer ← call (.readReqData reqData)
  call (.note (.decoded request.commandId buffer))
  let (iFnRes, res) := lib.unpack2 buffer
  let nodes ← call (.linkTlv res.tlv)
  if iFnRes ≠ 0 then
    return iFnRes
  if freesTlv then
    call (.destroyTlv nodes)
  if res.commandId = respId ∧ res.commandStatus = ESME_ROK then
    return 0
  else
    return EINVAL

/-- The exchange the three requests share: pack, send and wait, check the
response. `freesTlv` says whether the response's optional parameters are
released. -/
def exchange (request : Pdu) (respId : Nat) (freesTlv : Bool) :
    Prog Int := do
  let (iFnRes, data) := lib.pack2 request localBufferSize
  if iFnRes ≠ 0 then
    return iFnRes
  let reqData ← call .newReqData
  let iFnRes ← smppSend data request.sequenceNumber reqData
  if iFnRes ≠ 0 then
    call (.deleteReqData reqData)
    return iFnRes
  let iRetVal ← readResponse lib request respId freesTlv reqData
  call (.deleteReqData reqData)
  return iRetVal

/-- The structure `sms112_smpp_connect` packs; `snprintf` cuts the
configured strings to their fields. -/
def bindTransceiver (seqNum : Nat) : Pdu where
  commandId := BIND_TRANSCEIVER
  commandStatus := ESME_ROK
  sequenceNumber := seqNum
  body := .bindTransceiver (conf.esmeSysId.take 15) (conf.esmePaswd.take 8)
    (conf.esmeType.take 12) SMPP_VERSION

/-- A structure with nothing but a header. -/
def headerPdu (commandId seqNum : Nat) : Pdu where
  commandId := commandId
  commandStatus := ESME_ROK
  sequenceNumber := seqNum
  body := .headerOnly

/-- `sms112_smpp_connect`. -/
def smppConnect : Prog Int :=
  within .smppConnect do
    let seqNum ← call .incSecNum
    let iRetVal ← exchange lib (bindTransceiver conf seqNum)
      BIND_TRANSCEIVER_RESP true
    if iRetVal = 0 then
      call (.setSmppConnected true)
    return iRetVal

/-- `sms112_smpp_disconn`. -/
def smppDisconn : Prog Int :=
  within .smppDisconn do
    call (.setSmppConnected false)
    let seqNum ← call .incSecNum
    exchange lib (headerPdu UNBIND seqNum) UNBIND_RESP false

/-- `sms112_smpp_enq_link`. -/
def smppEnqLink : Prog Int := do
  let seqNum ← call .incSecNum
  exchange lib (headerPdu ENQUIRE_LINK seqNum) ENQUIRE_LINK_RESP false

/-- `sms112_oper_resp`. -/
def operResp (header : SPDUHdr) : Prog Int := do
  let found ← call (.reqStorGetAndRem header.sequenceNumber)
  match found with
  | some reqData =>
      let buf ← call (.malloc header.commandLength)
      call (.setReqBuf reqData buf)
      let buf ← call (.getReqBuf reqData)
      let (iFnRes, data) ← tcpRecv header.commandLength (some buf)
      if iFnRes = 0 then
        call (.setReqDataLen reqData (int32 header.commandLength))
        call (.note (.handed header.commandId data))
      call (.unlockReq reqData)
      return iFnRes
  | none => return -1

end Sms112
