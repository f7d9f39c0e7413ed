import Sms112.Model.Http
import Sms112.Model.Iconv
import Sms112.Model.Sip
import Sms112.Model.Smpp

/-!
# Handling the server's requests

`sms112_smpp_deliver_sm_oper`, `sms112_smpp_unbind_oper` and the handler that
reads a PDU off the connection and passes it on.
-/

namespace Sms112

variable (conf : SConf) (lib : Smpp34)

/-- `pszSrcStr` and `stSrcLen`: the short message, else the first
`message_payload`, else what the locals held before. -/
def selectBody (req : Unpacked) (garbage : Garbage) : Octets × Nat :=
  if req.smLength ≠ 0 then (req.shortMessage, req.smLength)
  else
    match (req.tlv ++ garbage.tlv).find? (·.tag = messagePayloadTag) with
    | some tlv => (tlv.octet, tlv.length)
    | none => (garbage.srcStr, garbage.srcLen)

/-- The switch on `data_coding`: `pszPrintData`, or nothing for a coding that
is not supported. -/
def convertText (req : Unpacked) (srcStr : Octets) (srcLen dstLen : Nat) :
    Prog (Option (Option Nat)) := do
  if req.dataCoding = 8 then
    let (iFnRes, destination) ← smsIconv (ascii "UCS-2BE") (ascii "UTF-8")
      srcStr srcLen ⟨none, dstLen⟩ false false
    if iFnRes = 0 then
      match destination.dstStr with
      | some printData =>
          call (.writeChars printData destination.dstLen [0])
      | none => pure ()
    return some destination.dstStr
  else if req.dataCoding = 0 then
    -- the source copies `sm_length` octets, whichever body it has selected
    let printData ← call (.newChars (req.smLength + 1))
    call (.writeChars printData 0 (srcStr.take req.smLength))
    call (.writeChars printData req.smLength [0])
    return some (some printData)
  else
    return none

/-- The text at `pszPrintData`, as a consumer of a C string reads it. -/
def readText (printData : Option Nat) : Prog (Option Octets) := do
  match printData with
  | some address =>
      let text ← call (.readChars address)
      return some text
  | none => return none

/-- `mcResult`, which `snprintf` cuts to its size. -/
def printResult (text : Octets) : Octets :=
  text.take 4095

/-- `mcResult` after a delivery over SIP that ended with `iFnRes`. -/
def sipResult (iFnRes : Int) : Prog Octets := do
  if iFnRes = 0 then
    return printResult (ascii "OK")
  else
    let descr ← call (.strerror iFnRes)
    return printResult (ascii "Error: sip request failed: " ++ descr)

/-- Delivery of the text over SIP, and `mcResult`. -/
def deliver (caller : Octets) (printData : Option Nat)
    (geodataResult : Int) (geodata : Octets) : Prog Octets := do
  if geodataResult = 0 then
    let text ← readText printData
    let iFnRes ← sipSendReq conf caller text (cString geodata)
    call (.note (.sipSendReq caller text (cString geodata) iFnRes))
    sipResult iFnRes
  else
    return printResult (ascii "Error: can not to retrieve geodata")

/-- Look-up of the caller's geodata, delivery, and the report. -/
def deliverAndReport (caller : Octets) (printData : Option Nat) :
    Prog Unit := do
  let (geodataResult, geodata) ← geodataGet conf (some caller) []
  let result ← deliver conf caller printData geodataResult geodata
  let text ← readText printData
  let _ ← sendReport conf caller text result (cString geodata)

/-- `res` of `sms112_smpp_deliver_sm_oper`: only its header is set. -/
def deliverSmResp (req : Unpacked) (garbage : Garbage) : Pdu where
  commandId := DELIVER_SM_RESP
  commandStatus := ESME_ROK
  sequenceNumber := req.sequenceNumber
  body := .deliverSmResp garbage.res

/-- Pack a response and send it. -/
def respond (response : Pdu) (bufSize : Nat) : Prog Int := do
  let (iFnRes, data) := lib.pack2 response bufSize
  if iFnRes ≠ 0 then
    return iFnRes
  tcpSend data

/-- `delete [] pszPrintData`. -/
def deletePrintData (printData : Option Nat) : Prog Unit := do
  match printData with
  | some address => call (.deleteChars address)
  | none => pure ()

/-- `sms112_smpp_deliver_sm_oper`. The sequence number it is given is not
used. -/
def smppDeliverSmOper (buf : Octets) (dataLen : Int) (bufSize : Nat)
    (_seqNum : Nat) : Prog Int := do
  let garbage ← call .uninitialised
  let (iFnRes, req) := lib.unpack2 (buf.take dataLen.toNat)
  let _ ← call (.linkTlv req.tlv)
  if iFnRes ≠ 0 then
    return EINVAL
  let (srcStr, srcLen) := selectBody req garbage
  let converted ← convertText req srcStr srcLen garbage.dstLen
  match converted with
  | none => return EINVAL
  | some printData =>
      deliverAndReport conf req.sourceAddr printData
      let iRetVal ← respond lib (deliverSmResp req garbage) bufSize
      deletePrintData printData
      return iRetVal

/-- `sms112_smpp_unbind_oper`. The sequence number it is given is not used. -/
def smppUnbindOper (buf : Octets) (dataLen : Int) (bufSize : Nat)
    (_seqNum : Nat) : Prog Int :=
  within .smppUnbindOper do
    call (.setSmppConnected false)
    let (iFnRes, req) := lib.unpack2 (buf.take dataLen.toNat)
    if iFnRes ≠ 0 then
      return iFnRes
    respond lib (headerPdu UNBIND_RESP req.sequenceNumber) bufSize

/-- The switch of `sms112_smpp_oper_req`. Its outcome is not looked at. -/
def operReqSwitch (header : SPDUHdr) (buf : Octets) : Prog Int := do
  if header.commandId = DELIVER_SM then
    smppDeliverSmOper conf lib buf (int32 header.commandLength)
      localBufferSize (header.sequenceNumber % 256)
  else if header.commandId = UNBIND then
    smppUnbindOper lib buf (int32 header.commandLength)
      localBufferSize (header.sequenceNumber % 256)
  else
    return -1

/-- `sms112_smpp_oper_req`. -/
def smppOperReq (header : SPDUHdr) : Prog Int := do
  if localBufferSize < header.commandLength then
    return EINVAL
  let (iFnRes, buf) ← tcpRecv header.commandLength none
  if iFnRes ≠ 0 then
    return EINVAL
  call (.note (.handed header.commandId buf))
  let _ ← operReqSwitch conf lib header buf
  return 0

/-- The body of `sms112_smpp_handler`. -/
def smppHandlerBody : Prog Int := do
  let (iFnRes, soHdr) ← tcpPeek headerLength
  if iFnRes ≠ 0 then
    return -1
  let header := SPDUHdr.ofOctets soHdr
  if header.isResponse then
    operResp header
  else
    smppOperReq conf lib header

/-- `sms112_smpp_handler`. -/
def smppHandler : Prog Int :=
  within .smppHandler (smppHandlerBody conf lib)

end Sms112
