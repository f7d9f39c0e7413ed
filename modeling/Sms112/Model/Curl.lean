import Sms112.Model.Octets
import Sms112.Resumption.Evaluation

/-!
# A curl session

`sms112_curl.cpp` in full: the handle with its options, the list of headers and
the transfer. An option that is accepted changes the transfer that the handle
stands for, as the library documents it. The rest of the model takes the whole
session as one operation of the platform.
-/

namespace Sms112
namespace Curl

open Resumption

def CURLE_OK : Int := 0
def CURLE_WRITE_ERROR : Int := 23
def ENOMEM : Int := 12

/-- `SMS112_CURL_UAGENT` -/
def SMS112_CURL_UAGENT : Octets := ascii "SMS to SIP emergency assistance"

/-! ## The library -/

/-- The options that are set, with their arguments. -/
inductive Setting
  | errorBuffer
  | url (url : Octets)
  | userAgent (agent : Octets)
  | httpGet (value : Int)
  /-- `&p_strResult` -/
  | writeData
  /-- `sms112_curl_write_result` -/
  | writeFunction
  | sslVerifyPeer (value : Int)
  | sslVerifyHost (value : Int)
  | post (value : Int)
  | httpHeader (headers : List Octets)
  | postFieldSize (value : Int)
  | postFields (data : Octets)
  deriving DecidableEq

/-- The transfer that a handle stands for. -/
structure Transfer where
  url : Octets := []
  userAgent : Octets := []
  isPost : Bool := false
  headers : List Octets := []
  postFieldSize : Int := -1
  postFields : Octets := []
  verifiesPeer : Bool := true
  verifiesHost : Bool := true
  writesData : Bool := false
  callsBack : Bool := false
  deriving DecidableEq

namespace Transfer

/-- An option is accepted. -/
def set (transfer : Transfer) : Setting → Transfer
  | .errorBuffer => transfer
  | .url url => { transfer with url }
  | .userAgent userAgent => { transfer with userAgent }
  | .httpGet value =>
      if value = 0 then transfer else { transfer with isPost := false }
  | .writeData => { transfer with writesData := true }
  | .writeFunction => { transfer with callsBack := true }
  | .sslVerifyPeer value => { transfer with verifiesPeer := value ≠ 0 }
  | .sslVerifyHost value => { transfer with verifiesHost := value ≠ 0 }
  | .post value => { transfer with isPost := value ≠ 0 }
  | .httpHeader headers => { transfer with headers }
  | .postFieldSize postFieldSize => { transfer with postFieldSize }
  | .postFields postFields =>
      { transfer with postFields, isPost := true }

/-- The octets that are sent: a size of -1 stands for a C string. -/
def body (transfer : Transfer) : Option Octets :=
  if transfer.isPost then
    if transfer.postFieldSize = -1 then
      some (transfer.postFields.takeWhile (· ≠ 0))
    else some (transfer.postFields.take transfer.postFieldSize.toNat)
  else none

end Transfer

/-- `sms112_curl_write_result`: what it returns, and the string at
`p_pvUserData` afterwards. The product of the sizes is a `size_t`. -/
def writeResult (data : Octets) (size nMemb : Nat) :
    Option Octets → Nat × Option Octets
  | none => (2 ^ 64 - 1, none)
  | some result =>
      let dataSize := size * nMemb % 2 ^ 64
      (dataSize, some (result ++ data.take dataSize))

/-- `CURL_MAX_WRITE_SIZE`: the library hands no larger chunk to a callback. -/
def CURL_MAX_WRITE_SIZE : Nat := 16384

/-- What a run did, for statements about its order. -/
inductive Event
  | opened
  | listed
  /-- There was no memory for a list. -/
  | unlisted
  /-- A transfer ended with a code, and in it `received` came in. -/
  | performed (transfer : Transfer) (code : Int) (received : Octets)
  | closed
  | freed
  /-- A handle or a list was used that is not there. -/
  | misused
  deriving DecidableEq

/-- The handle, the header list and `p_strResult`, and as ghost what happened,
newest first. -/
structure State where
  handle : Option Transfer := none
  hdrList : Option (List Octets) := none
  result : Octets := []
  log : List Event := []
  deriving DecidableEq

/-- The choices of the environment: whether memory is there, the code of a
call, and the chunks of an answer. -/
structure Choice where
  made : Bool := true
  code : Int := 0
  chunks : List Octets := []

/-- The calls of the library. -/
inductive Op
  | easyInit
  | easySetopt (setting : Setting)
  | slistAppend (line : Octets)
  | easyPerform
  | easyCleanup
  | slistFreeAll
  deriving DecidableEq

/-- What each of them returns. -/
@[reducible] def Res : Op → Type
  | .easyInit => Bool
  | .easySetopt _ | .easyPerform => Int
  | .slistAppend _ => Option (List Octets)
  | .easyCleanup | .slistFreeAll => Unit

abbrev Prog := Program Res

/-- Make one call. -/
abbrev call (operation : Op) : Prog (Res operation) :=
  Program.call operation

namespace State

variable (state : State)

/-- Add an event to the log. -/
def note (event : Event) : State :=
  { state with log := event :: state.log }

/-- The chunks of an answer are handed to the callback until it does not take
one: whether it took all, and the string. -/
def deliver : List Octets → Octets → Bool × Octets
  | [], result => (true, result)
  | chunk :: chunks, result =>
      let (taken, written) := writeResult chunk 1 chunk.length (some result)
      if taken = chunk.length then
        deliver chunks (written.getD result)
      else (false, written.getD result)

/-- `curl_easy_perform` -/
def perform (transfer : Transfer) (code : Int) (answer : List Octets) :
    Int × State :=
  let chunks := answer.map (·.take CURL_MAX_WRITE_SIZE)
  if transfer.callsBack ∧ transfer.writesData then
    let (taken, result) := deliver chunks state.result
    let code := if taken then code else CURLE_WRITE_ERROR
    (code,
      { state with result }.note (.performed transfer code chunks.flatten))
  else (code, state.note (.performed transfer code chunks.flatten))

end State

/-- The meaning of the calls. -/
def exec : Handler Res Choice State
  | .easyInit, choice, state =>
      if choice.made then
        (true, { state with handle := some {} }.note .opened)
      else (false, state)
  | .easySetopt setting, choice, state =>
      match state.handle with
      | some transfer =>
          if choice.code = CURLE_OK then
            (CURLE_OK, { state with handle := some (transfer.set setting) })
          else (choice.code, state)
      | none => (choice.code, state.note .misused)
  | .slistAppend line, choice, state =>
      if choice.made then
        (some (state.hdrList.getD [] ++ [line]),
          { state with
            hdrList := some (state.hdrList.getD [] ++ [line]) }.note .listed)
      else (none, state.note .unlisted)
  | .easyPerform, choice, state =>
      match state.handle with
      | some transfer => state.perform transfer choice.code choice.chunks
      | none => (choice.code, state.note .misused)
  | .easyCleanup, _, state =>
      match state.handle with
      | some _ => ((), { state with handle := none }.note .closed)
      | none => ((), state.note .misused)
  | .slistFreeAll, _, state =>
      match state.hdrList with
      | some _ => ((), { state with hdrList := none }.note .freed)
      | none => ((), state.note .misused)

/-! ## The program -/

/-- Options are set up to the first that is not accepted. -/
def setOptions : List Setting → Prog Int
  | [] => return CURLE_OK
  | setting :: settings => do
      let resCode ← call (.easySetopt setting)
      if resCode = CURLE_OK then
        setOptions settings
      else
        return resCode

/-- The options of every request. -/
def requestOptions (url : Octets) : List Setting :=
  [.errorBuffer, .url url, .userAgent SMS112_CURL_UAGENT, .httpGet 1,
    .writeData, .writeFunction, .sslVerifyPeer 0, .sslVerifyHost 0]

/-- `static_cast<long>` -/
def toLong (value : Nat) : Int :=
  (BitVec.ofNat 64 value).toInt

/-- The header Content-Type, and `psoHdrList`. -/
def setContentType : Option Octets → Prog (Int × Option (List Octets))
  | none => return (CURLE_OK, none)
  | some contentType => do
      let hdrList ← call (.slistAppend contentType)
      let resCode ← setOptions [.httpHeader (hdrList.getD [])]
      return (resCode, hdrList)

/-- The body of the request, if it has one. -/
def setBody (contentType : Option Octets) :
    Option Octets → Prog (Int × Option (List Octets))
  | none => return (CURLE_OK, none)
  | some body => do
      let resCode ← setOptions [.post 1]
      if resCode = CURLE_OK then
        let (resCode, hdrList) ← setContentType contentType
        if resCode = CURLE_OK then
          let resCode ← setOptions
            [.postFieldSize (toLong body.length), .postFields body]
          return (resCode, hdrList)
        else
          return (resCode, hdrList)
      else
        return (resCode, none)

/-- `sms112_curl_perf_request` with its handle, up to the clean-up. -/
def session (url : Octets) (body contentType : Option Octets) :
    Prog (Int × Option (List Octets)) := do
  let resCode ← setOptions (requestOptions url)
  if resCode = CURLE_OK then
    let (resCode, hdrList) ← setBody contentType body
    if resCode = CURLE_OK then
      let resCode ← call .easyPerform
      return (resCode, hdrList)
    else
      return (resCode, hdrList)
  else
    return (resCode, none)

/-- `sms112_curl_perf_request` -/
def perfRequest (url : Octets) (body contentType : Option Octets) :
    Prog Int := do
  let made ← call .easyInit
  if made then
    let (iRetVal, hdrList) ← session url body contentType
    call .easyCleanup
    if hdrList.isSome then
      call .slistFreeAll
    return iRetVal
  else
    return ENOMEM

end Curl
end Sms112
