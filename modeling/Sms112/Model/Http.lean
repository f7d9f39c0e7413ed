import Sms112.Model.Conf
import Sms112.Model.Json
import Sms112.Model.Platform

/-!
# HTTP requests: geodata and reports

`sms112_curl.cpp`, `sms112_geodata.cpp` and `sms112_send_report`. A curl
session (its initialisation, options and transfer) is one operation of the
platform; the answer arrives in chunks.
-/

namespace Sms112

variable (conf : SConf)

/-- `sms112_curl_write_result` for every chunk of an answer. -/
def curlWriteResult (result : Octets) (chunks : List Octets) : Octets :=
  chunks.foldl (fun result chunk => result ++ chunk) result

/-- `sms112_curl_perf_request`: its code and the answer received. -/
def curlPerfRequest (url : Octets) (body contentType : Option Octets) :
    Prog (Int × Octets) := do
  let (iRetVal, chunks) ← call (.curl url body contentType)
  return (iRetVal, curlWriteResult [] chunks)

/-- The offset of the first occurrence of a text. -/
def find (needle : Octets) : Octets → Option Nat
  | [] => if needle = [] then some 0 else none
  | octet :: rest =>
      if needle.isPrefixOf (octet :: rest) then some 0
      else (find needle rest).map (· + 1)

/-- `std::string::find` from an offset. -/
def findFrom (needle text : Octets) (start : Nat) : Option Nat :=
  (find needle (text.drop start)).map (· + start)

/-- The part of an answer that `sms112_geodata_get` keeps. -/
def extractGeodata (result : Octets) : Option Octets :=
  match findFrom (ascii "<presence") result 0 with
  | some start =>
      match findFrom (ascii "</presence>") result start with
      | some stop => some ((result.drop start).take (stop + 11 - start))
      | none => none
  | none => none

/-- `sizeof( mcURL )`. -/
def urlSize : Nat := 2048

/-- `sms112_geodata_get`: its result and `p_strGeoData` afterwards. -/
def geodataGet (caller : Option Octets) (geoData : Octets) :
    Prog (Int × Octets) := do
  match caller with
  | none => return (EINVAL, geoData)
  | some caller =>
      let (iFnRes, mcURL) ←
        call (.snprintf urlSize conf.geolocationURLTemplate caller)
      -- the comparison is between unsigned values
      if iFnRes % 2 ^ 64 < urlSize then
        let (iRetVal, result) ← curlPerfRequest mcURL none none
        if iRetVal = 0 then
          match extractGeodata result with
          | some found => return (0, found)
          | none => return (-1, geoData)
        else
          return (iRetVal, geoData)
      else
        return (EINVAL, geoData)

/-- `msoParam` of `sms112_send_report`. -/
def reportParam : List SParamDescr :=
  [⟨ascii "EventType", 1⟩, ⟨ascii "EventDate", 1⟩, ⟨ascii "PhoneNumber", 1⟩,
    ⟨ascii "TextMessage", 1⟩, ⟨ascii "ResultString", 1⟩,
    ⟨ascii "ResultXML", 1⟩]

/-- The body of a report. -/
def reportBody (timeStamp phoneNumber : Octets) (message : Option Octets)
    (resultString resultXML : Octets) : Octets :=
  makeJson [some (ascii "SMS"), some timeStamp, some phoneNumber, message,
    some resultString, some resultXML] reportParam

/-- `sizeof( mcTimeStamp )`. -/
def timeStampSize : Nat := 32

/-- `sms112_send_report`. -/
def sendReport (phoneNumber : Octets) (message : Option Octets)
    (resultString resultXML : Octets) : Prog Int := do
  call (.note (.sendReport phoneNumber message resultString resultXML))
  let tTime ← call .time
  if tTime = -1 then
    return -1
  let converted ← call (.localtime tTime)
  if !converted then
    return -1
  let (iFnRes, timeStamp) ←
    call (.strftime (ascii "%Y-%m-%dT%H:%M:%S") timeStampSize)
  -- the comparison is between unsigned values
  if iFnRes % 2 ^ 64 < timeStampSize then
    -- the outcome of the request is not looked at
    let _ ← curlPerfRequest conf.reportURL
      (some (reportBody timeStamp phoneNumber message resultString resultXML))
      (some (ascii "Content-Type: application/json"))
    return 0
  else
    return -1

end Sms112
