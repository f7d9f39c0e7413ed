import Sms112.Model.Conf
import Sms112.Model.Platform

/-!
# Sending the message over SIP

`sms112_sip_send_req`: the local and the remote name are printed into buffers
of 1024 characters. The dialog itself, from its creation to the result that
`sync_lock` returns, is one operation of the platform.
-/

namespace Sms112

variable (conf : SConf)

/-- `sizeof( mcLocal )` and `sizeof( mcRemote )`. -/
def sipNameSize : Nat := 1024

/-- `"%u"`. -/
def decimal (value : Nat) : Octets :=
  (Nat.toDigits 10 value).map fun digit => UInt8.ofNat digit.toNat

/-- `mcLocal`. -/
def sipLocal (caller : Octets) (host : Option Octets) : Octets :=
  ascii "\"" ++ caller ++ ascii "\" <sip:" ++ caller ++
    (match host with
      | some host => ascii "@" ++ host
      | none => []) ++ ascii ">"

/-- `mcRemote`. -/
def sipRemote : Octets :=
  ascii "\"" ++ conf.sipTo ++ ascii "\" <sip:" ++ conf.sipTo ++
    ascii "@" ++ conf.sipSrvAdr ++
    (if conf.sipSrvPort = 5060 ∨ conf.sipSrvPort = 0 then []
      else ascii ":" ++ decimal conf.sipSrvPort) ++ ascii ">"

/-- `sms112_sip_send_req`. -/
def sipSendReq (caller : Octets) (text : Option Octets)
    (geodata : Octets) : Prog Int := do
  let host ← call .localNameHost
  if sipNameSize ≤ (sipLocal caller host).length then
    return -1
  if sipNameSize ≤ (sipRemote conf).length then
    return -1
  call (.sipCall (sipLocal caller host) (sipRemote conf) caller text geodata)

end Sms112
