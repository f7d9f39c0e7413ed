import Sms112.Model.Conf
import Sms112.Model.Pjlib

/-!
# The INVITE

`sip_make_body` and the strings that `send_request` builds in arrays on its
stack: the value of the Geolocation header, the body and the subtype of the
content type.
-/

namespace Sms112

variable (conf : SConf)

/-- A string literal as the source of an append. -/
def literal (text : String) : Option Octets :=
  some (ascii text)

/-- The lines of the SDP part. -/
def sdpAppends : List (Option Octets) :=
  [literal "Content-Type: application/sdp\r\n\r\n",
    literal "(v): 0\r\n",
    literal "(o): itscc 0 0 IN IP4 0.0.0.0\r\n",
    literal "(s): its\r\n",
    literal "(c): IN IP4 0.0.0.0\r\n",
    literal "(t): 0 0\r\n",
    literal "(m): audio 1234 RTP/AVP 8\r\n",
    literal "(a): inactive\r\n"]

/-- The headers of the part with the geodata, and its first line. -/
def xmlAppends : List (Option Octets) :=
  [literal "Content-Type: application/pidf+xml\r\n",
    literal "Content-ID: target123@172.16.78.4\r\n\r\n",
    literal "<?xml version = \"1.0\" encoding = \"UTF-8\"?>\r\n"]

/-- The headers of the part with the text. -/
def textAppends : List (Option Octets) :=
  [literal "Content-Type: text/plain; charset=UTF-8\r\n",
    literal "Content-Transfer-Encoding: 8bit\r\n",
    literal "Content-Disposition: form-data; name=\"part\"\r\n\r\n"]

/-- What `sip_make_body` appends, in its order. -/
def bodyAppends (text geodata : Option Octets) : List (Option Octets) :=
  [literal "--", some conf.boundary, literal "\r\n"] ++
    sdpAppends ++
    [literal "--", some conf.boundary, literal "\r\n"] ++
    xmlAppends ++ [geodata] ++
    [literal "\r\n--", some conf.boundary, literal "\r\n"] ++
    textAppends ++ [text] ++
    [literal "\r\n--", some conf.boundary, literal "--\r\n"]

/-- `sip_make_body` -/
def sipMakeBody (strBody : PjStr) (text geodata : Option Octets) : PjStr :=
  (bodyAppends conf text geodata).foldl pjStrcat2 strBody

/-- What is appended to `mcGeolocatoin`. -/
def geolocationAppends : List (Option Octets) :=
  [literal "<cid:", some conf.geolocationCId, literal "@172.27.40.129>"]

/-- What is appended to `mcContentType`. -/
def contentTypeAppends : List (Option Octets) :=
  [literal "mixed; boundary=", some conf.boundary]

/-- `sizeof( mcBody )` -/
def bodySize : Nat := 4096

/-- `sizeof( mcGeolocatoin )` and `sizeof( mcContentType )` -/
def headerSize : Nat := 1024

end Sms112
