import Sms112.Model.Conf
import Sms112.Model.Platform

/-!
# Loading the configuration

`sms112_load_conf` of `sms112_main.cpp` asks for the parameters one after the
other. A missing one ends it unless it is optional; a text that `std::stoul`
does not take ends it by an exception.
-/

namespace Sms112

/-! ## `std::stoul` -/

/-- `isspace` in the C locale. -/
def isSpace (octet : UInt8) : Bool :=
  octet = 32 ∨ 9 ≤ octet ∧ octet ≤ 13

/-- `isdigit`. -/
def isDigit (octet : UInt8) : Bool :=
  48 ≤ octet ∧ octet ≤ 57

/-- The number a row of digits stands for. -/
def digitsValue (digits : Octets) : Nat :=
  digits.foldl (fun value octet => value * 10 + (octet.toNat - 48)) 0

/-- The exceptions of `std::stoul`. -/
inductive StdException
  | invalidArgument
  | outOfRange
  deriving DecidableEq

/-- `std::stoul` in base ten, for an `unsigned long` of 64 bits: blanks, a
sign and what follows the digits are passed over, and a negative number
wraps. -/
def stoul (value : Octets) : Except StdException Nat :=
  let text := (cString value).dropWhile isSpace
  let negative : Bool := text.head? = some 45
  let signed : Bool := text.head? = some 43 ∨ text.head? = some 45
  let digits := (if signed then text.drop 1 else text).takeWhile isDigit
  if digits = [] then .error .invalidArgument
  else if digitsValue digits < 2 ^ 64 then
    .ok (if negative then (2 ^ 64 - digitsValue digits) % 2 ^ 64
      else digitsValue digits)
  else .error .outOfRange

/-! ## The parameters -/

/-- The fields of `SConf` that hold a number. -/
inductive NumberField
  | smppPort
  | smppEnqLinkSpan
  | sipSrvPort
  | sipLocalPort
  | sipTimeout
  deriving DecidableEq

namespace NumberField

/-- The name of the parameter a number is read from. -/
def param : NumberField → Octets
  | smppPort => ascii "SMPPPort"
  | smppEnqLinkSpan => ascii "SMPPEnqLinkSpan"
  | sipSrvPort => ascii "SIPSrvPort"
  | sipLocalPort => ascii "SIPLocalPort"
  | sipTimeout => ascii "SIPTimeout"

/-- The width of the field, `uint16_t` or `uint32_t`. -/
def bits : NumberField → Nat
  | smppPort | sipSrvPort | sipLocalPort => 16
  | smppEnqLinkSpan | sipTimeout => 32

def get (conf : SConf) : NumberField → Nat
  | smppPort => conf.smppPort
  | smppEnqLinkSpan => conf.smppEnqLinkSpan
  | sipSrvPort => conf.sipSrvPort
  | sipLocalPort => conf.sipLocalPort
  | sipTimeout => conf.sipTimeout

def set (conf : SConf) (number : Nat) : NumberField → SConf
  | smppPort => { conf with smppPort := number }
  | smppEnqLinkSpan => { conf with smppEnqLinkSpan := number }
  | sipSrvPort => { conf with sipSrvPort := number }
  | sipLocalPort => { conf with sipLocalPort := number }
  | sipTimeout => { conf with sipTimeout := number }

/-- Only the field that is set changes. -/
theorem get_set
    (conf : SConf)
    (number : Nat)
    (written read : NumberField) :
    read.get (written.set conf number) =
      if written = read then number else read.get conf := by
  cases written <;> cases read <;> rfl

end NumberField

/-- Where the value of a parameter is stored. -/
inductive ConfField
  | string (set : SConf → Octets → SConf)
  | number (field : NumberField)

/-- A parameter `sms112_load_conf` asks for. -/
structure ConfParam where
  name : Octets
  mandatory : Bool
  field : ConfField

/-- A mandatory parameter whose text is stored. -/
def stringParam (name : String) (set : SConf → Octets → SConf) : ConfParam :=
  ⟨ascii name, true, .string set⟩

/-- A parameter that may be missing. -/
def optionalParam (name : String) (set : SConf → Octets → SConf) :
    ConfParam :=
  ⟨ascii name, false, .string set⟩

/-- A mandatory parameter whose number is stored. -/
def numberParam (field : NumberField) : ConfParam :=
  ⟨field.param, true, .number field⟩

/-- The parameters in the order in which they are asked for. -/
def confParams : List ConfParam :=
  [stringParam "SMPPServer" fun conf value =>
      { conf with smppServer := value },
    numberParam .smppPort,
    numberParam .smppEnqLinkSpan,
    stringParam "ESMESysId" fun conf value =>
      { conf with esmeSysId := value },
    stringParam "ESMEPaswd" fun conf value =>
      { conf with esmePaswd := value },
    stringParam "ESMEType" fun conf value => { conf with esmeType := value },
    stringParam "ReportURL" fun conf value =>
      { conf with reportURL := value },
    stringParam "SIPSrvAdr" fun conf value =>
      { conf with sipSrvAdr := value },
    numberParam .sipSrvPort,
    stringParam "SIPTo" fun conf value => { conf with sipTo := value },
    stringParam "Boundary" fun conf value => { conf with boundary := value },
    stringParam "SIPLocalAddr" fun conf value =>
      { conf with sipLocalAddr := value },
    numberParam .sipLocalPort,
    stringParam "VisitedNetworkID" fun conf value =>
      { conf with visitedNetworkID := value },
    stringParam "GeolocationCId" fun conf value =>
      { conf with geolocationCId := value },
    stringParam "GeolocationURLTemplate" fun conf value =>
      { conf with geolocationURLTemplate := value },
    stringParam "LogFileMask" fun conf value =>
      { conf with logFileMask := value },
    optionalParam "SIPAuthRealm" fun conf value =>
      { conf with sipAuthRealm := value },
    optionalParam "SIPAuthScheme" fun conf value =>
      { conf with sipAuthScheme := value },
    optionalParam "SIPAuthUserName" fun conf value =>
      { conf with sipAuthUserName := value },
    optionalParam "SIPAuthPassword" fun conf value =>
      { conf with sipAuthPassword := value },
    numberParam .sipTimeout]

/-! ## The function -/

/-- How a call of `sms112_load_conf` ends, and `g_soConf` afterwards. -/
inductive LoadEnd
  | returned (code : Int) (conf : SConf)
  | threw (exception : StdException) (conf : SConf)

/-- What is done with the value found for a parameter. -/
def storeParam (conf : SConf) (value : Octets) :
    ConfField → Except StdException SConf
  | .string set => .ok (set conf (cString value))
  | .number field => do
      let number ← stoul value
      return field.set conf (number % 2 ^ field.bits)

/-- The parameters are asked for one by one; `stored` is what
`CConfig::GetParamValue` finds. -/
def loadParams (stored : Octets → Option Octets) :
    List ConfParam → SConf → LoadEnd
  | [], conf => .returned 0 conf
  | param :: params, conf =>
      match stored param.name with
      | some value =>
          match storeParam conf value param.field with
          | .ok conf => loadParams stored params conf
          | .error exception => .threw exception conf
      | none =>
          if param.mandatory then .returned EINVAL conf
          else loadParams stored params conf

/-- `sms112_load_conf` for a file that `CConfig::LoadConf` has read, with its
code and what it stored. -/
def loadConf (file : Option (Int × (Octets → Option Octets)))
    (conf : SConf) : LoadEnd :=
  match file with
  | none => .returned EINVAL conf
  | some (iFnRes, stored) =>
      if iFnRes = 0 then loadParams stored confParams conf
      else .returned iFnRes conf

end Sms112
