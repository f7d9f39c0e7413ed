import Sms112.Model.Octets

/-!
# The configuration

`SConf` of `sms112.h`.
-/

namespace Sms112

/-- `SConf`. -/
structure SConf where
  smppServer : Octets := []
  smppPort : Nat := 0
  smppEnqLinkSpan : Nat := 0
  esmeSysId : Octets := []
  esmePaswd : Octets := []
  esmeType : Octets := []
  reportURL : Octets := []
  sipSrvAdr : Octets := []
  sipSrvPort : Nat := 0
  sipTo : Octets := []
  boundary : Octets := []
  sipLocalAddr : Octets := []
  sipLocalPort : Nat := 0
  visitedNetworkID : Octets := []
  geolocationCId : Octets := []
  geolocationURLTemplate : Octets := []
  logFileMask : Octets := []
  sipAuthRealm : Octets := []
  sipAuthScheme : Octets := []
  sipAuthUserName : Octets := []
  sipAuthPassword : Octets := []
  sipTimeout : Nat := 0

end Sms112
