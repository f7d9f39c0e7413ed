import Sms112.Model.Platform

/-!
# Character set conversion

`sms112_iconv.cpp`: the output buffer is four times as long as the input, and
it is handed to the caller on every path on which `iconv` itself succeeded.
-/

namespace Sms112

/-- `*p_ppDstStr` and `*p_pstDstLen`. -/
structure Destination where
  dstStr : Option Nat
  dstLen : Nat

/-- `sms112_iconv`: its result and the destination afterwards. -/
def smsIconv (srcCod dstCod srcStr : Octets) (srcLen : Nat)
    (destination : Destination) (incomplete nonreversible : Bool) :
    Prog (Int × Destination) := do
  let outBufSize := srcLen * 4 % 2 ^ 64
  let outBuf ← call (.newChars outBufSize)
  let opened ← call (.iconvOpen dstCod srcCod)
  if !opened then
    return (-1, destination)
  let converted ← call (.iconv (srcStr.take srcLen) outBufSize)
  call (.writeChars outBuf 0 converted.output)
  if converted.ret = -1 then
    return (-1, destination)
  else
    let published := ⟨some outBuf, converted.output.length⟩
    if converted.inBufLeft ≠ 0 ∧ !incomplete then
      return (-1, published)
    else if converted.ret ≠ 0 ∧ !nonreversible then
      return (-1, published)
    else
      return (0, published)

end Sms112
