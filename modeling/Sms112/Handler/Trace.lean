import Sms112.Handler.Calls
import Sms112.Resumption.Trace

/-!
# The operations of a delivery

What `sms112_smpp_deliver_sm_oper` performs, in order: the conversion, the
delivery of the text, the response and the release of the text.
-/

namespace Sms112

open Resumption

variable (thread : Thread) (oracle : Op → Choice) (conf : SConf)
variable (lib : Smpp34)

/-- The conversion of the text of an unpacked PDU. -/
def conversion (req : Unpacked) : Prog (Option (Option Nat)) :=
  let garbage := (oracle .uninitialised).garbage
  convertText req (selectBody req garbage).1 (selectBody req garbage).2
    garbage.dstLen

/-- The conversion of a text in a supported coding sets the text pointer. -/
theorem conversion_pointer
    {req : Unpacked}
    (supported : SupportedCoding req)
    (state : State) :
    ∃ printData later, (conversion oracle req).eval (exec thread) oracle
      state = (some printData, later) := by
  let garbage := (oracle .uninitialised).garbage
  have set := (convertText_isSome_iff thread oracle req
    (selectBody req garbage).1 (selectBody req garbage).2 garbage.dstLen
    state).mpr supported
  obtain ⟨printData, pointer⟩ := Option.isSome_iff_exists.mp set
  exact ⟨printData, _, Prod.ext pointer rfl⟩

/-- The operations on an accepted PDU. -/
theorem smppDeliverSmOper_trace
    {buf : Octets}
    {dataLen : Int}
    {req : Unpacked}
    {printData : Option Nat}
    {state later : State}
    (accepts : lib.unpack2 (buf.take dataLen.toNat) = (0, req))
    (converted : (conversion oracle req).eval (exec thread) oracle
      (state.linkTlv req.tlv).2 = (some printData, later))
    (bufSize seqNum : Nat) :
    let delivery := deliverAndReport conf req.sourceAddr printData
    let response := respond lib
      (deliverSmResp req (oracle .uninitialised).garbage) bufSize
    let delivered := (delivery.eval (exec thread) oracle later).2
    let answered := (response.eval (exec thread) oracle delivered).2
    (smppDeliverSmOper conf lib buf dataLen bufSize seqNum).trace
        (exec thread) oracle state =
      [(.uninitialised, state), (.linkTlv req.tlv, state)] ++
        ((conversion oracle req).trace (exec thread) oracle
          (state.linkTlv req.tlv).2 ++
        (delivery.trace (exec thread) oracle later ++
        (response.trace (exec thread) oracle delivered ++
        (deletePrintData printData).trace (exec thread) oracle
          answered))) := by
  unfold conversion at converted ⊢
  unfold smppDeliverSmOper
  dsimp only at converted ⊢
  simp only [accepts, Program.trace_bind, Program.trace_call,
    Program.eval_call, exec, ne_eq, not_true_eq_false, if_false, converted,
    Program.pure_eq_ret, Program.trace_ret, List.append_nil]
  rfl

end Sms112
