import Sms112.Handler.Outcome
import Sms112.Handler.Text
import Sms112.Handler.Trace

/-!
# Uninitialised locals

What `sms112_smpp_deliver_sm_oper` hands on should depend on its inputs only.
The response does not: nothing but the header of its structure is set, and the
rest is packed. The text and the caller do, where the message has a body.
-/

namespace Sms112

open Resumption

/-! ## What is handed on -/

/-- What the handler hands on: the caller and the text of a SIP request and of
a report, and the octets of a response. -/
inductive Output
  | sipRequest (caller : Octets) (text : Option Octets)
  | report (caller : Octets) (text : Option Octets)
  | response (data : Octets)
  deriving DecidableEq

/-- What an operation hands on. -/
def Op.output : Op → Option Output
  | .note (.sipSendReq caller text _ _) => some (.sipRequest caller text)
  | .note (.sendReport phoneNumber message _ _) =>
      some (.report phoneNumber message)
  | .send data => some (.response data)
  | _ => none

/-- What a sequence of operations hands on. -/
def outputs (steps : List (Op × State)) : List Output :=
  steps.filterMap fun step => step.1.output

@[simp] theorem outputs_nil : outputs [] = [] := rfl

@[simp] theorem outputs_append (first second : List (Op × State)) :
    outputs (first ++ second) = outputs first ++ outputs second :=
  List.filterMap_append

/-- The environment with other contents of the uninitialised locals. -/
def withLocals (oracle : Op → Choice) (garbage : Garbage) : Op → Choice
  | .uninitialised => { oracle .uninitialised with garbage := garbage }
  | operation => oracle operation

@[simp] theorem withLocals_garbage (oracle : Op → Choice)
    (garbage : Garbage) :
    (withLocals oracle garbage .uninitialised).garbage = garbage := rfl

theorem withLocals_of_ne
    {operation : Op}
    (other : operation ≠ .uninitialised)
    (oracle : Op → Choice)
    (garbage : Garbage) :
    withLocals oracle garbage operation = oracle operation := by
  cases operation <;> first | rfl | exact absurd rfl other

variable {α : Type} (thread : Thread) (oracle : Op → Choice)

theorem outputs_eq_nil
    {program : Prog α}
    (uses : program.Uses fun operation => operation.output = none)
    (state : State) :
    outputs (program.trace (exec thread) oracle state) = [] :=
  List.filterMap_eq_nil_iff.mpr (uses.performs state)

theorem Op.isMemory.output
    (operation : Op)
    (memory : operation.isMemory) :
    operation.output = none := by
  cases operation <;> first | rfl | exact nomatch memory

variable (conf : SConf) (lib : Smpp34)

/-- What the handling of a PDU comes to with the given contents of the
uninitialised locals: its result and what it hands on. -/
def handled (buf : Octets) (dataLen : Int) (bufSize seqNum : Nat)
    (state : State) (garbage : Garbage) : Int × List Output :=
  let program := smppDeliverSmOper conf lib buf dataLen bufSize seqNum
  let oracle := withLocals oracle garbage
  ((program.eval (exec thread) oracle state).1,
    outputs (program.trace (exec thread) oracle state))

/-- Whatever the uninitialised locals hold, the result and what is handed on
are the same. -/
def Independent (buf : Octets) (dataLen : Int) (bufSize seqNum : Nat)
    (state : State) : Prop :=
  ∀ first second,
    handled thread oracle conf lib buf dataLen bufSize seqNum state first =
      handled thread oracle conf lib buf dataLen bufSize seqNum state second

/-! ## The response -/

/-- `smpp34_pack2` packs the message identifier of a `DELIVER_SM_RESP` behind
its header. -/
def Smpp34.PacksMessageId : Prop :=
  ∀ seqNum messageId, 0 ∉ messageId → messageId.length ≤ 64 →
    let packed := lib.pack2
      { commandId := DELIVER_SM_RESP
        commandStatus := ESME_ROK
        sequenceNumber := seqNum
        body := .deliverSmResp messageId } localBufferSize
    packed.1 = 0 ∧ packed.2.drop headerLength = messageId ++ [0]

/-- A response that is packed is handed on. -/
theorem respond_outputs
    {response : Pdu}
    {bufSize : Nat}
    (packed : (lib.pack2 response bufSize).1 = 0)
    (state : State) :
    outputs ((respond lib response bufSize).trace (exec thread) oracle
      state) = [.response (lib.pack2 response bufSize).2] := by
  unfold respond
  dsimp only
  rw [if_neg (not_not.mpr packed)]
  unfold tcpSend
  rw [Program.trace_bind, outputs_append]
  refine congrArg (_ :: ·) (outputs_eq_nil thread oracle ?_ _)
  split
  split
  · trivial
  · exact .step rfl fun _ => trivial

theorem deletePrintData_outputs (printData : Option Nat) (state : State) :
    outputs ((deletePrintData printData).trace (exec thread) oracle state) =
      [] :=
  outputs_eq_nil thread oracle
    ((deletePrintData_memory printData).mono Op.isMemory.output) state

/-- What the handling of an accepted PDU hands on: what its delivery does, and
what answering it does. -/
theorem smppDeliverSmOper_outputs
    {buf : Octets}
    {dataLen : Int}
    {req : Unpacked}
    {printData : Option Nat}
    {state later : State}
    (accepts : lib.unpack2 (buf.take dataLen.toNat) = (0, req))
    (converted : (conversion oracle req).eval (exec thread) oracle
      (state.linkTlv req.tlv).2 = (some printData, later))
    (bufSize seqNum : Nat) :
    let delivery := deliverAndReport conf req.sourceAddr printData
    let delivered := (delivery.eval (exec thread) oracle later).2
    outputs ((smppDeliverSmOper conf lib buf dataLen bufSize seqNum).trace
        (exec thread) oracle state) =
      outputs (delivery.trace (exec thread) oracle later) ++
        outputs ((respond lib (deliverSmResp req
          (oracle .uninitialised).garbage) bufSize).trace (exec thread)
            oracle delivered) := by
  have conversion := outputs_eq_nil thread oracle
    ((convertText_memory req
      (selectBody req (oracle .uninitialised).garbage).1
      (selectBody req (oracle .uninitialised).garbage).2
      (oracle .uninitialised).garbage.dstLen).mono Op.isMemory.output)
    (state.linkTlv req.tlv).2
  rw [smppDeliverSmOper_trace thread oracle conf lib accepts converted]
  unfold Sms112.conversion
  simp only [outputs_append, conversion, deletePrintData_outputs,
    List.append_nil]
  rfl

variable {lib}

/-- An accepted PDU is answered last, with the message identifier its
structure happens to hold. -/
theorem handled_response
    (packs : lib.PacksMessageId)
    {buf : Octets}
    {dataLen : Int}
    (accepted : Accepted lib (buf.take dataLen.toNat))
    (seqNum : Nat)
    (state : State)
    {messageId : Octets}
    (text : 0 ∉ messageId)
    (short : messageId.length ≤ 64) :
    ∃ earlier data,
      (handled thread oracle conf lib buf dataLen localBufferSize seqNum state
        { res := messageId }).2 = earlier ++ [.response data] ∧
      data.drop headerLength = messageId ++ [0] := by
  generalize unpacked : lib.unpack2 (buf.take dataLen.toNat) = outcome
  obtain ⟨code, req⟩ := outcome
  unfold Accepted at accepted
  rw [unpacked] at accepted
  obtain ⟨rfl, supported⟩ := accepted
  let run := withLocals oracle { res := messageId }
  obtain ⟨printData, later, converted⟩ :=
    conversion_pointer thread run supported (state.linkTlv req.tlv).2
  obtain ⟨packed, octets⟩ := packs req.sequenceNumber messageId text short
  let delivery := deliverAndReport conf req.sourceAddr printData
  have answer := respond_outputs thread run lib packed
    (delivery.eval (exec thread) run later).2
  have shown := smppDeliverSmOper_outputs thread run conf lib unpacked
    converted localBufferSize seqNum
  refine ⟨outputs (delivery.trace (exec thread) run later), _,
    shown.trans ?_, octets⟩
  exact congrArg (outputs (delivery.trace (exec thread) run later) ++ ·)
    answer

/-- What is handed on and the result depend on nothing but the inputs exactly
when the PDU is not accepted, and so nothing is handed on. -/
theorem smppDeliverSmOper_independent_iff
    (packs : lib.PacksMessageId)
    (buf : Octets)
    (dataLen : Int)
    (seqNum : Nat)
    (state : State) :
    Independent thread oracle conf lib buf dataLen localBufferSize seqNum
        state ↔
      ¬Accepted lib (buf.take dataLen.toNat) := by
  constructor
  · intro same accepted
    obtain ⟨earlier, data, shown, octets⟩ := @handled_response thread oracle
      conf lib packs buf dataLen accepted seqNum state [] (by decide)
      (by decide)
    obtain ⟨earlier', data', shown', octets'⟩ := @handled_response thread
      oracle conf lib packs buf dataLen accepted seqNum state [49] (by decide)
      (by decide)
    have equal := congrArg Prod.snd (same { res := [] } { res := [49] })
    rw [shown, shown'] at equal
    have response := List.head_eq_of_cons_eq
      (List.append_inj_right' equal rfl)
    rw [Output.response.injEq] at response
    rw [response, octets'] at octets
    exact nomatch octets
  · intro refused first second
    unfold handled
    rw [smppDeliverSmOper_refused conf refused]
    rfl

theorem referenceCodec_packsMessageId : referenceCodec.PacksMessageId := by
  intro seqNum messageId _ short
  have fits : (ReferenceCodec.packed
      { commandId := DELIVER_SM_RESP
        commandStatus := ESME_ROK
        sequenceNumber := seqNum
        body := .deliverSmResp messageId }).length ≤ localBufferSize := by
    simp only [ReferenceCodec.packed, ReferenceCodec.packBody,
      List.length_append, length_wordOctets, List.length_singleton,
      localBufferSize]
    omega
  dsimp only [referenceCodec, ReferenceCodec.pack2]
  rw [if_pos fits]
  exact ⟨rfl, rfl⟩

/-- A message in a coding that is not supported. -/
def unsupportedDeliverSm : Octets :=
  ReferenceCodec.deliverSmOctets 7 (ascii "7112") 3 (ascii "SOS") []

theorem unsupportedDeliverSm_independent :
    Independent .receiver allSucceeds {} referenceCodec unsupportedDeliverSm
      unsupportedDeliverSm.length localBufferSize 7 connectedState :=
  (smppDeliverSmOper_independent_iff .receiver allSucceeds {}
    referenceCodec_packsMessageId unsupportedDeliverSm
    unsupportedDeliverSm.length 7 connectedState).mpr (by decide +kernel)

/-- Two runs on a plain message, whose `res` held different octets before, send
different responses. -/
theorem plainDeliverSm_dependent :
    Accepted referenceCodec plainDeliverSm ∧
      ¬Independent .receiver allSucceeds {} referenceCodec plainDeliverSm
        plainDeliverSm.length localBufferSize 7 connectedState := by
  refine ⟨by decide +kernel, fun same => ?_⟩
  exact absurd (same { res := [] } { res := [49] }) (by decide +kernel)

/-! ## The text -/

/-- The message has a body: a short message or a `message_payload`. -/
def HasBody (req : Unpacked) : Prop :=
  req.smLength ≠ 0 ∨ ∃ tlv ∈ req.tlv, tlv.tag = messagePayloadTag

/-- The body of a message that has one is found in it. -/
theorem selectBody_of_hasBody
    {req : Unpacked}
    (body : HasBody req)
    (first second : Garbage) :
    selectBody req first = selectBody req second := by
  unfold selectBody
  by_cases message : req.smLength ≠ 0
  · rw [if_pos message, if_pos message]
  · obtain ⟨tlv, member, tag⟩ := body.resolve_left message
    have some_payload :
        (req.tlv.find? (·.tag = messagePayloadTag)).isSome :=
      List.find?_isSome.mpr ⟨tlv, member, decide_eq_true tag⟩
    obtain ⟨payload, found⟩ := Option.isSome_iff_exists.mp some_payload
    simp only [if_neg message, List.find?_append, found, Option.some_or]

/-- The length that was there before the conversion is not used. -/
theorem convertText_dstLen
    (req : Unpacked)
    (srcStr : Octets)
    (srcLen first second : Nat) :
    convertText req srcStr srcLen first =
      convertText req srcStr srcLen second := by
  unfold convertText
  by_cases ucs2 : req.dataCoding = 8
  · rw [if_pos ucs2, if_pos ucs2]
    refine congrArg (Program.perform _) (funext fun outBuf => ?_)
    refine congrArg (Program.perform _) (funext fun opened => ?_)
    cases opened with
    | false => rfl
    | true =>
        refine congrArg (Program.perform _) (funext fun converted => ?_)
        refine congrArg (Program.perform _) (funext fun _ => ?_)
        by_cases failed : converted.ret = -1
        · simp only [Program.bind, if_pos failed]
          rfl
        · simp only [Program.bind, if_neg failed]
  · rw [if_neg ucs2, if_neg ucs2]

/-- What a delivery hands on, aside from the response. -/
def Output.isDelivery : Output → Bool
  | .response _ => false
  | _ => true

theorem respond_undelivered (response : Pdu) (bufSize : Nat)
    (state : State) :
    (outputs ((respond lib response bufSize).trace (exec thread) oracle
      state)).filter Output.isDelivery = [] := by
  rw [List.filter_eq_nil_iff]
  intro output member
  obtain ⟨⟨operation, before⟩, performed, shown⟩ :=
    List.mem_filterMap.mp member
  have transmission :=
    (respond_transmission lib response bufSize).performs state _ performed
  cases operation
  case send data =>
    obtain rfl := Option.some.inj shown
    exact Bool.false_ne_true
  case setTcpConnected value => exact nomatch shown
  all_goals exact nomatch transmission

/-- The conversion of a message with a body is the same whatever the locals
held before. -/
theorem conversion_withLocals
    {req : Unpacked}
    (body : HasBody req)
    (garbage : Garbage)
    (state : State) :
    (conversion (withLocals oracle garbage) req).eval (exec thread)
        (withLocals oracle garbage) state =
      (conversion oracle req).eval (exec thread) oracle state := by
  unfold conversion
  dsimp only
  rw [withLocals_garbage, convertText_dstLen _ _ _ garbage.dstLen
    (oracle .uninitialised).garbage.dstLen, selectBody_of_hasBody body garbage
      (oracle .uninitialised).garbage]
  refine ((convertText_conversion req _ _ _).oracle_congr ?_ state).1
  intro operation conversion
  refine withLocals_of_ne ?_ oracle garbage
  rintro rfl
  exact nomatch conversion

/-- The callers and the texts handed on depend on nothing but the inputs if
the message has a body. -/
theorem handled_delivery
    {buf : Octets}
    {dataLen : Int}
    (body : HasBody (lib.unpack2 (buf.take dataLen.toNat)).2)
    (bufSize seqNum : Nat)
    (state : State)
    (first second : Garbage) :
    (handled thread oracle conf lib buf dataLen bufSize seqNum state
        first).2.filter Output.isDelivery =
      (handled thread oracle conf lib buf dataLen bufSize seqNum state
        second).2.filter Output.isDelivery := by
  by_cases accepted : Accepted lib (buf.take dataLen.toNat)
  · generalize unpacked : lib.unpack2 (buf.take dataLen.toNat) = outcome
    obtain ⟨code, req⟩ := outcome
    unfold Accepted at accepted
    rw [unpacked] at accepted body
    obtain ⟨rfl, supported⟩ := accepted
    obtain ⟨printData, later, converted⟩ :=
      conversion_pointer thread oracle supported (state.linkTlv req.tlv).2
    let delivery := deliverAndReport conf req.sourceAddr printData
    have delivered (garbage : Garbage) :
        (handled thread oracle conf lib buf dataLen bufSize seqNum state
            garbage).2.filter Output.isDelivery =
          (outputs (delivery.trace (exec thread) oracle later)).filter
            Output.isDelivery := by
      let run := withLocals oracle garbage
      have agree (operation : Op) (delivers : operation.delivers printData) :
          run operation = oracle operation := by
        refine withLocals_of_ne ?_ oracle garbage
        rintro rfl
        exact nomatch delivers
      have same : delivery.trace (exec thread) run later =
          delivery.trace (exec thread) oracle later :=
        ((deliverAndReport_delivers printData conf
          req.sourceAddr).oracle_congr agree later).2
      have shown := smppDeliverSmOper_outputs thread run conf lib unpacked
        ((conversion_withLocals thread oracle body garbage _).trans converted)
        bufSize seqNum
      refine (congrArg (List.filter Output.isDelivery) shown).trans ?_
      rw [List.filter_append, respond_undelivered, List.append_nil]
      exact congrArg (fun steps => (outputs steps).filter _) same
    rw [delivered first, delivered second]
  · unfold handled
    rw [smppDeliverSmOper_refused conf accepted]
    rfl

end Sms112
