import Sms112.Handler.Stages

/-!
# Acknowledged, delivered, reported

A message that is answered with `ESME_ROK` should have been delivered over
SIP, or the report server should have accepted a report of the failure. The
handler looks at neither the result of the conversion nor the result of the
report's transfer, so whether this is the case depends on the outcomes of the
stages.
-/

namespace Sms112

open Resumption

/-! ## The outcomes of the stages -/

/-- The environment's answers while one message is handled: each of these
calls is made at most once. -/
structure Outcomes where
  uninitialised : Choice := {}
  newChars : Choice := {}
  iconvOpen : Choice := {}
  iconv : Choice := {}
  snprintf : Choice := {}
  geodata : Choice := {}
  localNameHost : Choice := {}
  sipCall : Choice := {}
  strerror : Choice := {}
  time : Choice := {}
  localtime : Choice := {}
  strftime : Choice := {}
  report : Choice := {}
  send : Choice := {}

/-- The answer to each call. -/
def Outcomes.oracle (outcomes : Outcomes) : Op → Choice
  | .uninitialised => outcomes.uninitialised
  | .newChars _ => outcomes.newChars
  | .iconvOpen .. => outcomes.iconvOpen
  | .iconv .. => outcomes.iconv
  | .snprintf .. => outcomes.snprintf
  | .curl _ none _ => outcomes.geodata
  | .curl _ (some _) _ => outcomes.report
  | .localNameHost => outcomes.localNameHost
  | .sipCall .. => outcomes.sipCall
  | .strerror _ => outcomes.strerror
  | .time => outcomes.time
  | .localtime _ => outcomes.localtime
  | .strftime .. => outcomes.strftime
  | .send _ => outcomes.send
  | _ => {}

variable (conf : SConf) (req : Unpacked) (outcomes : Outcomes)

/-- The message is converted without an error. -/
def Converts : Prop :=
  let body := selectBody req outcomes.uninitialised.garbage
  req.dataCoding = 0 ∨
    req.dataCoding = 8 ∧ IconvSucceeds outcomes.oracle body.1 body.2

/-- The geodata are found and the SIP request ends with success. -/
def SipSucceeds : Prop :=
  (geodataFound conf outcomes.oracle req.sourceAddr).isSome ∧
    SipNamesFit conf outcomes.oracle req.sourceAddr ∧
    outcomes.sipCall.ret = 0

instance : Decidable (SipSucceeds conf req outcomes) := by
  unfold SipSucceeds
  infer_instance

/-- The clock gives a time stamp and the transfer of the report ends with
success. -/
def ReportAccepted : Prop :=
  (timeStamp outcomes.oracle).isSome ∧ outcomes.report.ret = 0

/-- What must go well: the conversion if SIP does, the report if not. -/
def Accounted : Prop :=
  (SipSucceeds conf req outcomes → Converts req outcomes) ∧
    (¬SipSucceeds conf req outcomes → ReportAccepted outcomes)

/-! ## What happened to the message -/

/-- The text the conversion ends with, where it succeeds. -/
inductive ConvertedText : Octets → Prop
  | gsm (coding : req.dataCoding = 0) :
      ConvertedText (cString
        ((selectBody req outcomes.uninitialised.garbage).1.take
          req.smLength))
  | ucs2
      (coding : req.dataCoding = 8)
      (succeeds : IconvSucceeds outcomes.oracle
        (selectBody req outcomes.uninitialised.garbage).1
        (selectBody req outcomes.uninitialised.garbage).2) :
      ConvertedText (cString (iconvOutput outcomes.oracle
        (selectBody req outcomes.uninitialised.garbage).1
        (selectBody req outcomes.uninitialised.garbage).2))

variable (before after : State)

/-- A `DELIVER_SM_RESP` with `ESME_ROK` was sent. -/
def Acknowledged : Prop :=
  ∃ sender serial data,
    .sent sender serial data data.length ∈ newEvents before after ∧
      word data 4 = DELIVER_SM_RESP ∧ word data 8 = ESME_ROK

/-- A SIP request with the converted text ended with success. -/
def Delivered : Prop :=
  ∃ text geodata, ConvertedText req outcomes text ∧
    .sipSendReq req.sourceAddr (some text) geodata 0 ∈
      newEvents before after

/-- The report server accepted a report for the caller with a result other
than success. -/
def ReportedAsFailed : Prop :=
  ∃ stamp message resultString resultXML received,
    resultString ≠ ascii "OK" ∧
      .sendReport req.sourceAddr message resultString resultXML ∈
        newEvents before after ∧
      .curl conf.reportURL (some (reportBody stamp req.sourceAddr message
        resultString resultXML)) 0 received ∈ newEvents before after

/-! ## The outcomes decide -/

variable {req outcomes}

theorem ConvertedText.converts
    {text : Octets}
    (converted : ConvertedText req outcomes text) :
    Converts req outcomes := by
  cases converted with
  | gsm coding => exact .inl coding
  | ucs2 coding succeeds => exact .inr ⟨coding, succeeds⟩

theorem resultText_eq_ok_iff
    (oracle : Op → Choice)
    (geodata : Option Octets)
    (answer : Int) :
    resultText oracle geodata answer = ascii "OK" ↔
      geodata.isSome ∧ answer = 0 := by
  unfold resultText
  by_cases found : geodata.isSome
  · by_cases succeeded : answer = 0
    · simp only [found, succeeded, if_true, and_self, iff_true]
      rfl
    · simp only [found, succeeded, if_true, if_false, and_false, iff_false]
      intro equal
      have first := congrArg List.head? equal
      have lead : (ascii "Error: sip request failed: ").head? = some 69 := by
        decide
      rw [printResult, List.head?_take, List.head?_append, lead,
        Option.some_or] at first
      exact absurd first (by decide)
  · rw [Bool.not_eq_true] at found
    simp only [found, Bool.false_eq_true, if_false, false_and, iff_false]
    decide

theorem sipSucceeds_iff (text : Option Octets) (shown : Octets) :
    SipSucceeds conf req outcomes ↔
      (geodataFound conf outcomes.oracle req.sourceAddr).isSome ∧
        sipAnswer conf outcomes.oracle req.sourceAddr text shown = 0 := by
  unfold SipSucceeds sipAnswer
  by_cases fit : SipNamesFit conf outcomes.oracle req.sourceAddr
  · simp [fit, Outcomes.oracle]
  · simp [fit]

/-- Where the conversion succeeds, the text pointer shows the converted
text. -/
theorem Converts.convertText
    (converts : Converts req outcomes)
    (thread : Thread)
    (state : State) :
    let body := selectBody req outcomes.uninitialised.garbage
    ∃ address later,
      (convertText req body.1 body.2
          outcomes.uninitialised.garbage.dstLen).eval (exec thread)
        outcomes.oracle state = (some (some address), later) ∧
      ConvertedText req outcomes (cString (later.block address)) := by
  intro body
  rcases converts with gsm | ⟨ucs2, succeeds⟩
  · obtain ⟨address, later, evaluated, shown⟩ := convertText_gsm thread
      outcomes.oracle gsm (smLength_le_selectBody req _) body.2
      outcomes.uninitialised.garbage.dstLen state
    exact ⟨address, later, evaluated, shown ▸ .gsm gsm⟩
  · obtain ⟨address, later, evaluated, shown⟩ := convertText_ucs2 thread
      ucs2 succeeds outcomes.uninitialised.garbage.dstLen state
    exact ⟨address, later, evaluated, shown ▸ .ucs2 ucs2 succeeds⟩

variable (thread : Thread) (lib : Smpp34)

/-- Only a message that was unpacked and has a supported coding is
answered. -/
theorem smppDeliverSmOper_silent
    (oracle : Op → Choice)
    {buf : Octets}
    {dataLen : Int}
    (rejected : ¬((lib.unpack2 (buf.take dataLen.toNat)).1 = 0 ∧
      SupportedCoding (lib.unpack2 (buf.take dataLen.toNat)).2))
    (bufSize seqNum : Nat)
    (state : State) :
    Observes sentEvent [] state
      ((smppDeliverSmOper conf lib buf dataLen bufSize seqNum).eval
        (exec thread) oracle state).2 := by
  rw [smppDeliverSmOper_refused conf rejected]
  exact .of_log_eq rfl

theorem Acknowledged.accepted
    {oracle : Op → Choice}
    {buf : Octets}
    {dataLen : Int}
    {bufSize seqNum : Nat}
    {state : State}
    (acknowledged : Acknowledged state
      ((smppDeliverSmOper conf lib buf dataLen bufSize seqNum).eval
        (exec thread) oracle state).2) :
    (lib.unpack2 (buf.take dataLen.toNat)).1 = 0 ∧
      SupportedCoding (lib.unpack2 (buf.take dataLen.toNat)).2 := by
  by_contra rejected
  obtain ⟨sender, serial, data, sent, -⟩ := acknowledged
  have silent := smppDeliverSmOper_silent conf thread lib oracle rejected
    bufSize seqNum state
  have shown : Event.sent sender serial data data.length ∈
      (newEvents state _).filterMap sentEvent :=
    List.mem_filterMap.mpr ⟨_, sent, rfl⟩
  rw [silent.newEvents_eq] at shown
  exact List.not_mem_nil shown

section Events

variable {conf}
variable {text : Option Octets}
variable {before after : State}
variable (events : Observes deliveryEvent
  (deliveryEvents conf outcomes.oracle req.sourceAddr text) before after)
include events

/-- A delivery is confirmed where the SIP request succeeds, and it is one of
the converted text where the conversion does. -/
theorem delivered_iff
    (shows : Converts req outcomes →
      ∃ shown, text = some shown ∧ ConvertedText req outcomes shown) :
    Delivered req outcomes before after ↔
      SipSucceeds conf req outcomes ∧ Converts req outcomes := by
  have member (shown geodata : Octets) :
      .sipSendReq req.sourceAddr (some shown) geodata 0 ∈
        newEvents before after ↔ _ :=
    events.mem_newEvents_iff deliveryEvent_selects rfl
  unfold Delivered
  simp only [member, sipSendReq_mem_deliveryEvents]
  constructor
  · rintro ⟨shown, geodata, converted, found, looked, -, -, -, answer⟩
    refine ⟨?_, converted.converts⟩
    rw [sipSucceeds_iff conf text (cString found), looked]
    exact ⟨rfl, answer.symm⟩
  · rintro ⟨succeeds, converts⟩
    obtain ⟨shown, rfl, converted⟩ := shows converts
    obtain ⟨found, looked⟩ := Option.isSome_iff_exists.mp succeeds.1
    have answer :=
      ((sipSucceeds_iff conf (some shown) (cString found)).mp succeeds).2
    exact ⟨shown, cString found, converted, found, looked, trivial, rfl, rfl,
      answer.symm⟩

/-- A failure is reported where the SIP request does not succeed, and the
report arrives where its transfer succeeds. -/
theorem reportedAsFailed_iff :
    ReportedAsFailed conf req before after ↔
      ¬SipSucceeds conf req outcomes ∧ ReportAccepted outcomes := by
  have failed_iff := (resultText_eq_ok_iff outcomes.oracle
    (geodataFound conf outcomes.oracle req.sourceAddr)
    (sipAnswer conf outcomes.oracle req.sourceAddr text (cString
      ((geodataFound conf outcomes.oracle req.sourceAddr).getD [])))).not
  rw [← sipSucceeds_iff] at failed_iff
  have report (message : Option Octets) (resultString resultXML : Octets) :
      .sendReport req.sourceAddr message resultString resultXML ∈
        newEvents before after ↔ _ :=
    events.mem_newEvents_iff deliveryEvent_selects rfl
  have transfer (body received : Octets) :
      .curl conf.reportURL (some body) 0 received ∈
        newEvents before after ↔ _ :=
    events.mem_newEvents_iff deliveryEvent_selects rfl
  unfold ReportedAsFailed ReportAccepted
  simp only [report, transfer, sendReport_mem_deliveryEvents,
    curl_mem_deliveryEvents]
  constructor
  · rintro ⟨stamp, message, resultString, resultXML, received, failed,
      ⟨-, rfl, rfl, rfl⟩, clock, stamped, -, -, accepted, -⟩
    refine ⟨failed_iff.mp failed, ?_, accepted.symm⟩
    rw [stamped]
    rfl
  · rintro ⟨fails, stamped, accepted⟩
    obtain ⟨stamp, clock⟩ := Option.isSome_iff_exists.mp stamped
    exact ⟨stamp, _, _, _, _, failed_iff.mpr fails,
      ⟨trivial, rfl, rfl, rfl⟩, stamp, clock, trivial, rfl, accepted.symm,
      rfl⟩

end Events

/-- An acknowledged message was delivered or reported as failed exactly when
the stage that decided it went well. -/
theorem smppDeliverSmOper_accounted_iff
    (outcomes : Outcomes)
    (buf : Octets)
    (dataLen : Int)
    (bufSize seqNum : Nat)
    (state : State)
    (acknowledged : Acknowledged state
      ((smppDeliverSmOper conf lib buf dataLen bufSize seqNum).eval
        (exec thread) outcomes.oracle state).2) :
    let req := (lib.unpack2 (buf.take dataLen.toNat)).2
    let after := ((smppDeliverSmOper conf lib buf dataLen bufSize
      seqNum).eval (exec thread) outcomes.oracle state).2
    Delivered req outcomes state after ∨
        ReportedAsFailed conf req state after ↔
      Accounted conf req outcomes := by
  intro req after
  obtain ⟨code, supported⟩ := acknowledged.accepted
  have accepts : lib.unpack2 (buf.take dataLen.toNat) = (0, req) :=
    Prod.ext code rfl
  have set := (convertText_isSome_iff thread outcomes.oracle req
    (selectBody req outcomes.uninitialised.garbage).1
    (selectBody req outcomes.uninitialised.garbage).2
    outcomes.uninitialised.garbage.dstLen
    (state.linkTlv req.tlv).2).mpr supported
  obtain ⟨printData, pointer⟩ := Option.isSome_iff_exists.mp set
  generalize conversion : (convertText req
    (selectBody req outcomes.uninitialised.garbage).1
    (selectBody req outcomes.uninitialised.garbage).2
    outcomes.uninitialised.garbage.dstLen).eval (exec thread)
      outcomes.oracle (state.linkTlv req.tlv).2 = converted at pointer
  obtain ⟨_, later⟩ := converted
  obtain rfl : _ = some printData := pointer
  obtain ⟨log, -, delivers⟩ := deliverAndReport_eval conf outcomes.oracle
    thread req.sourceAddr printData later
  have responds := eval_quiet thread outcomes.oracle
    ((respond_transmission lib
      (deliverSmResp req outcomes.uninitialised.garbage) bufSize).mono
        (Op.isTransmission.quiet deliveryEvent fun _ _ _ _ => rfl))
    ((deliverAndReport conf req.sourceAddr printData).eval (exec thread)
      outcomes.oracle later).2
  have events := smppDeliverSmOper_observes conf thread lib rfl accepts
    conversion bufSize seqNum delivers responds
  rw [List.nil_append] at events
  rw [delivered_iff events, reportedAsFailed_iff events]
  · unfold Accounted
    by_cases succeeds : SipSucceeds conf req outcomes <;> simp [succeeds]
  · intro converts
    obtain ⟨address, final, evaluated, shown⟩ :=
      converts.convertText thread (state.linkTlv req.tlv).2
    rw [conversion] at evaluated
    cases evaluated
    exact ⟨_, rfl, shown⟩

/-- A message in coding 0. -/
def plainDeliverSm : Octets :=
  ReferenceCodec.deliverSmOctets 7 (ascii "7112") 0 (ascii "SOS") []

/-- All goes well. -/
def goodOutcomes : Outcomes where
  geodata := { chunks := [ascii "<presence></presence>"] }
  send := { ret := 1024 }

/-- Neither the geodata server nor the report server can be reached. -/
def serversDown : Outcomes where
  geodata := { ret := 7 }
  report := { ret := 7 }
  send := { ret := 1024 }

/-- The state after the message was handled with the given outcomes. -/
def afterPlainDeliverSm (outcomes : Outcomes) : State :=
  ((smppDeliverSmOper {} referenceCodec plainDeliverSm
    plainDeliverSm.length localBufferSize 7).eval (exec .receiver)
      outcomes.oracle connectedState).2

/-- The response to the message. -/
def plainDeliverSmResp : Octets :=
  ReferenceCodec.packed
    (deliverSmResp (referenceCodec.unpack2 plainDeliverSm).2 {})

theorem afterPlainDeliverSm_delivered :
    Delivered (referenceCodec.unpack2 plainDeliverSm).2 goodOutcomes
        connectedState (afterPlainDeliverSm goodOutcomes) ∨
      ReportedAsFailed {} (referenceCodec.unpack2 plainDeliverSm).2
        connectedState (afterPlainDeliverSm goodOutcomes) := by
  have converts : Converts (referenceCodec.unpack2 plainDeliverSm).2
      goodOutcomes := .inl (by decide +kernel)
  have succeeds : SipSucceeds {} (referenceCodec.unpack2 plainDeliverSm).2
      goodOutcomes := by decide +kernel
  exact (smppDeliverSmOper_accounted_iff {} .receiver referenceCodec
    goodOutcomes plainDeliverSm plainDeliverSm.length localBufferSize 7
    connectedState
    ⟨.receiver, 0, plainDeliverSmResp, by decide +kernel,
      by decide +kernel, by decide +kernel⟩).mpr
    ⟨fun _ => converts, fun fails => absurd succeeds fails⟩

/-- The events that can account for a message. -/
def accounts : Event → Bool
  | .sipSendReq _ _ _ result => result = 0
  | .curl _ (some _) result _ => result = 0
  | _ => false

/-- With both servers down the message is acknowledged, but it is neither
delivered nor reported. -/
theorem plainDeliverSm_lost :
    Acknowledged connectedState (afterPlainDeliverSm serversDown) ∧
      ¬(Delivered (referenceCodec.unpack2 plainDeliverSm).2 serversDown
          connectedState (afterPlainDeliverSm serversDown) ∨
        ReportedAsFailed {} (referenceCodec.unpack2 plainDeliverSm).2
          connectedState (afterPlainDeliverSm serversDown)) := by
  refine ⟨⟨.receiver, 0, plainDeliverSmResp, by decide +kernel,
    by decide +kernel, by decide +kernel⟩, ?_⟩
  have nothing : ∀ event ∈ newEvents connectedState
      (afterPlainDeliverSm serversDown), accounts event = false := by
    decide +kernel
  rintro (⟨text, geodata, -, sent⟩ | ⟨stamp, message, _, _, _, -, -, sent⟩)
  · exact absurd (nothing _ sent) (by simp [accounts])
  · exact absurd (nothing _ sent) (by simp [accounts])

end Sms112
