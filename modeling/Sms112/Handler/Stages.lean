import Sms112.Handler.Conversion

/-!
# The stages of a delivery

What the look-up of the geodata, the SIP request and the report come to, as
functions of the environment's answers, and the events that a delivery made of
them leaves in the log.
-/

namespace Sms112

open Resumption

variable (conf : SConf) (oracle : Op → Choice)

/-! ## The answers -/

/-- The URL `snprintf` prints for a look-up, with its result. -/
def lookUpURL (caller : Octets) : Int × Octets :=
  snprintf urlSize conf.geolocationURLTemplate caller
    (oracle (.snprintf urlSize conf.geolocationURLTemplate caller))

/-- The geodata a look-up ends with. -/
def geodataFound (caller : Octets) : Option Octets :=
  let printed := lookUpURL conf oracle caller
  let received := oracle (.curl printed.2 none none)
  if printed.1 % 2 ^ 64 < urlSize ∧ received.ret = 0 then
    extractGeodata (curlWriteResult [] received.chunks)
  else none

/-- The host name the SIP library knows. -/
def localHost : Option Octets :=
  if (oracle .localNameHost).ret = 0 then none
  else some (oracle .localNameHost).data

/-- Both names of a SIP request fit into their buffers. -/
def SipNamesFit (caller : Octets) : Prop :=
  (sipLocal caller (localHost oracle)).length < sipNameSize ∧
    (sipRemote conf).length < sipNameSize

instance (caller : Octets) : Decidable (SipNamesFit conf oracle caller) := by
  unfold SipNamesFit
  infer_instance

/-- What a SIP request ends with. -/
def sipAnswer (caller : Octets) (text : Option Octets)
    (geodata : Octets) : Int :=
  if SipNamesFit conf oracle caller then
    (oracle (.sipCall (sipLocal caller (localHost oracle)) (sipRemote conf)
      caller text geodata)).ret
  else -1

/-- The time stamp of a report, if the clock gives one. -/
def timeStamp : Option Octets :=
  let tTime := (oracle .time).sec
  let formatted :=
    oracle (.strftime (ascii "%Y-%m-%dT%H:%M:%S") timeStampSize)
  if tTime ≠ -1 ∧ (oracle (.localtime tTime)).ret = 0 ∧
      formatted.ret % 2 ^ 64 < timeStampSize then
    some formatted.data
  else none

/-! ## Their events -/

/-- The events of a delivery: SIP requests, reports and their transfers. -/
def deliveryEvent : Event → Option Event
  | .sipSendReq caller text geodata result =>
      some (.sipSendReq caller text geodata result)
  | .sendReport phoneNumber message resultString resultXML =>
      some (.sendReport phoneNumber message resultString resultXML)
  | .curl url (some body) result received =>
      some (.curl url (some body) result received)
  | _ => none

/-- The transfer of a report. -/
def reportTransfer (phoneNumber : Octets) (message : Option Octets)
    (resultString resultXML : Octets) : List Event :=
  match timeStamp oracle with
  | some stamp =>
      let body := reportBody stamp phoneNumber message resultString resultXML
      let outcome := oracle (.curl conf.reportURL (some body)
        (some (ascii "Content-Type: application/json")))
      [.curl conf.reportURL (some body) outcome.ret outcome.chunks.flatten]
  | none => []

variable (thread : Thread)

@[simp] theorem curlPerfRequest_eval (url : Octets)
    (body contentType : Option Octets) (state : State) :
    (curlPerfRequest url body contentType).eval (exec thread) oracle state =
      let outcome := oracle (.curl url body contentType)
      ((outcome.ret, curlWriteResult [] outcome.chunks),
        state.note (.curl url body outcome.ret outcome.chunks.flatten)) :=
  rfl

/-- The look-up succeeds exactly when geodata are found. -/
theorem geodataGet_eval (caller : Octets) (state : State) :
    ∃ code later, (geodataGet conf (some caller) []).eval (exec thread)
        oracle state =
          ((code, (geodataFound conf oracle caller).getD []), later) ∧
      (code = 0 ↔ (geodataFound conf oracle caller).isSome) ∧
      OnlyLogs deliveryEvent [] state later := by
  have printed : (call (.snprintf urlSize conf.geolocationURLTemplate
      caller)).eval (exec thread) oracle state =
        (lookUpURL conf oracle caller, state) := rfl
  unfold geodataGet geodataFound
  dsimp only
  rw [Program.eval_bind_of_eq _ _ printed]
  generalize lookUpURL conf oracle caller = url
  obtain ⟨iFnRes, url⟩ := url
  by_cases fits : iFnRes % 2 ^ 64 < urlSize
  · have looked : OnlyLogs deliveryEvent [] state
        (state.note (.curl url none (oracle (.curl url none none)).ret
          (oracle (.curl url none none)).chunks.flatten)) :=
      OnlyLogs.note state _
    simp only [fits, if_true, true_and, Program.eval_bind,
      curlPerfRequest_eval]
    by_cases answered : (oracle (.curl url none none)).ret = 0
    · simp only [answered, if_true] at looked ⊢
      cases extractGeodata (curlWriteResult []
          (oracle (.curl url none none)).chunks) with
      | none => exact ⟨-1, _, rfl, by simp, looked⟩
      | some found => exact ⟨0, _, rfl, by simp, looked⟩
    · simp only [answered, if_false]
      exact ⟨_, _, rfl, by simpa using answered, looked⟩
  · simp only [fits, if_false, false_and]
    exact ⟨EINVAL, state, rfl, by simp [EINVAL], OnlyLogs.refl state⟩

/-- A SIP request changes nothing the program can see. -/
theorem sipSendReq_eval (caller : Octets) (text : Option Octets)
    (geodata : Octets) (state : State) :
    (sipSendReq conf caller text geodata).eval (exec thread) oracle state =
      (sipAnswer conf oracle caller text geodata, state) := by
  unfold sipSendReq sipAnswer
  have host : (call .localNameHost).eval (exec thread) oracle state =
      (localHost oracle, state) := rfl
  rw [Program.eval_bind_of_eq _ _ host]
  by_cases localFits :
      (sipLocal caller (localHost oracle)).length < sipNameSize
  · rw [if_neg (by omega)]
    by_cases remoteFits : (sipRemote conf).length < sipNameSize
    · have fit : SipNamesFit conf oracle caller := ⟨localFits, remoteFits⟩
      rw [if_neg (by omega), if_pos fit]
      rfl
    · have overflow : ¬SipNamesFit conf oracle caller :=
        fun fit => remoteFits fit.2
      rw [if_pos (by omega), if_neg overflow]
      rfl
  · have overflow : ¬SipNamesFit conf oracle caller :=
      fun fit => localFits fit.1
    rw [if_pos (by omega), if_neg overflow]
    rfl

/-- A report is noted, and transferred if the clock gives a time stamp. -/
theorem sendReport_eval (phoneNumber : Octets) (message : Option Octets)
    (resultString resultXML : Octets) (state : State) :
    OnlyLogs deliveryEvent
      (reportTransfer conf oracle phoneNumber message resultString
          resultXML ++
        [.sendReport phoneNumber message resultString resultXML]) state
      ((sendReport conf phoneNumber message resultString resultXML).eval
        (exec thread) oracle state).2 := by
  have noted : OnlyLogs deliveryEvent _ state _ := OnlyLogs.note state
    (.sendReport phoneNumber message resultString resultXML)
  unfold sendReport
  rw [Program.eval_bind]
  refine OnlyLogs.trans noted ?_
  simp only [Program.eval_call, exec]
  generalize state.note _ = later
  have time : (call .time).eval (exec thread) oracle later =
      ((oracle .time).sec, later) := rfl
  rw [Program.eval_bind_of_eq _ _ time]
  unfold reportTransfer timeStamp
  by_cases noTime : (oracle .time).sec = -1
  · simp only [noTime, ne_eq, not_true_eq_false, false_and, if_true, if_false]
    exact OnlyLogs.refl later
  · have localtime :
        (call (.localtime (oracle .time).sec)).eval (exec thread) oracle
          later =
        (decide ((oracle (.localtime (oracle .time).sec)).ret = 0), later) :=
      rfl
    rw [if_neg noTime, Program.eval_bind_of_eq _ _ localtime]
    by_cases converted : (oracle (.localtime (oracle .time).sec)).ret = 0
    · simp only [noTime, converted, decide_true, Bool.not_true,
        Bool.false_eq_true, if_false, ne_eq, not_false_eq_true, true_and,
        Program.eval_bind, Program.eval_call, exec]
      by_cases fits : (oracle (.strftime (ascii "%Y-%m-%dT%H:%M:%S")
          timeStampSize)).ret % 2 ^ 64 < timeStampSize
      · simp only [fits, if_true]
        exact OnlyLogs.note later _
      · simp only [fits, if_false]
        exact OnlyLogs.refl later
    · simp only [noTime, converted, decide_false, Bool.not_false, if_true,
        ne_eq, not_false_eq_true, true_and, false_and, if_false]
      exact OnlyLogs.refl later

/-! ## The delivery as a whole -/

/-- `mcResult` for a look-up and a SIP request with these outcomes. -/
def resultText (geodata : Option Octets) (answer : Int) : Octets :=
  if geodata.isSome then
    if answer = 0 then printResult (ascii "OK")
    else
      printResult (ascii "Error: sip request failed: " ++
        cString (oracle (.strerror answer)).data)
  else printResult (ascii "Error: can not to retrieve geodata")

/-- The event of a SIP request, which needs the geodata. -/
def sipEvents (caller : Octets) (text geodata : Option Octets) :
    List Event :=
  match geodata with
  | some geodata =>
      [.sipSendReq caller text (cString geodata)
        (sipAnswer conf oracle caller text (cString geodata))]
  | none => []

/-- The events of a delivery of the given text, newest first. -/
def deliveryEvents (caller : Octets) (text : Option Octets) : List Event :=
  let geodata := geodataFound conf oracle caller
  let shown := cString (geodata.getD [])
  let result := resultText oracle geodata
    (sipAnswer conf oracle caller text shown)
  reportTransfer conf oracle caller text result shown ++
    [.sendReport caller text result shown] ++
    sipEvents conf oracle caller text geodata

theorem deliveryEvent_selects
    (event shown : Event)
    (passes : deliveryEvent event = some shown) :
    shown = event := by
  unfold deliveryEvent at passes
  split at passes <;> simp_all

theorem sipSendReq_mem_deliveryEvents
    {caller caller' geodata : Octets}
    {text text' : Option Octets}
    {result : Int} :
    .sipSendReq caller' text' geodata result ∈
        deliveryEvents conf oracle caller text ↔
      ∃ found, geodataFound conf oracle caller = some found ∧
        caller' = caller ∧ text' = text ∧ geodata = cString found ∧
        result = sipAnswer conf oracle caller text (cString found) := by
  unfold deliveryEvents reportTransfer sipEvents
  cases geodataFound conf oracle caller <;> cases timeStamp oracle <;> simp

theorem sendReport_mem_deliveryEvents
    {caller phoneNumber resultString resultXML : Octets}
    {text message : Option Octets} :
    .sendReport phoneNumber message resultString resultXML ∈
        deliveryEvents conf oracle caller text ↔
      let geodata := geodataFound conf oracle caller
      let shown := cString (geodata.getD [])
      phoneNumber = caller ∧ message = text ∧
        resultString = resultText oracle geodata
          (sipAnswer conf oracle caller text shown) ∧
        resultXML = shown := by
  unfold deliveryEvents reportTransfer sipEvents
  cases geodataFound conf oracle caller <;> cases timeStamp oracle <;> simp

theorem curl_mem_deliveryEvents
    {caller url body : Octets}
    {text : Option Octets}
    {result : Int}
    {received : Octets} :
    .curl url (some body) result received ∈
        deliveryEvents conf oracle caller text ↔
      let geodata := geodataFound conf oracle caller
      let shown := cString (geodata.getD [])
      ∃ stamp, timeStamp oracle = some stamp ∧ url = conf.reportURL ∧
        body = reportBody stamp caller text (resultText oracle geodata
          (sipAnswer conf oracle caller text shown)) shown ∧
        let outcome := oracle (.curl conf.reportURL (some body)
          (some (ascii "Content-Type: application/json")))
        result = outcome.ret ∧ received = outcome.chunks.flatten := by
  unfold deliveryEvents reportTransfer sipEvents
  cases geodataFound conf oracle caller <;> cases timeStamp oracle <;>
    simp
  all_goals
    rintro - rfl
    rfl

theorem sipResult_eval (answer : Int) (state : State) :
    (sipResult answer).eval (exec thread) oracle state =
      (resultText oracle (some []) answer, state) := by
  unfold sipResult resultText
  simp only [Option.isSome_some, if_true]
  split <;> rfl

theorem deliver_eval
    (caller : Octets)
    (printData : Option Nat)
    (geodata : Option Octets)
    (code : Int)
    (found : code = 0 ↔ geodata.isSome)
    (state : State) :
    let text := printData.map fun address => cString (state.block address)
    ∃ later, (deliver conf caller printData code (geodata.getD [])).eval
        (exec thread) oracle state =
          (resultText oracle geodata
            (sipAnswer conf oracle caller text
              (cString (geodata.getD []))), later) ∧
      OnlyLogs deliveryEvent (sipEvents conf oracle caller text geodata)
        state later := by
  intro text
  unfold deliver
  cases geodata with
  | none =>
      have missing : code ≠ 0 := by simpa using found
      rw [if_neg missing]
      exact ⟨state, rfl, OnlyLogs.refl state⟩
  | some geodata =>
      have present : code = 0 := by simpa using found
      rw [if_pos present, Program.eval_bind_of_eq _ _
        (readText_eval thread oracle printData state),
        Program.eval_bind_of_eq _ _
          (sipSendReq_eval conf oracle thread caller text _ state)]
      have noted : OnlyLogs deliveryEvent _ state _ := OnlyLogs.note state
        (.sipSendReq caller text (cString geodata)
          (sipAnswer conf oracle caller text (cString geodata)))
      refine ⟨_, ?_, noted⟩
      rw [Program.eval_bind, sipResult_eval]
      rfl

/-- A delivery makes the SIP request if the geodata were found, and reports
its result. -/
theorem deliverAndReport_eval
    (caller : Octets)
    (printData : Option Nat)
    (state : State) :
    OnlyLogs deliveryEvent
      (deliveryEvents conf oracle caller
        (printData.map fun address => cString (state.block address))) state
      ((deliverAndReport conf caller printData).eval (exec thread) oracle
        state).2 := by
  obtain ⟨code, looked, look, found, lookLogs⟩ :=
    geodataGet_eval conf oracle thread caller state
  obtain ⟨delivered, delivery, deliveryLogs⟩ :=
    deliver_eval conf oracle thread caller printData
      (geodataFound conf oracle caller) code found looked
  simp only [lookLogs.block] at delivery deliveryLogs
  unfold deliverAndReport
  rw [Program.eval_bind_of_eq _ _ look]
  dsimp only
  rw [Program.eval_bind_of_eq _ _ delivery, Program.eval_bind_of_eq _ _
    (readText_eval thread oracle printData delivered)]
  simp only [deliveryLogs.block, lookLogs.block]
  generalize printData.map (fun address => cString (state.block address)) =
    text at deliveryLogs ⊢
  unfold deliveryEvents
  dsimp only
  generalize resultText oracle _ _ = result
  have report := (lookLogs.trans deliveryLogs).trans
    (sendReport_eval conf oracle thread caller text result
      (cString ((geodataFound conf oracle caller).getD [])) delivered)
  simpa using report

/-! ## The operations around it -/

/-- The transmissions. -/
def sentEvent : Event → Option Event
  | .sent thread serial data accepted =>
      some (.sent thread serial data accepted)
  | _ => none

variable (lib : Smpp34)

theorem tcpSend_uses
    {allowed : Op → Prop}
    {data : Octets}
    (sent : allowed (.send data))
    (cleared : allowed (.setTcpConnected false)) :
    (tcpSend data).Uses allowed := by
  refine .step sent fun outcome => ?_
  dsimp only
  split
  · trivial
  · exact .step cleared fun _ => trivial

theorem respond_uses
    {lib : Smpp34}
    {allowed : Op → Prop}
    {response : Pdu}
    {bufSize : Nat}
    (sent : (lib.pack2 response bufSize).1 = 0 →
      allowed (.send (lib.pack2 response bufSize).2))
    (cleared : allowed (.setTcpConnected false)) :
    (respond lib response bufSize).Uses allowed := by
  unfold respond
  dsimp only
  split
  next unpacked => trivial
  next packed => exact tcpSend_uses (sent (not_not.mp packed)) cleared

theorem respond_transmission (response : Pdu) (bufSize : Nat) :
    (respond lib response bufSize).Uses
      fun operation => operation.isTransmission :=
  respond_uses (fun _ => rfl) rfl

theorem deletePrintData_memory (printData : Option Nat) :
    (deletePrintData printData).Uses
      fun operation => operation.isMemory := by
  cases printData with
  | none => trivial
  | some address => simp [deletePrintData, Op.isMemory]

/-- The PDU is unpacked, and its text is in a supported coding. -/
def Accepted (pdu : Octets) : Prop :=
  (lib.unpack2 pdu).1 = 0 ∧ SupportedCoding (lib.unpack2 pdu).2

instance (pdu : Octets) : Decidable (Accepted lib pdu) :=
  inferInstanceAs (Decidable (_ ∧ _))

/-- A PDU that is not accepted is only unpacked. -/
theorem smppDeliverSmOper_refused
    {lib : Smpp34}
    {buf : Octets}
    {dataLen : Int}
    (refused : ¬Accepted lib (buf.take dataLen.toNat))
    (bufSize seqNum : Nat) :
    smppDeliverSmOper conf lib buf dataLen bufSize seqNum = do
      let _ ← call .uninitialised
      let _ ← call (.linkTlv (lib.unpack2 (buf.take dataLen.toNat)).2.tlv)
      return EINVAL := by
  unfold Accepted at refused
  unfold smppDeliverSmOper
  generalize lib.unpack2 (buf.take dataLen.toNat) = unpacked at refused ⊢
  obtain ⟨iFnRes, req⟩ := unpacked
  by_cases accepts : iFnRes = 0
  · have unsupported : ¬SupportedCoding req :=
      fun supported => refused ⟨accepts, supported⟩
    simp only [accepts, ne_eq, not_true_eq_false, if_false,
      convertText_unsupported unsupported]
    rfl
  · simp only [accepts, ne_eq, not_false_eq_true, if_true]

/-- The course of `sms112_smpp_deliver_sm_oper` once the PDU is unpacked and
the conversion has set the text pointer. -/
theorem smppDeliverSmOper_eval
    {oracle : Op → Choice}
    {buf : Octets}
    {dataLen : Int}
    {req : Unpacked}
    {printData : Option Nat}
    {state later : State}
    (accepts : lib.unpack2 (buf.take dataLen.toNat) = (0, req))
    (converted :
      let garbage := (oracle .uninitialised).garbage
      (convertText req (selectBody req garbage).1 (selectBody req garbage).2
          garbage.dstLen).eval (exec thread) oracle
        (state.linkTlv req.tlv).2 = (some printData, later))
    (bufSize seqNum : Nat) :
    (smppDeliverSmOper conf lib buf dataLen bufSize seqNum).eval
        (exec thread) oracle state =
      let delivered := ((deliverAndReport conf req.sourceAddr printData).eval
        (exec thread) oracle later).2
      let answered := (respond lib
        (deliverSmResp req (oracle .uninitialised).garbage) bufSize).eval
        (exec thread) oracle delivered
      (answered.1, ((deletePrintData printData).eval (exec thread) oracle
        answered.2).2) := by
  unfold smppDeliverSmOper
  dsimp only at converted
  simp only [accepts, Program.eval_bind, Program.eval_call, exec, ne_eq,
    not_true_eq_false, if_false, converted]
  rfl

/-- What can be seen of a message being handled is what can be seen of its
delivery and of the response. -/
theorem smppDeliverSmOper_observes
    {β : Type}
    {view : Event → Option β}
    {oracle : Op → Choice}
    {buf : Octets}
    {dataLen : Int}
    {req : Unpacked}
    {printData : Option Nat}
    {state later : State}
    {delivery response : List β}
    (hidden : view .outOfBounds = none)
    (accepts : lib.unpack2 (buf.take dataLen.toNat) = (0, req))
    (converted :
      let garbage := (oracle .uninitialised).garbage
      (convertText req (selectBody req garbage).1 (selectBody req garbage).2
          garbage.dstLen).eval (exec thread) oracle
        (state.linkTlv req.tlv).2 = (some printData, later))
    (bufSize seqNum : Nat)
    (delivers : Observes view delivery later
      ((deliverAndReport conf req.sourceAddr printData).eval (exec thread)
        oracle later).2)
    (responds :
      let delivered := ((deliverAndReport conf req.sourceAddr printData).eval
        (exec thread) oracle later).2
      Observes view response delivered
        ((respond lib (deliverSmResp req (oracle .uninitialised).garbage)
          bufSize).eval (exec thread) oracle delivered).2) :
    Observes view (response ++ delivery) state
      ((smppDeliverSmOper conf lib buf dataLen bufSize seqNum).eval
        (exec thread) oracle state).2 := by
  have linked : Observes view [] state (state.linkTlv req.tlv).2 :=
    .of_log_eq rfl
  have conversion := eval_quiet thread oracle
    ((convertText_memory req
      (selectBody req (oracle .uninitialised).garbage).1
      (selectBody req (oracle .uninitialised).garbage).2
      (oracle .uninitialised).garbage.dstLen).mono
        (Op.isMemory.quiet view hidden))
    (state.linkTlv req.tlv).2
  rw [converted] at conversion
  rw [smppDeliverSmOper_eval conf thread lib accepts converted]
  have released := eval_quiet thread oracle
    ((deletePrintData_memory printData).mono (Op.isMemory.quiet view hidden))
    ((respond lib (deliverSmResp req (oracle .uninitialised).garbage)
      bufSize).eval (exec thread) oracle ((deliverAndReport conf
        req.sourceAddr printData).eval (exec thread) oracle later).2).2
  have whole := (((linked.trans conversion).trans delivers).trans
    responds).trans released
  simpa using whole

end Sms112
