import Sms112.Service.Order

/-!
# The receiver and the services

The functions of the receiver keep to the order of a service: what was
selected, looked up and received for a PDU is what its requests, its report and
its response are about.
-/

namespace Sms112

open Resumption History

variable {α : Type}

section Handling

variable (conf : SConf) {lib : Smpp34} {pdu : Octets}

theorem Op.isMemory.silent
    (operation : Op)
    (memory : operation.isMemory) :
    operation.isSilent := by
  cases operation <;> first | rfl | cases memory

/-! ## Delivery and report -/

/-- The phases after a look-up that found the geodata. -/
def Located (pdu geodata : Octets) (phase : ServicePhase) : Prop :=
  ∃ answer, phase = .located pdu answer ∧ Finds answer geodata

/-- The phases in which no geodata were found. -/
def Unlocated (pdu : Octets) (phase : ServicePhase) : Prop :=
  phase = .taken pdu ∨
    ∃ answer, phase = .located pdu answer ∧ FindsNothing answer

/-- The phases in which a report with this result may be made. -/
def Reportable (pdu resultString resultXML : Octets)
    (phase : ServicePhase) : Prop :=
  Unlocated pdu phase ∧ resultString = noGeodata ∧ resultXML = [] ∨
    ∃ result, phase = .requested pdu resultXML result ∧
      TellsResult result resultString

/-- The phases in which a message may be answered. -/
def Reported (pdu : Octets) (phase : ServicePhase) : Prop :=
  (∃ message resultString resultXML,
    phase = .reported pdu message resultString resultXML) ∨
      phase = .posted pdu

theorem Reported.concluded
    {phase : ServicePhase}
    (reported : Reported pdu phase) :
    Concluded lib phase := by
  rcases reported with ⟨_, _, _, rfl⟩ | rfl <;> trivial

/-- What `snprintf` stores is what the template prints, if it fits. -/
theorem snprintf_looksUp
    {choice : Choice}
    (fits : (snprintf urlSize conf.geolocationURLTemplate (sourceOf lib pdu)
      choice).1 % 2 ^ 64 < urlSize) :
    LooksUp conf lib pdu (snprintf urlSize conf.geolocationURLTemplate
      (sourceOf lib pdu) choice).2 := by
  intro text expands
  rw [snprintf_fits_iff (by decide)] at fits
  rw [snprintf_stores fits.2, expansion,
    (Printf.expand_eq_some_iff _ _ _).mpr expands, Option.getD_some]

theorem snprintf_service :
    ServiceTriple conf lib (AtService conf lib (· = .taken pdu))
      (call (.snprintf urlSize conf.geolocationURLTemplate
        (sourceOf lib pdu)))
      fun printed state => AtService conf lib (· = .taken pdu) state ∧
        (printed.1 % 2 ^ 64 < urlSize → LooksUp conf lib pdu printed.2) := by
  refine .call atService_stable
    (fun _ => atService_stable.conj (.const _)) ?_
  intro state choice _ current _
  exact ⟨service_keeps current.accepts, current, snprintf_looksUp conf⟩

/-- `sms112_geodata_get`: it succeeds only after a look-up whose answer holds
the geodata, and otherwise it leaves the string alone. -/
theorem geodataGet_service (accepted : Accepted lib pdu) :
    ServiceTriple conf lib (AtService conf lib (· = .taken pdu))
      (geodataGet conf (some (sourceOf lib pdu)) [])
      fun found => AtService conf lib fun phase =>
        if found.1 = 0 then Located pdu (cString found.2) phase
        else Unlocated pdu phase ∧ found.2 = [] := by
  refine (snprintf_service conf).bind fun printed => ?_
  obtain ⟨iFnRes, mcURL⟩ := printed
  refine .ite (fun fits => ?_) fun _ => ?_
  · intro state inv holds
    have transfers : ServiceTriple conf lib
        (AtService conf lib (· = .taken pdu))
        (curlPerfRequest mcURL none none)
        fun outcome => AtService conf lib (· = .located pdu
          (if outcome.1 = 0 then some outcome.2 else none)) := by
      refine curl_triple fun outcome phase taken => ?_
      subst taken
      exact ⟨_, if_pos ⟨accepted, holds.2 fits⟩, rfl⟩
    refine Protocol.Triple.bind transfers (fun outcome => .ite
      (fun success => ?_) fun failed => ?_) state inv holds.1
    · cases extracted : extractGeodata outcome.2 with
      | some found =>
          refine service_returns fun phase located => ?_
          rw [if_pos success] at located
          exact (if_pos rfl).mpr ⟨some outcome.2, located, outcome.2, rfl,
            found, (extractGeodata_eq_some_iff _ _).mp extracted, rfl⟩
      | none =>
          refine service_returns fun phase located => ?_
          rw [if_pos success] at located
          exact (if_neg (by decide)).mpr
            ⟨.inr ⟨_, located, (findsNothing_iff _).mpr extracted⟩, rfl⟩
    · refine service_returns fun phase located => ?_
      rw [if_neg failed] at located
      exact (if_neg failed).mpr
        ⟨.inr ⟨_, located, (findsNothing_iff _).mpr rfl⟩, rfl⟩
  · refine .returns atService_stable
      fun _ _ holds => holds.1.mono fun phase taken => ?_
    exact (if_neg (by decide)).mpr ⟨.inl taken, rfl⟩

theorem readText_silent (printData : Option Nat) :
    (readText printData).Uses fun operation => operation.isSilent := by
  unfold readText
  split
  · exact .step rfl fun _ => trivial
  · trivial

theorem tcpRecv_silent (size : Nat) (into : Option (Option Nat)) :
    (tcpRecv size into).Uses fun operation => operation.isSilent :=
  .step rfl fun _ => trivial

theorem tcpPeek_silent (size : Nat) :
    (tcpPeek size).Uses fun operation => operation.isSilent :=
  .step rfl fun _ => trivial

theorem sipSendReq_silent (caller : Octets) (text : Option Octets)
    (geodata : Octets) :
    (sipSendReq conf caller text geodata).Uses
      fun operation => operation.isSilent := by
  refine .step rfl fun host => ?_
  split
  · trivial
  · split
    · trivial
    · exact .step rfl fun _ => trivial

/-- The result text that follows a SIP request tells how it ended. -/
theorem sipResult_service (geodata : Octets) (iFnRes : Int) :
    ServiceTriple conf lib
      (AtService conf lib (· = .requested pdu geodata iFnRes))
      (sipResult iFnRes)
      fun result => AtService conf lib (Reportable pdu result geodata) := by
  refine .ite (fun success => ?_) fun failed => ?_
  · exact service_returns fun phase holds =>
      .inr ⟨iFnRes, holds, by rw [TellsResult, if_pos success]⟩
  · refine (silent_call rfl).bind fun descr =>
      service_returns fun phase holds => .inr ⟨iFnRes, holds, ?_⟩
    rw [TellsResult, if_neg failed]
    exact List.prefix_take_iff.mpr ⟨List.prefix_append _ _, by decide⟩

/-- The SIP request is made if the geodata were found, for the source and with
the geodata. -/
theorem deliver_service (printData : Option Nat) (geodataResult : Int)
    (geodata : Octets) :
    ServiceTriple conf lib
      (AtService conf lib fun phase =>
        if geodataResult = 0 then Located pdu (cString geodata) phase
        else Unlocated pdu phase ∧ geodata = [])
      (deliver conf (sourceOf lib pdu) printData geodataResult geodata)
      fun result =>
        AtService conf lib (Reportable pdu result (cString geodata)) := by
  refine .ite (fun found => ?_) fun missing => ?_
  · refine (silent_triple (readText_silent printData)).bind fun text =>
      (silent_triple (sipSendReq_silent conf _ _ _)).bind fun iFnRes =>
        .bind (note_triple rfl fun phase holds => ?_)
          fun _ => sipResult_service conf (cString geodata) iFnRes
    rw [if_pos found] at holds
    obtain ⟨answer, rfl, finds⟩ := holds
    exact ⟨.requested pdu (cString geodata) iFnRes, if_pos ⟨finds, rfl⟩, rfl⟩
  · refine service_returns fun phase holds => ?_
    rw [if_neg missing] at holds
    obtain ⟨unlocated, rfl⟩ := holds
    exact .inl ⟨unlocated, rfl, rfl⟩

/-- Where a report may be made it is allowed. -/
theorem Reportable.allows
    {resultString resultXML : Octets}
    {phase : ServicePhase}
    (accepted : Accepted lib pdu)
    (reportable : Reportable pdu resultString resultXML phase)
    (message : Option Octets) :
    (service conf lib).next phase
      (.reported (sourceOf lib pdu) message resultString resultXML) =
        some (.reported pdu message resultString resultXML) := by
  rcases reportable with ⟨unlocated, rfl, rfl⟩ | ⟨result, rfl, tells⟩
  · rcases unlocated with rfl | ⟨answer, rfl, nothing⟩
    · exact if_pos ⟨accepted, rfl, rfl, rfl⟩
    · exact if_pos ⟨nothing, rfl, rfl, rfl⟩
  · exact if_pos ⟨rfl, rfl, tells⟩

/-- What is posted reads back as the report. -/
theorem sendReport_service
    (accepted : Accepted lib pdu)
    (message : Option Octets)
    (resultString resultXML : Octets) :
    ServiceTriple conf lib
      (AtService conf lib (Reportable pdu resultString resultXML))
      (sendReport conf (sourceOf lib pdu) message resultString resultXML)
      fun _ => AtService conf lib (Reported pdu) := by
  have notes : ServiceTriple conf lib
      (AtService conf lib (Reportable pdu resultString resultXML))
      (call (.note (.sendReport (sourceOf lib pdu) message resultString
        resultXML))) fun _ => AtService conf lib
          (· = .reported pdu message resultString resultXML) :=
    note_triple rfl fun phase reportable =>
      ⟨_, reportable.allows conf accepted message, rfl⟩
  have stays {value : Int} : ServiceTriple conf lib
      (AtService conf lib (· = .reported pdu message resultString resultXML))
      (.ret value) fun _ => AtService conf lib (Reported pdu) :=
    service_returns fun _ same => .inl ⟨_, _, _, same⟩
  refine notes.bind fun _ => (silent_call rfl).bind fun tTime =>
    .ite (fun _ => stays) fun _ => (silent_call rfl).bind fun converted =>
      .ite (fun _ => stays) fun _ => (silent_call rfl).bind fun printed =>
        .ite (fun _ => ?_) fun _ => stays
  have posts : ServiceTriple conf lib
      (AtService conf lib (· = .reported pdu message resultString resultXML))
      (curlPerfRequest conf.reportURL
        (some (reportBody printed.2 (sourceOf lib pdu) message resultString
          resultXML)) (some (ascii "Content-Type: application/json")))
      fun _ => AtService conf lib (Reported pdu) := by
    refine curl_triple fun outcome phase holds => ?_
    subst holds
    exact ⟨.posted pdu, if_pos ⟨rfl, printed.2, readReport_reportBody ..⟩,
      .inr rfl⟩
  exact posts.bind fun _ => service_returns fun _ holds => holds

/-- A message is reported once, whatever became of its delivery. -/
theorem deliverAndReport_service
    (accepted : Accepted lib pdu)
    (printData : Option Nat) :
    ServiceTriple conf lib (AtService conf lib (· = .taken pdu))
      (deliverAndReport conf (sourceOf lib pdu) printData)
      fun _ => AtService conf lib (Reported pdu) :=
  (geodataGet_service conf accepted).bind fun found =>
    (deliver_service conf printData found.1 found.2).bind fun result =>
      (silent_triple (readText_silent printData)).bind fun text =>
        (sendReport_service conf accepted text result (cString found.2)).bind
          fun _ => service_returns fun _ holds => holds

/-! ## Replies -/

variable (faithful : lib.Faithful)

include faithful

/-- The response to a PDU that was unpacked carries its number. -/
theorem replies_pack2
    (unpacks : Unpackable lib pdu)
    (response : Pdu)
    (number : response.sequenceNumber =
      (lib.unpack2 pdu).2.sequenceNumber)
    (bufSize : Nat)
    (packed : (lib.pack2 response bufSize).1 = 0) :
    Replies (response.commandId % 2 ^ 32) pdu
      (lib.pack2 response bufSize).2 := by
  refine ⟨faithful.pack_commandId _ _ packed, ?_⟩
  rw [faithful.pack_sequenceNumber _ _ packed, number,
    faithful.unpack_sequenceNumber _ unpacks,
    Nat.mod_eq_of_lt (word_lt pdu 12)]

theorem respond_service
    {allowed : ServicePhase → Prop}
    (unpacks : Unpackable lib pdu)
    (response : Pdu)
    (number : response.sequenceNumber =
      (lib.unpack2 pdu).2.sequenceNumber)
    (bufSize : Nat)
    (unsent : ∀ phase, allowed phase → Concluded lib phase)
    (leads : ∀ phase data, allowed phase →
      Replies (response.commandId % 2 ^ 32) pdu data →
        (service conf lib).next phase (.answered data) = some .done) :
    ServiceTriple conf lib (AtService conf lib allowed)
      (respond lib response bufSize)
      fun _ => AtService conf lib (Concluded lib) := by
  refine .ite (fun _ => service_returns unsent) fun packed => ?_
  exact tcpSend_service unsent fun phase holds =>
    ⟨.done, leads phase _ holds (replies_pack2 faithful unpacks response
      number bufSize (not_not.mp packed)), trivial⟩

omit faithful in
/-- The text pointer is set exactly if the coding is supported. -/
theorem convertText_service
    {allowed : ServicePhase → Prop}
    (req : Unpacked)
    (srcStr : Octets)
    (srcLen dstLen : Nat) :
    ServiceTriple conf lib (AtService conf lib allowed)
      (convertText req srcStr srcLen dstLen)
      fun converted => AtService conf lib fun phase =>
        allowed phase ∧ (converted.isSome ↔ SupportedCoding req) := by
  have done (supported : SupportedCoding req) (printData : Option Nat) :
      ServiceTriple conf lib (AtService conf lib allowed)
        (.ret (some printData))
        fun converted => AtService conf lib fun phase =>
          allowed phase ∧ (converted.isSome ↔ SupportedCoding req) :=
    service_returns fun _ holds => ⟨holds, iff_of_true rfl supported⟩
  refine .ite (fun ucs2 => ?_) fun notUcs2 => .ite (fun gsm => ?_)
    fun notGsm => ?_
  · have converts : ServiceTriple conf lib (AtService conf lib allowed)
        (smsIconv (ascii "UCS-2BE") (ascii "UTF-8") srcStr srcLen
          ⟨none, dstLen⟩ false false)
        fun _ => AtService conf lib allowed :=
      silent_triple ((smsIconv_conversion ..).mono fun operation conversion =>
        Op.isMemory.silent operation (Op.isConversion.isMemory _ conversion))
    refine converts.bind fun outcome => ?_
    obtain ⟨iFnRes, destination⟩ := outcome
    dsimp only
    split
    · cases destination.dstStr with
      | none => exact done (.inl ucs2) none
      | some printData =>
          exact (silent_call rfl).bind fun _ => done (.inl ucs2) _
    · exact done (.inl ucs2) _
  · exact (silent_call rfl).bind fun printData => (silent_call rfl).bind
      fun _ => (silent_call rfl).bind fun _ => done (.inr gsm) _
  · have unsupported : ¬SupportedCoding req := not_or.mpr ⟨notUcs2, notGsm⟩
    exact service_returns fun _ holds =>
      ⟨holds, iff_of_false (by decide) unsupported⟩

theorem smppDeliverSmOper_service
    {buf : Octets}
    {dataLen : Int}
    (whole : buf.take dataLen.toNat = buf)
    (bufSize seqNum : Nat) :
    ServiceTriple conf lib (AtService conf lib (· = .taken buf))
      (smppDeliverSmOper conf lib buf dataLen bufSize seqNum)
      fun _ => AtService conf lib (Concluded lib) := by
  refine (silent_call rfl).bind fun garbage => ?_
  dsimp only
  rw [whole]
  refine (silent_call rfl).bind fun _ => .ite (fun corrupt =>
    service_returns fun phase taken => ?_) fun unpacked => ?_
  · subst taken
    exact fun accepted : Accepted lib buf => corrupt accepted.1
  have unpacks : Unpackable lib buf := not_not.mp unpacked
  refine (convertText_service conf _ _ _ _).bind fun converted => ?_
  rintro state inv ⟨phase, reached, taken, known⟩
  have current : AtService conf lib (· = .taken buf) state :=
    ⟨phase, reached, taken⟩
  match converted with
  | none =>
      have refused : ServiceTriple conf lib
          (AtService conf lib (· = .taken buf)) (.ret EINVAL)
          fun _ => AtService conf lib (Concluded lib) := by
        refine service_returns fun phase taken => ?_
        subst taken
        exact fun accepted : Accepted lib buf =>
          nomatch known.mpr accepted.2
      exact refused state inv current
  | some printData =>
      have accepted : Accepted lib buf := ⟨unpacks, known.mp rfl⟩
      have answers : ServiceTriple conf lib (AtService conf lib (Reported buf))
          (respond lib (deliverSmResp (lib.unpack2 buf).2 garbage) bufSize)
          fun _ => AtService conf lib (Concluded lib) := by
        refine respond_service conf faithful unpacks
          (deliverSmResp _ garbage) rfl bufSize
          (fun _ reported => reported.concluded)
          fun phase data reported answers => ?_
        rcases reported with ⟨_, _, _, rfl⟩ | rfl
        · exact if_pos answers
        · exact if_pos answers
      have done {iRetVal : Int} : ServiceTriple conf lib
          (AtService conf lib (Concluded lib)) (.ret iRetVal)
          fun _ => AtService conf lib (Concluded lib) :=
        service_returns fun _ holds => holds
      exact (deliverAndReport_service conf accepted printData).bind
        (fun _ => answers.bind fun _ =>
          (silent_triple ((deletePrintData_memory printData).mono
            Op.isMemory.silent)).bind fun _ => done) state inv current

theorem smppUnbindOper_service
    {buf : Octets}
    {dataLen : Int}
    (whole : buf.take dataLen.toNat = buf)
    (bufSize seqNum : Nat) :
    ServiceTriple conf lib (AtService conf lib (· = .unbinding buf))
      (smppUnbindOper lib buf dataLen bufSize seqNum)
      fun _ => AtService conf lib (Concluded lib) := by
  have concluded : ∀ phase, phase = .unbinding buf → Concluded lib phase := by
    rintro _ rfl
    trivial
  refine (silent_call rfl).bind fun _ => .bind
    ((silent_call rfl).bind fun _ => ?_) fun _ =>
      (silent_call rfl).bind fun _ => service_returns fun _ holds => holds
  dsimp only
  rw [whole]
  refine .ite (fun _ => service_returns concluded) fun unpacked => ?_
  have unpacks : Unpackable lib buf := not_not.mp unpacked
  refine respond_service conf faithful unpacks (headerPdu UNBIND_RESP _) rfl
    bufSize concluded fun phase data taken answers => ?_
  subst taken
  exact if_pos ⟨unpacks, answers⟩

/-! ## The receiver -/

omit faithful in
/-- What `recv` returns is no longer than what was asked for. -/
theorem tcpRecv_service (size : Nat) :
    ServiceTriple conf lib (AtService conf lib (Concluded lib))
      (tcpRecv size none) fun received state =>
        AtService conf lib (Concluded lib) state ∧
          received.2.length ≤ size := by
  have stable (data : Octets) :
      (serviceProtocol conf lib).Stable .receiver fun state =>
        AtService conf lib (Concluded lib) state ∧ data.length ≤ size :=
    atService_stable.conj (.const _)
  have reads : ServiceTriple conf lib (AtService conf lib (Concluded lib))
      (call (.recv size none)) fun received state =>
        AtService conf lib (Concluded lib) state ∧
          received.2.length ≤ size := by
    refine .call atService_stable (fun received => stable received.2) ?_
    intro state choice _ current _
    have silent : (Op.recv size none).isSilent := rfl
    have unseen := current.of_events_eq
      (serviceEvents_exec .receiver silent choice state)
    refine ⟨service_keeps unseen.accepts, unseen, ?_⟩
    dsimp only [exec]
    rcases state.recv_cases .receiver choice size none with
      ⟨serial, count, -, -, -, -, inSize, -, taken⟩ | ⟨ret, -, -, nothing⟩
    · rw [taken]
      exact (List.length_take_le _ _).trans inSize
    · rw [nothing]
      exact Nat.zero_le _
  exact reads.bind fun received =>
    .returns (stable received.2) fun _ _ holds => holds

theorem operReqSwitch_service
    (header : SPDUHdr)
    {buf : Octets}
    (small : header.commandLength ≤ localBufferSize)
    (short : buf.length ≤ header.commandLength) :
    ServiceTriple conf lib
      (AtService conf lib (· = taking header.commandId buf))
      (operReqSwitch conf lib header buf)
      fun _ => AtService conf lib (Concluded lib) := by
  have whole : buf.take (int32 header.commandLength).toNat = buf := by
    have narrow : header.commandLength < 2 ^ 31 :=
      small.trans_lt (by decide)
    refine List.take_of_length_le ?_
    rwa [int32_of_lt narrow, Int.toNat_natCast]
  unfold taking
  refine .ite (fun deliverSm => ?_) fun notDeliverSm => .ite
    (fun unbind => ?_) fun notUnbind => service_returns ?_
  · rw [if_pos deliverSm]
    exact smppDeliverSmOper_service conf faithful whole _ _
  · rw [if_neg notDeliverSm, if_pos unbind]
    exact smppUnbindOper_service conf faithful whole _ _
  · rw [if_neg notDeliverSm, if_neg notUnbind]
    rintro _ rfl
    trivial

omit faithful in
/-- A PDU is taken up when nothing more need be done for the one before. -/
theorem handed_service (commandId : Nat) (pdu : Octets) :
    ServiceTriple conf lib (AtService conf lib (Concluded lib))
      (call (.note (.handed commandId pdu)))
      fun _ => AtService conf lib (· = taking commandId pdu) :=
  note_triple rfl fun phase concluded =>
    ⟨taking commandId pdu, by rw [service_next_taken, if_pos concluded], rfl⟩

/-- A PDU is taken up whole, and then handled or left alone. -/
theorem smppOperReq_service (header : SPDUHdr) :
    ServiceTriple conf lib (AtService conf lib (Concluded lib))
      (smppOperReq conf lib header)
      fun _ => AtService conf lib (Concluded lib) := by
  refine .ite (fun _ => service_returns fun _ holds => holds) fun small => ?_
  refine (tcpRecv_service conf header.commandLength).bind fun received => ?_
  obtain ⟨iFnRes, buf⟩ := received
  refine .ite (fun _ => .returns atService_stable fun _ _ holds => holds.1)
    fun _ => ?_
  intro state inv holds
  have done : ServiceTriple conf lib (AtService conf lib (Concluded lib))
      (.ret (0 : Int)) fun _ => AtService conf lib (Concluded lib) :=
    service_returns fun _ concluded => concluded
  exact (handed_service conf header.commandId buf).bind
    (fun _ => (operReqSwitch_service conf faithful header (not_lt.mp small)
      holds.2).bind fun _ => done) state inv holds.1

omit faithful in
/-- A response is passed on, and nothing more is done for it. -/
theorem operResp_service
    {header : SPDUHdr}
    (response : header.isResponse) :
    ServiceTriple conf lib (AtService conf lib (Concluded lib))
      (operResp header) fun _ => AtService conf lib (Concluded lib) := by
  have done {iFnRes : Int} : ServiceTriple conf lib
      (AtService conf lib (Concluded lib)) (.ret iFnRes)
      fun _ => AtService conf lib (Concluded lib) :=
    service_returns fun _ holds => holds
  have passes (pdu : Octets) : ServiceTriple conf lib
      (AtService conf lib (Concluded lib))
      (call (.note (.handed header.commandId pdu)))
      fun _ => AtService conf lib (Concluded lib) := by
    refine (handed_service conf header.commandId pdu).consequence
      (fun _ _ holds => holds) fun _ _ _ current => current.mono ?_
    rintro _ rfl
    unfold taking
    rw [if_neg (fun same => by rw [SPDUHdr.isResponse, same] at response; cases response),
      if_neg (fun same => by rw [SPDUHdr.isResponse, same] at response; cases response)]
    trivial
  refine (silent_call rfl).bind fun found => ?_
  match found with
  | none => exact done
  | some reqData =>
      refine (silent_call rfl).bind fun buf => (silent_call rfl).bind
        fun _ => (silent_call rfl).bind fun buf =>
          (silent_triple (tcpRecv_silent _ _)).bind fun received => ?_
      obtain ⟨iFnRes, data⟩ := received
      refine .ite (fun _ => ?_) fun _ =>
        (silent_call rfl).bind fun _ => done
      exact (silent_call rfl).bind fun _ => (passes data).bind fun _ =>
        (silent_call rfl).bind fun _ => done

theorem msgReceiver_service :
    ServiceTriple conf lib (AtService conf lib (Concluded lib))
      (msgReceiver conf lib)
      fun _ => AtService conf lib (Concluded lib) := by
  have handles : ServiceTriple conf lib (AtService conf lib (Concluded lib))
      (smppHandler conf lib) fun _ => AtService conf lib (Concluded lib) := by
    refine (silent_call rfl).bind fun _ => .bind
      ((silent_triple (tcpPeek_silent headerLength)).bind fun peeked => ?_)
      fun _ => (silent_call rfl).bind fun _ =>
        service_returns fun _ holds => holds
    exact .ite (fun _ => service_returns fun _ holds => holds) fun _ =>
      .ite (fun response => operResp_service conf response)
        fun _ => smppOperReq_service conf faithful _
  have done {label : Label} : ServiceTriple conf lib
      (AtService conf lib (Concluded lib)) (.ret label)
      fun _ => AtService conf lib (Concluded lib) :=
    service_returns fun _ holds => holds
  refine (silent_call rfl).bind fun created =>
    .ite (fun _ => done) fun _ => (silent_call rfl).bind fun iStop =>
      .ite (fun _ => done) fun _ => (silent_call rfl).bind fun fd =>
        (silent_call rfl).bind fun pollIn => .ite (fun _ => ?_)
          fun _ => done
  exact handles.bind fun _ => done

end Handling

end Sms112
