import Sms112.Handler.Outcome
import Sms112.Handler.Progress

/-!
# Answers to the server's requests

A request of the server should be answered by one PDU: its response or a
negative acknowledgement, with its sequence number. The handler returns
success for every request it has received whole, but it answers only the two
it knows, and only on the way through them on which nothing fails.
-/

namespace Sms112

open Resumption

/-- A response to the request, or a negative acknowledgement of it. -/
def IsAnswer (header : SPDUHdr) (data : Octets) : Prop :=
  (word data 4 = header.commandId + 2 ^ 31 ∨ word data 4 = GENERIC_NACK) ∧
    word data 12 = header.sequenceNumber

/-- Exactly one PDU was sent, completely, and it is an answer. -/
def Answered (header : SPDUHdr) (before after : State) : Prop :=
  ∃ sender serial data,
    (newEvents before after).filterMap sentEvent =
      [.sent sender serial data data.length] ∧
    IsAnswer header data

variable (thread : Thread) (oracle : Op → Choice) (lib : Smpp34)

/-- A response is packed, and the connection takes all of it. -/
def Transmits (response : Pdu) : Prop :=
  let packed := lib.pack2 response localBufferSize
  packed.1 = 0 ∧ (packed.2.length : Int) ≤ (oracle (.send packed.2)).ret

/-- The request is unpacked, it is a message in a supported coding or an
unbinding, and its response is transmitted. -/
def Answerable (state : State) : Prop :=
  let header := SPDUHdr.ofOctets state.available
  let unpacked := lib.unpack2 (state.available.take header.commandLength)
  unpacked.1 = 0 ∧
    (header.commandId = DELIVER_SM ∧ SupportedCoding unpacked.2 ∧
        Transmits oracle lib
          (deliverSmResp unpacked.2 (oracle .uninitialised).garbage) ∨
      header.commandId = UNBIND ∧
        Transmits oracle lib
          (headerPdu UNBIND_RESP unpacked.2.sequenceNumber))

instance (response : Pdu) : Decidable (Transmits oracle lib response) := by
  unfold Transmits
  infer_instance

instance (state : State) : Decidable (Answerable oracle lib state) := by
  unfold Answerable
  infer_instance

/-- What sending octets adds to the transmissions. -/
def transmission (serial : Nat) (data : Octets) : List Event :=
  let ret := (oracle (.send data)).ret
  if 0 ≤ ret then [.sent thread serial data (min ret.toNat data.length)]
  else []

theorem tcpSend_sent
    {state : State}
    {serial : Nat}
    (open_socket : state.serial = some serial)
    (data : Octets) :
    Observes sentEvent (transmission thread oracle serial data) state
      ((tcpSend data).eval (exec thread) oracle state).2 := by
  have sent : Observes sentEvent (transmission thread oracle serial data)
      state (exec thread (.send data) (oracle (.send data)) state).2 := by
    unfold transmission
    simp only [exec, State.send, open_socket]
    by_cases failed : (oracle (.send data)).ret < 0
    · rw [if_pos failed, if_neg (by omega)]
      exact Observes.refl state
    · rw [if_neg failed, if_pos (by omega)]
      exact Observes.note (state.useSocket thread serial)
        (.sent thread serial data _)
  unfold tcpSend
  rw [Program.eval_bind, Program.eval_call]
  refine Observes.trans sent (eval_quiet thread oracle ?_ _)
  split
  split
  · trivial
  · exact Program.Uses.bind (by simp [Op.Quiet, Op.notes]) fun _ => trivial

/-- What sending a response adds to the transmissions. -/
def responseSent (serial : Nat) (response : Pdu) : List Event :=
  let packed := lib.pack2 response localBufferSize
  if packed.1 = 0 then transmission thread oracle serial packed.2 else []

theorem respond_sent
    {state : State}
    {serial : Nat}
    (open_socket : state.serial = some serial)
    (response : Pdu) :
    Observes sentEvent (responseSent thread oracle lib serial response) state
      ((respond lib response localBufferSize).eval (exec thread) oracle
        state).2 := by
  unfold respond responseSent
  generalize lib.pack2 response localBufferSize = packed
  obtain ⟨code, data⟩ := packed
  dsimp only
  by_cases success : code = 0
  · rw [if_pos success, if_neg (by simp [success])]
    exact tcpSend_sent thread oracle open_socket data
  · rw [if_neg success, if_pos success]
    exact Observes.refl state

/-- One complete answer is sent exactly when the response is transmitted. -/
theorem responseSent_complete_iff
    {lib : Smpp34}
    (faithful : lib.Faithful)
    {header : SPDUHdr}
    {response : Pdu}
    (answers : (lib.pack2 response localBufferSize).1 = 0 →
      IsAnswer header (lib.pack2 response localBufferSize).2)
    (serial : Nat) :
    (∃ sender other data, responseSent thread oracle lib serial response =
        [.sent sender other data data.length] ∧ IsAnswer header data) ↔
      Transmits oracle lib response := by
  unfold responseSent Transmits transmission
  have long := fun success =>
    (faithful.pack_length response localBufferSize success).1
  generalize lib.pack2 response localBufferSize = packed at *
  obtain ⟨code, octets⟩ := packed
  dsimp only at *
  by_cases success : code = 0
  · have long := long success
    simp only [success, if_true, true_and]
    constructor
    · rintro ⟨sender, other, data, complete, -⟩
      split at complete
      next accepted =>
        simp only [List.cons.injEq, Event.sent.injEq, and_true] at complete
        obtain ⟨-, -, rfl, whole⟩ := complete
        omega
      next refused => exact absurd complete (List.cons_ne_nil _ _).symm
    · intro whole
      have all : min (oracle (.send octets)).ret.toNat octets.length =
          octets.length := by
        omega
      refine ⟨thread, serial, octets, ?_, answers success⟩
      rw [if_pos (by omega), all]
  · simp [success]

/-- The packed response carries the identifiers of the request. -/
theorem isAnswer_pack2
    {lib : Smpp34}
    (faithful : lib.Faithful)
    {header : SPDUHdr}
    (response : Pdu)
    (commandId : response.commandId = header.commandId + 2 ^ 31)
    (sequenceNumber : response.sequenceNumber = header.sequenceNumber)
    (requestId : header.commandId < 2 ^ 31)
    (number : header.sequenceNumber < 2 ^ 32)
    (success : (lib.pack2 response localBufferSize).1 = 0) :
    IsAnswer header (lib.pack2 response localBufferSize).2 := by
  refine ⟨.inl ?_, ?_⟩
  · rw [faithful.pack_commandId _ _ success, commandId]
    omega
  · rw [faithful.pack_sequenceNumber _ _ success, sequenceNumber]
    omega

/-! ## The handlers -/

variable (conf : SConf)

/-- What handling a message sends. -/
theorem smppDeliverSmOper_sent
    (buf : Octets)
    (dataLen : Int)
    {state : State}
    {serial : Nat}
    (open_socket : state.serial = some serial)
    (seqNum : Nat) :
    let unpacked := lib.unpack2 (buf.take dataLen.toNat)
    Observes sentEvent
      (if unpacked.1 = 0 ∧ SupportedCoding unpacked.2 then
        responseSent thread oracle lib serial
          (deliverSmResp unpacked.2 (oracle .uninitialised).garbage)
        else []) state
      ((smppDeliverSmOper conf lib buf dataLen localBufferSize seqNum).eval
        (exec thread) oracle state).2 := by
  intro unpacked
  by_cases accepted : unpacked.1 = 0 ∧ SupportedCoding unpacked.2
  · rw [if_pos accepted]
    have accepts : lib.unpack2 (buf.take dataLen.toNat) =
        (0, unpacked.2) := Prod.ext accepted.1 rfl
    have set := (convertText_isSome_iff thread oracle unpacked.2
      (selectBody unpacked.2 (oracle .uninitialised).garbage).1
      (selectBody unpacked.2 (oracle .uninitialised).garbage).2
      (oracle .uninitialised).garbage.dstLen
      (state.linkTlv unpacked.2.tlv).2).mpr accepted.2
    obtain ⟨printData, pointer⟩ := Option.isSome_iff_exists.mp set
    have kept := eval_undisturbed thread oracle
      ((convertText_memory unpacked.2
        (selectBody unpacked.2 (oracle .uninitialised).garbage).1
        (selectBody unpacked.2 (oracle .uninitialised).garbage).2
        (oracle .uninitialised).garbage.dstLen).mono Op.isMemory.handling)
      (state.linkTlv unpacked.2.tlv).2
    generalize conversion : (convertText unpacked.2
      (selectBody unpacked.2 (oracle .uninitialised).garbage).1
      (selectBody unpacked.2 (oracle .uninitialised).garbage).2
      (oracle .uninitialised).garbage.dstLen).eval (exec thread) oracle
        (state.linkTlv unpacked.2.tlv).2 = converted at pointer kept
    obtain ⟨_, later⟩ := converted
    obtain rfl : _ = some printData := pointer
    have delivery := deliverAndReport_delivery conf unpacked.2.sourceAddr
      printData
    have delivers := eval_quiet thread oracle
      (delivery.mono (Op.isDelivery.quiet sentEvent rfl
        (fun _ _ _ _ => rfl) (fun _ _ _ _ => rfl) (fun _ _ _ _ => rfl)))
      later
    have undisturbed := kept.trans (eval_undisturbed thread oracle
      (delivery.mono Op.isDelivery.handling) later)
    have responds := respond_sent thread oracle lib
      (undisturbed.stream.2.trans open_socket)
      (deliverSmResp unpacked.2 (oracle .uninitialised).garbage)
    have whole := smppDeliverSmOper_observes conf thread lib rfl accepts
      conversion localBufferSize seqNum delivers responds
    rwa [List.append_nil] at whole
  · rw [if_neg accepted]
    exact smppDeliverSmOper_silent conf thread lib oracle accepted
      localBufferSize seqNum state

/-- What handling an unbinding sends. -/
theorem smppUnbindOper_sent
    (buf : Octets)
    (dataLen : Int)
    {state : State}
    {serial : Nat}
    (open_socket : state.serial = some serial)
    (seqNum : Nat) :
    let unpacked := lib.unpack2 (buf.take dataLen.toNat)
    Observes sentEvent
      (if unpacked.1 = 0 then
        responseSent thread oracle lib serial
          (headerPdu UNBIND_RESP unpacked.2.sequenceNumber)
        else []) state
      ((smppUnbindOper lib buf dataLen localBufferSize seqNum).eval
        (exec thread) oracle state).2 := by
  intro unpacked
  have entered : Observes sentEvent [] state
      { state.enter .smppUnbindOper with smppIsConnected := false } :=
    ⟨[.unbindReceived state.lastRecv], rfl, rfl⟩
  unfold smppUnbindOper
  rw [within_eval]
  have cleared : (call (.setSmppConnected false)).eval (exec thread) oracle
      (state.enter .smppUnbindOper) =
        ((), { state.enter .smppUnbindOper with smppIsConnected := false }) :=
    rfl
  rw [Program.eval_bind_of_eq _ _ cleared]
  by_cases accepted : unpacked.1 = 0
  · have responds := respond_sent thread oracle lib
      (show State.serial { state.enter .smppUnbindOper with
        smppIsConnected := false } = some serial from open_socket)
      (headerPdu UNBIND_RESP unpacked.2.sequenceNumber)
    dsimp only
    rw [if_pos accepted, if_neg (by simpa using accepted)]
    have whole := entered.trans responds
    rw [List.append_nil] at whole
    exact whole
  · dsimp only
    rw [if_neg accepted, if_pos accepted]
    exact entered

/-- A call that returns success for a request has received all of it, and it
sends what the switch on the request sends. -/
theorem smppHandler_request
    {state : State}
    (request : ¬(SPDUHdr.ofOctets state.available).isResponse)
    (returned : ((smppHandler conf lib).eval (exec thread) oracle
      state).1 = 0) :
    let header := SPDUHdr.ofOctets state.available
    let pdu := state.available.take header.commandLength
    header.commandLength ≤ localBufferSize ∧
      header.commandLength ≤ state.available.length ∧
      ∃ serial later, state.serial = some serial ∧
        later.serial = some serial ∧
        Observes sentEvent [] state later ∧
        ((smppHandler conf lib).eval (exec thread) oracle state).2 =
          ((operReqSwitch conf lib header pdu).eval (exec thread) oracle
            later).2.leave .smppHandler := by
  intro header pdu
  let entered := state.enter .smppHandler
  unfold smppHandler at returned ⊢
  rw [within_eval] at returned ⊢
  obtain ⟨served, unseen, -, seen⟩ :=
    smppHandlerBody_eval thread oracle conf lib entered
  have visible : HeaderVisible oracle entered := by
    by_contra hidden
    have failed : ((smppHandlerBody conf lib).eval (exec thread) oracle
        entered).1 = -1 := congrArg Prod.fst (unseen hidden)
    exact absurd (returned.symm.trans failed) (by decide)
  have course := seen visible request
  obtain ⟨code, later, received, -, silent, whole, refused, passed⟩ :=
    smppOperReq_eval thread oracle conf lib header
      { entered with served := served }
  have success : code = 0 := by
    by_contra failed
    have error : ((smppHandlerBody conf lib).eval (exec thread) oracle
        entered).1 = EINVAL :=
      congrArg Prod.fst (course.trans (refused failed))
    exact absurd (returned.symm.trans error) (by decide)
  obtain ⟨inSize, inStream⟩ := takenInto_le oracle header.commandLength
    (reqInto header) { entered with served := served }
  have all : takenInto oracle header.commandLength (reqInto header)
      { entered with served := served } = header.commandLength := by
    rcases Nat.eq_zero_or_pos header.commandLength with empty | positive
    · omega
    · exact (whole positive).mp success
  have fits : header.commandLength ≤ localBufferSize := by
    by_contra tooLong
    rw [reqInto, if_neg tooLong] at all
    have empty : 0 = header.commandLength := all
    omega
  rw [all] at inStream
  have open_socket : ∃ serial, state.serial = some serial := by
    cases closed : state.serial with
    | some serial => exact ⟨serial, rfl⟩
    | none =>
        have enough : headerLength ≤ state.available.length := visible.1
        simp [State.available, closed, headerLength] at enough
  obtain ⟨serial, open_socket⟩ := open_socket
  refine ⟨fits, inStream, serial, later.note (.handed header.commandId pdu), open_socket,
    received.serial.trans open_socket, ?_, ?_⟩
  · have noted : Observes sentEvent [] later (later.note (.handed header.commandId pdu)) :=
      Observes.note later _
    exact silent.trans noted
  · have reached := congrArg Prod.snd (course.trans (passed success))
    rw [all] at reached
    rw [reached]
    rfl

/-- What the switch on a request sends. -/
def switchSent (header : SPDUHdr) (pdu : Octets) (serial : Nat) :
    List Event :=
  let unpacked := lib.unpack2 pdu
  if header.commandId = DELIVER_SM then
    if unpacked.1 = 0 ∧ SupportedCoding unpacked.2 then
      responseSent thread oracle lib serial
        (deliverSmResp unpacked.2 (oracle .uninitialised).garbage)
    else []
  else if header.commandId = UNBIND then
    if unpacked.1 = 0 then
      responseSent thread oracle lib serial
        (headerPdu UNBIND_RESP unpacked.2.sequenceNumber)
    else []
  else []

theorem operReqSwitch_sent
    {header : SPDUHdr}
    {pdu : Octets}
    {state : State}
    {serial : Nat}
    (fits : header.commandLength ≤ localBufferSize)
    (length : pdu.length = header.commandLength)
    (open_socket : state.serial = some serial) :
    Observes sentEvent (switchSent thread oracle lib header pdu serial) state
      ((operReqSwitch conf lib header pdu).eval (exec thread) oracle
        state).2 := by
  have whole : pdu.take (int32 header.commandLength).toNat = pdu := by
    have small : header.commandLength < 2 ^ 31 := by
      unfold localBufferSize at fits
      omega
    rw [int32_of_lt small, Int.toNat_natCast, ← length, List.take_length]
  unfold operReqSwitch switchSent
  by_cases deliver : header.commandId = DELIVER_SM
  · have sent := smppDeliverSmOper_sent thread oracle lib conf pdu
      (int32 header.commandLength) open_socket (header.sequenceNumber % 256)
    rw [whole] at sent
    simp only [deliver, if_true]
    exact sent
  · by_cases unbind : header.commandId = UNBIND
    · have sent := smppUnbindOper_sent thread oracle lib pdu
        (int32 header.commandLength) open_socket
        (header.sequenceNumber % 256)
      rw [whole] at sent
      have other : ¬UNBIND = DELIVER_SM := by decide
      simp only [unbind, other, if_true, if_false]
      exact sent
    · simp only [deliver, unbind, if_false]
      exact Observes.refl state

/-- The switch sends one complete answer exactly when the request is one it
knows, is unpacked, in a supported coding, and the response is transmitted. -/
theorem switchSent_complete_iff
    {lib : Smpp34}
    (faithful : lib.Faithful)
    (stream : Octets)
    (serial : Nat) :
    let header := SPDUHdr.ofOctets stream
    let unpacked := lib.unpack2 (stream.take header.commandLength)
    (∃ sender other data,
      switchSent thread oracle lib header
        (stream.take header.commandLength) serial =
          [.sent sender other data data.length] ∧ IsAnswer header data) ↔
      unpacked.1 = 0 ∧
        (header.commandId = DELIVER_SM ∧ SupportedCoding unpacked.2 ∧
            Transmits oracle lib
              (deliverSmResp unpacked.2 (oracle .uninitialised).garbage) ∨
          header.commandId = UNBIND ∧
            Transmits oracle lib
              (headerPdu UNBIND_RESP unpacked.2.sequenceNumber)) := by
  intro header unpacked
  have number : unpacked.1 = 0 →
      unpacked.2.sequenceNumber = header.sequenceNumber := by
    intro success
    have long := faithful.unpack_length _ success
    rw [List.length_take] at long
    unfold headerLength at long
    rw [faithful.unpack_sequenceNumber _ success]
    exact word_take (by omega)
  have bounded : header.sequenceNumber < 2 ^ 32 := word_lt stream 12
  have nothing (events : List Event) (empty : events = []) :
      ¬∃ sender other data,
        events = [.sent sender other data data.length] ∧
          IsAnswer header data := by
    rintro ⟨sender, other, data, equal, -⟩
    exact absurd (empty.symm.trans equal) (List.cons_ne_nil _ _).symm
  have distinct : ¬DELIVER_SM = UNBIND := by decide
  have distinct' : ¬UNBIND = DELIVER_SM := by decide
  by_cases success : unpacked.1 = 0
  · have sequence := number success
    by_cases deliver : header.commandId = DELIVER_SM
    · by_cases supported : SupportedCoding unpacked.2
      · have complete := responseSent_complete_iff thread oracle faithful
          (isAnswer_pack2 faithful
            (deliverSmResp unpacked.2 (oracle .uninitialised).garbage)
            (by rw [deliver]; rfl) sequence (by rw [deliver]; decide)
            bounded) serial
        unfold switchSent
        rw [if_pos deliver, if_pos ⟨success, supported⟩, complete]
        simp only [success, deliver, distinct, supported, true_and,
          false_and, or_false]
      · refine iff_of_false (nothing _ ?_) ?_
        · unfold switchSent
          rw [if_pos deliver, if_neg fun both => supported both.2]
        · simp only [deliver, distinct, supported, false_and, and_false,
            or_false, not_false_eq_true]
    · by_cases unbind : header.commandId = UNBIND
      · have complete := responseSent_complete_iff thread oracle faithful
          (isAnswer_pack2 faithful
            (headerPdu UNBIND_RESP unpacked.2.sequenceNumber)
            (by rw [unbind]; rfl) sequence (by rw [unbind]; decide)
            bounded) serial
        unfold switchSent
        rw [if_neg deliver, if_pos unbind, if_pos success, complete]
        simp only [success, unbind, distinct', true_and, false_and, false_or]
      · refine iff_of_false (nothing _ ?_) ?_
        · unfold switchSent
          rw [if_neg deliver, if_neg unbind]
        · simp only [deliver, unbind, false_and, and_false, or_false,
            not_false_eq_true]
  · refine iff_of_false (nothing _ ?_) fun both => success both.1
    have refused : ¬(unpacked.1 = 0 ∧ SupportedCoding unpacked.2) :=
      fun both => success both.1
    unfold switchSent
    dsimp only
    rw [if_neg refused, if_neg success, ite_self, ite_self]

/-- A call that returns success for a request sends exactly one PDU, an answer
to it, exactly when the request is answerable. -/
theorem smppHandler_answers_iff
    {lib : Smpp34}
    (faithful : lib.Faithful)
    {state : State}
    (request : ¬(SPDUHdr.ofOctets state.available).isResponse)
    (returned : ((smppHandler conf lib).eval (exec thread) oracle
      state).1 = 0) :
    Answered (SPDUHdr.ofOctets state.available) state
        ((smppHandler conf lib).eval (exec thread) oracle state).2 ↔
      Answerable oracle lib state := by
  obtain ⟨fits, whole, serial, later, -, open_socket, silent, reached⟩ :=
    smppHandler_request thread oracle lib conf request returned
  have length : (state.available.take
      (SPDUHdr.ofOctets state.available).commandLength).length =
        (SPDUHdr.ofOctets state.available).commandLength := by
    rw [List.length_take]
    omega
  have sent := silent.trans (operReqSwitch_sent thread oracle lib conf fits
    length open_socket)
  rw [List.append_nil] at sent
  have left : Observes sentEvent
      (switchSent thread oracle lib (SPDUHdr.ofOctets state.available)
        (state.available.take
          (SPDUHdr.ofOctets state.available).commandLength) serial)
      state ((smppHandler conf lib).eval (exec thread) oracle state).2 := by
    rw [reached]
    exact sent
  unfold Answered
  rw [left.newEvents_eq]
  exact switchSent_complete_iff thread oracle faithful state.available serial

/-- An `UNBIND` of the server. -/
def unbind : Octets :=
  ReferenceCodec.packed (headerPdu UNBIND 5)

theorem unbind_answered :
    Answered (SPDUHdr.ofOctets (arrivedState unbind).available)
      (arrivedState unbind)
      ((smppHandler {} referenceCodec).eval (exec .receiver) allSucceeds
        (arrivedState unbind)).2 :=
  (smppHandler_answers_iff .receiver allSucceeds {} referenceCodec_faithful
    (by decide +kernel) (by decide +kernel)).mpr (by decide +kernel)

/-- The handler consumes the server's link check, returns success and sends
nothing. -/
theorem enquireLink_unanswered :
    ((smppHandler {} referenceCodec).eval (exec .receiver) allSucceeds
        (arrivedState enquireLink)).1 = 0 ∧
      ((smppHandler {} referenceCodec).eval (exec .receiver) allSucceeds
        (arrivedState enquireLink)).2.available = [] ∧
      ¬Answered (SPDUHdr.ofOctets (arrivedState enquireLink).available)
        (arrivedState enquireLink)
        ((smppHandler {} referenceCodec).eval (exec .receiver) allSucceeds
          (arrivedState enquireLink)).2 := by
  have silent : (newEvents (arrivedState enquireLink)
      ((smppHandler {} referenceCodec).eval (exec .receiver) allSucceeds
        (arrivedState enquireLink)).2).filterMap sentEvent = [] := by
    decide +kernel
  refine ⟨by decide +kernel, by decide +kernel, ?_⟩
  rintro ⟨sender, serial, data, sent, -⟩
  exact absurd (silent.symm.trans sent) (List.cons_ne_nil _ _).symm

end Sms112
