import Sms112.Exchange.Receiver
import Sms112.Exchange.Sender

/-!
# The functions of an exchange

Each function of the client and of the receiver keeps to the protocol of an
exchange. What the sender knows behind `sms112_smpp_send` follows from its
result.
-/

namespace Sms112

open Resumption History

namespace Exchange

variable {α : Type} {aim : Aim} {thread : Thread} {pointer : ReqPtr}
variable {sending : List (Thread × Nat)} {objects : List (Nat × Nat)}

/-- A triple of the protocol of an exchange. -/
abbrev ExchangeTriple (aim : Aim) (thread : Thread) (pre : State → Prop)
    (program : Prog α) (post : α → State → Prop) : Prop :=
  (exchangeProtocol aim).Triple watched (InTurn aim) thread pre program post

/-! ## Mild programs -/

/-- A program of mild operations keeps what the thread knows of the
exchange. -/
theorem mild_triple
    {assertion : State → Prop}
    {program : Prog α}
    (uses : program.Uses fun operation => operation.isMild)
    (stable : (exchangeProtocol aim).Stable thread assertion) :
    ExchangeTriple aim thread assertion program fun _ => assertion := by
  refine Protocol.Triple.unobtrusive uses stable ?_
  intro operation state choice mild inv _
  have step := watched_mild thread mild choice state
  exact ⟨step.quiet.inv inv,
    step.rely (Op.isMild.inbound mild thread choice)⟩

theorem mild_call
    {operation : Op}
    {assertion : State → Prop}
    (mild : operation.isMild)
    (stable : (exchangeProtocol aim).Stable thread assertion) :
    ExchangeTriple aim thread assertion (call operation)
      fun _ => assertion :=
  mild_triple ⟨mild, fun _ => trivial⟩ stable

/-- A mild operation from whose outcome something is learned. -/
theorem mild_learn
    {operation : Op}
    {assertion : State → Prop}
    {learned : Res operation → State → Prop}
    (mild : operation.isMild)
    (stable : (exchangeProtocol aim).Stable thread assertion)
    (learnedStable : ∀ result,
      (exchangeProtocol aim).Stable thread (learned result))
    (outcome : ∀ state choice, ExchangeInv aim state → assertion state →
      InTurn aim thread operation choice state →
        learned (watched thread operation choice state).1
          (watched thread operation choice state).2) :
    ExchangeTriple aim thread assertion (call operation)
      fun result state => assertion state ∧ learned result state := by
  refine .call stable (fun result => stable.conj (learnedStable result)) ?_
  intro state choice inv holds inTurn
  have step := watched_mild thread mild choice state
  have rely (other : Thread) : ExchangeRely aim other state
      (watched thread operation choice state).2 :=
    step.rely (Op.isMild.inbound mild thread choice) other
  have later := step.quiet.inv inv
  exact ⟨⟨later, fun other _ => rely other⟩,
    stable _ _ inv holds (rely thread) later,
    outcome state choice inv holds inTurn⟩

theorem Op.isHandling.mild
    (operation : Op)
    (handling : operation.isHandling) :
    operation.isMild := by
  cases operation
  case note event => cases event <;> first | rfl | cases handling
  all_goals first | rfl | cases handling

/-! ## The sender -/

section Sender

/-- The call has created its object and has left no mark. -/
structure Created (sending : List (Thread × Nat)) (pointer : ReqPtr)
    (state : State) : Prop where
  calling : Calling sending [(pointer.addr, pointer.owner)] state
  inCall : InCall [] state
  fresh : Fresh pointer state

theorem created_stable :
    (exchangeProtocol aim).Stable controller (Created sending pointer) :=
  fun before after inv created rely invAfter =>
    ⟨calling_stable before after inv created.calling rely invAfter,
      inCall_stable [] before after inv created.inCall rely invAfter,
      fresh_stable before after inv created.fresh rely invAfter⟩

/-- A call creates its object. -/
theorem newReqData_triple :
    ExchangeTriple aim controller (Started aim) (call .newReqData)
      (Created []) := by
  refine .call started_stable (fun _ => created_stable) ?_
  intro state choice inv started _
  obtain ⟨keeps, calling, inCall, fresh⟩ :=
    watched_newReqData inv started choice
  exact ⟨keeps, calling, inCall, fresh⟩

/-- A call that failed before its wait promises nothing. -/
theorem outcome_of_failed
    {data : Octets}
    {seqNum : Nat}
    {result : Int}
    {state : State}
    (failed : result ≠ 0)
    (unwaited : .waited ∉ marks state.log) :
    Outcome aim data seqNum pointer result state where
  early _ isEarly := absurd isEarly (not_early unwaited)
  sent success := absurd success failed
  filled _ success := absurd success failed

/-- What is known while the request is sent. -/
def Registered (objects : List (Nat × Nat)) (pointer : ReqPtr)
    (seqNum : Nat) (state : State) : Prop :=
  Calling [(controller, pointer.owner)] objects state ∧
    InCall [.registered seqNum] state

theorem registered_stable (seqNum : Nat) :
    (exchangeProtocol aim).Stable controller
      (Registered objects pointer seqNum) :=
  calling_stable.conj (inCall_stable _)

theorem sentIf_stable (data : Octets) (condition : Prop) :
    (exchangeProtocol aim).Stable controller
      fun state => condition → SentBy aim data state :=
  fun before after inv sent rely invAfter holds =>
    sentBy_stable data before after inv (sent holds) rely invAfter

/-- Behind a `tcp_send` that succeeded the request has gone out. -/
theorem tcpSend_triple
    (data : Octets)
    (seqNum : Nat) :
    ExchangeTriple aim controller (Registered objects pointer seqNum)
      (tcpSend data) fun iFnRes state =>
        Registered objects pointer seqNum state ∧
          (iFnRes = 0 → SentBy aim data state) := by
  have around (condition : Prop) := (@registered_stable aim pointer objects
    seqNum).conj (@sentIf_stable aim data condition)
  have sends : ExchangeTriple aim controller
      (Registered objects pointer seqNum) (call (.send data))
      fun outcome state => Registered objects pointer seqNum state ∧
        (equalsUnsigned outcome.1 data.length ∨ outcome.2 = 0 →
          SentBy aim data state) := by
    refine mild_learn rfl (registered_stable seqNum)
      (fun _ => sentIf_stable data _) ?_
    intro state choice _ _ inTurn
    exact watched_send_sentBy choice inTurn
  refine sends.bind fun outcome => .ite (fun whole => ?_) fun _ => ?_
  · exact .returns (around _) fun _ _ holds =>
      ⟨holds.1, fun _ => holds.2 (.inl whole)⟩
  · refine (mild_call rfl (around _)).bind fun _ => ?_
    exact .returns (around _) fun _ _ holds =>
      ⟨holds.1, fun success => holds.2 (.inr (by simpa using success))⟩

/-- What is known when the wait for the response has ended. -/
structure Waited (aim : Aim) (data : Octets) (seqNum : Nat)
    (pointer : ReqPtr) (objects : List (Nat × Nat)) (result : Int)
    (state : State) : Prop where
  calling : Calling [(controller, pointer.owner)] objects state
  inCall : InCall [.waited, .registered seqNum] state
  sent : SentBy aim data state
  early : aim = .agreement → Early state.log → HasLength pointer state
  filled : aim = .completion → result = 0 → HasLength pointer state

theorem waited_stable (data : Octets) (seqNum : Nat) (result : Int) :
    (exchangeProtocol aim).Stable controller
      (Waited aim data seqNum pointer objects result) := by
  rintro before after inv ⟨calling, inCall, sent, early, filled⟩ rely
    invAfter
  refine ⟨calling_stable before after inv calling rely invAfter,
    inCall_stable _ before after inv inCall rely invAfter,
    sentBy_stable data before after inv sent rely invAfter,
    fun agreement isEarly => ?_, fun completion success =>
      hasLength_stable before after inv (filled completion success) rely
        invAfter⟩
  have log : SenderRely aim before after := rely
  exact hasLength_stable before after inv
    (early agreement ((early_unmarked log.log).mp isEarly)) rely invAfter

/-- What had come when the wait ended is in the object. -/
theorem timedLockReq_triple
    (data : Octets)
    (seqNum : Nat)
    (deadline : Timespec) :
    ExchangeTriple aim controller
      (fun state =>
        Registered [(pointer.addr, pointer.owner)] pointer seqNum state ∧
          SentBy aim data state)
      (call (.timedLockReq pointer deadline)) fun result =>
        Waited aim data seqNum pointer [(pointer.addr, pointer.owner)]
          result := by
  refine .call ((registered_stable seqNum).conj (sentBy_stable data))
    (fun result => waited_stable data seqNum result) ?_
  intro state choice inv ⟨⟨calling, inCall⟩, sent⟩ free
  obtain ⟨keeps, callingLater, inCallLater, early, filled⟩ :=
    watched_timedLockReq inv calling inCall deadline choice free
  exact ⟨keeps, callingLater, inCallLater,
    sent.timedLockReq deadline choice, early, filled⟩

/-- The length of the object tells whether a response is there. -/
theorem getReqDataLen_triple
    (data : Octets)
    (seqNum : Nat)
    (result : Int) :
    ExchangeTriple aim controller
      (Waited aim data seqNum pointer objects result)
      (call (.getReqDataLen pointer)) fun dataLen state =>
        Waited aim data seqNum pointer objects result state ∧
          Outcome aim data seqNum pointer
            (if dataLen ≠ 0 then 0 else result) state := by
  refine mild_learn rfl (waited_stable data seqNum result)
    (fun dataLen => outcome_stable data seqNum _) ?_
  intro state choice inv waited _
  change Outcome aim data seqNum pointer
    (if ((state.request pointer).map SReqData.dataLen).getD 0 ≠ 0 then 0
      else result) state
  have nonzero (length : HasLength pointer state) :
      ((state.request pointer).map SReqData.dataLen).getD 0 ≠ 0 := by
    obtain ⟨object, found, positive⟩ := length
    rw [found]
    exact positive
  refine ⟨fun agreement isEarly => ?_,
    fun _ => ⟨waited.sent, waited.inCall⟩, fun completion success => ?_⟩
  · exact if_pos (nonzero (waited.early agreement isEarly))
  · split at success
    next positive =>
      cases found : state.request pointer with
      | none =>
          rw [found] at positive
          exact absurd rfl positive
      | some object =>
          rw [found] at positive
          exact ⟨object, found, positive⟩
    next empty =>
      exact waited.filled completion success

/-- What is known when `sms112_smpp_send` is about to return. -/
theorem smppSendBody_triple
    (data : Octets)
    (seqNum : Nat) :
    ExchangeTriple aim controller
      (Created [(controller, pointer.owner)] pointer)
      (smppSendBody data seqNum pointer) fun iRetVal state =>
        (Calling [(controller, pointer.owner)]
            [(pointer.addr, pointer.owner)] state ∧
          calls.Open state.log) ∧
        Outcome aim data seqNum pointer iRetVal state := by
  have around (iRetVal : Int) : (exchangeProtocol aim).Stable controller
      fun state => (Calling [(controller, pointer.owner)]
          [(pointer.addr, pointer.owner)] state ∧
        calls.Open state.log) ∧
        Outcome aim data seqNum pointer iRetVal state :=
    (calling_stable.conj opened_stable).conj (outcome_stable data seqNum _)
  have inside (marked : List Event) :=
    (@calling_stable aim [(controller, pointer.owner)]
      [(pointer.addr, pointer.owner)]).conj (inCall_stable marked)
  have adds : ExchangeTriple aim controller
      (Created [(controller, pointer.owner)] pointer)
      (call (.reqStorAdd seqNum pointer)) fun result state =>
        Calling [(controller, pointer.owner)]
            [(pointer.addr, pointer.owner)] state ∧
          InCall (if result = 0 then [.registered seqNum] else [])
            state := by
    refine .call created_stable (fun _ => inside _) ?_
    intro state choice inv ⟨calling, inCall, fresh⟩ _
    exact watched_reqStorAdd inv calling inCall fresh seqNum choice
  refine adds.bind fun added => .ite (fun refused => ?_) fun success => ?_
  · refine .returns (around _) fun state _ ⟨calling, inCall⟩ =>
      ⟨⟨calling, inCall.opened⟩, outcome_of_failed refused ?_⟩
    rw [inCall.marks, if_neg refused]
    exact List.not_mem_nil
  rw [if_pos (not_not.mp success)]
  refine (tcpSend_triple data seqNum).bind fun sent =>
    .ite (fun unsent => ?_) fun success => ?_
  · refine .returns (around _) fun state _ ⟨⟨calling, inCall⟩, _⟩ =>
      ⟨⟨calling, inCall.opened⟩, outcome_of_failed unsent ?_⟩
    rw [inCall.marks]
    exact fun member => nomatch List.mem_singleton.mp member
  have waiting := (@registered_stable aim pointer
    [(pointer.addr, pointer.owner)] seqNum).conj (sentBy_stable data)
  refine .consequence (.bind (mild_call rfl waiting) fun garbage =>
    (mild_triple (makeTimespecTimeout_uses (by rfl) _ _ _) waiting).bind
      fun timeSpec => (timedLockReq_triple data seqNum timeSpec.2).bind
        fun result => (getReqDataLen_triple data seqNum result).bind
          fun dataLen => ?_)
    (fun _ _ holds => ⟨holds.1, holds.2 (not_not.mp success)⟩)
    fun _ _ _ holds => holds
  refine .ite (fun positive => ?_) fun zero => ?_
  · rw [if_pos positive]
    exact .returns (around 0) fun _ _ ⟨waited, outcome⟩ =>
      ⟨⟨waited.calling, waited.inCall.opened⟩, outcome⟩
  · rw [if_neg zero]
    exact .returns (around result) fun _ _ ⟨waited, outcome⟩ =>
      ⟨⟨waited.calling, waited.inCall.opened⟩, outcome⟩

/-- What `sms112_smpp_send` returns says what became of the request. -/
theorem smppSend_triple
    (data : Octets)
    (seqNum : Nat) :
    ExchangeTriple aim controller (Created [] pointer)
      (smppSend data seqNum pointer) fun iRetVal state =>
        (Calling [] [(pointer.addr, pointer.owner)] state ∧
          calls.Open state.log) ∧
        Outcome aim data seqNum pointer iRetVal state := by
  have enters : ExchangeTriple aim controller (Created [] pointer)
      (call (.enterSend pointer))
      fun _ => Created [(controller, pointer.owner)] pointer := by
    refine .call created_stable (fun _ => created_stable) ?_
    intro state choice inv ⟨calling, inCall, fresh⟩ _
    obtain ⟨keeps, later, -, freshLater⟩ :=
      watched_enterSend inv calling fresh choice
    exact ⟨keeps, later, ⟨inCall.opened, inCall.marks⟩, freshLater⟩
  have leaves (iRetVal : Int) : ExchangeTriple aim controller
      (fun state => (Calling [(controller, pointer.owner)]
          [(pointer.addr, pointer.owner)] state ∧ calls.Open state.log) ∧
        Outcome aim data seqNum pointer iRetVal state)
      (call (.leaveSend pointer)) fun _ state =>
        (Calling [] [(pointer.addr, pointer.owner)] state ∧
          calls.Open state.log) ∧
        Outcome aim data seqNum pointer iRetVal state := by
    refine .call ((calling_stable.conj opened_stable).conj
        (outcome_stable data seqNum _))
      (fun _ => (calling_stable.conj opened_stable).conj
        (outcome_stable data seqNum _)) ?_
    intro state choice inv ⟨⟨calling, opened⟩, early, sent, filled⟩ free
    obtain ⟨keeps, later⟩ := watched_leaveSend inv calling free choice
    exact ⟨keeps, ⟨later, opened⟩, early, fun success =>
      ⟨(sent success).1, (sent success).2.opened, (sent success).2.marks⟩,
      filled⟩
  refine enters.bind fun _ => (smppSendBody_triple data seqNum).bind
    fun iRetVal => (leaves iRetVal).bind fun _ => ?_
  exact .returns ((calling_stable.conj opened_stable).conj
    (outcome_stable data seqNum _)) fun _ _ holds => holds

/-! ### The response -/

/-- A call is about to return; for agreement it is good. -/
structure Returning (aim : Aim) (objects : List (Nat × Nat))
    (requestId : Nat) (result : Int) (state : State) : Prop where
  calling : Calling [] objects state
  opened : calls.Open state.log
  good : aim = .agreement →
    GoodCall (.returned requestId result) (calls.current state.log)

theorem returning_stable (requestId : Nat) (result : Int) :
    (exchangeProtocol aim).Stable controller
      (Returning aim objects requestId result) := by
  rintro before after inv ⟨calling, opened, good⟩ rely invAfter
  refine ⟨calling_stable before after inv calling rely invAfter,
    opened_stable before after inv opened rely invAfter,
    fun agreement => ?_⟩
  have rely : SenderRely aim before after := rely
  exact (good agreement).grows rely.log

/-- The response is decoded as a positive one to the request. -/
def Positive (lib : Smpp34) (respId : Nat) (buffer : Octets) : Prop :=
  (lib.unpack2 buffer).1 = 0 ∧ (lib.unpack2 buffer).2.commandId = respId ∧
    (lib.unpack2 buffer).2.commandStatus = ESME_ROK

/-- A call that returns 0 only for a positive response is good once it has
decoded what it read. -/
theorem goodCall_decoded
    {lib : Smpp34}
    (faithful : lib.Faithful)
    {request : Pdu}
    {data buffer : Octets}
    (packed : lib.pack2 request localBufferSize = (0, data))
    (known : request.commandId < 2 ^ 32)
    {state : State}
    (sent : SentBy .agreement data state)
    (reading : Reading request.sequenceNumber buffer state)
    {result : Int}
    (positive : result = 0 →
      Positive lib (responseId request.commandId) buffer) :
    GoodCall (.returned request.commandId result) (calls.current
      (state.note (.decoded request.commandId buffer)).log) := by
  have during : calls.current
      (state.note (.decoded request.commandId buffer)).log =
        .decoded request.commandId buffer :: calls.current state.log :=
    current_cons rfl _
  have skips : beforeWaited (.decoded request.commandId buffer ::
      calls.current state.log) = beforeWaited (calls.current state.log) :=
    List.dropWhile_cons_of_pos rfl
  rw [during]
  refine ⟨fun success => ?_, fun serial answer member isAnswer => ?_⟩
  · obtain ⟨decoded, isResponse, ok⟩ := positive success
    have length := faithful.unpack_length buffer decoded
    rw [faithful.unpack_commandId buffer decoded] at isResponse
    rw [faithful.unpack_commandStatus buffer decoded] at ok
    have success : (lib.pack2 request localBufferSize).1 = 0 := by
      rw [packed]
    have isRequest := faithful.pack_commandId _ _ success
    have number := faithful.pack_sequenceNumber _ _ success
    have short := (faithful.pack_length _ _ success).2
    rw [packed] at isRequest number short
    obtain ⟨serial, current, received, isAnswer, sameNumber⟩ :=
      reading.answer length
    obtain ⟨other, accepted, isCurrent, sentRequest, -⟩ :=
      sent (short.trans_lt (by decide))
    obtain rfl : serial = other :=
      Option.some.inj (current.symm.trans isCurrent)
    refine ⟨serial, data, accepted, buffer, .tail _ sentRequest,
      isRequest.trans (Nat.mod_eq_of_lt known), .tail _ received, isAnswer,
      ?_, isResponse, ok⟩
    rw [number, ← sameNumber, Nat.mod_eq_of_lt (word_lt buffer 12)]
  · rw [skips] at member
    rw [reading.early serial answer member isAnswer]
    exact List.mem_cons_self

/-- What is decoded is the response in the object, and for agreement that is
the answer to this call. -/
theorem readResponse_triple
    {lib : Smpp34}
    (faithful : aim = .agreement → lib.Faithful)
    {request : Pdu}
    {data : Octets}
    (packed : lib.pack2 request localBufferSize = (0, data))
    (known : request.commandId < 2 ^ 32)
    (freesTlv : Bool) :
    ExchangeTriple aim controller
      (fun state => (Calling [] [(pointer.addr, pointer.owner)] state ∧
          calls.Open state.log) ∧
        Outcome aim data request.sequenceNumber pointer 0 state)
      (readResponse lib request (responseId request.commandId) freesTlv
        pointer)
      fun iRetVal => Returning aim [(pointer.addr, pointer.owner)]
        request.commandId iRetVal := by
  have ready := ((@calling_stable aim []
    [(pointer.addr, pointer.owner)]).conj opened_stable).conj
      (@outcome_stable aim pointer data request.sequenceNumber 0)
  have readingIf (buffer : Octets) : (exchangeProtocol aim).Stable controller
      fun state => aim = .agreement →
        Reading request.sequenceNumber buffer state :=
    fun before after inv reading rely invAfter agreement =>
      reading_stable _ _ before after inv (reading agreement) rely invAfter
  have reads : ExchangeTriple aim controller
      (fun state => (Calling [] [(pointer.addr, pointer.owner)] state ∧
          calls.Open state.log) ∧
        Outcome aim data request.sequenceNumber pointer 0 state)
      (call (.readReqData pointer)) fun buffer state =>
        ((Calling [] [(pointer.addr, pointer.owner)] state ∧
            calls.Open state.log) ∧
          Outcome aim data request.sequenceNumber pointer 0 state) ∧
        (aim = .agreement →
          Reading request.sequenceNumber buffer state) := by
    refine mild_learn rfl ready readingIf ?_
    rintro state choice inv ⟨⟨calling, -⟩, outcome⟩ - rfl
    exact readReqData_reading inv calling (outcome.sent rfl).2
  refine reads.bind fun buffer => ?_
  -- once the response is decoded, every result that fits it is good
  have decidedStable : (exchangeProtocol aim).Stable controller fun state =>
      ∀ result, (result = 0 →
          Positive lib (responseId request.commandId) buffer) →
        Returning aim [(pointer.addr, pointer.owner)] request.commandId
          result state :=
    fun before after inv decided rely invAfter result positive =>
      returning_stable _ _ before after inv (decided result positive) rely
        invAfter
  have decodes : ExchangeTriple aim controller
      (fun state => ((Calling [] [(pointer.addr, pointer.owner)] state ∧
            calls.Open state.log) ∧
          Outcome aim data request.sequenceNumber pointer 0 state) ∧
        (aim = .agreement →
          Reading request.sequenceNumber buffer state))
      (call (.note (.decoded request.commandId buffer))) fun _ state =>
        ∀ result, (result = 0 →
            Positive lib (responseId request.commandId) buffer) →
          Returning aim [(pointer.addr, pointer.owner)] request.commandId
            result state := by
    refine .call (ready.conj (readingIf buffer)) (fun _ => decidedStable) ?_
    intro state choice inv ⟨⟨⟨calling, opened⟩, outcome⟩, reading⟩ _
    have step := watched_mild controller (show Op.isMild
      (.note (.decoded request.commandId buffer)) from rfl) choice state
    refine ⟨exchange_keeps_sender (step.quiet.inv inv)
      (step.receiverTolerates fun _ => List.prefix_refl _),
      fun result positive => ⟨⟨calling.sending, calling.objects⟩,
        opened.grows step.log fun _ plain => Event.inner plain.1,
        fun agreement => ?_⟩⟩
    subst agreement
    exact goodCall_decoded (faithful rfl) packed known (outcome.sent rfl).1
      (reading rfl) positive
  have returns {result : Int}
      (positive : result = 0 →
        Positive lib (responseId request.commandId) buffer) :
      ExchangeTriple aim controller
        (fun state => ∀ result, (result = 0 →
            Positive lib (responseId request.commandId) buffer) →
          Returning aim [(pointer.addr, pointer.owner)] request.commandId
            result state)
        (.ret result) fun iRetVal =>
          Returning aim [(pointer.addr, pointer.owner)] request.commandId
            iRetVal :=
    .returns (returning_stable _ _) fun _ _ decided =>
      decided result positive
  refine decodes.bind fun _ => (mild_call rfl decidedStable).bind
    fun nodes => .ite (fun undecoded => returns fun success =>
      absurd success undecoded) fun decoded => ?_
  have checks : ExchangeTriple aim controller
      (fun state => ∀ result, (result = 0 →
          Positive lib (responseId request.commandId) buffer) →
        Returning aim [(pointer.addr, pointer.owner)] request.commandId
          result state)
      (if (lib.unpack2 buffer).2.commandId = responseId request.commandId ∧
          (lib.unpack2 buffer).2.commandStatus = ESME_ROK then .ret 0
        else .ret EINVAL) fun iRetVal =>
          Returning aim [(pointer.addr, pointer.owner)] request.commandId
            iRetVal := by
    refine .ite (fun isResponse => returns fun _ =>
      ⟨not_not.mp decoded, isResponse.1, isResponse.2⟩) fun _ => returns ?_
    intro success
    cases success
  cases freesTlv with
  | false => exact checks
  | true => exact (mild_call rfl decidedStable).bind fun _ => checks

/-! ### The calls of the client -/

/-- The object is deleted before the call returns. -/
theorem deleteReqData_triple
    (requestId : Nat)
    (result : Int) :
    ExchangeTriple aim controller
      (Returning aim [(pointer.addr, pointer.owner)] requestId result)
      (call (.deleteReqData pointer)) fun _ =>
        Returning aim [] requestId result := by
  refine .call (returning_stable _ _) (fun _ => returning_stable _ _) ?_
  intro state choice inv ⟨calling, opened, good⟩ _
  obtain ⟨keeps, later, log⟩ := watched_deleteReqData inv calling choice
  refine ⟨keeps, later, ?_, ?_⟩
  · rw [log]
    exact opened
  · rw [log]
    exact good

/-- An exchange returns with the outcome of its own request. -/
theorem exchange_triple
    {lib : Smpp34}
    (faithful : aim = .agreement → lib.Faithful)
    {request : Pdu}
    (known : request.commandId < 2 ^ 32)
    (freesTlv : Bool) :
    ExchangeTriple aim controller (Started aim)
      (exchange lib request (responseId request.commandId) freesTlv)
      fun iRetVal => Returning aim [] request.commandId iRetVal := by
  have deletes (pointer : ReqPtr) (result : Int) :
      ExchangeTriple aim controller
        (Returning aim [(pointer.addr, pointer.owner)] request.commandId
          result)
        (do call (.deleteReqData pointer); return result)
        fun iRetVal => Returning aim [] request.commandId iRetVal :=
    (deleteReqData_triple request.commandId result).bind fun _ =>
      .returns (returning_stable _ _) fun _ _ holds => holds
  unfold exchange
  cases packed : lib.pack2 request localBufferSize with
  | mk code data =>
      dsimp only
      refine .ite (fun failed => ?_) fun success => ?_
      · refine .returns (returning_stable _ _) fun state _ started =>
          ⟨started.calling, started.inCall.opened, fun _ =>
            goodCall_of_failed failed (not_early ?_)⟩
        rw [started.inCall.marks]
        exact List.not_mem_nil
      · obtain rfl : code = 0 := not_not.mp success
        refine newReqData_triple.bind fun pointer =>
          (smppSend_triple data request.sequenceNumber).bind fun iFnRes =>
            .ite (fun failed => ?_) fun success => ?_
        · refine (deletes pointer iFnRes).consequence
            (fun state _ ⟨⟨calling, opened⟩, outcome⟩ =>
              ⟨calling, opened, fun agreement => ?_⟩) fun _ _ _ holds => holds
          exact goodCall_of_failed failed fun isEarly =>
            failed (outcome.early agreement isEarly)
        · rw [not_not.mp success]
          exact (readResponse_triple faithful packed known freesTlv).bind
            fun iRetVal => deletes pointer iRetVal

/-- A bind returns with the outcome of its own request. -/
theorem smppConnect_triple
    {lib : Smpp34}
    (faithful : aim = .agreement → lib.Faithful)
    (conf : SConf) :
    ExchangeTriple aim controller (Started aim) (smppConnect conf lib)
      fun iRetVal => Returning aim [] BIND_TRANSCEIVER iRetVal := by
  have stable := @returning_stable aim [] BIND_TRANSCEIVER
  refine (mild_call rfl started_stable).bind fun _ => .bind ?_
    fun iRetVal => (mild_call rfl (stable iRetVal)).bind
      fun _ => .returns (stable iRetVal) fun _ _ holds => holds
  refine (mild_call rfl started_stable).bind fun seqNum =>
    (@exchange_triple aim lib faithful (bindTransceiver conf seqNum)
      (show BIND_TRANSCEIVER < 2 ^ 32 by decide) true).bind
        fun iRetVal => .ite (fun _ => ?_) fun _ => ?_
  · exact (mild_call rfl (stable iRetVal)).bind
      fun _ => .returns (stable iRetVal) fun _ _ holds => holds
  · exact .returns (stable iRetVal) fun _ _ holds => holds

theorem smppDisconn_triple
    {lib : Smpp34}
    (faithful : aim = .agreement → lib.Faithful) :
    ExchangeTriple aim controller (Started aim) (smppDisconn lib)
      fun iRetVal => Returning aim [] UNBIND iRetVal := by
  have stable := @returning_stable aim [] UNBIND
  refine (mild_call rfl started_stable).bind fun _ => .bind ?_
    fun iRetVal => (mild_call rfl (stable iRetVal)).bind
      fun _ => .returns (stable iRetVal) fun _ _ holds => holds
  exact (mild_call rfl started_stable).bind fun _ =>
    (mild_call rfl started_stable).bind fun seqNum =>
      @exchange_triple aim lib faithful (headerPdu UNBIND seqNum)
        (show UNBIND < 2 ^ 32 by decide) false

theorem smppEnqLink_triple
    {lib : Smpp34}
    (faithful : aim = .agreement → lib.Faithful) :
    ExchangeTriple aim controller (Started aim) (smppEnqLink lib)
      fun iRetVal => Returning aim [] ENQUIRE_LINK iRetVal :=
  (mild_call rfl started_stable).bind fun seqNum =>
    @exchange_triple aim lib faithful (headerPdu ENQUIRE_LINK seqNum)
      (show ENQUIRE_LINK < 2 ^ 32 by decide) false

/-- A call begins. -/
theorem called_triple :
    ExchangeTriple aim controller (Calling [] []) (call (.note .called))
      fun _ => Started aim :=
  .call calling_stable (fun _ => started_stable)
    fun _ _ inv calling _ => note_called inv calling

/-- The call is over when its result is noted. -/
theorem noted_triple
    {requestId : Nat}
    {function : Prog Int}
    (triple : ExchangeTriple aim controller (Started aim) function
      fun result => Returning aim [] requestId result) :
    ExchangeTriple aim controller (Calling [] []) (noted requestId function)
      fun _ => Calling [] [] := by
  have returns (result : Int) : ExchangeTriple aim controller
      (Returning aim [] requestId result)
      (call (.note (.returned requestId result))) fun _ => Calling [] [] :=
    .call (returning_stable requestId result) (fun _ => calling_stable)
      fun _ _ inv returning _ => note_returned inv returning.calling
        returning.opened returning.good
  exact called_triple.bind fun _ => triple.bind fun result =>
    (returns result).bind fun _ =>
      .returns calling_stable fun _ _ holds => holds

/-- An operation on the connection between the calls. -/
theorem idle_call
    {operation : Op}
    (plain : operation.isPlain)
    (unwatched : operation.isUnwatched)
    (inbound : operation.writes .inbound = false)
    (notes : ∀ event, operation.notes event = false) :
    ExchangeTriple aim controller (Calling [] []) (call operation)
      fun _ => Calling [] [] :=
  .call calling_stable (fun _ => calling_stable)
    fun _ choice inv calling _ =>
      watched_idle inv calling plain unwatched inbound notes choice

theorem tcpConnect_triple :
    ExchangeTriple aim controller (Calling [] []) tcpConnect
      fun _ => Calling [] [] := by
  have done (result : Int) : ExchangeTriple aim controller (Calling [] [])
      (.ret result) fun _ => Calling [] [] :=
    .returns calling_stable fun _ _ holds => holds
  refine (mild_call rfl calling_stable).bind fun _ => .bind ?_
    fun iRetVal => (mild_call rfl calling_stable).bind fun _ => done _
  refine (idle_call rfl rfl rfl fun _ => rfl).bind fun outcome =>
    .ite (fun _ => done _) fun _ => ?_
  refine (mild_call rfl calling_stable).bind fun _ =>
    (mild_call rfl calling_stable).bind fun outcome =>
      .ite (fun _ => done _) fun _ => ?_
  exact (mild_call rfl calling_stable).bind fun _ => done _

theorem tcpDisconn_triple :
    ExchangeTriple aim controller (Calling [] []) tcpDisconn
      fun _ => Calling [] [] := by
  have done : ExchangeTriple aim controller (Calling [] [])
      (.ret ()) fun _ => Calling [] [] :=
    .returns calling_stable fun _ _ holds => holds
  refine (mild_call rfl calling_stable).bind fun _ => .bind ?_
    fun _ => (mild_call rfl calling_stable).bind fun _ => done
  refine (mild_call rfl calling_stable).bind fun iSock =>
    .ite (fun _ => ?_) fun _ => done
  refine (mild_call rfl calling_stable).bind fun _ =>
    (idle_call rfl rfl rfl fun _ => rfl).bind fun closed =>
      .ite (fun _ => ?_) fun _ => done
  exact (mild_call rfl calling_stable).bind fun _ =>
    idle_call rfl rfl rfl fun _ => rfl

end Sender

/-! ## The receiver -/

section Receiver

variable {header : Octets}

/-- A header that was seen is still at the front of its stream. -/
theorem tcpPeek_triple :
    ExchangeTriple aim .receiver HoldsNothing (tcpPeek headerLength)
      fun peeked state => HoldsNothing state ∧
        (peeked.1 = 0 → Seen peeked.2 state) := by
  have peeks : ExchangeTriple aim .receiver HoldsNothing
      (call (.peek headerLength)) fun outcome state =>
        HoldsNothing state ∧ (equalsUnsigned outcome.1 headerLength →
          Seen outcome.2 state) :=
    .call holdsNothing_stable (fun _ => seen_stable _)
      fun _ choice inv nothing _ => watched_peek inv nothing choice
  refine peeks.bind fun outcome =>
    .returns (seen_stable _) fun _ _ ⟨nothing, seen⟩ =>
      ⟨nothing, fun success => seen ?_⟩
  by_contra short
  rw [if_neg short] at success
  cases success

/-- The receiver unlocks an object only when it may be unlocked. -/
theorem unlockReq_triple :
    ExchangeTriple aim .receiver (Filling pointer (Ready aim))
      (call (.unlockReq pointer)) fun _ => HoldsNothing :=
  .call (filling_stable ready_lasts) (fun _ => holdsNothing_stable)
    fun _ choice inv filling _ => watched_unlockReq inv filling choice

/-- A change of the buffer or the length of the object the receiver holds. -/
theorem update_triple
    {fill later : SReqData → State → Prop}
    {operation : Op}
    (change : SReqData → SReqData)
    (lasts : Lasts fill)
    (laterLasts : Lasts later)
    (owner : ∀ data, (change data).owner = data.owner)
    (locked : ∀ data, (change data).locked = data.locked)
    (meaning : ∀ choice state, (watched .receiver operation choice state).2 =
      state.updateRequest pointer change)
    (filled : ∀ data state, fill data state → data.dataLen ≠ 0 →
      (change data).dataLen ≠ 0)
    (fills : ∀ data state, fill data state →
      later (change data) (state.updateRequest pointer change)) :
    ExchangeTriple aim .receiver (Filling pointer fill) (call operation)
      fun _ => Filling pointer later := by
  refine .call (filling_stable lasts) (fun _ => filling_stable laterLasts) ?_
  intro state choice inv filling _
  rw [meaning]
  exact filling.update inv change owner locked
    (fun data _ isFilled => filled data state isFilled)
    fun data isFilled => fills data state isFilled

/-- The response is received into the buffer of its object. -/
theorem tcpRecvInto_triple
    {buf : Option Nat}
    (response : (SPDUHdr.ofOctets header).isResponse) :
    ExchangeTriple aim .receiver
      (Filling pointer (Pointing aim header buf))
      (tcpRecv (SPDUHdr.ofOctets header).commandLength (some buf))
      fun received => Filling pointer fun data state =>
        data.dataLen = 0 ∧ AfterRecv aim
          (SPDUHdr.ofOctets header).commandLength (received.1 = 0) data
          state := by
  have empty : Lasts fun data _ => data.dataLen = 0 :=
    fun _ _ _ _ _ _ _ same isEmpty => same.trans isEmpty
  have lasts (whole : Prop) := empty.conj (@afterRecv_lasts aim
    (SPDUHdr.ofOctets header).commandLength whole)
  have reads : ExchangeTriple aim .receiver
      (Filling pointer (Pointing aim header buf))
      (call (.recv (SPDUHdr.ofOctets header).commandLength (some buf)))
      fun outcome => Filling pointer fun data state =>
        data.dataLen = 0 ∧ AfterRecv aim
          (SPDUHdr.ofOctets header).commandLength
          (equalsUnsigned outcome.1
            (SPDUHdr.ofOctets header).commandLength) data state :=
    .call (filling_stable (pointing_lasts buf))
      (fun _ => filling_stable (lasts _)) fun _ choice inv filling inTurn =>
        watched_recvInto inv filling response choice inTurn
  refine reads.bind fun outcome =>
    .returns (filling_stable (lasts _)) fun _ _ filling =>
      filling.imp fun data ⟨isEmpty, onSuccess, onFailure⟩ => ?_
  have whole : (if equalsUnsigned outcome.1
      (SPDUHdr.ofOctets header).commandLength then (0 : Int) else -1) = 0 ↔
      equalsUnsigned outcome.1 (SPDUHdr.ofOctets header).commandLength := by
    split <;> simp [*]
  exact ⟨isEmpty, fun success => onSuccess (whole.mp success),
    fun failure => onFailure fun isWhole => failure (whole.mpr isWhole)⟩

/-- A response is read into the object of the request with its number. -/
theorem operResp_triple
    (response : (SPDUHdr.ofOctets header).isResponse) :
    ExchangeTriple aim .receiver
      (fun state => HoldsNothing state ∧ (True → Seen header state))
      (operResp (SPDUHdr.ofOctets header)) fun _ => HoldsNothing := by
  have takesOut : ExchangeTriple aim .receiver
      (fun state => HoldsNothing state ∧ (True → Seen header state))
      (call (.reqStorGetAndRem (SPDUHdr.ofOctets header).sequenceNumber))
      (TakenOut aim header) :=
    .call (seen_stable True) takenOut_stable
      fun _ choice inv ⟨nothing, seen⟩ inProgress =>
        watched_reqStorGetAndRem inv nothing (seen trivial) choice inProgress
  refine takesOut.bind fun found => ?_
  match found with
  | none => exact .returns holdsNothing_stable fun _ _ nothing => nothing
  | some pointer =>
      have blankLasts (buf : Option Nat) := (@blank_lasts aim header).conj
        (allocated_lasts buf)
      have allocates : ExchangeTriple aim .receiver
          (Filling pointer (Blank aim header))
          (call (.malloc (SPDUHdr.ofOctets header).commandLength))
          fun buf => Filling pointer fun data state =>
            Blank aim header data state ∧ Allocated buf state :=
        .call (filling_stable blank_lasts)
          (fun buf => filling_stable (blankLasts buf))
          fun _ choice inv filling _ => watched_malloc inv filling _ choice
      have points (buf : Option Nat) : ExchangeTriple aim .receiver
          (Filling pointer fun data state =>
            Blank aim header data state ∧ Allocated buf state)
          (call (.setReqBuf pointer buf))
          fun _ => Filling pointer (Pointing aim header buf) :=
        update_triple (fun data => { data with buf := buf })
          (blankLasts buf) (pointing_lasts buf) (fun _ => rfl)
          (fun _ => rfl) (fun _ _ => rfl) (fun _ _ _ => id)
          fun _ _ ⟨⟨empty, silent, seen, number⟩, allocated⟩ =>
            ⟨⟨empty, silent, seen, number⟩, allocated, rfl⟩
      have pointed (buf : Option Nat) : ExchangeTriple aim .receiver
          (Filling pointer (Pointing aim header buf))
          (call (.getReqBuf pointer)) fun found state =>
            Filling pointer (Pointing aim header buf) state ∧
              found = buf := by
        refine mild_learn rfl (filling_stable (pointing_lasts buf))
          (fun _ => .const _) ?_
        intro state choice _ ⟨_, data, found, _, pointing⟩ _
        change (state.request pointer).bind SReqData.buf = buf
        rw [found]
        exact pointing.points
      have empty : Lasts fun data _ => data.dataLen = 0 :=
        fun _ _ _ _ _ _ _ same isEmpty => same.trans isEmpty
      have fills : ExchangeTriple aim .receiver
          (Filling pointer fun data state => data.dataLen = 0 ∧
            SettledWith aim
              (int32 (SPDUHdr.ofOctets header).commandLength) data state)
          (call (.setReqDataLen pointer
            (int32 (SPDUHdr.ofOctets header).commandLength)))
          fun _ => Filling pointer (Ready aim) :=
        update_triple (fun data => { data with
            dataLen := int32 (SPDUHdr.ofOctets header).commandLength })
          (empty.conj (settledWith_lasts _)) ready_lasts (fun _ => rfl)
          (fun _ => rfl) (fun _ _ => rfl)
          (fun _ _ isFilled nonzero => absurd isFilled.1 nonzero)
          fun _ _ isFilled => isFilled.2.ready
      have gives (iFnRes : Int) : ExchangeTriple aim .receiver
          (Filling pointer (Ready aim))
          (do call (.unlockReq pointer); return iFnRes)
          fun _ => HoldsNothing :=
        unlockReq_triple.bind fun _ =>
          .returns holdsNothing_stable fun _ _ nothing => nothing
      refine allocates.bind fun buf => (points buf).bind fun _ =>
        (pointed buf).bind fun found => ?_
      refine .consequence (.bind (tcpRecvInto_triple response)
        fun received => .ite (fun success => ?_) fun failure => ?_)
        (fun _ _ ⟨filling, same⟩ => same ▸ filling)
        fun _ _ _ nothing => nothing
      · refine .consequence (fills.bind fun _ =>
          (mild_call rfl (filling_stable ready_lasts)).bind fun _ => gives _)
          (fun _ _ filling => filling.imp fun _ isFilled =>
            ⟨isFilled.1, isFilled.2.onSuccess success⟩)
          fun _ _ _ nothing => nothing
      · exact (gives _).consequence
          (fun _ _ filling => filling.imp fun _ isFilled =>
            isFilled.2.onFailure failure) fun _ _ _ nothing => nothing

variable (conf : SConf) (lib : Smpp34)

/-- A request of the server is no response to any of ours. -/
theorem smppOperReq_triple
    (request : (SPDUHdr.ofOctets header).isResponse = false) :
    ExchangeTriple aim .receiver
      (fun state => HoldsNothing state ∧ (True → Seen header state))
      (smppOperReq conf lib (SPDUHdr.ofOctets header))
      fun _ => HoldsNothing := by
  have done {pre : State → Prop} (iRetVal : Int)
      (entails : ∀ state, pre state → HoldsNothing state) :
      ExchangeTriple aim .receiver pre (.ret iRetVal)
        fun _ => HoldsNothing :=
    .returns holdsNothing_stable fun state _ holds => entails state holds
  have reads : ExchangeTriple aim .receiver
      (fun state => HoldsNothing state ∧ (True → Seen header state))
      (call (.recv (SPDUHdr.ofOctets header).commandLength none))
      fun _ => HoldsNothing :=
    .call (seen_stable True) (fun _ => holdsNothing_stable)
      fun _ choice inv ⟨nothing, seen⟩ inTurn =>
        watched_recv inv nothing (seen trivial) request _ choice inTurn
  refine .ite (fun _ => done _ fun _ holds => holds.1) fun _ => .bind
    (reads.bind fun outcome => .returns holdsNothing_stable
      fun _ _ nothing => nothing) fun received =>
        .ite (fun _ => done _ fun _ => id) fun _ => ?_
  refine (mild_call rfl holdsNothing_stable).bind fun _ => .bind ?_
    fun _ => done _ fun _ => id
  exact mild_triple ((operReqSwitch_handling conf lib _ _).mono
    Op.isHandling.mild) holdsNothing_stable

theorem smppHandler_triple :
    ExchangeTriple aim .receiver HoldsNothing (smppHandler conf lib)
      fun _ => HoldsNothing := by
  refine (mild_call rfl holdsNothing_stable).bind fun _ => .bind ?_
    fun _ => (mild_call rfl holdsNothing_stable).bind fun _ =>
      .returns holdsNothing_stable fun _ _ nothing => nothing
  have handles (soHdr : Octets) : ExchangeTriple aim .receiver
      (fun state => HoldsNothing state ∧ (True → Seen soHdr state))
      (if (SPDUHdr.ofOctets soHdr).isResponse then
          operResp (SPDUHdr.ofOctets soHdr)
        else smppOperReq conf lib (SPDUHdr.ofOctets soHdr))
      fun _ => HoldsNothing :=
    .ite (fun response => operResp_triple response) fun request =>
      smppOperReq_triple conf lib (Bool.eq_false_iff.mpr request)
  refine tcpPeek_triple.bind fun peeked => .ite (fun _ => ?_)
    fun success => ?_
  · exact .returns holdsNothing_stable fun _ _ holds => holds.1
  · exact (handles peeked.2).consequence
      (fun _ _ ⟨nothing, seen⟩ => ⟨nothing, fun _ =>
        seen (not_not.mp success)⟩) fun _ _ _ nothing => nothing

/-- Between two turns of its loop the receiver holds no object. -/
theorem msgReceiver_triple :
    ExchangeTriple aim .receiver HoldsNothing (msgReceiver conf lib)
      fun _ => HoldsNothing := by
  have done (label : Label) : ExchangeTriple aim .receiver HoldsNothing
      (.ret label) fun _ => HoldsNothing :=
    .returns holdsNothing_stable fun _ _ nothing => nothing
  refine (mild_call rfl holdsNothing_stable).bind fun created =>
    .ite (fun _ => done _) fun _ => ?_
  refine (mild_call rfl holdsNothing_stable).bind fun iStop =>
    .ite (fun _ => done _) fun _ => ?_
  refine (mild_call rfl holdsNothing_stable).bind fun fd =>
    (mild_call rfl holdsNothing_stable).bind fun pollIn =>
      .ite (fun _ => ?_) fun _ => done _
  exact (smppHandler_triple conf lib).bind fun _ => done _

end Receiver

theorem environment_mild :
    environment.Uses fun operation => operation.isMild :=
  environment_uses rfl rfl rfl

end Exchange

end Sms112
