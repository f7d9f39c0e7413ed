import Sms112.Handler.Calls

/-!
# What one call of the handler takes off the stream

Whether the handler reaches its `recv`, and with which buffer, is decided by
the header, by the store and by the allocation. The call takes the octets that
this `recv` returns and no others, and it hands a PDU on exactly when `recv`
returns all of it.
-/

namespace Sms112

open Resumption

namespace State

variable (state : State)

theorem request_updateRequest (pointer : ReqPtr)
    (change : SReqData → SReqData) :
    (state.updateRequest pointer change).request pointer =
      (state.request pointer).map change := by
  unfold request
  rw [lookup_updateRequest, if_pos rfl]

end State

theorem SPDUHdr.commandLength_lt (buffer : Octets) :
    (SPDUHdr.ofOctets buffer).commandLength < 2 ^ 32 :=
  word_lt buffer 0

variable (thread : Thread) (oracle : Op → Choice)

instance (state : State) : Decidable (HeaderVisible oracle state) := by
  unfold HeaderVisible
  infer_instance

/-- The pointer `recv` gets for a response: the new block, unless there is
none or the waiting request is gone. -/
def respBuf (header : SPDUHdr) (pointer : ReqPtr) (state : State) :
    Option Nat :=
  if (state.request pointer).isSome ∧
      (oracle (.malloc header.commandLength)).ret ≠ 0 then
    some state.nextBlock
  else none

/-- The buffer argument of the `recv` for a response, if it is reached. -/
def respInto (header : SPDUHdr) (state : State) :
    Option (Option (Option Nat)) :=
  (state.mapReq.lookup header.sequenceNumber).map fun pointer =>
    some (respBuf oracle header pointer state)

/-- The buffer argument of the `recv` for a request, if it is reached. -/
def reqInto (header : SPDUHdr) : Option (Option (Option Nat)) :=
  if header.commandLength ≤ localBufferSize then some none else none

/-- The buffer argument of the `recv` the handler reaches, if it does. -/
def recvInto (state : State) : Option (Option (Option Nat)) :=
  let header := SPDUHdr.ofOctets state.available
  if HeaderVisible oracle state then
    if header.isResponse then respInto oracle header state
    else reqInto header
  else none

/-- What `recv` takes with a buffer argument, if it is reached. -/
def takenInto (size : Nat) (into : Option (Option (Option Nat)))
    (state : State) : Nat :=
  match into with
  | some into => recvTaken oracle size into state
  | none => 0

theorem takenInto_le
    (size : Nat)
    (into : Option (Option (Option Nat)))
    (state : State) :
    takenInto oracle size into state ≤ size ∧
      takenInto oracle size into state ≤ state.available.length := by
  unfold takenInto
  split
  · exact recvTaken_le oracle size _ state
  · exact ⟨Nat.zero_le _, Nat.zero_le _⟩

/-- The number of octets the handler takes off the stream. -/
def taken (state : State) : Nat :=
  takenInto oracle (SPDUHdr.ofOctets state.available).commandLength
    (recvInto oracle state) state

/-! ## Responses -/

/-- `operResp` up to its `recv`. -/
def prepared (header : SPDUHdr) (pointer : ReqPtr) (state : State) : State :=
  let removed : State :=
    { state with
      mapReq := state.mapReq.erase header.sequenceNumber
      held := pointer.owner :: state.held }
  let allocated := exec thread (.malloc header.commandLength)
    (oracle (.malloc header.commandLength)) removed
  allocated.2.updateRequest pointer
    fun data => { data with buf := allocated.1 }

/-- A number that is not registered leaves everything as it was. -/
theorem operResp_eval_unknown
    {header : SPDUHdr}
    {state : State}
    (unknown : state.mapReq.lookup header.sequenceNumber = none) :
    (operResp header).eval (exec thread) oracle state = (-1, state) := by
  have found : (call (.reqStorGetAndRem header.sequenceNumber)).eval
      (exec thread) oracle state = (none, state) := by
    simp only [Program.eval_call, exec, State.storGetAndRem,
      reqStorGetAndRem, unknown]
  unfold operResp
  rw [Program.eval_bind_of_eq _ _ found]
  rfl

theorem prepared_eq (header : SPDUHdr) (pointer : ReqPtr) (state : State) :
    Received 0 state (prepared thread oracle header pointer state) ∧
      (prepared thread oracle header pointer state).log = state.log := by
  unfold prepared
  dsimp only [exec]
  split <;> exact ⟨⟨rfl, rfl, rfl, rfl⟩, rfl⟩

theorem prepared_buf (header : SPDUHdr) (pointer : ReqPtr) (state : State) :
    ((prepared thread oracle header pointer state).request pointer).bind
        SReqData.buf =
      respBuf oracle header pointer state := by
  unfold prepared respBuf
  dsimp only [exec]
  rw [State.request_updateRequest]
  by_cases refused : (oracle (.malloc header.commandLength)).ret = 0
  · simp only [refused, if_true, ne_eq, not_true_eq_false, and_false,
      if_false]
    cases State.request _ pointer <;> rfl
  · simp only [refused, if_false, ne_eq, not_false_eq_true, and_true]
    have same : ((State.mallocate { state with
        mapReq := state.mapReq.erase header.sequenceNumber
        held := pointer.owner :: state.held }
          (fit header.commandLength
            (oracle (.malloc header.commandLength)).data)).2.request
              pointer) = state.request pointer := rfl
    rw [same]
    cases state.request pointer <;> rfl

/-- The PDUs passed on whole. -/
def handedPdu : Event → Option Octets
  | .handed _ pdu => some pdu
  | _ => none

/-- A PDU was passed on exactly when all of it was taken. -/
structure HandsOn (size count : Nat) (before after : State) : Prop where
  whole : count = size →
    Observes handedPdu [before.available.take size] before after
  part : count ≠ size → Observes handedPdu [] before after

/-- What `operResp` does with the outcome of its `recv`. -/
def finished (header : SPDUHdr) (pointer : ReqPtr) (code : Int)
    (data : Octets) (later : State) : State :=
  if code = 0 then
    ((later.updateRequest pointer fun data =>
      { data with dataLen := int32 header.commandLength }).note
        (.handed header.commandId data)).unlockReq pointer
  else later.unlockReq pointer

/-- The course of `operResp` for a registered number. -/
theorem operResp_eval_known
    {header : SPDUHdr}
    {pointer : ReqPtr}
    {state later : State}
    {code : Int}
    {data : Octets}
    (known : state.mapReq.lookup header.sequenceNumber = some pointer)
    (received : (tcpRecv header.commandLength
        (some (respBuf oracle header pointer state))).eval (exec thread)
          oracle (prepared thread oracle header pointer state) =
      ((code, data), later)) :
    (operResp header).eval (exec thread) oracle state =
      (code, finished header pointer code data later) := by
  have found : (call (.reqStorGetAndRem header.sequenceNumber)).eval
      (exec thread) oracle state = (some pointer,
        { state with
          mapReq := state.mapReq.erase header.sequenceNumber
          held := pointer.owner :: state.held }) := by
    simp only [Program.eval_call, exec, State.storGetAndRem,
      reqStorGetAndRem, known]
  have buffer : (call (.getReqBuf pointer)).eval (exec thread) oracle
      (prepared thread oracle header pointer state) =
        (respBuf oracle header pointer state,
          prepared thread oracle header pointer state) :=
    Prod.ext (prepared_buf thread oracle header pointer state) rfl
  have ready : (call (.setReqBuf pointer (exec thread
        (.malloc header.commandLength) (oracle (.malloc header.commandLength))
        { state with
          mapReq := state.mapReq.erase header.sequenceNumber
          held := pointer.owner :: state.held }).1)).eval (exec thread)
      oracle (exec thread (.malloc header.commandLength)
        (oracle (.malloc header.commandLength))
        { state with
          mapReq := state.mapReq.erase header.sequenceNumber
          held := pointer.owner :: state.held }).2 =
      ((), prepared thread oracle header pointer state) := rfl
  unfold operResp
  rw [Program.eval_bind_of_eq _ _ found]
  dsimp only
  rw [Program.eval_bind, Program.eval_call, Program.eval_bind_of_eq _ _ ready,
    Program.eval_bind_of_eq _ _ buffer, Program.eval_bind_of_eq _ _ received]
  unfold finished
  dsimp only
  by_cases succeeded : code = 0
  · simp only [succeeded, if_true]
    rfl
  · simp only [succeeded, if_false]
    rfl

/-- A response is taken off the stream as far as `recv` goes, and it is handed
to its waiter if that is all of it. -/
theorem operResp_eval
    {header : SPDUHdr}
    (small : header.commandLength < 2 ^ 32)
    (state : State) :
    let count := takenInto oracle header.commandLength
      (respInto oracle header state) state
    ∃ code later,
      (operResp header).eval (exec thread) oracle state = (code, later) ∧
      Received count state later ∧
      (0 < header.commandLength → header.commandLength < 2 ^ 32 - 1 →
        HandsOn header.commandLength count state later) := by
  unfold takenInto respInto
  cases found : state.mapReq.lookup header.sequenceNumber with
  | none =>
      refine ⟨-1, state, operResp_eval_unknown thread oracle found,
        Received.refl state, ?_⟩
      intro positive _
      refine ⟨fun whole => ?_, fun _ => Observes.refl state⟩
      have empty : 0 = header.commandLength := whole
      omega
  | some pointer =>
      obtain ⟨unmoved, log⟩ :=
        prepared_eq thread oracle header pointer state
      have stream : (prepared thread oracle header pointer
          state).available = state.available := unmoved.available
      simp only [Option.map_some]
      obtain ⟨code, received, evaluated, takes, success⟩ :=
        tcpRecv_eval thread oracle small
          (some (respBuf oracle header pointer state))
          (prepared thread oracle header pointer state)
      have course := operResp_eval_known thread oracle found evaluated
      have quiet := eval_quiet thread oracle (tcpRecv_quiet handedPdu
        (fun _ _ => rfl) header.commandLength
          (some (respBuf oracle header pointer state)))
        (prepared thread oracle header pointer state)
      rw [evaluated] at quiet
      rw [recvTaken_congr oracle stream] at takes success course
      rw [stream] at course
      refine ⟨code, _, course, ?_, ?_⟩
      · have moved := unmoved.trans takes
        rw [Nat.zero_add] at moved
        unfold finished
        split <;> exact ⟨moved.available, moved.iSock, moved.sockets,
          moved.tcpIsConnected⟩
      · intro positive bounded
        have before : Observes handedPdu [] state received := by
          simpa using (Observes.of_log_eq log).trans quiet
        have success := success positive bounded
        refine ⟨fun whole => ?_, fun part => ?_⟩
        · have noted : Observes handedPdu _ received _ := Observes.note
            (received.updateRequest pointer fun data =>
              { data with dataLen := int32 header.commandLength })
            (.handed header.commandId
              (state.available.take header.commandLength))
          rw [finished, if_pos (success.mpr whole), whole]
          exact before.trans noted
        · rw [finished, if_neg (fun code => part (success.mp code))]
          exact before

/-! ## Requests -/

variable (conf : SConf) (lib : Smpp34)

/-- A request is refused if its `recv` fails. Else what was received is passed
on, and the result is success whatever comes of it. -/
theorem smppOperReq_eval (header : SPDUHdr) (state : State) :
    let count := takenInto oracle header.commandLength (reqInto header) state
    let pdu := state.available.take count
    ∃ code later, Received count state later ∧
      Observes handedPdu [] state later ∧
      Observes sentEvent [] state later ∧
      (0 < header.commandLength →
        (code = 0 ↔ count = header.commandLength)) ∧
      (code ≠ (0 : Int) →
        (smppOperReq conf lib header).eval (exec thread) oracle state =
          (EINVAL, later)) ∧
      (code = 0 →
        (smppOperReq conf lib header).eval (exec thread) oracle state =
          (0, ((operReqSwitch conf lib header pdu).eval (exec thread) oracle
            (later.note (.handed header.commandId pdu))).2)) := by
  unfold takenInto reqInto
  by_cases fits : header.commandLength ≤ localBufferSize
  · rw [if_pos fits]
    have bounded : header.commandLength < 2 ^ 32 - 1 := by
      unfold localBufferSize at fits
      omega
    have small : header.commandLength < 2 ^ 32 := by omega
    obtain ⟨code, later, evaluated, takes, success⟩ :=
      tcpRecv_eval thread oracle small none state
    have handed := eval_quiet thread oracle (tcpRecv_quiet handedPdu
      (fun _ _ => rfl) header.commandLength none) state
    have sent := eval_quiet thread oracle (tcpRecv_quiet sentEvent
      (fun _ _ => rfl) header.commandLength none) state
    rw [evaluated] at handed sent
    refine ⟨code, later, takes, handed, sent,
      fun positive => success positive bounded, fun failed => ?_,
      fun succeeded => ?_⟩
    · unfold smppOperReq
      rw [if_neg (by omega), Program.eval_bind_of_eq _ _ evaluated]
      dsimp only
      rw [if_pos failed]
      rfl
    · unfold smppOperReq
      rw [if_neg (by omega), Program.eval_bind_of_eq _ _ evaluated]
      dsimp only
      rw [if_neg (by simp [succeeded]), Program.eval_bind,
        Program.eval_bind]
      rfl
  · rw [if_neg fits]
    refine ⟨EINVAL, state, Received.refl state, Observes.refl state,
      Observes.refl state, fun positive => ?_, fun _ => ?_,
      fun succeeded => absurd succeeded (by decide)⟩
    · simp [EINVAL]
      omega
    · unfold smppOperReq
      rw [if_pos (by omega)]
      rfl

/-- Nothing shorter than a header is answered. -/
theorem operReqSwitch_short
    {lib : Smpp34}
    (faithful : lib.Faithful)
    (header : SPDUHdr)
    {pdu : Octets}
    (short : pdu.length < headerLength)
    (state : State) :
    ((operReqSwitch conf lib header pdu).eval (exec thread) oracle
      state).2.tcpIsConnected = state.tcpIsConnected := by
  have refused (length : Nat) : (lib.unpack2 (pdu.take length)).1 ≠ 0 := by
    intro accepted
    have long := faithful.unpack_length _ accepted
    rw [List.length_take] at long
    omega
  unfold operReqSwitch
  split
  · unfold smppDeliverSmOper
    simp only [Program.eval_bind, Program.eval_call, exec, ne_eq, refused,
      not_false_eq_true, if_true]
    rfl
  · split
    · unfold smppUnbindOper
      rw [within_eval]
      simp only [Program.eval_bind, Program.eval_call, exec, ne_eq, refused,
        not_false_eq_true, if_true]
      rfl
    · rfl

/-! ## The handler -/

/-- The handler leaves a header it does not see, and goes on with the PDU of
one it sees. -/
theorem smppHandlerBody_eval (state : State) :
    let header := SPDUHdr.ofOctets state.available
    ∃ served,
      (¬HeaderVisible oracle state →
        (smppHandlerBody conf lib).eval (exec thread) oracle state =
          (-1, { state with served := served })) ∧
      (HeaderVisible oracle state → header.isResponse →
        (smppHandlerBody conf lib).eval (exec thread) oracle state =
          (operResp header).eval (exec thread) oracle
            { state with served := served }) ∧
      (HeaderVisible oracle state → ¬header.isResponse →
        (smppHandlerBody conf lib).eval (exec thread) oracle state =
          (smppOperReq conf lib header).eval (exec thread) oracle
            { state with served := served }) := by
  by_cases visible : HeaderVisible oracle state
  · obtain ⟨serial, open_socket, peeked⟩ :=
      tcpPeek_of_visible thread oracle visible
    have course : (smppHandlerBody conf lib).eval (exec thread) oracle
        state =
      (if (SPDUHdr.ofOctets state.available).isResponse then
        operResp (SPDUHdr.ofOctets state.available)
        else smppOperReq conf lib (SPDUHdr.ofOctets state.available)).eval
          (exec thread) oracle (state.useSocket thread serial) := by
      unfold smppHandlerBody
      rw [Program.eval_bind_of_eq _ _ peeked]
      dsimp only
      rw [if_neg (by simp), ofOctets_take (Nat.le_refl _),
        available_of_serial open_socket]
    refine ⟨(state.useSocket thread serial).served,
      fun hidden => absurd visible hidden, fun _ response => ?_,
      fun _ request => ?_⟩
    · rw [course, if_pos response]
      rfl
    · rw [course, if_neg request]
      rfl
  · obtain ⟨code, data, served, failed, peeked⟩ :=
      tcpPeek_of_not_visible thread oracle visible
    refine ⟨served, fun _ => ?_, fun seen => absurd seen visible,
      fun seen => absurd seen visible⟩
    unfold smppHandlerBody
    rw [Program.eval_bind_of_eq _ _ peeked]
    dsimp only
    rw [if_pos failed]
    rfl

theorem taken_of_visible
    {state : State}
    (visible : HeaderVisible oracle state) :
    let header := SPDUHdr.ofOctets state.available
    taken oracle state = takenInto oracle header.commandLength
      (if header.isResponse then respInto oracle header state
        else reqInto header) state := by
  unfold taken recvInto
  simp only [visible, if_true]

theorem taken_of_not_visible
    {state : State}
    (hidden : ¬HeaderVisible oracle state) :
    taken oracle state = 0 := by
  unfold taken recvInto
  simp only [hidden, if_false, takenInto]

theorem Undisturbed.stream
    {before after : State}
    (undisturbed : Undisturbed before after) :
    after.available = before.available ∧ after.serial = before.serial := by
  unfold State.available State.serial
  rw [undisturbed.inbound, undisturbed.sockets, undisturbed.iSock]
  exact ⟨rfl, rfl⟩

/-- What a call of the handler does to the stream. It takes `taken` octets off
the front of it, on the same connection, which it gives up only after a whole
header; and it hands the PDU there on exactly when it takes all of it. -/
structure Consumes (lib : Smpp34) (before after : State) : Prop where
  available : after.available = before.available.drop (taken oracle before)
  serial : after.serial = before.serial
  connected : lib.Faithful → after.tcpIsConnected = before.tcpIsConnected ∨
    headerLength ≤ taken oracle before
  unseen : ¬HeaderVisible oracle before → Observes handedPdu [] before after
  hands : 0 < (SPDUHdr.ofOctets before.available).commandLength →
    (SPDUHdr.ofOctets before.available).commandLength < 2 ^ 32 - 1 →
      HandsOn (SPDUHdr.ofOctets before.available).commandLength
        (taken oracle before) before after

/-- A response is taken off the stream by `operResp`. -/
theorem operResp_consumes
    {state : State}
    {served : List (List Nat)}
    (visible : HeaderVisible oracle state)
    (response : (SPDUHdr.ofOctets state.available).isResponse) :
    Consumes oracle lib state
      ((operResp (SPDUHdr.ofOctets state.available)).eval (exec thread)
        oracle { state with served := served }).2 := by
  obtain ⟨code, later, evaluated, received, hands⟩ := operResp_eval thread
    oracle (SPDUHdr.commandLength_lt state.available)
      { state with served := served }
  have count := taken_of_visible oracle visible
  simp only [response, if_true] at count
  rw [evaluated]
  exact ⟨count ▸ received.available, received.serial,
    fun _ => .inl received.tcpIsConnected,
    fun hidden => absurd visible hidden, fun positive bounded => by
      rw [count]
      exact ⟨(hands positive bounded).whole, (hands positive bounded).part⟩⟩

theorem operReqSwitch_handedPdu (header : SPDUHdr) (buf : Octets) :
    (operReqSwitch conf lib header buf).Uses (Op.Quiet handedPdu) :=
  (operReqSwitch_handling conf lib header buf).mono
    (Op.isHandling.quiet handedPdu
      (Op.isDelivery.quiet handedPdu rfl (fun _ _ _ _ => rfl)
        (fun _ _ _ _ => rfl) (fun _ _ _ _ => rfl))
      (Op.isTransmission.quiet handedPdu fun _ _ _ _ => rfl)
      (fun _ => rfl))

/-- A request is taken off the stream by `smppOperReq`. -/
theorem smppOperReq_consumes
    {state : State}
    {served : List (List Nat)}
    (visible : HeaderVisible oracle state)
    (request : ¬(SPDUHdr.ofOctets state.available).isResponse) :
    Consumes oracle lib state
      ((smppOperReq conf lib (SPDUHdr.ofOctets state.available)).eval
        (exec thread) oracle { state with served := served }).2 := by
  let header := SPDUHdr.ofOctets state.available
  obtain ⟨code, later, received, silent, -, success, refused, passed⟩ :=
    smppOperReq_eval thread oracle conf lib header
      { state with served := served }
  have count : taken oracle state = takenInto oracle header.commandLength
      (reqInto header) { state with served := served } := by
    have reached := taken_of_visible oracle visible
    simp only [request] at reached
    exact reached
  rw [← count] at received success passed
  by_cases succeeded : code = 0
  · let pdu := state.available.take (taken oracle state)
    rw [passed succeeded]
    have undisturbed := eval_undisturbed thread oracle
      (operReqSwitch_handling conf lib header pdu)
      (later.note (.handed header.commandId pdu))
    have quiet := eval_quiet thread oracle
      (operReqSwitch_handedPdu conf lib header pdu)
      (later.note (.handed header.commandId pdu))
    have noted : Observes handedPdu [pdu] later
        (later.note (.handed header.commandId pdu)) :=
      Observes.note later _
    refine ⟨undisturbed.stream.1.trans received.available,
      undisturbed.stream.2.trans received.serial, fun faithful => ?_,
      fun hidden => absurd visible hidden, fun positive _ =>
        ⟨fun whole => ?_, fun part => ?_⟩⟩
    · by_cases whole : headerLength ≤ taken oracle state
      · exact .inr whole
      · have short : pdu.length < headerLength := by
          rw [List.length_take]
          omega
        have kept := operReqSwitch_short thread oracle conf faithful
          header short (later.note (.handed header.commandId pdu))
        exact .inl (kept.trans received.tcpIsConnected)
    · have handed := (silent.trans noted).trans quiet
      rw [List.append_nil, List.nil_append] at handed
      rw [← whole]
      exact handed
    · exact absurd ((success positive).mp succeeded) part
  · rw [refused succeeded]
    exact ⟨received.available, received.serial,
      fun _ => .inl received.tcpIsConnected,
      fun hidden => absurd visible hidden, fun positive _ =>
        ⟨fun whole => absurd ((success positive).mpr whole) succeeded,
          fun _ => silent⟩⟩

theorem smppHandlerBody_consumes (state : State) :
    Consumes oracle lib state
      ((smppHandlerBody conf lib).eval (exec thread) oracle state).2 := by
  obtain ⟨served, unseen, seenResponse, seenRequest⟩ :=
    smppHandlerBody_eval thread oracle conf lib state
  by_cases visible : HeaderVisible oracle state
  · by_cases response : (SPDUHdr.ofOctets state.available).isResponse
    · rw [seenResponse visible response]
      exact operResp_consumes thread oracle lib visible response
    · rw [seenRequest visible response]
      exact smppOperReq_consumes thread oracle conf lib visible response
  · have nothing := taken_of_not_visible oracle visible
    rw [unseen visible]
    refine ⟨by rw [nothing]; rfl, rfl, fun _ => .inl rfl,
      fun _ => Observes.refl state, fun positive _ =>
        ⟨fun whole => ?_, fun _ => Observes.refl state⟩⟩
    omega

theorem smppHandler_consumes (state : State) :
    Consumes oracle lib state
      ((smppHandler conf lib).eval (exec thread) oracle state).2 := by
  have body := smppHandlerBody_consumes thread oracle conf lib
    (state.enter .smppHandler)
  unfold smppHandler
  rw [within_eval]
  exact ⟨body.available, body.serial, body.connected, body.unseen,
    fun positive bounded =>
      ⟨(body.hands positive bounded).whole,
        (body.hands positive bounded).part⟩⟩

end Sms112
