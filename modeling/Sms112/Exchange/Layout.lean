import Sms112.Handler.Answer
import Sms112.Timing.Deadline
import Sms112.Exchange.Protocol

/-!
# The structures responses are decoded into

A request is woken with the response that carries its number, whatever that
response is, and the response is decoded into the structure of the expected
one before its type is looked at. So the decoding stays inside that structure
only for the expected response and for those that are not larger.
-/

namespace Sms112

open Resumption

/-! ## Requests and the structures of their responses -/

/-- The functions that send a request and decode its response. -/
inductive RequestKind
  | bind
  | unbind
  | enquireLink
  deriving DecidableEq

namespace RequestKind

variable (conf : SConf) (lib : Smpp34)

/-- The function that sends the request. -/
def perform : RequestKind → Prog Int
  | bind => smppConnect conf lib
  | unbind => smppDisconn lib
  | enquireLink => smppEnqLink lib

/-- The structure that is packed. -/
def request (seqNum : Nat) : RequestKind → Pdu
  | bind => bindTransceiver conf seqNum
  | unbind => headerPdu UNBIND seqNum
  | enquireLink => headerPdu ENQUIRE_LINK seqNum

/-- The identifier of the expected response. -/
def respId : RequestKind → Nat
  | bind => BIND_TRANSCEIVER_RESP
  | unbind => UNBIND_RESP
  | enquireLink => ENQUIRE_LINK_RESP

/-- The response whose structure the local `res` is: `sms112_smpp_enq_link`
declares an `unbind_resp_t`. -/
def resId : RequestKind → Nat
  | bind => BIND_TRANSCEIVER_RESP
  | unbind => UNBIND_RESP
  | enquireLink => UNBIND_RESP

/-- A response is the expected one, or its structure is not larger than
`res`; `layout` gives the size of the structure that `smpp34_unpack2` fills
for an identifier. -/
def Fits (layout : Nat → Nat) (kind : RequestKind) (id : Nat) : Prop :=
  id = kind.respId ∨ layout id ≤ layout kind.resId

instance (layout : Nat → Nat) (kind : RequestKind) (id : Nat) :
    Decidable (kind.Fits layout id) :=
  inferInstanceAs (Decidable (_ ∨ _))

end RequestKind

/-- The identifier by which `smpp34_unpack2` chooses a structure; there is
none in less than a header. -/
def decodedId (buffer : Octets) : Option Nat :=
  if headerLength ≤ buffer.length then some (word buffer 4) else none

/-- What is decoded from a buffer lies inside `res`. -/
def DecodesInside (layout : Nat → Nat) (kind : RequestKind)
    (buffer : Octets) : Prop :=
  ∀ id, decodedId buffer = some id → kind.Fits layout id

/-- Whatever has been decoded from one state to another lies inside `res`. -/
def AllDecodedInside (layout : Nat → Nat) (kind : RequestKind)
    (before after : State) : Prop :=
  ∀ requestId buffer, .decoded requestId buffer ∈ newEvents before after →
    DecodesInside layout kind buffer

theorem decodesInside_iff
    (layout : Nat → Nat)
    (kind : RequestKind)
    {buffer : Octets}
    (long : headerLength ≤ buffer.length) :
    DecodesInside layout kind buffer ↔
      kind.Fits layout (word buffer 4) := by
  unfold DecodesInside decodedId
  rw [if_pos long]
  simp only [Option.some.injEq, forall_eq']

/-- The buffers that are decoded. -/
def decodedEvent : Event → Option Event
  | .decoded requestId buffer => some (.decoded requestId buffer)
  | _ => none

theorem decodedEvent_selects
    (event shown : Event)
    (selected : decodedEvent event = some shown) :
    shown = event := by
  unfold decodedEvent at selected
  split at selected <;> simp_all

/-! ## The receiver fills the object -/

/-- A complete response PDU with the number of a request. -/
structure Answers (seqNum : Nat) (response : Octets) : Prop where
  isResponse : IsResponse response
  number : word response 12 = seqNum
  isInt : response.length < 2 ^ 31

instance (seqNum : Nat) (response : Octets) :
    Decidable (Answers seqNum response) :=
  decidable_of_iff (IsResponse response ∧ word response 12 = seqNum ∧
      response.length < 2 ^ 31)
    ⟨fun ⟨isResponse, number, isInt⟩ => ⟨isResponse, number, isInt⟩,
      fun ⟨isResponse, number, isInt⟩ => ⟨isResponse, number, isInt⟩⟩

/-- The receiver sees the header, gets a buffer and receives the response
whole. -/
structure Delivers (receiver : Op → Choice) (response : Octets) : Prop where
  peek : (headerLength : Int) ≤ (receiver (.peek headerLength)).ret
  malloc : (receiver (.malloc response.length)).ret ≠ 0
  recv : ∀ into,
    (response.length : Int) ≤ (receiver (.recv response.length into)).ret

/-- The object of a request holds a response, and its mutex is locked or
not. -/
def FilledWith (reqData : ReqPtr) (response : Octets) (locked : Bool)
    (state : State) : Prop :=
  ∃ data address, state.request reqData = some data ∧
    data.buf = some address ∧ data.dataLen = response.length ∧
    data.locked = locked ∧ state.buffer address = response

variable {reqData : ReqPtr} {response : Octets} {locked : Bool}
variable {state : State}

theorem FilledWith.readReqData
    (filled : FilledWith reqData response locked state) :
    state.readReqData reqData = response := by
  obtain ⟨data, address, found, points, length, -, contents⟩ := filled
  rw [State.readReqData_eq found]
  unfold State.contents
  simp only [points, length, contents, Int.toNat_natCast, List.take_length]

/-- All that was asked for is received. -/
theorem State.recv_whole
    {serial : Nat}
    {rest : Octets}
    {into : Option (Option Nat)}
    {choice : Choice}
    (thread : Thread)
    (positive : 0 < response.length)
    (buffer : into ≠ some none)
    (open_socket : state.serial = some serial)
    (arrived : state.inbound serial = response ++ rest)
    (whole : (response.length : Int) ≤ choice.ret) :
    state.recv thread response.length into choice =
      (((response.length : Int), response),
        state.takeOctets thread serial response.length into) := by
  have count : recvCount response.length (response ++ rest) choice.ret =
      response.length := by
    have nonempty : response ++ rest ≠ [] := by
      rw [ne_eq, List.append_eq_nil_iff]
      rintro ⟨rfl, -⟩
      exact absurd positive (Nat.lt_irrefl 0)
    have asked : ¬(response.length = 0 ∨ response ++ rest = []) :=
      not_or.mpr ⟨by omega, nonempty⟩
    rw [recvCount, if_neg (by omega), if_neg asked, List.length_append]
    omega
  have usable : ¬(into = some none ∧ response.length ≠ 0) :=
    fun null => buffer null.1
  have received : (0 : Int) < response.length := by omega
  unfold State.recv
  simp only [open_socket, arrived, if_neg usable, count, if_pos received,
    Int.toNat_natCast, List.take_left]

variable (conf : SConf) (lib : Smpp34)

/-- The new block of a response and the object that points to it. -/
theorem prepared_filled
    (receiver : Op → Choice)
    {header : SPDUHdr}
    {object : SReqData}
    (allocates : (receiver (.malloc header.commandLength)).ret ≠ 0)
    (live : state.request reqData = some object) :
    let later := prepared .receiver receiver header reqData state
    later.request reqData =
        some { object with buf := some state.nextBlock } ∧
      later.buffers.lookup state.nextBlock = some (fit header.commandLength
        (receiver (.malloc header.commandLength)).data) := by
  unfold prepared
  dsimp only [exec]
  rw [State.request_updateRequest, if_neg allocates]
  have same : (State.mallocate { state with
      mapReq := state.mapReq.erase header.sequenceNumber
      held := reqData.owner :: state.held } (fit header.commandLength
        (receiver (.malloc header.commandLength)).data)).2.request reqData =
      state.request reqData := rfl
  rw [same, live]
  exact ⟨rfl, List.lookup_cons_self⟩

theorem State.request_unlockReq (pointer : ReqPtr) :
    (state.unlockReq pointer).request pointer =
      (state.request pointer).map fun data => { data with locked := false } :=
  State.request_updateRequest state pointer
    fun data => { data with locked := false }

/-- The length is filled in and the mutex is unlocked. -/
theorem finished_request
    (header : SPDUHdr)
    {data : SReqData}
    (octets : Octets)
    (live : state.request reqData = some data) :
    (finished header reqData 0 octets state).request reqData =
      some { data with
        dataLen := int32 header.commandLength
        locked := false } := by
  unfold finished
  rw [if_pos rfl]
  generalize int32 header.commandLength = dataLen
  have length : (state.updateRequest reqData
      fun data => { data with dataLen := dataLen }).request reqData =
        some { data with dataLen := dataLen } := by
    rw [State.request_updateRequest, live]
    rfl
  rw [State.request_unlockReq]
  exact congrArg (Option.map _) length

/-- A response that is received whole fills the object of the request with
its number, and wakes the request. -/
theorem operResp_fills
    {receiver : Op → Choice}
    {object : SReqData}
    {rest : Octets}
    {serial : Nat}
    (isInt : response.length < 2 ^ 31)
    (positive : 0 < response.length)
    (delivers : Delivers receiver response)
    (header : SPDUHdr)
    (whole : header.commandLength = response.length)
    (open_socket : state.serial = some serial)
    (arrived : state.inbound serial = response ++ rest)
    (registered : state.mapReq.lookup header.sequenceNumber = some reqData)
    (live : state.request reqData = some object) :
    let later := ((operResp header).eval (exec .receiver) receiver state).2
    FilledWith reqData response false later ∧
      Observes decodedEvent [] state later := by
  let ready := prepared .receiver receiver header reqData state
  have allocates : (receiver (.malloc header.commandLength)).ret ≠ 0 := by
    rw [whole]
    exact delivers.malloc
  obtain ⟨pointed, block⟩ := prepared_filled receiver allocates live
  have into : respBuf receiver header reqData state =
      some state.nextBlock := by
    unfold respBuf
    rw [live, if_pos ⟨rfl, allocates⟩]
  have unmoved := prepared_eq .receiver receiver header reqData state
  have stream : ready.inbound serial = response ++ rest := by
    rw [← available_of_serial (unmoved.1.serial.trans open_socket),
      unmoved.1.available, List.drop_zero, available_of_serial open_socket,
      arrived]
  have received : (tcpRecv header.commandLength
      (some (respBuf receiver header reqData state))).eval (exec .receiver)
        receiver ready =
      ((0, response), ready.takeOctets .receiver serial response.length
        (some (some state.nextBlock))) := by
    have buffer : some (some state.nextBlock) ≠ some none := by simp
    have outcome := State.recv_whole .receiver positive buffer
      (unmoved.1.serial.trans open_socket) stream
      (delivers.recv (some (some state.nextBlock)))
    have called : (call (.recv response.length
        (some (some state.nextBlock)))).eval (exec .receiver) receiver ready =
      _ := outcome
    rw [into, whole, tcpRecv, Program.eval_bind_of_eq _ _ called]
    dsimp only
    rw [equalsUnsigned_natCast (by omega)]
    simp only [decide_true, if_true]
    rfl
  rw [operResp_eval_known .receiver receiver registered received]
  refine ⟨⟨_, state.nextBlock, finished_request header response pointed, rfl,
    ?_, rfl, ?_⟩, [.handed header.commandId response,
      .received serial response], ?_, rfl⟩
  · dsimp only
    rw [whole, int32_of_lt isInt]
  · have contents := State.lookup_takeOctets ready .receiver serial
      response.length state.nextBlock
    rw [block, stream, List.take_left, Option.map_some,
      List.drop_eq_nil_of_le (by rw [length_fit, whole]),
      List.append_nil] at contents
    exact congrArg (Option.getD · []) contents
  · have taken : (ready.takeOctets .receiver serial response.length
        (some (some state.nextBlock))).log =
          .received serial response :: state.log := by
      rw [← unmoved.2, State.takeOctets, stream, List.take_left]
    have logged (later : State) : (finished header reqData 0 response
        later).log = .handed header.commandId response :: later.log := by
      unfold finished
      rw [if_pos rfl]
      rfl
    rw [logged, taken]
    rfl

/-- The receiver takes a response off the front of the stream and fills the
object registered for its number. -/
theorem smppHandler_fills
    {receiver : Op → Choice}
    {object : SReqData}
    {rest : Octets}
    {serial seqNum : Nat}
    (answers : Answers seqNum response)
    (delivers : Delivers receiver response)
    (open_socket : state.serial = some serial)
    (arrived : state.inbound serial = response ++ rest)
    (registered : state.mapReq.lookup seqNum = some reqData)
    (live : state.request reqData = some object) :
    let later :=
      ((smppHandler conf lib).eval (exec .receiver) receiver state).2
    FilledWith reqData response false later ∧
      Observes decodedEvent [] state later := by
  obtain ⟨⟨long, whole, isResponse⟩, rfl, isInt⟩ := answers
  let entered := state.enter .smppHandler
  have stream : entered.available = response ++ rest :=
    (available_of_serial open_socket).trans arrived
  have header : SPDUHdr.ofOctets entered.available =
      SPDUHdr.ofOctets response := by
    rw [stream, ← ofOctets_take long, List.take_left]
  have visible : HeaderVisible receiver entered := by
    refine ⟨?_, delivers.peek⟩
    rw [stream, List.length_append]
    omega
  obtain ⟨served, -, seen, -⟩ :=
    smppHandlerBody_eval .receiver receiver conf lib entered
  rw [header] at seen
  have positive : 0 < response.length := by
    have := long
    unfold headerLength at this
    omega
  have filled := @operResp_fills reqData response
    { entered with served := served } receiver object rest serial isInt
    positive delivers (SPDUHdr.ofOctets response) whole open_socket arrived
    registered live
  unfold smppHandler
  rw [within_eval, seen visible isResponse]
  exact filled

/-! ## The request while the receiver answers -/

/-- The steps of a thread that sends a request. When it begins to wait, the
receiver handles what has arrived. -/
def answered (thread : Thread) (receiver : Op → Choice) :
    Handler Res Choice State
  | .timedLockReq pointer deadline, choice, state =>
      exec thread (.timedLockReq pointer deadline) choice
        ((smppHandler conf lib).eval (exec .receiver) receiver state).2
  | operation, choice, state => exec thread operation choice state

def Op.isWait : Op → Bool
  | .timedLockReq .. => true
  | _ => false

variable (thread : Thread) (receiver oracle : Op → Choice)

/-- Before and after its wait the request is not interfered with. -/
theorem eval_answered
    {α : Type}
    {program : Prog α}
    (uses : program.Uses fun operation => operation.isWait = false)
    (state : State) :
    program.eval (answered conf lib thread receiver) oracle state =
      program.eval (exec thread) oracle state := by
  refine uses.eval_congr _ oracle ?_ state
  intro operation noWait
  cases operation <;> first | rfl | exact nomatch noWait

theorem tcpSend_unwaited (data : Octets) :
    (tcpSend data).Uses fun operation => operation.isWait = false :=
  tcpSend_uses rfl rfl

/-- All octets are accepted. -/
theorem tcpSend_whole
    {data : Octets}
    {serial : Nat}
    (open_socket : state.serial = some serial)
    (small : data.length < 2 ^ 32)
    (accepted : (data.length : Int) ≤ (oracle (.send data)).ret) :
    (tcpSend data).eval (exec thread) oracle state =
      (0, (state.useSocket thread serial).note
        (.sent thread serial data data.length)) := by
  have sent : ∃ errno, (call (.send data)).eval (exec thread) oracle state =
      (((data.length : Int), errno), (state.useSocket thread serial).note
        (.sent thread serial data data.length)) := by
    have all : min (oracle (.send data)).ret.toNat data.length =
        data.length := by
      omega
    refine ⟨(oracle (.send data)).errno, ?_⟩
    rw [Program.eval_call]
    simp only [exec, State.send, open_socket]
    rw [if_neg (by omega), all]
  obtain ⟨errno, sent⟩ := sent
  unfold tcpSend
  rw [Program.eval_bind_of_eq _ _ sent]
  dsimp only
  rw [equalsUnsigned_natCast small]
  simp only [decide_true, if_true]
  rfl

/-- The mutex of a filled object is locked when the wait ends. -/
theorem FilledWith.timedLockReq
    (filled : FilledWith reqData response false state) :
    ∃ later, state.timedLockReq reqData = (0, later) ∧
      FilledWith reqData response true later ∧ later.log = state.log := by
  obtain ⟨data, address, found, points, length, unlocked, contents⟩ := filled
  refine ⟨state.updateRequest reqData fun data => { data with locked := true },
    ?_, ⟨{ data with locked := true }, address, ?_, points, length, rfl,
      contents⟩, rfl⟩
  · unfold State.timedLockReq
    simp only [found, unlocked]
    rfl
  · rw [State.request_updateRequest, found]
    rfl

/-- A request whose number is new and that is sent whole wakes up with the
response. -/
theorem smppSend_answered
    {data : Octets}
    {object : SReqData}
    {rest : Octets}
    {serial seqNum : Nat}
    (answers : Answers seqNum response)
    (delivers : Delivers receiver response)
    (open_socket : state.serial = some serial)
    (arrived : state.inbound serial = response ++ rest)
    (free : state.mapReq.lookup seqNum = none)
    (live : state.request reqData = some object)
    (small : data.length < 2 ^ 32)
    (accepted : (data.length : Int) ≤ (oracle (.send data)).ret) :
    ∃ later, (smppSend data seqNum reqData).eval
        (answered conf lib thread receiver) oracle state = (0, later) ∧
      later.readReqData reqData = response ∧
      Observes decodedEvent [] state later := by
  let entered : State :=
    { state with sending := (thread, reqData.owner) :: state.sending }
  let added : State :=
    { entered with mapReq := (seqNum, reqData) :: entered.mapReq }
  let waiting : State := (added.useSocket thread serial).note
    (.sent thread serial data data.length)
  have addition : (call (.reqStorAdd seqNum reqData)).eval
      (answered conf lib thread receiver) oracle entered = (0, added) := by
    have new : entered.mapReq.lookup seqNum = none := free
    simp only [Program.eval_call, answered, exec, State.storAdd, reqStorAdd,
      new, if_true]
    rfl
  have sent : (tcpSend data).eval (answered conf lib thread receiver) oracle
      added = (0, waiting) := by
    rw [eval_answered conf lib thread receiver oracle (tcpSend_unwaited data)]
    exact tcpSend_whole thread oracle open_socket small accepted
  have timed (timeSpec : Timespec) : ∃ made,
      (makeTimespecTimeout timeSpec 1 0).eval
        (answered conf lib thread receiver) oracle waiting =
          (made, waiting) := by
    rw [eval_answered conf lib thread receiver oracle
      (makeTimespecTimeout_uses (by rfl) _ _ _), makeTimespecTimeout_eval]
    dsimp only
    split
    · exact ⟨_, rfl⟩
    · exact ⟨_, rfl⟩
  obtain ⟨filled, quiet⟩ := @smppHandler_fills reqData response waiting conf
    lib receiver object rest serial seqNum answers delivers open_socket
    arrived List.lookup_cons_self live
  obtain ⟨woken, locks, holds, log⟩ := filled.timedLockReq
  have wakes (deadline : Timespec) :
      (call (.timedLockReq reqData deadline)).eval
        (answered conf lib thread receiver) oracle waiting = (0, woken) := by
    rw [Program.eval_call]
    exact locks
  have length : (call (.getReqDataLen reqData)).eval
      (answered conf lib thread receiver) oracle woken =
        ((response.length : Int), woken) := by
    obtain ⟨object, -, found, -, dataLen, -⟩ := holds
    rw [Program.eval_call]
    simp only [answered, exec, found, Option.map_some, Option.getD_some,
      dataLen]
  have positive : (response.length : Int) ≠ 0 := by
    have long := answers.isResponse.1
    unfold headerLength at long
    omega
  have body : (smppSendBody data seqNum reqData).eval
      (answered conf lib thread receiver) oracle entered = (0, woken) := by
    have locals : (call .uninitialised).eval
        (answered conf lib thread receiver) oracle waiting =
          ((oracle .uninitialised).garbage, waiting) := rfl
    obtain ⟨made, made_at⟩ := timed (oracle .uninitialised).garbage.timespec
    unfold smppSendBody
    rw [Program.eval_bind_of_eq _ _ addition, if_neg (by simp),
      Program.eval_bind_of_eq _ _ sent, if_neg (by simp),
      Program.eval_bind_of_eq _ _ locals,
      Program.eval_bind_of_eq _ _ made_at,
      Program.eval_bind_of_eq _ _ (wakes made.2),
      Program.eval_bind_of_eq _ _ length, if_pos positive]
    rfl
  refine ⟨{ woken with
    sending := woken.sending.erase (thread, reqData.owner) }, ?_,
    holds.readReqData, ?_⟩
  · unfold smppSend
    rw [Program.eval_bind, Program.eval_call]
    change (smppSendBody data seqNum reqData >>= _).eval _ _ entered = _
    rw [Program.eval_bind_of_eq _ _ body]
    rfl
  · have sentOnly : Observes decodedEvent [] state waiting :=
      ⟨[.sent thread serial data data.length], rfl, rfl⟩
    exact (sentOnly.trans quiet).trans (Observes.of_log_eq log)

/-! ## What is decoded -/

/-- The operations that neither wait for a response nor note an event. -/
def Op.isAside : Op → Bool
  | .timedLockReq .. | .note _ => false
  | _ => true

theorem Op.isAside.quiet
    (operation : Op)
    (aside : operation.isAside) :
    operation.Quiet decodedEvent := by
  intro event noted
  cases event
  case decoded requestId buffer =>
    cases operation
    case note event => exact nomatch aside
    all_goals simp [Op.notes] at noted
  all_goals rfl

theorem Op.isAside.isWait
    (operation : Op)
    (aside : operation.isAside) :
    operation.isWait = false := by
  cases operation <;> first | rfl | cases aside

/-- Aside from the wait, nothing is decoded. -/
theorem eval_aside
    {α : Type}
    {program : Prog α}
    (uses : program.Uses fun operation => operation.isAside)
    (state : State) :
    Observes decodedEvent [] state
      (program.eval (answered conf lib thread receiver) oracle state).2 := by
  rw [eval_answered conf lib thread receiver oracle
    (uses.mono Op.isAside.isWait)]
  exact eval_quiet thread oracle (uses.mono Op.isAside.quiet) state

/-- The response in the object is decoded. -/
theorem readResponse_decodes
    (request : Pdu)
    (respId : Nat)
    (freesTlv : Bool)
    (reqData : ReqPtr)
    (state : State) :
    Observes decodedEvent
      [.decoded request.commandId (state.readReqData reqData)] state
      ((readResponse lib request respId freesTlv reqData).eval
        (answered conf lib thread receiver) oracle state).2 := by
  let buffer := state.readReqData reqData
  have read : (call (.readReqData reqData)).eval
      (answered conf lib thread receiver) oracle state = (buffer, state) :=
    rfl
  have noted : (call (.note (.decoded request.commandId buffer))).eval
      (answered conf lib thread receiver) oracle state =
        ((), state.note (.decoded request.commandId buffer)) := rfl
  unfold readResponse
  rw [Program.eval_bind_of_eq _ _ read, Program.eval_bind_of_eq _ _ noted]
  refine Observes.trans (Observes.note state
    (.decoded request.commandId buffer)) (eval_aside conf lib thread receiver
      oracle (.step rfl fun nodes => ?_) _)
  split
  · trivial
  · dsimp only
    split
    · refine .step rfl fun _ => ?_
      split <;> trivial
    · split <;> trivial

/-- A request that is packed and sent whole, and whose number is new, decodes
the response that carries its number. -/
theorem exchange_decodes
    {rest : Octets}
    {serial : Nat}
    (request : Pdu)
    (respId : Nat)
    (freesTlv : Bool)
    (fits : (lib.pack2 request localBufferSize).2.length < 2 ^ 32)
    (transmits : Transmits oracle lib request)
    (answers : Answers request.sequenceNumber response)
    (delivers : Delivers receiver response)
    (open_socket : state.serial = some serial)
    (arrived : state.inbound serial = response ++ rest)
    (free : state.mapReq.lookup request.sequenceNumber = none) :
    Observes decodedEvent [.decoded request.commandId response] state
      ((exchange lib request respId freesTlv).eval
        (answered conf lib thread receiver) oracle state).2 := by
  obtain ⟨packed, accepted⟩ := transmits
  obtain ⟨addr, -, created⟩ :=
    state.newReqData_cases thread (oracle .newReqData)
  let reqData : ReqPtr := ⟨addr, state.nextOwner⟩
  let object : SReqData := { owner := state.nextOwner, creator := thread }
  let ready : State := { state with
    requests := (addr, object) :: state.requests
    nextOwner := state.nextOwner + 1 }
  have creation : (call .newReqData).eval
      (answered conf lib thread receiver) oracle state = (reqData, ready) :=
    created
  obtain ⟨woken, sent, holds, quiet⟩ := @smppSend_answered reqData response
    ready conf lib thread receiver oracle _ object rest serial _ answers
    delivers open_socket arrived free List.lookup_cons_self fits accepted
  have decodes := readResponse_decodes conf lib thread receiver oracle request
    respId freesTlv reqData woken
  rw [holds] at decodes
  have silent : Observes decodedEvent [] state ready := .of_log_eq rfl
  unfold exchange
  dsimp only
  rw [if_neg (not_not.mpr packed), Program.eval_bind_of_eq _ _ creation,
    Program.eval_bind_of_eq _ _ sent, if_neg (not_not.mpr rfl),
    Program.eval_bind]
  refine ((silent.trans quiet).trans decodes).trans
    (eval_aside conf lib thread receiver oracle (.step rfl fun _ => ?_) _)
  trivial

/-- The record of a routine is not seen. -/
theorem within_decodes
    {α : Type}
    {seen : List Event}
    {body : Prog α}
    (routine : Routine)
    (decodes : Observes decodedEvent seen (state.enter routine)
      (body.eval (answered conf lib thread receiver) oracle
        (state.enter routine)).2) :
    Observes decodedEvent seen state
      ((within routine body).eval (answered conf lib thread receiver) oracle
        state).2 := by
  have recorded (operation : Op) (aside : operation.isAside)
      (state : State) :
      Observes decodedEvent [] state ((call operation).eval
        (answered conf lib thread receiver) oracle state).2 :=
    eval_aside conf lib thread receiver oracle
      ((Program.uses_call operation).mpr aside) state
  have entered : Observes decodedEvent [] state (state.enter routine) :=
    recorded (.enter routine) rfl state
  have left := recorded (.leave routine) rfl
    (body.eval (answered conf lib thread receiver) oracle
      (state.enter routine)).2
  unfold within
  simp only [Program.eval_bind]
  have whole := (entered.trans decodes).trans left
  rwa [List.append_nil] at whole

/-- The next number of a request. -/
def State.nextSecNum (state : State) : Nat :=
  (state.uiSecNum + 1) % 2 ^ 32

/-- A request is packed and sent whole under a new number, and a response that
carries the number arrives and is received. -/
structure IsAnswered (kind : RequestKind) (response : Octets)
    (state : State) : Prop where
  transmits : Transmits oracle lib (kind.request conf state.nextSecNum)
  free : state.mapReq.lookup state.nextSecNum = none
  arrived : response <+: state.available
  answers : Answers state.nextSecNum response
  delivers : Delivers receiver response

variable {conf lib oracle receiver}

/-- Each of the three functions decodes the response with its number. -/
theorem perform_decodes
    (faithful : lib.Faithful)
    {kind : RequestKind}
    (answered_by : IsAnswered conf lib receiver oracle kind response state) :
    Observes decodedEvent
      [.decoded (kind.request conf state.nextSecNum).commandId response] state
      ((kind.perform conf lib).eval (answered conf lib thread receiver) oracle
        state).2 := by
  obtain ⟨transmits, free, ⟨rest, arrived⟩, answers, delivers⟩ := answered_by
  obtain ⟨serial, open_socket⟩ : ∃ serial, state.serial = some serial := by
    cases closed : state.serial with
    | some serial => exact ⟨serial, rfl⟩
    | none =>
        have long := answers.isResponse.1
        have length := congrArg List.length arrived
        simp only [State.available, closed, List.length_append,
          List.length_nil, headerLength] at long length
        omega
  have stream : state.inbound serial = response ++ rest := by
    rw [arrived, available_of_serial open_socket]
  have small (request : Pdu) (packs : Transmits oracle lib request) :
      (lib.pack2 request localBufferSize).2.length < 2 ^ 32 :=
    lt_of_le_of_lt (faithful.pack_length request localBufferSize packs.1).2
      (by decide)
  cases kind with
  | bind =>
      refine within_decodes conf lib thread receiver oracle .smppConnect ?_
      let numbered : State :=
        { state.enter .smppConnect with uiSecNum := state.nextSecNum }
      have number : (call .incSecNum).eval
          (answered conf lib thread receiver) oracle
          (state.enter .smppConnect) = (state.nextSecNum, numbered) := rfl
      have decodes := @exchange_decodes response numbered conf lib thread
        receiver oracle rest serial (bindTransceiver conf state.nextSecNum)
        BIND_TRANSCEIVER_RESP true (small _ transmits) transmits answers
        delivers open_socket stream free
      rw [Program.eval_bind_of_eq _ _ number, Program.eval_bind]
      refine decodes.trans (eval_aside conf lib thread receiver oracle ?_ _)
      dsimp only
      split
      · exact .step rfl fun _ => trivial
      · trivial
  | unbind =>
      refine within_decodes conf lib thread receiver oracle .smppDisconn ?_
      exact @exchange_decodes response
        { state.enter .smppDisconn with
          smppIsConnected := false
          uiSecNum := state.nextSecNum }
        conf lib thread receiver oracle rest serial
        (headerPdu UNBIND state.nextSecNum) UNBIND_RESP false
        (small _ transmits) transmits answers delivers open_socket stream free
  | enquireLink =>
      exact @exchange_decodes response
        { state with uiSecNum := state.nextSecNum }
        conf lib thread receiver oracle rest serial
        (headerPdu ENQUIRE_LINK state.nextSecNum) ENQUIRE_LINK_RESP false
        (small _ transmits) transmits answers delivers open_socket stream free

/-- The decoding of a response stays inside the structure of its request
exactly when it is the expected response or its structure is not larger. -/
theorem perform_decodesInside_iff
    (faithful : lib.Faithful)
    (layout : Nat → Nat)
    {kind : RequestKind}
    (answered_by : IsAnswered conf lib receiver oracle kind response state) :
    AllDecodedInside layout kind state
        ((kind.perform conf lib).eval (answered conf lib thread receiver)
          oracle state).2 ↔
      kind.Fits layout (word response 4) := by
  have decodes := perform_decodes thread faithful answered_by
  rw [← decodesInside_iff layout kind answered_by.answers.isResponse.1]
  constructor
  · intro inside
    refine inside (kind.request conf state.nextSecNum).commandId response ?_
    exact (decodes.mem_newEvents_iff decodedEvent_selects rfl).mpr
      List.mem_cons_self
  · intro inside requestId buffer member
    have only := (decodes.mem_newEvents_iff decodedEvent_selects rfl).mp member
    rw [List.mem_singleton, Event.decoded.injEq] at only
    rw [only.2]
    exact inside

/-- The structures of `libsmpp34`: that of a response to a binding has a
string and a pointer beside the header. -/
def structSize (id : Nat) : Nat :=
  if id = BIND_TRANSCEIVER_RESP then 40 else headerLength

/-- A response of the given type to the first request; it has no body. -/
def firstResponse (commandId : Nat) : Octets :=
  ReferenceCodec.packed (headerPdu commandId 1)

theorem length_firstResponse (commandId : Nat) :
    (firstResponse commandId).length = headerLength := by
  simp [firstResponse, ReferenceCodec.packed, ReferenceCodec.packBody,
    headerPdu, headerLength]

/-- A request on an open connection, on which its response has arrived. -/
theorem firstResponse_answers
    {kind : RequestKind}
    {commandId : Nat}
    (answers : Answers 1 (firstResponse commandId))
    (accepted : Transmits allSucceeds referenceCodec (kind.request {} 1)) :
    IsAnswered {} referenceCodec allSucceeds allSucceeds kind
      (firstResponse commandId)
      (arrivedState (firstResponse commandId)) where
  transmits := accepted
  free := rfl
  arrived := ⟨[], List.append_nil _⟩
  answers := answers
  delivers := by
    have all : (65536 : Int) ≠ 0 := by decide
    have enough : ((headerLength : Nat) : Int) ≤ 65536 := by decide
    refine ⟨enough, all, fun into => ?_⟩
    rw [length_firstResponse]
    exact enough

theorem unbind_decodesInside :
    AllDecodedInside structSize .unbind
      (arrivedState (firstResponse UNBIND_RESP))
      ((RequestKind.unbind.perform {} referenceCodec).eval
        (answered {} referenceCodec (.requester 0) allSucceeds) allSucceeds
        (arrivedState (firstResponse UNBIND_RESP))).2 :=
  (perform_decodesInside_iff (.requester 0) referenceCodec_faithful structSize
    (firstResponse_answers (by decide +kernel) (by decide +kernel))).mpr
      (.inl (by decide +kernel))

/-- A link check that is answered with a response to a binding decodes it into
a structure that is too small. -/
theorem enquireLink_decodesOutside :
    let state := arrivedState (firstResponse BIND_TRANSCEIVER_RESP)
    IsAnswered {} referenceCodec allSucceeds allSucceeds .enquireLink
        (firstResponse BIND_TRANSCEIVER_RESP) state ∧
      ¬AllDecodedInside structSize .enquireLink state
        ((RequestKind.enquireLink.perform {} referenceCodec).eval
          (answered {} referenceCodec (.requester 0) allSucceeds) allSucceeds
          state).2 := by
  refine ⟨firstResponse_answers (by decide +kernel) (by decide +kernel),
    fun inside => ?_⟩
  have decoded := inside ENQUIRE_LINK (firstResponse BIND_TRANSCEIVER_RESP)
    (by decide +kernel)
  rw [decodesInside_iff structSize .enquireLink (by decide +kernel)]
    at decoded
  exact absurd decoded (by decide +kernel)

end Sms112
