import Sms112.Model.Threads

/-!
# A client of the requests

The functions that send requests are called by one thread at a time. A client
calls them one after the other, in any order, with whatever comes in between;
beside it run the receiver thread and the environment. The log notes what the
client does and the header the receiver sees of the next PDU. The notes are
ghost: they change nothing else.
-/

namespace Sms112

open Resumption

variable (conf : SConf) (lib : Smpp34)

/-! ## Notes -/

/-- The steps of a thread. A registration, the end of a wait and the octets
seen of the next PDU are noted. -/
def watched (thread : Thread) : Handler Res Choice State
  | .reqStorAdd seqNum pointer, choice, state =>
      let outcome := exec thread (.reqStorAdd seqNum pointer) choice state
      (outcome.1,
        if outcome.1 = 0 then outcome.2.note (.registered seqNum)
        else outcome.2)
  | .timedLockReq pointer deadline, choice, state =>
      let outcome := exec thread (.timedLockReq pointer deadline) choice state
      (outcome.1, outcome.2.note .waited)
  | .peek size, choice, state =>
      let outcome := exec thread (.peek size) choice state
      (outcome.1,
        match state.serial, outcome.1.2 with
        | some serial, octet :: octets =>
            outcome.2.note (.peeked serial (octet :: octets))
        | _, _ => outcome.2)
  | operation, choice, state => exec thread operation choice state

/-- A call that sends a request of the given type, noted when it begins and
when it returns. -/
def noted (requestId : Nat) (function : Prog Int) : Prog Int := do
  call (.note .called)
  let result ← function
  call (.note (.returned requestId result))
  return result

/-! ## The client -/

/-- What a client can call. `p_iDataLen` of `sms112_smpp_send` is an `int`. -/
inductive Request
  | tcpConnect
  | tcpDisconn
  | smppConnect
  | smppDisconn
  | smppEnqLink
  | smppSend (data : Octets) (seqNum : Nat) (isInt : data.length < 2 ^ 31)

/-- Where a thread continues: the client with its next call, or behind a call
of `sms112_smpp_send` with the arguments and the result; the other threads at
their labels. -/
inductive ClientLabel
  | next (requests : List Request)
  | returned (data : Octets) (reqData : ReqPtr) (result : Int)
      (requests : List Request)
  | thread (label : Label)

/-- One call of the client. -/
def Request.perform (requests : List Request) : Request → Prog ClientLabel
  | .tcpConnect => do
      let _ ← Sms112.tcpConnect
      return .next requests
  | .tcpDisconn => do
      Sms112.tcpDisconn
      return .next requests
  | .smppConnect => do
      let _ ← noted BIND_TRANSCEIVER (Sms112.smppConnect conf lib)
      return .next requests
  | .smppDisconn => do
      let _ ← noted UNBIND (Sms112.smppDisconn lib)
      return .next requests
  | .smppEnqLink => do
      let _ ← noted ENQUIRE_LINK (Sms112.smppEnqLink lib)
      return .next requests
  | .smppSend data seqNum _ => do
      call (.note .called)
      let reqData ← call .newReqData
      let result ← Sms112.smppSend data seqNum reqData
      return .returned data reqData result requests

/-- What every thread does at a label. -/
def clientCode : Thread → ClientLabel → Prog ClientLabel
  | .requester 0, .next [] => .ret (.next [])
  | .requester 0, .next (request :: requests) =>
      request.perform conf lib requests
  | .requester 0, .returned _ reqData _ requests => do
      call (.deleteReqData reqData)
      return .next requests
  | .receiver, .thread .receive => do
      let label ← msgReceiver conf lib
      return .thread label
  | .environment, .thread .environment => do
      let label ← environment
      return .thread label
  | _, _ => .ret (.thread .stopped)

/-- The client, the receiver and the environment. -/
def client : Machine Res Thread Choice State ClientLabel where
  exec := watched
  code := clientCode conf lib

/-- The client before its first call; the receiver has been created. -/
def clientStart (requests : List Request) :
    Config Res Thread State ClientLabel where
  state := { receiverCreated := true }
  control
    | .requester 0 => .ret (.next requests)
    | .receiver => .ret (.thread .receive)
    | .environment => .ret (.thread .environment)
    | _ => .ret (.thread .stopped)

/-! ## What the notes leave alone -/

/-- The operations that are noted by the operation itself or not at all. -/
def Op.isUnwatched : Op → Bool
  | .reqStorAdd .. | .timedLockReq .. | .peek _ => false
  | _ => true

theorem watched_of_isUnwatched
    {operation : Op}
    (unwatched : operation.isUnwatched)
    (thread : Thread) :
    watched thread operation = exec thread operation := by
  cases operation <;> first | rfl | cases unwatched

section Outcomes

variable (thread : Thread) (choice : Choice) (state : State)

/-- Either the request is registered or its number is taken. -/
theorem watched_reqStorAdd_cases (seqNum : Nat) (pointer : ReqPtr) :
    watched thread (.reqStorAdd seqNum pointer) choice state =
        (0, State.note
          { state with mapReq := (seqNum, pointer) :: state.mapReq }
          (.registered seqNum)) ∨
      watched thread (.reqStorAdd seqNum pointer) choice state =
        (EEXIST,
          state.note (.storRefused seqNum (state.sending.length - 1))) := by
  unfold watched
  simp only [exec]
  rcases state.storAdd_cases seqNum pointer with
    added | ⟨_, -, refused⟩
  · left
    simp only [added, if_true]
  · right
    have failed : EEXIST ≠ 0 := by decide
    simp only [refused, if_neg failed]

/-- Either the waiting thread is woken or the wait ends without a change. -/
theorem watched_timedLockReq_cases
    (pointer : ReqPtr)
    (deadline : Timespec) :
    (∃ data, state.request pointer = some data ∧ data.locked = false ∧
      watched thread (.timedLockReq pointer deadline) choice state =
        (0, (state.updateRequest pointer
          fun data => { data with locked := true }).note .waited)) ∨
      ∃ ret, ret ≠ 0 ∧
        watched thread (.timedLockReq pointer deadline) choice state =
          (ret, state.note .waited) := by
  unfold watched
  simp only [exec]
  rcases state.timedLockReq_cases pointer with
    ⟨data, found, unlocked, woken⟩ | ⟨ret, failed, timedOut⟩
  · exact .inl ⟨data, found, unlocked, by rw [woken]⟩
  · exact .inr ⟨ret, failed, by rw [timedOut]⟩

/-- Either octets are seen on the socket and noted or nothing changes. -/
theorem watched_peek_cases (size : Nat) :
    (∃ serial count : Nat, state.serial = some serial ∧ count ≤ size ∧
      count ≤ (state.inbound serial).length ∧
      watched thread (.peek size) choice state =
        (((count : Int), (state.inbound serial).take count),
          (state.useSocket thread serial).note
            (.peeked serial ((state.inbound serial).take count)))) ∨
      ∃ ret : Int, (ret = -1 ∨ ret = 0) ∧
        watched thread (.peek size) choice state = ((ret, []), state) := by
  unfold watched
  simp only [exec]
  rcases state.peek_cases thread choice size with
    ⟨serial, count, current, -, positive, inSize, inStream, seen⟩ |
      ⟨ret, none, -, nothing⟩
  · refine .inl ⟨serial, count, current, inSize, inStream, ?_⟩
    rw [seen, current]
    cases octets : (state.inbound serial).take count with
    | nil =>
        have length := congrArg List.length octets
        rw [List.length_take, List.length_nil] at length
        omega
    | cons octet octets => rfl
  · refine .inr ⟨ret, none, ?_⟩
    rw [nothing]
    cases state.serial <;> rfl

end Outcomes

end Sms112
