import Sms112.Connection.Runs

/-!
# The requests on the wire

What the thread that owns the connection has sent on every socket, and the
operations that add nothing to it. The receiver answers on the same sockets,
but what it sends are responses.
-/

namespace Sms112

open Resumption

variable {α : Type}

/-- A request of which octets were sent: the socket, the fields of its header,
and whether the socket took all of it. -/
structure SentRequest where
  serial : Nat
  commandId : Nat
  sequenceNumber : Nat
  whole : Bool
  deriving DecidableEq

/-- The request a requesting thread sent. -/
def Event.request : Event → Option SentRequest
  | .sent (.requester _) serial data accepted =>
      some ⟨serial, word data 4, word data 12, accepted = data.length⟩
  | _ => none

/-- The requests that were sent, newest first. -/
def sentRequests (log : List Event) : List SentRequest :=
  log.filterMap Event.request

/-- The requests that were sent on a socket, newest first. -/
def requestsOn (serial : Nat) (log : List Event) : List SentRequest :=
  (sentRequests log).filter fun request => request.serial = serial

theorem sentRequests_cons (event : Event) (log : List Event) :
    sentRequests (event :: log) =
      event.request.toList ++ sentRequests log := by
  unfold sentRequests
  cases shown : event.request <;> simp [shown]

/-! ## Steps that send no request -/

/-- The connection and the requests on it are the same; flags may have been
cleared. -/
structure SameWire (before after : State) : Prop where
  iSock : after.iSock = before.iSock
  sockets : after.sockets = before.sockets
  nextSerial : after.nextSerial = before.nextSerial
  tcpIsConnected : after.tcpIsConnected → before.tcpIsConnected
  smppIsConnected : after.smppIsConnected → before.smppIsConnected
  requests : sentRequests after.log = sentRequests before.log

namespace SameWire

variable {before after : State}

theorem refl (state : State) : SameWire state state :=
  ⟨rfl, rfl, rfl, id, id, rfl⟩

theorem trans
    {first second third : State}
    (before : SameWire first second)
    (after : SameWire second third) :
    SameWire first third where
  iSock := after.iSock.trans before.iSock
  sockets := after.sockets.trans before.sockets
  nextSerial := after.nextSerial.trans before.nextSerial
  tcpIsConnected connected :=
    before.tcpIsConnected (after.tcpIsConnected connected)
  smppIsConnected connected :=
    before.smppIsConnected (after.smppIsConnected connected)
  requests := after.requests.trans before.requests

theorem serial (same : SameWire before after) :
    after.serial = before.serial := by
  unfold State.serial
  rw [same.sockets, same.iSock]

theorem requestsOn (same : SameWire before after) (serial : Nat) :
    Sms112.requestsOn serial after.log =
      Sms112.requestsOn serial before.log := by
  unfold Sms112.requestsOn
  rw [same.requests]

end SameWire

/-- The operations that neither send nor change the connection nor set its
flags. -/
def Op.leavesRequests : Op → Bool
  | .send _ | .socket | .close | .setSock _ | .setTcpConnected true
  | .setSmppConnected true => false
  | .note event => event.request.isNone
  | _ => true

/-- An operation that does not send adds no request. -/
theorem sentRequests_exec
    (thread : Thread)
    {operation : Op}
    (noSend : operation.isSend = false)
    (noNote : ∀ event, operation = .note event → event.request = none)
    (choice : Choice)
    (state : State) :
    sentRequests (exec thread operation choice state).2.log =
      sentRequests state.log := by
  rcases exec_notes thread operation choice state with
    unchanged | ⟨event, noted, appended⟩
  · rw [unchanged]
  · have hidden : event.request = none := by
      cases operation
      case send data => exact nomatch noSend
      case note noted' =>
        obtain rfl := of_decide_eq_true noted
        exact noNote _ rfl
      case enter routine =>
        cases routine <;> cases event <;> first | rfl | cases noted
      all_goals cases event <;> first | rfl | cases noted
    rw [appended, sentRequests_cons, hidden]
    rfl

theorem exec_sameWire
    (thread : Thread)
    {operation : Op}
    (leaves : operation.leavesRequests)
    (choice : Choice)
    (state : State) :
    SameWire state (exec thread operation choice state).2 := by
  have frame := exec_frame thread operation choice state
  have requests (noSend : operation.isSend = false)
      (noNote : ∀ event, operation = .note event → event.request = none) :=
    sentRequests_exec thread noSend noNote choice state
  cases operation
  case setTcpConnected value =>
    cases value
    · exact ⟨rfl, rfl, rfl, nofun, id, rfl⟩
    · cases leaves
  case setSmppConnected value =>
    cases value
    · exact ⟨rfl, rfl, rfl, id, nofun, rfl⟩
    · cases leaves
  case note event =>
    refine ⟨rfl, rfl, rfl, id, id, requests rfl ?_⟩
    rintro _ ⟨⟩
    exact Option.isNone_iff_eq_none.mp leaves
  all_goals
    first
      | exact ⟨frame .iSock rfl, frame .sockets rfl, frame .nextSerial rfl,
          fun connected => (frame .tcpIsConnected rfl).symm.trans connected,
          fun connected => (frame .smppIsConnected rfl).symm.trans connected,
          requests rfl nofun⟩
      | cases leaves

/-- The other operations of an exchange. -/
theorem Op.isTraffic.leavesRequests
    (operation : Op)
    (traffic : operation.isTraffic)
    (noSend : operation.isSend = false) :
    operation.leavesRequests := by
  cases operation
  case send data => exact nomatch noSend
  case setTcpConnected value => cases value <;> first | rfl | cases traffic
  case setSmppConnected value => cases value <;> first | rfl | cases traffic
  case note event => cases event <;> first | rfl | cases traffic
  all_goals first | rfl | cases traffic

/-- What the receiver sends is no request. -/
theorem exec_receiver_sameWire
    {operation : Op}
    (traffic : operation.isTraffic)
    (choice : Choice)
    (state : State) :
    SameWire state (exec .receiver operation choice state).2 := by
  by_cases sends : operation.isSend
  · cases operation
    case send data =>
      dsimp only [exec]
      rcases state.send_cases .receiver choice data with
        ⟨serial, -, -, accepted⟩ | failed
      · rw [accepted]
        exact ⟨rfl, rfl, rfl, id, id, rfl⟩
      · rw [failed]
        exact .refl state
    all_goals cases sends
  · exact exec_sameWire .receiver (Op.isTraffic.leavesRequests operation
      traffic (Bool.eq_false_iff.mpr sends)) choice state

end Sms112
