import Sms112.Model.DeliverSm
import Sms112.Model.Operations

/-!
# The threads

`main`, `do_smpp_ping` and `msg_receiver`. The main thread creates the two
others and then only waits for the ping thread to end, so both are the program
of one thread of the model, the first requester. A label names the place where
a thread starts over; the ping loop's label carries its local `soTS`.
-/

namespace Sms112

open Resumption

variable (conf : SConf) (lib : Smpp34)

/-- Where a thread continues. -/
inductive Label
  | main
  | startPing
  | ping (soTS : Timespec)
  | finish
  | receive
  | environment
  | stopped

/-- `main`, from `sms112_tcp_connect` to the creation of the ping thread. -/
def main : Prog Label := do
  let iFnRes ← tcpConnect
  if iFnRes ≠ 0 then
    return .stopped
  let iFnRes ← call .createReceiver
  if iFnRes ≠ 0 then
    tcpDisconn
    return .stopped
  let iFnRes ← smppConnect conf lib
  if iFnRes ≠ 0 then
    tcpDisconn
    return .stopped
  let iFnRes ← call .createPing
  if iFnRes ≠ 0 then
    return .finish
  return .startPing

/-- `do_smpp_ping` before its loop. -/
def startPing : Prog Label := do
  call (.enter .doSmppPing)
  let iFnRes ← call .initPingWait
  if iFnRes ≠ 0 then
    return .finish
  let garbage ← call .uninitialised
  let (_, soTS) ←
    makeTimespecTimeout garbage.timespec conf.smppEnqLinkSpan 0
  return .ping soTS

/-- `soTS.tv_sec += g_psoConf->m_uiSMPPEnqLinkSpan`. -/
def nextDeadline (soTS : Timespec) : Timespec :=
  { soTS with tvSec := soTS.tvSec + conf.smppEnqLinkSpan }

/-- `do_smpp_ping` from `do_smpp_connection` to the end of the round. -/
def doSmppConnection (soTS : Timespec) : Prog Label := do
  let _ ← smppConnect conf lib
  return .ping (nextDeadline conf soTS)

/-- `do_smpp_ping` from `do_tcp_connection`. -/
def doTcpConnection (soTS : Timespec) : Prog Label := do
  let iFnRes ← tcpConnect
  if iFnRes ≠ 0 then
    return .ping soTS
  doSmppConnection conf lib soTS

/-- `do_smpp_ping` after a failed check of the connection. -/
def recoverConnection (soTS : Timespec) : Prog Label := do
  let _ ← smppDisconn lib
  tcpDisconn
  doTcpConnection conf lib soTS

/-- One round of the loop of `do_smpp_ping`. -/
def doSmppPing (soTS : Timespec) : Prog Label := do
  let iStop ← call .getStop
  if iStop then
    return .finish
  let iFnRes ← call (.pingTimedLock soTS)
  if iFnRes ≠ ETIMEDOUT then
    return .finish
  let tcpIsConnected ← call .isTcpConnected
  if !tcpIsConnected then
    doTcpConnection conf lib soTS
  else
    let smppIsConnected ← call .isSmppConnected
    if !smppIsConnected then
      doSmppConnection conf lib soTS
    else
      let iFnRes ← smppEnqLink lib
      if iFnRes = 0 then
        return .ping (nextDeadline conf soTS)
      else
        recoverConnection conf lib soTS

/-- `main` after the ping thread has ended. -/
def finish : Prog Label := do
  call (.leave .doSmppPing)
  let _ ← smppDisconn lib
  tcpDisconn
  return .stopped

/-- One round of the loop of `msg_receiver`; before its creation the thread
does nothing. -/
def msgReceiver : Prog Label := do
  let created ← call .isReceiverCreated
  if !created then
    return .receive
  let iStop ← call .getStop
  if iStop then
    return .stopped
  let fd ← call .getSock
  let pollIn ← call (.poll fd)
  if pollIn then
    let _ ← smppHandler conf lib
  return .receive

/-- Octets arrive on a socket, or a signal asks the program to stop. -/
def environment : Prog Label := do
  let what ← call .pick
  if what = 0 then
    call .arrive
  else
    call .stopSmppReceiverThread
  return .environment

theorem environment_uses
    {allowed : Op → Prop}
    (pick : allowed .pick)
    (arrive : allowed .arrive)
    (stop : allowed .stopSmppReceiverThread) :
    environment.Uses allowed := by
  refine .step pick fun what => ?_
  dsimp only
  split
  · exact .step arrive fun _ => trivial
  · exact .step stop fun _ => trivial

/-- What every thread does at a label. -/
def code : Thread → Label → Prog Label
  | .requester 0, .main => main conf lib
  | .requester 0, .startPing => startPing conf
  | .requester 0, .ping soTS => doSmppPing conf lib soTS
  | .requester 0, .finish => finish lib
  | .receiver, .receive => msgReceiver conf lib
  | .environment, .environment => environment
  | _, _ => .ret .stopped

/-- The gateway. -/
def gateway : Machine Res Thread Choice State Label where
  exec := exec
  code := code conf lib

/-- The gateway before `main` opens the connection: the other threads have
done nothing yet. -/
def gatewayStart : Config Res Thread State Label where
  state := {}
  control
    | .requester 0 => .ret .main
    | .receiver => .ret .receive
    | .environment => .ret .environment
    | _ => .ret .stopped

/-! ## Pieces of schedules -/

/-- A thread takes a number of steps, in which everything succeeds. -/
def steps (thread : Thread) (count : Nat) : List (Thread × (Op → Choice)) :=
  List.replicate count (thread, allSucceeds)

/-- A thread takes one step with a given choice. -/
def stepWith (thread : Thread) (choice : Choice) :
    List (Thread × (Op → Choice)) :=
  [(thread, fun _ => choice)]

/-- Octets arrive on a socket. -/
def arrival (serial : Nat) (data : Octets) :
    List (Thread × (Op → Choice)) :=
  steps .environment 2 ++
    stepWith .environment { count := serial, data := data }

/-- The gateway connects, binds and reaches its ping loop. -/
def started : List (Thread × (Op → Choice)) :=
  steps (.requester 0) 14 ++
    arrival 0 (ReferenceCodec.packed (headerPdu BIND_TRANSCEIVER_RESP 1)) ++
    steps .receiver 16 ++ steps (.requester 0) 18

end Sms112
