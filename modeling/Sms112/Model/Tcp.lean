import Sms112.Model.Platform

/-!
# The TCP connection

`sms112_tcp.cpp`: the connection to the SMPP server, held in `g_iSock`, and
the flag that says whether the program takes it to be open.
-/

namespace Sms112

open Resumption

variable {α : Type}

/-- The body of a routine, with a record of its beginning and its end. -/
def within (routine : Routine) (body : Prog α) : Prog α := do
  call (.enter routine)
  let value ← body
  call (.leave routine)
  return value

theorem within_eval
    (thread : Thread)
    (oracle : Op → Choice)
    (routine : Routine)
    (body : Prog α)
    (state : State) :
    (within routine body).eval (exec thread) oracle state =
      ((body.eval (exec thread) oracle (state.enter routine)).1,
        (body.eval (exec thread) oracle (state.enter routine)).2.leave
          routine) := by
  unfold within
  simp only [Program.eval_bind]
  rfl

/-- The body of `sms112_tcp_connect`. -/
def tcpConnectBody : Prog Int := do
  let (iSock, errno) ← call .socket
  if iSock = -1 then
    return errno
  -- `iRetVal` keeps the error of `connect` only until the next call
  let _ ← call .connect
  let (iRetVal, errno) ← call .fcntl
  if iRetVal ≠ 0 then
    return errno
  call (.setTcpConnected true)
  return iRetVal

/-- `sms112_tcp_connect`. -/
def tcpConnect : Prog Int :=
  within .tcpConnect tcpConnectBody

/-- The body of `sms112_tcp_disconn`. -/
def tcpDisconnBody : Prog Unit := do
  let iSock ← call .getSock
  if iSock ≠ -1 then
    call .shutdown
    let closed ← call .close
    if closed = 0 then
      call (.setTcpConnected false)
      call (.setSock (-1))

/-- `sms112_tcp_disconn`. -/
def tcpDisconn : Prog Unit :=
  within .tcpDisconn tcpDisconnBody

/-- `sms112_tcp_send`. -/
def tcpSend (data : Octets) : Prog Int := do
  let (iFnRes, errno) ← call (.send data)
  if equalsUnsigned iFnRes data.length then
    return 0
  else
    call (.setTcpConnected false)
    return errno

/-- `sms112_tcp_recv`: its result and the octets received. -/
def tcpRecv (size : Nat) (into : Option (Option Nat)) :
    Prog (Int × Octets) := do
  let (iFnRes, data) ← call (.recv size into)
  return (if equalsUnsigned iFnRes size then 0 else -1, data)

/-- `sms112_tcp_peek`: its result and the octets seen. -/
def tcpPeek (size : Nat) : Prog (Int × Octets) := do
  let (iFnRes, data) ← call (.peek size)
  return (if equalsUnsigned iFnRes size then 0 else -1, data)

end Sms112
