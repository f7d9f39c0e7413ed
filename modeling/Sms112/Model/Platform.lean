import Sms112.Model.Smpp34
import Sms112.Model.Stor
import Sms112.Printf.Expansion
import Sms112.Resumption.RelyGuarantee

/-!
# The platform: shared state and atomic operations

The state holds the program's globals, the objects its threads share, the
sockets of the kernel, and a record of what happened. An operation is a
statement of the source that touches this state or asks the environment for
something; a system call on `g_iSock` reads the global and makes the call in
one operation. Everything the environment may answer comes in with a `Choice`,
which the operation cuts down to the answers the call can give.

Fields and operations marked as ghost exist for the statements about runs
only: no program reads them.
-/

namespace Sms112

open Resumption

/-! ## Threads and what their environment supplies -/

/-- A thread that sends requests and waits for their responses (the main
thread and the ping thread it waits for are one), the receiver thread, and
the environment: the network and the signals. -/
inductive Thread
  | requester (number : Nat)
  | receiver
  | environment
  deriving DecidableEq

/-- `timespec`. -/
structure Timespec where
  tvSec : Int
  tvNsec : Int
  deriving DecidableEq

/-- Initial contents of the uninitialised locals of
`sms112_smpp_deliver_sm_oper` (the optional parameters already linked to
`req`, the memory `pszSrcStr` points to, `stSrcLen`, `stLen`, and what `res`
holds after its header) and of a `timespec`. -/
structure Garbage where
  tlv : List Tlv := []
  srcStr : Octets := []
  srcLen : Nat := 0
  dstLen : Nat := 0
  res : Octets := []
  timespec : Timespec := ⟨0, 0⟩

/-- Whatever an operation may need to be told by the environment. -/
structure Choice where
  ret : Int := 0
  errno : Nat := 0
  count : Nat := 0
  data : Octets := []
  chunks : List Octets := []
  sec : Int := 0
  usec : Nat := 0
  garbage : Garbage := {}

/-- `errno` after a failed call. -/
def Choice.failure (choice : Choice) : Nat :=
  max 1 choice.errno

theorem Choice.failure_ne_zero (choice : Choice) : choice.failure ≠ 0 := by
  unfold Choice.failure
  omega

/-! ## The shared state -/

/-- `SReqData`: whether `m_mutexWaitResp` is locked, `m_pBuf` and
`m_iDataLen`; and, as ghost, the identity of the object and the thread on
whose stack it is. -/
structure SReqData where
  locked : Bool := true
  buf : Option Nat := none
  dataLen : Int := 0
  owner : Nat
  creator : Thread

/-- Functions whose calls are recorded while they run. -/
inductive Routine
  | tcpConnect
  | tcpDisconn
  | smppConnect
  | smppDisconn
  | smppHandler
  | smppUnbindOper
  | doSmppPing
  deriving DecidableEq

/-- What a run did, for statements about its order. -/
inductive Event
  /-- `send` took the first `accepted` octets of `data` on a socket. -/
  | sent (thread : Thread) (serial : Nat) (data : Octets) (accepted : Nat)
  /-- `recv` took octets off a socket. -/
  | received (serial : Nat) (data : Octets)
  /-- A PDU was passed on whole, to a waiting request or to a handler, as the
  command id of the header seen before it says. -/
  | handed (commandId : Nat) (pdu : Octets)
  /-- `sms112_smpp_unbind_oper` was entered with a PDU of this socket. -/
  | unbindReceived (serial : Option Nat)
  /-- A response was decoded for a request of the given type. -/
  | decoded (requestId : Nat) (buffer : Octets)
  /-- A number was refused while `others` other requests were in progress. -/
  | storRefused (seqNum : Nat) (others : Nat)
  /-- `sms112_sip_send_req` returned. -/
  | sipSendReq (caller : Octets) (text : Option Octets) (geodata : Octets)
      (result : Int)
  /-- `sms112_send_report` was called. -/
  | sendReport (phoneNumber : Octets) (message : Option Octets)
      (resultString resultXML : Octets)
  /-- An HTTP request ended with the code `result`. -/
  | curl (url : Octets) (body : Option Octets) (result : Int)
      (received : Octets)
  /-- A write outside an allocation. -/
  | outOfBounds
  /-- The ping loop waited for a deadline. -/
  | pingWait (deadline : Timespec)
  /-- A client called a function that sends a request. -/
  | called
  /-- A client registered the number of its request. -/
  | registered (seqNum : Nat)
  /-- The wait of a client for its response ended. -/
  | waited
  /-- A client's call that sent a request of the given type returned. -/
  | returned (requestId : Nat) (result : Int)
  /-- The header of the next PDU was seen on a socket. -/
  | peeked (serial : Nat) (data : Octets)
  deriving DecidableEq

/-- The state shared by the threads. -/
structure State where
  /-- `g_iSock` -/
  iSock : Int := -1
  /-- `g_bIsConnected` of `sms112_tcp.cpp` -/
  tcpIsConnected : Bool := false
  /-- `g_bIsConnected` of `sms112_smpp.cpp` -/
  smppIsConnected : Bool := false
  /-- `g_uiSecNum` -/
  uiSecNum : Nat := 0
  /-- `g_iStop` -/
  iStop : Bool := false
  /-- `g_mutexSMPPWait` -/
  pingWaitLocked : Bool := false
  /-- the receiver thread has been created -/
  receiverCreated : Bool := false
  /-- `g_mapReq` -/
  mapReq : MapReq := []
  /-- the live `SReqData` objects by address -/
  requests : List (Nat × SReqData) := []
  /-- the live blocks of `malloc` -/
  buffers : List (Nat × Octets) := []
  /-- the other live allocations -/
  heap : List (Nat × Octets) := []
  /-- the open descriptors with the serial numbers of their sockets -/
  sockets : List (Int × Nat) := []
  /-- the sockets on which `connect` succeeded -/
  established : List Nat := []
  /-- the octets that have arrived on a socket and were not read yet -/
  inbound : Nat → Octets := fun _ => []
  nextSerial : Nat := 0
  nextOwner : Nat := 0
  nextBlock : Nat := 0
  /-- ghost: the calls in progress -/
  busy : Routine → Bool := fun _ => false
  /-- ghost: the objects of the `sms112_smpp_send` calls in progress -/
  sending : List (Thread × Nat) := []
  /-- ghost: the objects the receiver took out of `g_mapReq` and has not
  unlocked -/
  held : List Nat := []
  /-- ghost: the sockets used by each `sms112_smpp_handler` call, newest
  first -/
  served : List (List Nat) := []
  /-- ghost: the socket the receiver read from last -/
  lastRecv : Option Nat := none
  /-- ghost: what happened, newest first -/
  log : List Event := []

namespace State

variable (state : State)

/-- The socket `g_iSock` designates. -/
def serial : Option Nat :=
  state.sockets.lookup state.iSock

/-- The octets that can be read from `g_iSock`. -/
def available : Octets :=
  match state.serial with
  | some serial => state.inbound serial
  | none => []

/-- The live object at the address of a pointer. -/
def request (pointer : ReqPtr) : Option SReqData :=
  state.requests.lookup pointer.addr

/-- Change the object at the address of a pointer; a store through a dangling
pointer changes no object. -/
def updateRequest
    (pointer : ReqPtr)
    (change : SReqData → SReqData) : State :=
  { state with
    requests := state.requests.map fun entry =>
      if entry.1 = pointer.addr then (entry.1, change entry.2) else entry }

/-- The contents of a block of `malloc`. -/
def buffer (address : Nat) : Octets :=
  (state.buffers.lookup address).getD []

/-- Allocate with `malloc` a block with the given contents. -/
def mallocate (contents : Octets) : Nat × State :=
  (state.nextBlock,
    { state with
      buffers := (state.nextBlock, contents) :: state.buffers
      nextBlock := state.nextBlock + 1 })

/-- The contents of another allocation. -/
def block (address : Nat) : Octets :=
  (state.heap.lookup address).getD []

/-- Allocate a block with the given contents. -/
def allocate (contents : Octets) : Nat × State :=
  (state.nextBlock,
    { state with
      heap := (state.nextBlock, contents) :: state.heap
      nextBlock := state.nextBlock + 1 })

/-- Release a block. -/
def release (address : Nat) : State :=
  { state with heap := state.heap.filter fun entry => entry.1 ≠ address }

/-- Replace the contents of a block. -/
def storeBlock (address : Nat) (contents : Octets) : State :=
  { state with
    heap := state.heap.map fun entry =>
      if entry.1 = address then (entry.1, contents) else entry }

/-- Note an event. -/
def note (event : Event) : State :=
  { state with log := event :: state.log }

/-- Note that the receiver used a socket for the PDU it is handling. -/
def useSocket (thread : Thread) (serial : Nat) : State :=
  { state with
    served :=
      match thread, state.busy .smppHandler, state.served with
      | .receiver, true, call :: calls => (serial :: call) :: calls
      | _, _, served => served }

end State

/-! ## The operations -/

/-- The atomic operations of the programs. -/
inductive Op
  -- system calls on `g_iSock`
  | socket
  | connect
  | fcntl
  | shutdown
  | close
  | send (data : Octets)
  /-- `recv` into a local buffer (`none`) or through a pointer -/
  | recv (size : Nat) (into : Option (Option Nat))
  | peek (size : Nat)
  -- globals
  | getSock
  | setSock (descriptor : Int)
  | isTcpConnected
  | setTcpConnected (value : Bool)
  | isSmppConnected
  | setSmppConnected (value : Bool)
  | incSecNum
  | getStop
  | stopSmppReceiverThread
  -- the store and the objects in it
  | reqStorAdd (seqNum : Nat) (pointer : ReqPtr)
  | reqStorGetAndRem (seqNum : Nat)
  | newReqData
  | deleteReqData (pointer : ReqPtr)
  | setReqBuf (pointer : ReqPtr) (buf : Option Nat)
  | getReqBuf (pointer : ReqPtr)
  | setReqDataLen (pointer : ReqPtr) (dataLen : Int)
  | getReqDataLen (pointer : ReqPtr)
  /-- the first `m_iDataLen` octets at `m_pBuf` -/
  | readReqData (pointer : ReqPtr)
  | unlockReq (pointer : ReqPtr)
  | timedLockReq (pointer : ReqPtr) (deadline : Timespec)
  -- memory
  | malloc (size : Nat)
  | newChars (size : Nat)
  | writeChars (address offset : Nat) (data : Octets)
  | readChars (address : Nat)
  | deleteChars (address : Nat)
  | linkTlv (tlv : List Tlv)
  | destroyTlv (nodes : List Nat)
  | uninitialised
  -- libraries
  | iconvOpen (dstCod srcCod : Octets)
  | iconv (input : Octets) (room : Nat)
  | curl (url : Octets) (body contentType : Option Octets)
  | snprintf (size : Nat) (format argument : Octets)
  | localNameHost
  | sipCall (localName remoteName caller : Octets) (text : Option Octets)
      (geodata : Octets)
  | strerror (code : Int)
  | time
  | localtime (seconds : Int)
  | strftime (format : Octets) (size : Nat)
  | gettimeofday
  -- threads
  | createReceiver
  | isReceiverCreated
  | createPing
  | initPingWait
  | pingTimedLock (deadline : Timespec)
  | poll (descriptor : Int)
  | pick
  | arrive
  -- ghost
  | enter (routine : Routine)
  | leave (routine : Routine)
  | enterSend (pointer : ReqPtr)
  | leaveSend (pointer : ReqPtr)
  | note (event : Event)

/-- The outcome of `iconv`: its result, the input it left, its output. -/
structure Converted where
  ret : Int
  inBufLeft : Nat
  output : Octets

/-- `timeval`, with the result of the call. -/
structure TimeOfDay where
  ret : Int
  tvSec : Int
  tvUsec : Nat

/-- What each operation returns. -/
@[reducible] def Res : Op → Type
  | .socket | .connect | .fcntl | .send _ => Int × Nat
  | .close | .getSock | .reqStorAdd .. | .getReqDataLen _
  | .timedLockReq .. | .sipCall .. | .time | .createReceiver | .createPing
  | .initPingWait | .pingTimedLock _ => Int
  | .recv .. | .peek _ | .snprintf .. | .strftime .. => Int × Octets
  | .isTcpConnected | .isSmppConnected | .getStop | .iconvOpen ..
  | .localtime _ | .isReceiverCreated | .poll _ => Bool
  | .incSecNum | .newChars _ | .pick => Nat
  | .reqStorGetAndRem _ => Option ReqPtr
  | .newReqData => ReqPtr
  | .getReqBuf _ | .malloc _ => Option Nat
  | .readReqData _ | .readChars _ | .strerror _ => Octets
  | .linkTlv _ => List Nat
  | .uninitialised => Garbage
  | .iconv .. => Converted
  | .curl .. => Int × List Octets
  | .localNameHost => Option Octets
  | .gettimeofday => TimeOfDay
  | _ => Unit

abbrev Prog := Program Res

/-- Perform one operation. -/
abbrev call (operation : Op) : Prog (Res operation) :=
  Program.call operation

/-! ## Their meaning -/

def ETIMEDOUT : Int := 110
def EINVAL : Int := 22

/-- What `recv` can return for a request of `size` octets: an error, nothing
when nothing is asked for or nothing is there, else between one and all of
what is there. -/
def recvCount (size : Nat) (available : Octets) (ret : Int) : Int :=
  if ret < 0 then -1
  else if size = 0 ∨ available = [] then 0
  else max 1 (min ret (min size available.length : Nat))

/-- What `snprintf` prints for a format and one string argument: the text the
language gives the format, and whatever comes out where it gives none. -/
def expansion (format argument : Octets) (choice : Choice) : Octets :=
  (Printf.expand format argument).getD choice.data

/-- `snprintf( .., size, format, argument )`: its result, and what it stores
in front of the terminator. The length of the text is the result if it is an
`int` and nothing failed. -/
def snprintf (size : Nat) (format argument : Octets) (choice : Choice) :
    Int × Octets :=
  let text := expansion format argument choice
  (if choice.ret < 0 ∨ 2 ^ 31 ≤ text.length then -1 else text.length,
    text.take (size - 1))

/-- Contents of the right size for a fresh allocation. -/
def fit (size : Nat) (contents : Octets) : Octets :=
  (contents ++ List.replicate size 0).take size

namespace State

variable (state : State)

/-- `g_iSock = socket( AF_INET, SOCK_STREAM, 0 )`. -/
def socket (choice : Choice) : (Int × Nat) × State :=
  if 0 ≤ choice.ret ∧ (state.sockets.lookup choice.ret).isNone then
    ((choice.ret, choice.errno),
      { state with
        iSock := choice.ret
        sockets := (choice.ret, state.nextSerial) :: state.sockets
        nextSerial := state.nextSerial + 1 })
  else ((-1, choice.failure), { state with iSock := -1 })

/-- `connect( g_iSock, .. )`. -/
def connect (choice : Choice) : (Int × Nat) × State :=
  match state.serial with
  | some serial =>
      if choice.ret = 0 then
        ((0, choice.errno),
          { state with established := serial :: state.established })
      else ((-1, choice.failure), state)
  | none => ((-1, choice.failure), state)

/-- `fcntl( g_iSock, F_SETFL, O_NONBLOCK )`. -/
def fcntl (choice : Choice) : (Int × Nat) × State :=
  if state.serial.isSome ∧ choice.ret = 0 then ((0, choice.errno), state)
  else ((-1, choice.failure), state)

/-- `close( g_iSock )`. -/
def close (choice : Choice) : Int × State :=
  if state.serial.isSome ∧ choice.ret = 0 then
    (0, { state with
          sockets :=
            state.sockets.filter fun entry => entry.1 ≠ state.iSock })
  else (-1, state)

/-- `send( g_iSock, .. )`. -/
def send (thread : Thread) (data : Octets) (choice : Choice) :
    (Int × Nat) × State :=
  match state.serial with
  | some serial =>
      if choice.ret < 0 then ((-1, choice.failure), state)
      else
        let accepted := min choice.ret.toNat data.length
        (((accepted : Int), choice.errno),
          (state.useSocket thread serial).note
            (.sent thread serial data accepted))
  | none => ((-1, choice.failure), state)

/-- The state after `recv` took octets off a socket and stored them through
the pointer it was given, if it was given one. -/
def takeOctets
    (thread : Thread)
    (serial count : Nat)
    (into : Option (Option Nat)) : State :=
  let data := (state.inbound serial).take count
  { state.useSocket thread serial with
    inbound := Function.update state.inbound serial
      ((state.inbound serial).drop count)
    buffers :=
      match into with
      | some (some address) =>
          state.buffers.map fun entry =>
            if entry.1 = address then
              (entry.1, data ++ entry.2.drop count)
            else entry
      | _ => state.buffers
    lastRecv := some serial
    log := .received serial data :: state.log }

/-- `recv( g_iSock, .. )`. A null buffer is an error unless nothing is
asked for. -/
def recv
    (thread : Thread)
    (size : Nat)
    (into : Option (Option Nat))
    (choice : Choice) : (Int × Octets) × State :=
  match state.serial with
  | some serial =>
      let ret :=
        if into = some none ∧ size ≠ 0 then -1
        else recvCount size (state.inbound serial) choice.ret
      if 0 < ret then
        ((ret, (state.inbound serial).take ret.toNat),
          state.takeOctets thread serial ret.toNat into)
      else ((ret, []), state)
  | none => ((-1, []), state)

/-- `recv( g_iSock, .., MSG_PEEK )`. -/
def peek (thread : Thread) (size : Nat) (choice : Choice) :
    (Int × Octets) × State :=
  match state.serial with
  | some serial =>
      let ret := recvCount size (state.inbound serial) choice.ret
      if 0 < ret then
        ((ret, (state.inbound serial).take ret.toNat),
          state.useSocket thread serial)
      else ((ret, []), state)
  | none => ((-1, []), state)

/-- `sms112_req_stor_add` on `g_mapReq`. -/
def storAdd (seqNum : Nat) (pointer : ReqPtr) : Int × State :=
  let outcome := reqStorAdd state.mapReq seqNum pointer
  if outcome.1 = 0 then (0, { state with mapReq := outcome.2 })
  else (outcome.1,
    state.note (.storRefused seqNum (state.sending.length - 1)))

/-- `sms112_req_stor_get_and_rem` on `g_mapReq`. -/
def storGetAndRem (seqNum : Nat) : Option ReqPtr × State :=
  match reqStorGetAndRem state.mapReq seqNum with
  | (some pointer, map) =>
      (some pointer,
        { state with
          mapReq := map
          held := pointer.owner :: state.held })
  | (none, _) => (none, state)

/-- An address no live object has. -/
def freshAddr : Nat :=
  (state.requests.map Prod.fst).foldr max 0 + 1

/-- `SReqData::SReqData`: a locked object at an address that is free. -/
def newReqData (thread : Thread) (choice : Choice) : ReqPtr × State :=
  let addr :=
    if (state.requests.lookup choice.count).isNone then choice.count
    else state.freshAddr
  (⟨addr, state.nextOwner⟩,
    { state with
      requests :=
        (addr, { owner := state.nextOwner, creator := thread }) ::
          state.requests
      nextOwner := state.nextOwner + 1 })

/-- `SReqData::~SReqData`. -/
def deleteReqData (pointer : ReqPtr) : State :=
  { state with
    buffers :=
      match (state.request pointer).bind SReqData.buf with
      | some address => state.buffers.filter fun entry => entry.1 ≠ address
      | none => state.buffers
    requests :=
      state.requests.filter fun entry => entry.1 ≠ pointer.addr }

/-- The buffer of a response, as far as `m_iDataLen` says it was filled. -/
def readReqData (pointer : ReqPtr) : Octets :=
  match state.request pointer with
  | some data =>
      match data.buf with
      | some address => (state.buffer address).take data.dataLen.toNat
      | none => []
  | none => []

/-- `pthread_mutex_timedlock( &m_mutexWaitResp, .. )`: the call is over when
the mutex is free, or when the deadline has passed. -/
def timedLockReq (pointer : ReqPtr) : Int × State :=
  match state.request pointer with
  | some data =>
      if data.locked then (ETIMEDOUT, state)
      else (0, state.updateRequest pointer
        fun data => { data with locked := true })
  | none => (EINVAL, state)

/-- `pthread_mutex_unlock( &m_mutexWaitResp )`. -/
def unlockReq (pointer : ReqPtr) : State :=
  { state.updateRequest pointer fun data => { data with locked := false } with
    held := state.held.erase pointer.owner }

/-- Write into an allocation; a write past its end is noted and has no
effect. -/
def writeChars (address offset : Nat) (data : Octets) : State :=
  if offset + data.length ≤ (state.block address).length then
    state.storeBlock address
      ((state.block address).take offset ++ data ++
        (state.block address).drop (offset + data.length))
  else state.note .outOfBounds

/-- One block for each optional parameter. -/
def linkTlv (tlv : List Tlv) : List Nat × State :=
  let nodes := List.range' state.nextBlock tlv.length
  (nodes,
    { state with
      heap := nodes.zip (tlv.map Tlv.octet) ++ state.heap
      nextBlock := state.nextBlock + tlv.length })

/-- Release the blocks of the optional parameters. -/
def destroyTlv (nodes : List Nat) : State :=
  { state with heap := state.heap.filter fun entry => entry.1 ∉ nodes }

/-- The record of a call that begins. -/
def enter (routine : Routine) : State :=
  { state with
    busy := Function.update state.busy routine true
    served :=
      match routine with
      | .smppHandler => [] :: state.served
      | _ => state.served
    log :=
      match routine with
      | .smppUnbindOper => .unbindReceived state.lastRecv :: state.log
      | _ => state.log }

/-- The record of a call that ends. -/
def leave (routine : Routine) : State :=
  { state with busy := Function.update state.busy routine false }

end State

/-- The meaning of the operations of a thread. -/
def exec (thread : Thread) : Handler Res Choice State
  | .socket, choice, state => state.socket choice
  | .connect, choice, state => state.connect choice
  | .fcntl, choice, state => state.fcntl choice
  | .shutdown, _, state => ((), state)
  | .close, choice, state => state.close choice
  | .send data, choice, state => state.send thread data choice
  | .recv size into, choice, state => state.recv thread size into choice
  | .peek size, choice, state => state.peek thread size choice
  | .getSock, _, state => (state.iSock, state)
  | .setSock descriptor, _, state =>
      ((), { state with iSock := descriptor })
  | .isTcpConnected, _, state => (state.tcpIsConnected, state)
  | .setTcpConnected value, _, state =>
      ((), { state with tcpIsConnected := value })
  | .isSmppConnected, _, state => (state.smppIsConnected, state)
  | .setSmppConnected value, _, state =>
      ((), { state with smppIsConnected := value })
  | .incSecNum, _, state =>
      ((state.uiSecNum + 1) % 2 ^ 32,
        { state with uiSecNum := (state.uiSecNum + 1) % 2 ^ 32 })
  | .getStop, _, state => (state.iStop, state)
  | .stopSmppReceiverThread, _, state =>
      ((), { state with iStop := true, pingWaitLocked := false })
  | .reqStorAdd seqNum pointer, _, state => state.storAdd seqNum pointer
  | .reqStorGetAndRem seqNum, _, state => state.storGetAndRem seqNum
  | .newReqData, choice, state => state.newReqData thread choice
  | .deleteReqData pointer, _, state => ((), state.deleteReqData pointer)
  | .setReqBuf pointer buf, _, state =>
      ((), state.updateRequest pointer fun data => { data with buf := buf })
  | .getReqBuf pointer, _, state =>
      ((state.request pointer).bind SReqData.buf, state)
  | .setReqDataLen pointer dataLen, _, state =>
      ((), state.updateRequest pointer
        fun data => { data with dataLen := dataLen })
  | .getReqDataLen pointer, _, state =>
      (((state.request pointer).map SReqData.dataLen).getD 0, state)
  | .readReqData pointer, _, state => (state.readReqData pointer, state)
  | .unlockReq pointer, _, state => ((), state.unlockReq pointer)
  | .timedLockReq pointer _, _, state => state.timedLockReq pointer
  | .malloc size, choice, state =>
      if choice.ret = 0 then (none, state)
      else
        (some (state.mallocate (fit size choice.data)).1,
          (state.mallocate (fit size choice.data)).2)
  | .newChars size, choice, state => state.allocate (fit size choice.data)
  | .writeChars address offset data, _, state =>
      ((), state.writeChars address offset data)
  | .readChars address, _, state => (cString (state.block address), state)
  | .deleteChars address, _, state => ((), state.release address)
  | .linkTlv tlv, _, state => state.linkTlv tlv
  | .destroyTlv nodes, _, state => ((), state.destroyTlv nodes)
  | .uninitialised, choice, state => (choice.garbage, state)
  | .iconvOpen _ _, choice, state => (choice.ret = 0, state)
  | .iconv input room, choice, state =>
      ({ ret := if choice.ret < 0 then -1 else choice.ret
         inBufLeft := min choice.count input.length
         output := choice.data.take room }, state)
  | .curl url body _, choice, state =>
      ((choice.ret, choice.chunks),
        state.note (.curl url body choice.ret choice.chunks.flatten))
  | .snprintf size format argument, choice, state =>
      (Sms112.snprintf size format argument choice, state)
  | .localNameHost, choice, state =>
      (if choice.ret = 0 then none else some choice.data, state)
  | .sipCall _ _ _ _ _, choice, state => (choice.ret, state)
  | .strerror _, choice, state => (cString choice.data, state)
  | .time, choice, state => (choice.sec, state)
  | .localtime _, choice, state => (choice.ret = 0, state)
  | .strftime _ _, choice, state => ((choice.ret, choice.data), state)
  | .gettimeofday, choice, state =>
      ({ ret := if choice.ret = 0 then 0 else -1
         tvSec := choice.sec, tvUsec := choice.usec % 1000000 }, state)
  | .createReceiver, choice, state =>
      (choice.ret, { state with receiverCreated := choice.ret = 0 })
  | .isReceiverCreated, _, state => (state.receiverCreated, state)
  | .createPing, choice, state => (choice.ret, state)
  | .initPingWait, choice, state =>
      (choice.ret,
        if choice.ret = 0 then { state with pingWaitLocked := true }
        else state)
  | .pingTimedLock deadline, _, state =>
      (if state.pingWaitLocked then ETIMEDOUT else 0,
        { state with pingWaitLocked := true }.note (.pingWait deadline))
  | .poll _, choice, state => (choice.ret = 0, state)
  | .pick, choice, state => (choice.count, state)
  | .arrive, choice, state =>
      ((), { state with
             inbound := Function.update state.inbound choice.count
               (state.inbound choice.count ++ choice.data) })
  | .enter routine, _, state => ((), state.enter routine)
  | .leave routine, _, state => ((), state.leave routine)
  | .enterSend pointer, _, state =>
      ((), { state with
             sending := (thread, pointer.owner) :: state.sending })
  | .leaveSend pointer, _, state =>
      ((), { state with
             sending := state.sending.erase (thread, pointer.owner) })
  | .note event, _, state => ((), state.note event)

end Sms112
