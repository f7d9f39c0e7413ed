import Sms112.Model.Operations

/-!
# What the operations leave alone

Every operation has a footprint, the fields of the state it may write; all
other fields are as they were. The log, to which an operation can only add, is
not among them.
-/

namespace Sms112

/-- The fields of the state, without the log. -/
inductive Field
  | iSock
  | tcpIsConnected
  | smppIsConnected
  | uiSecNum
  | iStop
  | pingWaitLocked
  | receiverCreated
  | mapReq
  | requests
  | buffers
  | heap
  | sockets
  | established
  | inbound
  | nextSerial
  | nextOwner
  | nextBlock
  | busy
  | sending
  | held
  | served
  | lastRecv

/-- A field has the same value in two states. -/
def Field.Same (before after : State) : Field → Prop
  | iSock => after.iSock = before.iSock
  | tcpIsConnected => after.tcpIsConnected = before.tcpIsConnected
  | smppIsConnected => after.smppIsConnected = before.smppIsConnected
  | uiSecNum => after.uiSecNum = before.uiSecNum
  | iStop => after.iStop = before.iStop
  | pingWaitLocked => after.pingWaitLocked = before.pingWaitLocked
  | receiverCreated => after.receiverCreated = before.receiverCreated
  | mapReq => after.mapReq = before.mapReq
  | requests => after.requests = before.requests
  | buffers => after.buffers = before.buffers
  | heap => after.heap = before.heap
  | sockets => after.sockets = before.sockets
  | established => after.established = before.established
  | inbound => after.inbound = before.inbound
  | nextSerial => after.nextSerial = before.nextSerial
  | nextOwner => after.nextOwner = before.nextOwner
  | nextBlock => after.nextBlock = before.nextBlock
  | busy => after.busy = before.busy
  | sending => after.sending = before.sending
  | held => after.held = before.held
  | served => after.served = before.served
  | lastRecv => after.lastRecv = before.lastRecv

/-- The fields an operation may write. -/
def Op.writes : Op → Field → Bool
  | .socket, .iSock | .socket, .sockets | .socket, .nextSerial => true
  | .connect, .established => true
  | .close, .sockets => true
  | .send _, .served => true
  | .recv .., .served | .recv .., .inbound | .recv .., .buffers
  | .recv .., .lastRecv => true
  | .peek _, .served => true
  | .setSock _, .iSock => true
  | .setTcpConnected _, .tcpIsConnected => true
  | .setSmppConnected _, .smppIsConnected => true
  | .incSecNum, .uiSecNum => true
  | .stopSmppReceiverThread, .iStop
  | .stopSmppReceiverThread, .pingWaitLocked => true
  | .reqStorAdd .., .mapReq => true
  | .reqStorGetAndRem _, .mapReq | .reqStorGetAndRem _, .held => true
  | .newReqData, .requests | .newReqData, .nextOwner => true
  | .deleteReqData _, .requests | .deleteReqData _, .buffers => true
  | .setReqBuf .., .requests | .setReqDataLen .., .requests => true
  | .unlockReq _, .requests | .unlockReq _, .held => true
  | .timedLockReq .., .requests => true
  | .malloc _, .buffers | .malloc _, .nextBlock => true
  | .newChars _, .heap | .newChars _, .nextBlock => true
  | .writeChars .., .heap | .deleteChars _, .heap => true
  | .linkTlv _, .heap | .linkTlv _, .nextBlock => true
  | .destroyTlv _, .heap => true
  | .createReceiver, .receiverCreated => true
  | .initPingWait, .pingWaitLocked | .pingTimedLock _, .pingWaitLocked => true
  | .arrive, .inbound => true
  | .enter _, .busy | .enter _, .served | .leave _, .busy => true
  | .enterSend _, .sending | .leaveSend _, .sending => true
  | _, _ => false

/-- What an operation does not write, it leaves alone. -/
theorem exec_frame
    (thread : Thread)
    (operation : Op)
    (choice : Choice)
    (state : State)
    (field : Field)
    (untouched : operation.writes field = false) :
    field.Same state (exec thread operation choice state).2 := by
  cases operation
  case socket =>
    dsimp only [exec]
    rcases state.socket_cases choice with ⟨_, _, _, _, equal⟩ | equal <;>
      rw [equal] <;> cases field <;> first | rfl | cases untouched
  case connect =>
    dsimp only [exec]
    rcases state.connect_cases choice with ⟨_, _, _, _, equal⟩ | equal <;>
      rw [equal] <;> cases field <;> first | rfl | cases untouched
  case fcntl =>
    dsimp only [exec]
    rcases state.fcntl_cases choice with ⟨_, _, _, _, equal⟩ | equal <;>
      rw [equal] <;> cases field <;> rfl
  case close =>
    dsimp only [exec]
    rcases state.close_cases choice with ⟨_, _, _, equal⟩ | equal <;>
      rw [equal] <;> cases field <;> first | rfl | cases untouched
  case send data =>
    dsimp only [exec]
    rcases state.send_cases thread choice data with
      ⟨_, _, _, equal⟩ | equal <;>
      rw [equal] <;> cases field <;> first | rfl | cases untouched
  case recv size into =>
    dsimp only [exec]
    rcases state.recv_cases thread choice size into with
      ⟨_, _, _, _, _, _, _, _, equal⟩ | ⟨_, _, _, equal⟩ <;>
      rw [equal] <;> cases field <;> first | rfl | cases untouched
  case peek size =>
    dsimp only [exec]
    rcases state.peek_cases thread choice size with
      ⟨_, _, _, _, _, _, _, equal⟩ | ⟨_, _, _, equal⟩ <;>
      rw [equal] <;> cases field <;> first | rfl | cases untouched
  case reqStorAdd seqNum pointer =>
    dsimp only [exec]
    rcases state.storAdd_cases seqNum pointer with
      equal | ⟨_, _, equal⟩ <;>
      rw [equal] <;> cases field <;> first | rfl | cases untouched
  case reqStorGetAndRem seqNum =>
    dsimp only [exec]
    rcases state.storGetAndRem_cases seqNum with
      equal | ⟨_, _, equal⟩ <;>
      rw [equal] <;> cases field <;> first | rfl | cases untouched
  case timedLockReq pointer deadline =>
    dsimp only [exec]
    rcases state.timedLockReq_cases pointer with
      ⟨_, _, _, equal⟩ | ⟨_, _, equal⟩ <;>
      rw [equal] <;> cases field <;> first | rfl | cases untouched
  case malloc size =>
    dsimp only [exec]
    split <;> cases field <;> first | rfl | cases untouched
  case writeChars address offset data =>
    dsimp only [exec]
    rcases state.writeChars_cases address offset data with
      equal | ⟨_, equal⟩ <;>
      rw [equal] <;> cases field <;> first | rfl | cases untouched
  case initPingWait =>
    dsimp only [exec]
    split <;> cases field <;> first | rfl | cases untouched
  all_goals
    cases field <;> first | rfl | cases untouched

end Sms112
