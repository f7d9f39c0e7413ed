import Sms112.Handler.Stages
import Sms112.Model.Frame

/-!
# One call of the handler

The socket calls of the handler, and what the handling of a PDU that has been
received leaves alone.
-/

namespace Sms112

open Resumption

variable {α : Type}

/-! ## The handling of a received PDU -/

/-- The operations that deliver the text at a pointer: library calls, the
record of the delivery, and reading the text. -/
def Op.delivers (printData : Option Nat) : Op → Bool
  | .note (.sipSendReq ..) | .note (.sendReport ..) => true
  | .readChars address => printData = some address
  | operation => operation.isLibrary

theorem Op.delivers.isDelivery
    {printData : Option Nat}
    (operation : Op)
    (delivers : operation.delivers printData) :
    operation.isDelivery := by
  unfold Op.delivers at delivers
  split at delivers
  case h_1 | h_2 | h_3 => rfl
  case h_4 =>
    cases operation <;> first | rfl | exact nomatch delivers

variable (printData : Option Nat)

theorem curlPerfRequest_delivers (url : Octets)
    (body contentType : Option Octets) :
    (curlPerfRequest url body contentType).Uses
      fun operation => operation.delivers printData :=
  .step rfl fun _ => trivial

variable (conf : SConf)

/-- The operations of a look-up. -/
def Op.isLookUp : Op → Bool
  | .snprintf .. | .curl .. => true
  | _ => false

/-- A look-up prints the URL and performs its transfer. -/
theorem geodataGet_lookUp (caller : Option Octets) (geoData : Octets) :
    (geodataGet conf caller geoData).Uses
      fun operation => operation.isLookUp := by
  unfold geodataGet
  cases caller with
  | none => trivial
  | some caller =>
      refine .step rfl fun printed => ?_
      dsimp only
      split
      · refine .bind (.step rfl fun _ => trivial) fun outcome => ?_
        split
        · split <;> trivial
        · trivial
      · trivial

theorem Op.isLookUp.delivers
    (operation : Op)
    (lookUp : operation.isLookUp) :
    operation.delivers printData := by
  cases operation <;> first | rfl | cases lookUp

/-- A look-up is a transfer, and reads and writes no memory of the handler. -/
theorem geodataGet_delivers (caller : Option Octets) (geoData : Octets) :
    (geodataGet conf caller geoData).Uses
      fun operation => operation.delivers printData :=
  (geodataGet_lookUp conf caller geoData).mono (Op.isLookUp.delivers printData)

theorem sipSendReq_delivers (caller : Octets) (text : Option Octets)
    (geodata : Octets) :
    (sipSendReq conf caller text geodata).Uses
      fun operation => operation.delivers printData := by
  refine .step rfl fun host => ?_
  split
  · trivial
  · split
    · trivial
    · exact (Program.uses_call _).mpr rfl

theorem sipResult_delivers (iFnRes : Int) :
    (sipResult iFnRes).Uses
      fun operation => operation.delivers printData := by
  unfold sipResult
  split
  · trivial
  · exact .step rfl fun _ => trivial

theorem readText_delivers :
    (readText printData).Uses
      fun operation => operation.delivers printData := by
  cases printData with
  | none => trivial
  | some address => exact .step (decide_eq_true rfl) fun _ => trivial

/-- Making the request, or leaving it, reads the text and nothing else of the
message. -/
theorem deliver_delivers (caller : Octets) (geodataResult : Int)
    (geodata : Octets) :
    (deliver conf caller printData geodataResult geodata).Uses
      fun operation => operation.delivers printData := by
  unfold deliver
  split
  · refine (readText_delivers printData).bind fun text => ?_
    refine (sipSendReq_delivers _ conf _ _ _).bind fun iFnRes => ?_
    exact .step rfl fun _ => sipResult_delivers _ iFnRes
  · trivial

/-- Neither does the report, which is one more transfer. -/
theorem sendReport_delivers (phoneNumber : Octets)
    (message : Option Octets) (resultString resultXML : Octets) :
    (sendReport conf phoneNumber message resultString resultXML).Uses
      fun operation => operation.delivers printData := by
  refine .step rfl fun _ => .step rfl fun tTime => ?_
  split
  · trivial
  · refine .step rfl fun converted => ?_
    split
    · trivial
    · refine .step rfl fun stamp => ?_
      dsimp only
      split
      · exact (curlPerfRequest_delivers _ _ _ _).bind fun _ => trivial
      · trivial

theorem deliverAndReport_delivers (caller : Octets) :
    (deliverAndReport conf caller printData).Uses
      fun operation => operation.delivers printData := by
  refine (geodataGet_delivers _ conf _ _).bind fun geodata => ?_
  refine (deliver_delivers _ conf _ _ _).bind fun result => ?_
  refine (readText_delivers printData).bind fun text => ?_
  exact (sendReport_delivers _ conf _ _ _ _).bind fun _ => trivial

/-- Request and report take delivery only, whatever the text is. -/
theorem deliverAndReport_delivery (caller : Octets)
    (printData : Option Nat) :
    (deliverAndReport conf caller printData).Uses
      fun operation => operation.isDelivery :=
  (deliverAndReport_delivers printData conf caller).mono
    Op.delivers.isDelivery

/-- The operation that sends. -/
def Op.isSend : Op → Bool
  | .send _ => true
  | _ => false

theorem Op.isMemory.isDelivery
    (operation : Op)
    (memory : operation.isMemory) :
    operation.isDelivery := by
  cases operation <;> first | rfl | exact nomatch memory

/-- Delivery sends nothing on the socket of the server. -/
theorem Op.isDelivery.isSend
    (operation : Op)
    (delivery : operation.isDelivery) :
    operation.isSend = false := by
  cases operation <;> first | rfl | exact nomatch delivery

/-- The operations that handle a PDU once it was received. -/
def Op.isHandling : Op → Bool
  | .enter .smppUnbindOper | .leave .smppUnbindOper
  | .setSmppConnected false => true
  | operation => operation.isDelivery || operation.isTransmission

theorem Op.isDelivery.handling
    (operation : Op)
    (delivery : operation.isDelivery) :
    operation.isHandling := by
  cases operation <;>
    simp_all [Op.isHandling, Op.isDelivery, Op.isLibrary, Op.isMemory]

theorem Op.isMemory.handling
    (operation : Op)
    (memory : operation.isMemory) :
    operation.isHandling := by
  cases operation <;>
    simp_all [Op.isHandling, Op.isDelivery, Op.isLibrary, Op.isMemory]

/-- A view that is blind to delivery, transmission and unbinding sees nothing
of what handling does. -/
theorem Op.isHandling.quiet
    {β : Type}
    (view : Event → Option β)
    (delivery : ∀ operation : Op, operation.isDelivery →
      operation.Quiet view)
    (transmission : ∀ operation : Op, operation.isTransmission →
      operation.Quiet view)
    (unbind : ∀ serial, view (.unbindReceived serial) = none)
    (operation : Op)
    (handling : operation.isHandling) :
    operation.Quiet view := by
  unfold Op.isHandling at handling
  split at handling
  case h_1 =>
    intro event noted
    cases event <;> simp only [Op.notes, Bool.false_eq_true] at noted
    exact unbind _
  case h_2 | h_3 => simp [Op.Quiet, Op.notes]
  case h_4 =>
    rcases Bool.or_eq_true_iff.mp handling with delivers | transmits
    · exact delivery operation delivers
    · exact transmission operation transmits

variable (lib : Smpp34)

section Handling

variable {allowed : Op → Prop} {lib}

/-- A message is handled by what its delivery performs and by what its
response does. -/
theorem smppDeliverSmOper_uses
    {bufSize : Nat}
    (delivery : ∀ operation : Op, operation.isDelivery → allowed operation)
    (responds : ∀ req garbage,
      (respond lib (deliverSmResp req garbage) bufSize).Uses allowed)
    (buf : Octets)
    (dataLen : Int)
    (seqNum : Nat) :
    (smppDeliverSmOper conf lib buf dataLen bufSize seqNum).Uses allowed := by
  have memory (operation : Op) (inMemory : operation.isMemory) :
      allowed operation :=
    delivery operation (Op.isMemory.isDelivery operation inMemory)
  refine .step (delivery _ rfl) fun garbage =>
    .step (delivery _ rfl) fun _ => ?_
  split
  · trivial
  · refine ((convertText_memory _ _ _ _).mono memory).bind
      fun converted => ?_
    cases converted with
    | none => trivial
    | some printData =>
        refine ((deliverAndReport_delivery conf _ _).mono delivery).bind
          fun _ => (responds _ garbage).bind fun _ => ?_
        exact ((deletePrintData_memory printData).mono memory).bind
          fun _ => trivial

variable
  (sends : ∀ response : Pdu, (lib.pack2 response localBufferSize).1 = 0 →
    allowed (.send (lib.pack2 response localBufferSize).2))
  (other : ∀ operation : Op, operation.isHandling →
    operation.isSend = false → allowed operation)

include sends other

theorem smppUnbindOper_uses (buf : Octets) (dataLen : Int)
    (seqNum : Nat) :
    (smppUnbindOper lib buf dataLen localBufferSize seqNum).Uses
      allowed := by
  refine .step (other _ rfl rfl) fun _ => .bind
    (.step (other _ rfl rfl) fun _ => ?_) fun _ =>
      .step (other _ rfl rfl) fun _ => trivial
  dsimp only
  split
  · trivial
  · exact respond_uses (sends _) (other _ rfl rfl)

/-- A request is handled by what its kind calls for, and sends nothing but
what was packed. -/
theorem operReqSwitch_uses (header : SPDUHdr) (buf : Octets) :
    (operReqSwitch conf lib header buf).Uses allowed := by
  unfold operReqSwitch
  split
  · exact smppDeliverSmOper_uses conf
      (fun operation delivery =>
        other operation (Op.isDelivery.handling operation delivery)
          (Op.isDelivery.isSend operation delivery))
      (fun _ _ => respond_uses (sends _) (other _ rfl rfl)) _ _ _
  · split
    · exact smppUnbindOper_uses sends other _ _ _
    · trivial

end Handling

/-- Whatever request of the server is served, serving it is handling. -/
theorem operReqSwitch_handling (header : SPDUHdr) (buf : Octets) :
    (operReqSwitch conf lib header buf).Uses
      fun operation => operation.isHandling :=
  operReqSwitch_uses conf (fun _ _ => rfl) (fun _ handling _ => handling)
    header buf

/-- What the handling of a PDU leaves alone: the streams and the sockets, the
store and the objects in it. -/
structure Undisturbed (before after : State) : Prop where
  inbound : after.inbound = before.inbound
  iSock : after.iSock = before.iSock
  sockets : after.sockets = before.sockets
  mapReq : after.mapReq = before.mapReq
  requests : after.requests = before.requests

namespace Undisturbed

theorem refl (state : State) : Undisturbed state state :=
  ⟨rfl, rfl, rfl, rfl, rfl⟩

theorem trans
    {first second third : State}
    (before : Undisturbed first second)
    (after : Undisturbed second third) :
    Undisturbed first third where
  inbound := after.inbound.trans before.inbound
  iSock := after.iSock.trans before.iSock
  sockets := after.sockets.trans before.sockets
  mapReq := after.mapReq.trans before.mapReq
  requests := after.requests.trans before.requests

end Undisturbed

/-- Handling receives nothing and touches neither the connection nor a request
of ours. -/
theorem Op.isHandling.untouched
    {operation : Op}
    (handling : operation.isHandling) :
    operation.writes .inbound = false ∧ operation.writes .iSock = false ∧
      operation.writes .sockets = false ∧
      operation.writes .mapReq = false ∧
      operation.writes .requests = false := by
  cases operation <;>
    first
      | exact ⟨rfl, rfl, rfl, rfl, rfl⟩
      | simp [Op.isHandling, Op.isDelivery, Op.isLibrary, Op.isMemory,
          Op.isTransmission] at handling

/-- So it leaves what has arrived, the socket and the requests as they are. -/
theorem exec_undisturbed
    (thread : Thread)
    {operation : Op}
    (handling : operation.isHandling)
    (choice : Choice)
    (state : State) :
    Undisturbed state (exec thread operation choice state).2 := by
  have frame := exec_frame thread operation choice state
  obtain ⟨inbound, iSock, sockets, mapReq, requests⟩ :=
    Op.isHandling.untouched handling
  exact ⟨frame .inbound inbound, frame .iSock iSock, frame .sockets sockets,
    frame .mapReq mapReq, frame .requests requests⟩

variable (thread : Thread) (oracle : Op → Choice)

/-- So does a whole program of it. -/
theorem eval_undisturbed
    {program : Prog α}
    (uses : program.Uses fun operation => operation.isHandling)
    (state : State) :
    Undisturbed state (program.eval (exec thread) oracle state).2 :=
  uses.eval_preserves Undisturbed.refl
    (fun _ _ _ before after => before.trans after)
    (fun _ choice state handling =>
      exec_undisturbed thread handling choice state) state

/-! ## The socket calls -/

/-- The next call sees a whole header on the connection. -/
def HeaderVisible (state : State) : Prop :=
  headerLength ≤ state.available.length ∧
    (headerLength : Int) ≤ (oracle (.peek headerLength)).ret

/-- On an open socket what has arrived on it can be received. -/
theorem available_of_serial
    {state : State}
    {serial : Nat}
    (open_socket : state.serial = some serial) :
    state.available = state.inbound serial := by
  rw [State.available, open_socket]

/-- `recv` fills the whole buffer, or the comparison of its result with the
size fails, except for sizes no stream holds. -/
theorem equalsUnsigned_count
    {count size : Nat}
    (inSize : count ≤ size)
    (small : size < 2 ^ 32) :
    equalsUnsigned (count : Int) size = decide (count = size) :=
  equalsUnsigned_natCast (by omega)

/-- Where a whole header is visible, the handler sees it. -/
theorem tcpPeek_of_visible
    {state : State}
    (visible : HeaderVisible oracle state) :
    ∃ serial, state.serial = some serial ∧
      (tcpPeek headerLength).eval (exec thread) oracle state =
        ((0, (state.inbound serial).take headerLength),
          state.useSocket thread serial) := by
  obtain ⟨enough, whole⟩ := visible
  have plural : 2 ≤ headerLength := by decide
  rcases state.peek_cases thread (oracle (.peek headerLength)) headerLength
    with ⟨serial, count, open_socket, equal, positive, inSize, inStream,
      peeked⟩ | ⟨ret, none, equal, peeked⟩
  · rw [available_of_serial open_socket] at enough
    have full := (State.le_recvCount_iff plural headerLength
      (state.inbound serial) _).mpr ⟨whole, Nat.le_refl _, enough⟩
    obtain rfl : count = headerLength := by omega
    refine ⟨serial, open_socket, ?_⟩
    have seen : (call (.peek headerLength)).eval (exec thread) oracle state =
        (((headerLength : Int), (state.inbound serial).take headerLength),
          state.useSocket thread serial) := peeked
    unfold tcpPeek
    rw [Program.eval_bind_of_eq _ _ seen]
    rfl
  · exfalso
    cases open_socket : state.serial with
    | none =>
        simp [State.available, open_socket, headerLength] at enough
    | some serial =>
        rw [available_of_serial open_socket] at enough
        have full := (State.le_recvCount_iff plural headerLength
          (state.inbound serial) _).mpr ⟨whole, Nat.le_refl _, enough⟩
        have short := equal serial open_socket
        omega

/-- Otherwise the call fails, and nothing but the record of sockets
changes. -/
theorem tcpPeek_of_not_visible
    {state : State}
    (hidden : ¬HeaderVisible oracle state) :
    ∃ code data served, code ≠ 0 ∧
      (tcpPeek headerLength).eval (exec thread) oracle state =
        ((code, data), { state with served := served }) := by
  rcases state.peek_cases thread (oracle (.peek headerLength)) headerLength
    with ⟨serial, count, open_socket, equal, positive, inSize, inStream,
      peeked⟩ | ⟨ret, none, -, peeked⟩
  · have short : count ≠ headerLength := by
      rintro rfl
      have plural : 2 ≤ headerLength := by decide
      have full := (State.le_recvCount_iff plural headerLength
        (state.inbound serial) _).mp (Int.le_of_eq equal.symm)
      exact hidden ⟨by rw [available_of_serial open_socket]; exact full.2.2,
        full.1⟩
    have seen : (call (.peek headerLength)).eval (exec thread) oracle state =
        (((count : Int), (state.inbound serial).take count),
          state.useSocket thread serial) := peeked
    unfold tcpPeek
    rw [Program.eval_bind_of_eq _ _ seen]
    refine ⟨-1, (state.inbound serial).take count,
      (state.useSocket thread serial).served, by decide, ?_⟩
    simp only [equalsUnsigned_count inSize (by decide), short,
      decide_false, Bool.false_eq_true, if_false]
    rfl
  · have seen : (call (.peek headerLength)).eval (exec thread) oracle state =
        ((ret, []), state) := peeked
    unfold tcpPeek
    rw [Program.eval_bind_of_eq _ _ seen]
    refine ⟨-1, [], state.served, by decide, ?_⟩
    rcases none with rfl | rfl <;> rfl

/-- The number of octets a call of `recv` takes off the stream. -/
def recvTaken (size : Nat) (into : Option (Option Nat))
    (state : State) : Nat :=
  if into = some none then 0
  else (recvCount size state.available (oracle (.recv size into)).ret).toNat

/-- Octets were taken off the front of the stream, and the connection is the
same. -/
structure Received (count : Nat) (before after : State) : Prop where
  available : after.available = before.available.drop count
  iSock : after.iSock = before.iSock
  sockets : after.sockets = before.sockets
  tcpIsConnected : after.tcpIsConnected = before.tcpIsConnected

namespace Received

theorem serial
    {count : Nat}
    {before after : State}
    (received : Received count before after) :
    after.serial = before.serial := by
  rw [State.serial, State.serial, received.iSock, received.sockets]

theorem refl (state : State) : Received 0 state state :=
  ⟨rfl, rfl, rfl, rfl⟩

theorem trans
    {earlier later : Nat}
    {first second third : State}
    (before : Received earlier first second)
    (after : Received later second third) :
    Received (earlier + later) first third where
  available := by
    rw [after.available, before.available, List.drop_drop]
  iSock := after.iSock.trans before.iSock
  sockets := after.sockets.trans before.sockets
  tcpIsConnected := after.tcpIsConnected.trans before.tcpIsConnected

end Received

/-- `recv` depends on the stream only. -/
theorem recvTaken_congr
    {first second : State}
    (same : first.available = second.available)
    (size : Nat)
    (into : Option (Option Nat)) :
    recvTaken oracle size into first = recvTaken oracle size into second := by
  unfold recvTaken
  rw [same]

theorem tcpRecv_quiet
    {β : Type}
    (view : Event → Option β)
    (hidden : ∀ serial data, view (.received serial data) = none)
    (size : Nat)
    (into : Option (Option Nat)) :
    (tcpRecv size into).Uses (Op.Quiet view) :=
  Program.Uses.bind (by simpa using Op.recv_quiet view hidden size into)
    fun _ => trivial

/-- No more is received than was asked for and has arrived. -/
theorem recvTaken_le
    (size : Nat)
    (into : Option (Option Nat))
    (state : State) :
    recvTaken oracle size into state ≤ size ∧
      recvTaken oracle size into state ≤ state.available.length := by
  unfold recvTaken
  split
  · omega
  · rcases State.recvCount_cases size state.available
      (oracle (.recv size into)).ret with
      failed | nothing | ⟨count, equal, positive, inSize, inStream⟩ <;> omega

/-- A call of `recv` takes octets off the front of the stream, and it succeeds
when these are all it asked for. -/
theorem tcpRecv_eval
    {size : Nat}
    (small : size < 2 ^ 32)
    (into : Option (Option Nat))
    (state : State) :
    ∃ code later,
      (tcpRecv size into).eval (exec thread) oracle state =
        ((code, state.available.take (recvTaken oracle size into state)),
          later) ∧
      Received (recvTaken oracle size into state) state later ∧
      (0 < size → size < 2 ^ 32 - 1 →
        (code = 0 ↔ recvTaken oracle size into state = size)) := by
  unfold recvTaken
  rcases state.recv_cases thread (oracle (.recv size into)) size into with
    ⟨serial, count, open_socket, buffer, equal, positive, inSize, inStream,
      result⟩ | ⟨ret, none, equal, result⟩
  · have received : (call (.recv size into)).eval (exec thread) oracle state =
        (((count : Int), (state.inbound serial).take count),
          state.takeOctets thread serial count into) := result
    have usable : into ≠ some Option.none := fun null => by
      have := buffer null
      omega
    have stream := available_of_serial open_socket
    have later : (state.takeOctets thread serial count into).serial =
        some serial := open_socket
    refine ⟨if count = size then 0 else -1,
      state.takeOctets thread serial count into, ?_, ⟨?_, rfl, rfl, rfl⟩,
      ?_⟩
    · unfold tcpRecv
      rw [Program.eval_bind_of_eq _ _ received, if_neg usable, stream, equal]
      simp only [equalsUnsigned_count inSize small, decide_eq_true_eq]
      rfl
    · rw [if_neg usable, stream, equal, available_of_serial later]
      exact Function.update_self _ _ _
    · intro _ _
      rw [if_neg usable, stream, equal, Int.toNat_natCast]
      split <;> simp [*]
  · have received : (call (.recv size into)).eval (exec thread) oracle state =
        ((ret, []), state) := result
    have nothing : (if into = some Option.none then 0 else
        (recvCount size state.available
          (oracle (.recv size into)).ret).toNat) = 0 := by
      split
      · rfl
      next usable =>
        cases open_socket : state.serial with
        | none =>
            have empty : state.available = [] := by
              rw [State.available, open_socket]
            rw [empty]
            unfold recvCount
            split <;> simp
        | some serial =>
            rw [available_of_serial open_socket,
              equal serial open_socket usable]
            omega
    rw [nothing]
    refine ⟨if equalsUnsigned ret size then 0 else -1, state, ?_,
      Received.refl state, ?_⟩
    · unfold tcpRecv
      rw [Program.eval_bind_of_eq _ _ received]
      rfl
    · intro positive bounded
      have different : equalsUnsigned ret size = false := by
        unfold equalsUnsigned
        rw [decide_eq_false_iff_not]
        omega
      simp only [different, Bool.false_eq_true, if_false]
      omega

end Sms112
