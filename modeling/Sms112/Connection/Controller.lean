import Sms112.Requests.Calls

/-!
# The controller and the other threads

The first requester, which is the main thread and then the ping thread, is the
only thread that opens and closes the connection. What the receiver and the
environment can do to it is clear its flags. An assertion that lasts through
this holds throughout every run of the gateway, if the controller's functions
respect it.
-/

namespace Sms112

open Resumption

variable {α : Type}

/-- The thread that opens and closes the connection. -/
abbrev controller : Thread :=
  .requester 0

/-! ## What the other threads do to the connection -/

/-- The connection is the same, its flags may have been cleared, and nothing
but the calls of the receiver began or ended. -/
structure Peripheral (before after : State) : Prop where
  iSock : after.iSock = before.iSock
  sockets : after.sockets = before.sockets
  established : after.established = before.established
  busy : ∀ routine, routine ≠ .smppHandler → routine ≠ .smppUnbindOper →
    after.busy routine = before.busy routine
  tcpIsConnected : after.tcpIsConnected → before.tcpIsConnected
  smppIsConnected : after.smppIsConnected → before.smppIsConnected

namespace Peripheral

theorem refl (state : State) : Peripheral state state :=
  ⟨rfl, rfl, rfl, fun _ _ _ => rfl, id, id⟩

theorem trans
    {first second third : State}
    (before : Peripheral first second)
    (after : Peripheral second third) :
    Peripheral first third where
  iSock := after.iSock.trans before.iSock
  sockets := after.sockets.trans before.sockets
  established := after.established.trans before.established
  busy routine handler unbind :=
    (after.busy routine handler unbind).trans
      (before.busy routine handler unbind)
  tcpIsConnected connected :=
    before.tcpIsConnected (after.tcpIsConnected connected)
  smppIsConnected connected :=
    before.smppIsConnected (after.smppIsConnected connected)

/-- The socket in `g_iSock` is the same one. -/
theorem serial
    {before after : State}
    (peripheral : Peripheral before after) :
    after.serial = before.serial := by
  unfold State.serial
  rw [peripheral.sockets, peripheral.iSock]

end Peripheral

/-- The operations of the receiver and the environment, and most of those of
the controller. -/
def Op.isPeripheral : Op → Bool
  | .socket | .connect | .close | .setSock _ | .setTcpConnected true
  | .setSmppConnected true => false
  | .enter .smppHandler | .leave .smppHandler | .enter .smppUnbindOper
  | .leave .smppUnbindOper => true
  | .enter _ | .leave _ => false
  | _ => true

/-- Such an operation opens and closes no connection and sets no flag. -/
theorem exec_peripheral
    (thread : Thread)
    {operation : Op}
    (peripheral : operation.isPeripheral)
    (choice : Choice)
    (state : State) :
    Peripheral state (exec thread operation choice state).2 := by
  have frame := exec_frame thread operation choice state
  cases operation
  case setTcpConnected value =>
    cases value
    · exact ⟨rfl, rfl, rfl, fun _ _ _ => rfl, nofun, id⟩
    · cases peripheral
  case setSmppConnected value =>
    cases value
    · exact ⟨rfl, rfl, rfl, fun _ _ _ => rfl, id, nofun⟩
    · cases peripheral
  case enter routine =>
    refine ⟨rfl, rfl, rfl, fun other handler unbind => ?_, id, id⟩
    cases routine <;>
      first
        | exact Function.update_of_ne ‹_› _ _
        | cases peripheral
  case leave routine =>
    refine ⟨rfl, rfl, rfl, fun other handler unbind => ?_, id, id⟩
    cases routine <;>
      first
        | exact Function.update_of_ne ‹_› _ _
        | cases peripheral
  all_goals
    first
      | exact ⟨frame .iSock rfl, frame .sockets rfl, frame .established rfl,
          fun routine _ _ => congrFun (frame .busy rfl) routine,
          fun connected => (frame .tcpIsConnected rfl).symm.trans connected,
          fun connected =>
            (frame .smppIsConnected rfl).symm.trans connected⟩
      | cases peripheral

/-! ## Programs of the other threads -/

/-- The operations of an exchange, of the receiver and of the environment:
nothing is opened or closed, and the ping thread does not wait. -/
def Op.isTraffic : Op → Bool
  | .socket | .connect | .fcntl | .shutdown | .close | .setSock _
  | .setTcpConnected true | .setSmppConnected true | .createReceiver
  | .createPing | .initPingWait | .pingTimedLock _ => false
  | .enter .smppHandler | .leave .smppHandler | .enter .smppUnbindOper
  | .leave .smppUnbindOper => true
  | .enter _ | .leave _ => false
  | .note (.decoded ..) | .note (.handed ..) | .note (.sipSendReq ..)
  | .note (.sendReport ..) => true
  | .note _ => false
  | _ => true

/-- Traffic opens and closes no connection. -/
theorem Op.isTraffic.peripheral
    (operation : Op)
    (traffic : operation.isTraffic) :
    operation.isPeripheral := by
  cases operation
  case setTcpConnected value => cases value <;> first | rfl | cases traffic
  case setSmppConnected value => cases value <;> first | rfl | cases traffic
  case enter routine => cases routine <;> first | rfl | cases traffic
  case leave routine => cases routine <;> first | rfl | cases traffic
  all_goals first | rfl | cases traffic

/-- Handling a PDU is traffic. -/
theorem Op.isHandling.traffic
    (operation : Op)
    (handling : operation.isHandling) :
    operation.isTraffic := by
  cases operation
  case setTcpConnected value => cases value <;> first | rfl | cases handling
  case setSmppConnected value =>
    cases value <;> first | rfl | cases handling
  case enter routine => cases routine <;> first | rfl | cases handling
  case leave routine => cases routine <;> first | rfl | cases handling
  case note event => cases event <;> first | rfl | cases handling
  all_goals first | rfl | cases handling

section Traffic

variable {allowed : Op → Prop} {lib : Smpp34} (conf : SConf)
variable
  (other : ∀ operation : Op, operation.isTraffic →
    operation.isSend = false → allowed operation)

include other

theorem smppSend_uses
    {data : Octets}
    (sent : allowed (.send data))
    (seqNum : Nat)
    (reqData : ReqPtr) :
    (smppSend data seqNum reqData).Uses allowed := by
  refine .step (other _ rfl rfl) fun _ => .bind
    (.step (other _ rfl rfl) fun added => ?_) fun _ =>
      .step (other _ rfl rfl) fun _ => trivial
  split
  · trivial
  · refine (tcpSend_uses sent (other _ rfl rfl)).bind fun sent => ?_
    split
    · trivial
    · refine .step (other _ rfl rfl) fun garbage =>
        (makeTimespecTimeout_uses (other _ rfl rfl) _ _ _).bind fun _ =>
          .step (other _ rfl rfl) fun _ =>
            .step (other _ rfl rfl) fun dataLen => ?_
      split <;> trivial

theorem operResp_uses (header : SPDUHdr) :
    (operResp header).Uses allowed := by
  refine .step (other _ rfl rfl) fun found => ?_
  match found with
  | none => trivial
  | some reqData =>
      refine .step (other _ rfl rfl) fun buf => .step (other _ rfl rfl)
        fun _ => .step (other _ rfl rfl) fun buf => .bind
          (.step (other _ rfl rfl) fun _ => trivial) fun received => ?_
      dsimp only
      split
      · exact .step (other _ rfl rfl) fun _ => .step (other _ rfl rfl)
          fun _ => .step (other _ rfl rfl) fun _ => trivial
      · exact .step (other _ rfl rfl) fun _ => trivial

variable
  (sends : ∀ pdu : Pdu, (lib.pack2 pdu localBufferSize).1 = 0 →
    allowed (.send (lib.pack2 pdu localBufferSize).2))

include sends

/-- An exchange sends nothing but what was packed. -/
theorem exchange_uses (request : Pdu) (respId : Nat) (freesTlv : Bool) :
    (exchange lib request respId freesTlv).Uses allowed := by
  unfold exchange
  dsimp only
  split
  next unpacked => trivial
  next packed =>
    refine .step (other _ rfl rfl) fun reqData =>
      (smppSend_uses other (sends request (not_not.mp packed)) _ _).bind
        fun iFnRes => ?_
    split
    · exact .step (other _ rfl rfl) fun _ => trivial
    · exact (readResponse_uses (fun _ => other _ rfl rfl)
        (fun _ _ => other _ rfl rfl) (fun _ => other _ rfl rfl)
        (fun _ => other _ rfl rfl) lib _ _ _ _).bind fun _ =>
          .step (other _ rfl rfl) fun _ => trivial

/-- Handling a request sends nothing but what was packed, and the rest of it is
traffic. -/
theorem smppOperReq_uses (header : SPDUHdr) :
    (smppOperReq conf lib header).Uses allowed := by
  unfold smppOperReq
  split
  · trivial
  · refine .bind (.step (other _ rfl rfl) fun _ => trivial)
      fun received => ?_
    dsimp only
    split
    · trivial
    · exact .step (other _ rfl rfl) fun _ =>
        (operReqSwitch_uses conf sends (fun operation handling =>
          other operation (Op.isHandling.traffic operation handling))
            header _).bind fun _ => trivial

/-- So does handling a PDU, be it a request or a response. -/
theorem smppHandler_uses : (smppHandler conf lib).Uses allowed := by
  refine .step (other _ rfl rfl) fun _ => .bind
    (.bind (.step (other _ rfl rfl) fun _ => trivial) fun peeked => ?_)
      fun _ => .step (other _ rfl rfl) fun _ => trivial
  dsimp only
  split
  · trivial
  · split
    · exact operResp_uses other _
    · exact smppOperReq_uses conf other sends _

/-- The receiver sends nothing but what was packed. -/
theorem msgReceiver_uses : (msgReceiver conf lib).Uses allowed := by
  refine .step (other _ rfl rfl) fun created => ?_
  split
  · trivial
  · refine .step (other _ rfl rfl) fun iStop => ?_
    split
    · trivial
    · refine .step (other _ rfl rfl) fun fd =>
        .step (other _ rfl rfl) fun pollIn => ?_
      dsimp only
      split
      · exact (smppHandler_uses conf other sends).bind fun _ => trivial
      · trivial

end Traffic

variable (conf : SConf) (lib : Smpp34)

theorem exchange_peripheral (request : Pdu) (respId : Nat)
    (freesTlv : Bool) :
    (exchange lib request respId freesTlv).Uses
      fun operation => operation.isPeripheral :=
  exchange_uses (fun operation traffic _ =>
    Op.isTraffic.peripheral operation traffic) (fun _ _ => rfl) request respId
      freesTlv

theorem msgReceiver_traffic :
    (msgReceiver conf lib).Uses fun operation => operation.isTraffic :=
  msgReceiver_uses conf (fun _ traffic _ => traffic) fun _ _ => rfl

theorem environment_traffic :
    environment.Uses fun operation => operation.isTraffic :=
  environment_uses rfl rfl rfl

/-- The operations of the exchanges that the controller begins. -/
def Op.isExchange : Op → Bool
  | .setSmppConnected _ | .enter .smppConnect | .leave .smppConnect
  | .enter .smppDisconn | .leave .smppDisconn => true
  | operation => operation.isTraffic

theorem Op.isTraffic.isExchange
    (operation : Op)
    (traffic : operation.isTraffic) :
    operation.isExchange := by
  unfold Op.isExchange
  split <;> first | rfl | exact traffic

section Exchanges

variable {allowed : Op → Prop} {lib}
variable
  (other : ∀ operation : Op, operation.isExchange →
    operation.isSend = false → allowed operation)
  (sends : ∀ pdu : Pdu, (lib.pack2 pdu localBufferSize).1 = 0 →
    allowed (.send (lib.pack2 pdu localBufferSize).2))

include other sends

theorem exchange_uses_of_isExchange (request : Pdu) (respId : Nat)
    (freesTlv : Bool) :
    (exchange lib request respId freesTlv).Uses allowed :=
  exchange_uses (fun operation traffic =>
    other operation (Op.isTraffic.isExchange operation traffic)) sends
      request respId freesTlv

theorem smppConnect_uses : (smppConnect conf lib).Uses allowed := by
  refine .step (other _ rfl rfl) fun _ => .bind
    (.step (other _ rfl rfl) fun seqNum =>
      (exchange_uses_of_isExchange other sends _ _ _).bind
        fun iRetVal => ?_) fun _ => .step (other _ rfl rfl) fun _ => trivial
  dsimp only
  split
  · exact .step (other _ rfl rfl) fun _ => trivial
  · trivial

theorem smppDisconn_uses : (smppDisconn lib).Uses allowed :=
  .step (other _ rfl rfl) fun _ => .bind
    (.step (other _ rfl rfl) fun _ => .step (other _ rfl rfl) fun _ =>
      exchange_uses_of_isExchange other sends _ _ _)
        fun _ => .step (other _ rfl rfl) fun _ => trivial

theorem smppEnqLink_uses : (smppEnqLink lib).Uses allowed :=
  .step (other _ rfl rfl) fun _ =>
    exchange_uses_of_isExchange other sends _ _ _

end Exchanges

theorem smppConnect_exchange :
    (smppConnect conf lib).Uses fun operation => operation.isExchange :=
  smppConnect_uses conf (fun _ exchange _ => exchange) fun _ _ => rfl

theorem smppDisconn_exchange :
    (smppDisconn lib).Uses fun operation => operation.isExchange :=
  smppDisconn_uses (fun _ exchange _ => exchange) fun _ _ => rfl

theorem smppEnqLink_exchange :
    (smppEnqLink lib).Uses fun operation => operation.isExchange :=
  smppEnqLink_uses (fun _ exchange _ => exchange) fun _ _ => rfl

/-! ## The protocol of the connection -/

/-- Only the controller relies on the others. -/
def connectionProtocol (inv : State → Prop) : Protocol Thread State where
  inv := inv
  rely thread before after := thread = controller → Peripheral before after
  rely_refl _ state _ := .refl state
  rely_trans _ _ _ _ before after same := (before same).trans (after same)

section Soundness

variable {inv : State → Prop}
variable {condition : Machine.Condition Op Thread Choice State}

/-- A triple of the controller. -/
abbrev ControllerTriple (condition : Machine.Condition Op Thread Choice State)
    (inv : State → Prop) (pre : State → Prop) (program : Prog α)
    (post : α → State → Prop) : Prop :=
  (connectionProtocol inv).Triple exec condition controller pre program post

/-- An assertion of the controller that lasts through the steps of the
others. -/
def Lasting (assertion : State → Prop) : Prop :=
  ∀ before after, assertion before → Peripheral before after →
    assertion after

/-- The controller relies on nothing else, so an assertion that lasts is stable
for it. -/
theorem Lasting.stable
    {assertion : State → Prop}
    (lasting : Lasting assertion) :
    (connectionProtocol inv).Stable controller assertion :=
  fun before after _ holds rely _ => lasting before after holds (rely rfl)

/-- Two assertions that last, last together. -/
theorem Lasting.conj
    {first second : State → Prop}
    (firstLasting : Lasting first)
    (secondLasting : Lasting second) :
    Lasting fun state => first state ∧ second state :=
  fun before after holds peripheral =>
    ⟨firstLasting before after holds.1 peripheral,
      secondLasting before after holds.2 peripheral⟩

theorem Lasting.const (proposition : Prop) :
    Lasting fun _ => proposition :=
  fun _ _ holds _ => holds

/-- The other threads rely on nothing, so the controller only has to keep the
invariant. -/
theorem controller_keeps
    {before after : State}
    (invAfter : inv after) :
    (connectionProtocol inv).Keeps controller before after :=
  ⟨invAfter, fun _ different same => absurd same different⟩

/-- One operation of the controller. -/
theorem controller_call
    {operation : Op}
    {pre : State → Prop}
    {post : Res operation → State → Prop}
    (lasting : Lasting pre)
    (postLasting : ∀ result, Lasting (post result))
    (outcome : ∀ state choice, inv state → pre state →
      condition controller operation choice state →
        inv (exec controller operation choice state).2 ∧
          post (exec controller operation choice state).1
            (exec controller operation choice state).2) :
    ControllerTriple condition inv pre (call operation) post :=
  .call lasting.stable (fun result => (postLasting result).stable)
    fun state choice holds pre admissible =>
      have ⟨invAfter, post⟩ := outcome state choice holds pre admissible
      ⟨controller_keeps invAfter, post⟩

/-- At a return the assertion in front of it has to entail the one for the
value. -/
theorem controller_returns
    {pre : State → Prop}
    {post : α → State → Prop}
    {value : α}
    (lasting : Lasting (post value))
    (entails : ∀ state, inv state → pre state → post value state) :
    ControllerTriple condition inv pre (.ret value) post :=
  .returns lasting.stable entails

/-- Peripheral operations preserve what lasts. -/
theorem peripheral_triple
    {thread : Thread}
    {program : Prog α}
    {assertion : State → Prop}
    (kept : Lasting inv)
    (uses : program.Uses fun operation => operation.isPeripheral)
    (stable : (connectionProtocol inv).Stable thread assertion) :
    (connectionProtocol inv).Triple exec condition thread assertion program
      fun _ => assertion := by
  refine Protocol.Triple.unobtrusive uses stable ?_
  intro operation state choice peripheral holds _
  have step := exec_peripheral thread peripheral choice state
  exact ⟨kept _ _ holds step, fun _ _ => step⟩

/-- A peripheral call of the controller keeps whatever lasts. -/
theorem peripheral_call
    {operation : Op}
    {assertion : State → Prop}
    (kept : Lasting inv)
    (peripheral : operation.isPeripheral)
    (lasting : Lasting assertion) :
    ControllerTriple condition inv assertion (call operation)
      fun _ => assertion :=
  peripheral_triple kept ⟨peripheral, fun _ => trivial⟩ lasting.stable

end Soundness

/-! ## Runs of the gateway -/

section Runs

variable {condition : Machine.Condition Op Thread Choice State}
variable {entry : Label → State → Prop}

/-- Only the controller relies on the others, and it tolerates all they
do. -/
structure Tolerant (protocol : Protocol Thread State) : Prop where
  free : ∀ thread before after, thread ≠ controller →
    protocol.rely thread before after
  traffic : ∀ thread operation choice state, operation.isTraffic →
    protocol.inv state →
    protocol.inv (exec thread operation choice state).2 ∧
      protocol.rely controller state (exec thread operation choice state).2

/-- The invariant holds throughout every run in which the controller's four
programs keep to the protocol. -/
theorem Tolerant.gateway
    {protocol : Protocol Thread State}
    (tolerant : Tolerant protocol)
    (stable : ∀ label, protocol.Stable controller (entry label))
    (atStop : ∀ label state, entry label state → entry .stopped state)
    (atMain : protocol.Triple exec condition controller (entry .main)
      (main conf lib) entry)
    (atStartPing : protocol.Triple exec condition controller
      (entry .startPing) (startPing conf) entry)
    (atPing : ∀ soTS, protocol.Triple exec condition controller
      (entry (.ping soTS)) (doSmppPing conf lib soTS) entry)
    (atFinish : protocol.Triple exec condition controller (entry .finish)
      (finish lib) entry)
    (initially : protocol.inv gatewayStart.state)
    (initialEntry : entry .main gatewayStart.state)
    {config : Config Res Thread State Label}
    (reach : (gateway conf lib).Reach condition gatewayStart config) :
    protocol.inv config.state := by
  let entries (thread : Thread) (label : Label) (state : State) : Prop :=
    thread = controller → entry label state
  have stableEntries (thread : Thread) (label : Label) :
      protocol.Stable thread (entries thread label) := by
    intro before after invariant holds rely invariantAfter same
    subst same
    exact stable label before after invariant (holds rfl) rely invariantAfter
  have stops (thread : Thread) (label : Label) :
      protocol.Triple exec condition thread (entries thread label)
        (.ret .stopped) (entries thread) :=
    .returns (stableEntries thread .stopped) fun state _ holds same =>
      atStop label state (holds same)
  have others (thread : Thread) (different : thread ≠ controller)
      (label : Label) {program : Prog Label}
      (uses : program.Uses fun operation => operation.isTraffic) :
      protocol.Triple exec condition thread (entries thread label) program
        (entries thread) := by
    refine (Protocol.Triple.unobtrusive uses
      (Protocol.Stable.const True) ?_).consequence (fun _ _ _ => trivial)
        fun _ _ _ _ same => absurd same different
    intro operation state choice traffic invariant _
    obtain ⟨invariantAfter, rely⟩ :=
      tolerant.traffic thread operation choice state traffic invariant
    refine ⟨invariantAfter, fun other => ?_⟩
    by_cases own : other = controller
    · exact own ▸ rely
    · exact tolerant.free other _ _ own
  have code (thread : Thread) (label : Label) :
      protocol.Triple exec condition thread (entries thread label)
        (code conf lib thread label) (entries thread) := by
    have own {program : Prog Label} (label : Label)
        (triple : protocol.Triple exec condition controller (entry label)
          program entry) :
        protocol.Triple exec condition controller (entries controller label)
          program (entries controller) :=
      triple.consequence (fun _ _ holds => holds rfl)
        fun _ _ _ holds _ => holds
    unfold code
    split
    · exact own .main atMain
    · exact own .startPing atStartPing
    · exact own (.ping _) (atPing _)
    · exact own .finish atFinish
    · exact others .receiver (by decide) .receive
        (msgReceiver_traffic conf lib)
    · exact others .environment (by decide) .environment
        environment_traffic
    · exact stops _ _
  have safe (thread : Thread) : protocol.Safe exec condition thread
      (entries thread) (gatewayStart.control thread) gatewayStart.state := by
    have starts (label : Label)
        (holds : entries thread label gatewayStart.state) :
        protocol.Safe exec condition thread (entries thread) (.ret label)
          gatewayStart.state :=
      Protocol.Triple.ret (entries thread) label (stableEntries thread label)
        _ initially holds
    match thread with
    | .requester 0 => exact starts .main fun _ => initialEntry
    | .requester (number + 1) => exact starts .stopped nofun
    | .receiver => exact starts .receive nofun
    | .environment => exact starts .environment nofun
  exact (Protocol.sound code initially safe reach).1

variable {inv : State → Prop}

/-- With an invariant that lasts, the protocol of the connection is one of
these. -/
theorem connectionProtocol_tolerant (kept : Lasting inv) :
    Tolerant (connectionProtocol inv) where
  free _ _ _ different same := absurd same different
  traffic thread operation choice state traffic invariant :=
    have step := exec_peripheral thread
      (Op.isTraffic.peripheral operation traffic) choice state
    ⟨kept _ _ invariant step, fun _ => step⟩

/-- What lasts and what the controller's four programs respect holds
throughout every run. -/
theorem gateway_invariant
    (kept : Lasting inv)
    (lasting : ∀ label, Lasting (entry label))
    (atStop : ∀ label state, entry label state → entry .stopped state)
    (atMain : ControllerTriple condition inv (entry .main) (main conf lib)
      entry)
    (atStartPing : ControllerTriple condition inv (entry .startPing)
      (startPing conf) entry)
    (atPing : ∀ soTS, ControllerTriple condition inv (entry (.ping soTS))
      (doSmppPing conf lib soTS) entry)
    (atFinish : ControllerTriple condition inv (entry .finish) (finish lib)
      entry)
    (initially : inv gatewayStart.state)
    (initialEntry : entry .main gatewayStart.state)
    {config : Config Res Thread State Label}
    (reach : (gateway conf lib).Reach condition gatewayStart config) :
    inv config.state :=
  (connectionProtocol_tolerant kept).gateway conf lib
    (fun label => (lasting label).stable) atStop atMain atStartPing atPing
    atFinish initially initialEntry reach

end Runs

end Sms112
