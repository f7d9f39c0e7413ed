import Sms112.Connection.Controller

/-!
# Runs of the gateway

The rules for a protocol that every thread of the gateway keeps to: one triple
for each of the controller's programs, for the receiver's and for the
environment's. Where nothing has to be known between two calls of the
controller, its programs keep to the protocol if the functions they call do.
-/

namespace Sms112

open Resumption

variable (conf : SConf) (lib : Smpp34)
variable {condition : Machine.Condition Op Thread Choice State}
variable (protocol : Protocol Thread State)
variable (entry : Thread → Label → State → Prop)

/-- If every program keeps to the protocol, its invariant holds throughout
every run, and every thread is safe in it. -/
theorem gateway_safe
    (stable : ∀ thread label, protocol.Stable thread (entry thread label))
    (atStop : ∀ thread label state, code conf lib thread label = .ret .stopped →
      entry thread label state → entry thread .stopped state)
    (atMain : protocol.Triple exec condition controller
      (entry controller .main) (main conf lib) (entry controller))
    (atStartPing : protocol.Triple exec condition controller
      (entry controller .startPing) (startPing conf) (entry controller))
    (atPing : ∀ soTS, protocol.Triple exec condition controller
      (entry controller (.ping soTS)) (doSmppPing conf lib soTS)
      (entry controller))
    (atFinish : protocol.Triple exec condition controller
      (entry controller .finish) (finish lib) (entry controller))
    (atReceive : protocol.Triple exec condition .receiver
      (entry .receiver .receive) (msgReceiver conf lib) (entry .receiver))
    (atEnvironment : protocol.Triple exec condition .environment
      (entry .environment .environment) environment (entry .environment))
    (initially : protocol.inv gatewayStart.state)
    (mainEntry : entry controller .main gatewayStart.state)
    (receiveEntry : entry .receiver .receive gatewayStart.state)
    (environmentEntry :
      entry .environment .environment gatewayStart.state)
    (otherEntry : ∀ number,
      entry (.requester (number + 1)) .stopped gatewayStart.state)
    {config : Config Res Thread State Label}
    (reach : (gateway conf lib).Reach condition gatewayStart config) :
    protocol.inv config.state ∧ ∀ thread, protocol.Safe exec condition thread
      (entry thread) (config.control thread) config.state := by
  have stops {thread : Thread} {label : Label}
      (stopped : code conf lib thread label = .ret .stopped) :
      protocol.Triple exec condition thread (entry thread label)
        (code conf lib thread label) (entry thread) := by
    rw [stopped]
    exact .returns (stable _ _) fun state _ holds =>
      atStop thread label state stopped holds
  have code (thread : Thread) (label : Label) :
      protocol.Triple exec condition thread (entry thread label)
        (code conf lib thread label) (entry thread) := by
    match thread, label with
    | .requester 0, .main => exact atMain
    | .requester 0, .startPing => exact atStartPing
    | .requester 0, .ping soTS => exact atPing soTS
    | .requester 0, .finish => exact atFinish
    | .receiver, .receive => exact atReceive
    | .environment, .environment => exact atEnvironment
    | .requester 0, .receive | .requester 0, .environment
    | .requester 0, .stopped => exact stops rfl
    | .requester (number + 1), _ => exact stops rfl
    | .receiver, .main | .receiver, .startPing | .receiver, .ping _
    | .receiver, .finish | .receiver, .environment
    | .receiver, .stopped => exact stops rfl
    | .environment, .main | .environment, .startPing | .environment, .ping _
    | .environment, .finish | .environment, .receive
    | .environment, .stopped => exact stops rfl
  have safe (thread : Thread) : protocol.Safe exec condition thread
      (entry thread) (gatewayStart.control thread) gatewayStart.state := by
    have starts (label : Label)
        (holds : entry thread label gatewayStart.state) :
        protocol.Safe exec condition thread (entry thread) (.ret label)
          gatewayStart.state :=
      Protocol.Triple.ret (entry thread) label (stable thread label) _
        initially holds
    match thread with
    | .requester 0 => exact starts .main mainEntry
    | .requester (number + 1) => exact starts .stopped (otherEntry number)
    | .receiver => exact starts .receive receiveEntry
    | .environment => exact starts .environment environmentEntry
  exact Protocol.sound code initially safe reach

/-! ## The operations of the receiver -/

/-- The operations by which the receiver takes up a PDU, passes a response on
and handles a request. -/
def Op.isReceiving : Op → Bool
  | .isReceiverCreated | .getStop | .getSock | .poll _ | .peek _ | .recv ..
  | .reqStorGetAndRem _ | .malloc _ | .setReqBuf .. | .getReqBuf _
  | .setReqDataLen .. | .unlockReq _ | .enter .smppHandler
  | .leave .smppHandler | .note (.handed ..) => true
  | operation => operation.isHandling

theorem Op.isHandling.receiving
    (operation : Op)
    (handling : operation.isHandling) :
    operation.isReceiving := by
  unfold Op.isReceiving
  split <;> first | rfl | exact handling

/-- Passing a response on is receiving. -/
theorem operResp_receiving (header : SPDUHdr) :
    (operResp header).Uses fun operation => operation.isReceiving := by
  refine .step rfl fun found => ?_
  match found with
  | none => trivial
  | some reqData =>
      refine .step rfl fun buf => .step rfl fun _ => .step rfl fun buf =>
        .bind (.step rfl fun _ => trivial) fun received => ?_
      dsimp only
      split
      · exact .step rfl fun _ => .step rfl fun _ => .step rfl
          fun _ => trivial
      · exact .step rfl fun _ => trivial

/-- So is everything else in a turn of the receiver's loop. -/
theorem msgReceiver_receiving :
    (msgReceiver conf lib).Uses fun operation => operation.isReceiving := by
  have request (header : SPDUHdr) : (smppOperReq conf lib header).Uses
      fun operation => operation.isReceiving := by
    unfold smppOperReq
    split
    · trivial
    · refine .bind (.step rfl fun _ => trivial) fun received => ?_
      dsimp only
      split
      · trivial
      · exact .step rfl fun _ => ((operReqSwitch_handling conf lib header
          _).mono Op.isHandling.receiving).bind fun _ => trivial
  have handler : (smppHandler conf lib).Uses
      fun operation => operation.isReceiving := by
    refine .step rfl fun _ => .bind
      (.bind (.step rfl fun _ => trivial) fun peeked => ?_)
        fun _ => .step rfl fun _ => trivial
    dsimp only
    split
    · trivial
    · split
      · exact operResp_receiving _
      · exact request _
  refine .step rfl fun created => ?_
  split
  · trivial
  · refine .step rfl fun iStop => ?_
    split
    · trivial
    · refine .step rfl fun fd => .step rfl fun pollIn => ?_
      dsimp only
      split
      · exact handler.bind fun _ => trivial
      · trivial

/-! ## Controllers that remember nothing between two calls -/

/-- The operations of the controller's own programs. -/
def Op.isControl : Op → Bool
  | .createReceiver | .createPing | .initPingWait | .pingTimedLock _
  | .getStop | .isTcpConnected | .isSmppConnected | .uninitialised
  | .gettimeofday | .enter .doSmppPing | .leave .doSmppPing => true
  | _ => false

/-- What the controller performs and calls keeps to the protocol. -/
structure CallsKeep
    (conf : SConf)
    (lib : Smpp34)
    (condition : Machine.Condition Op Thread Choice State)
    (protocol : Protocol Thread State) : Prop where
  control : ∀ operation : Op, operation.isControl →
    protocol.Triple exec condition controller (fun _ => True)
      (call operation) fun _ _ => True
  tcpConnect : protocol.Triple exec condition controller (fun _ => True)
    tcpConnect fun _ _ => True
  tcpDisconn : protocol.Triple exec condition controller (fun _ => True)
    tcpDisconn fun _ _ => True
  smppConnect : protocol.Triple exec condition controller (fun _ => True)
    (smppConnect conf lib) fun _ _ => True
  smppDisconn : protocol.Triple exec condition controller (fun _ => True)
    (smppDisconn lib) fun _ _ => True
  smppEnqLink : protocol.Triple exec condition controller (fun _ => True)
    (smppEnqLink lib) fun _ _ => True

namespace CallsKeep

variable {conf lib protocol}
variable (calls : CallsKeep conf lib condition protocol)

/-- A program returns. -/
theorem done {α : Type} (value : α) :
    protocol.Triple exec condition controller (fun _ => True) (.ret value)
      fun _ _ => True :=
  .returns (.const True) fun _ _ holds => holds

include calls

/-- `main` keeps to the protocol if its calls do. -/
theorem main :
    protocol.Triple exec condition controller (fun _ => True)
      (main conf lib) fun _ _ => True := by
  refine calls.tcpConnect.bind fun _ => .ite (fun _ => done _) fun _ => ?_
  refine (calls.control _ rfl).bind fun _ => .ite
    (fun _ => calls.tcpDisconn.bind fun _ => done _) fun _ => ?_
  refine calls.smppConnect.bind fun _ => .ite
    (fun _ => calls.tcpDisconn.bind fun _ => done _) fun _ => ?_
  exact (calls.control _ rfl).bind fun _ =>
    .ite (fun _ => done _) fun _ => done _

/-- So does the start of the ping thread. -/
theorem startPing :
    protocol.Triple exec condition controller (fun _ => True)
      (startPing conf) fun _ _ => True := by
  refine (calls.control _ rfl).bind fun _ => (calls.control _ rfl).bind
    fun _ => .ite (fun _ => done _) fun _ => ?_
  refine (calls.control _ rfl).bind fun garbage => .bind
    ((calls.control _ rfl).bind fun timeVal => ?_) fun _ => done _
  exact .ite (fun _ => .ite (fun _ => done _) fun _ => done _)
    fun _ => done _

theorem doSmppConnection (soTS : Timespec) :
    protocol.Triple exec condition controller (fun _ => True)
      (doSmppConnection conf lib soTS) fun _ _ => True :=
  calls.smppConnect.bind fun _ => done _

theorem doTcpConnection (soTS : Timespec) :
    protocol.Triple exec condition controller (fun _ => True)
      (doTcpConnection conf lib soTS) fun _ _ => True :=
  calls.tcpConnect.bind fun _ => .ite (fun _ => done _)
    fun _ => calls.doSmppConnection soTS

/-- So does a turn of the ping loop, whichever of the two connections is
missing. -/
theorem doSmppPing (soTS : Timespec) :
    protocol.Triple exec condition controller (fun _ => True)
      (doSmppPing conf lib soTS) fun _ _ => True := by
  have recovers : protocol.Triple exec condition controller (fun _ => True)
      (recoverConnection conf lib soTS) fun _ _ => True :=
    calls.smppDisconn.bind fun _ => calls.tcpDisconn.bind
      fun _ => calls.doTcpConnection soTS
  refine (calls.control _ rfl).bind fun _ => .ite (fun _ => done _)
    fun _ => (calls.control _ rfl).bind fun _ => .ite (fun _ => done _)
      fun _ => ?_
  refine (calls.control _ rfl).bind fun _ => .ite
    (fun _ => calls.doTcpConnection soTS) fun _ => ?_
  refine (calls.control _ rfl).bind fun _ => .ite
    (fun _ => calls.doSmppConnection soTS) fun _ => ?_
  exact calls.smppEnqLink.bind fun _ =>
    .ite (fun _ => done _) fun _ => recovers

theorem finish :
    protocol.Triple exec condition controller (fun _ => True)
      (finish lib) fun _ _ => True :=
  (calls.control _ rfl).bind fun _ => calls.smppDisconn.bind fun _ =>
    calls.tcpDisconn.bind fun _ => done _

/-- If the controller's functions, the receiver and the environment keep to
the protocol, its invariant holds throughout every run. -/
theorem sound
    {atReceive : State → Prop}
    (stable : protocol.Stable .receiver atReceive)
    (receives : protocol.Triple exec condition .receiver atReceive
      (msgReceiver conf lib) fun _ => atReceive)
    (arrives : protocol.Triple exec condition .environment (fun _ => True)
      environment fun _ _ => True)
    (initially : protocol.inv gatewayStart.state)
    (receiveEntry : atReceive gatewayStart.state)
    {config : Config Res Thread State Label}
    (reach : (gateway conf lib).Reach condition gatewayStart config) :
    protocol.inv config.state := by
  let entry (thread : Thread) (state : State) : Prop :=
    thread = .receiver → atReceive state
  have vacuous (thread : Thread) (different : thread ≠ .receiver)
      {program : Prog Label}
      (triple : protocol.Triple exec condition thread (fun _ => True)
        program fun _ _ => True) :
      protocol.Triple exec condition thread (entry thread) program
        fun _ => entry thread :=
    triple.consequence (fun _ _ _ => trivial)
      fun _ _ _ _ same => absurd same different
  exact (gateway_safe conf lib protocol (fun thread _ => entry thread)
    (fun _ _ before after inv holds rely invAfter same =>
      stable before after inv (holds same) (same ▸ rely) invAfter)
    (fun _ _ _ _ holds => holds)
    (vacuous controller (by decide) calls.main)
    (vacuous controller (by decide) calls.startPing)
    (fun soTS => vacuous controller (by decide) (calls.doSmppPing soTS))
    (vacuous controller (by decide) calls.finish)
    (receives.consequence (fun _ _ holds => holds rfl)
      fun _ _ _ holds _ => holds)
    (vacuous .environment (by decide) arrives) initially nofun
    (fun _ => receiveEntry) nofun (fun _ => nofun) reach).1

end CallsKeep

/-! ## The operations of the requests -/

/-- The operations by which the controller opens and closes the connection. -/
def Op.isConnecting : Op → Bool
  | .socket | .connect | .fcntl | .shutdown | .close | .getSock | .setSock _
  | .setTcpConnected _ | .enter .tcpConnect | .leave .tcpConnect
  | .enter .tcpDisconn | .leave .tcpDisconn => true
  | _ => false

/-- The operations of the controller: it opens and closes the connection,
makes its requests, and performs its own. -/
def Op.isRequesting : Op → Bool
  | .send _ | .setSmppConnected _ | .incSecNum | .reqStorAdd .. | .newReqData
  | .deleteReqData _ | .getReqDataLen _ | .readReqData _ | .timedLockReq ..
  | .enterSend _ | .leaveSend _ | .linkTlv _ | .destroyTlv _
  | .note (.decoded ..) | .enter .smppConnect | .leave .smppConnect
  | .enter .smppDisconn | .leave .smppDisconn => true
  | operation => operation.isConnecting || operation.isControl

theorem Op.isControl.requesting
    (operation : Op)
    (isControl : operation.isControl) :
    operation.isRequesting := by
  unfold Op.isRequesting
  split <;> first | rfl | exact Bool.or_eq_true_iff.mpr (.inr isControl)

theorem Op.isConnecting.requesting
    (operation : Op)
    (connecting : operation.isConnecting) :
    operation.isRequesting := by
  unfold Op.isRequesting
  split <;> first | rfl | exact Bool.or_eq_true_iff.mpr (.inl connecting)

theorem tcpConnect_connecting :
    tcpConnect.Uses fun operation => operation.isConnecting := by
  refine .step rfl fun _ => .bind (.step rfl fun opened => ?_)
    fun _ => .step rfl fun _ => trivial
  dsimp only
  split
  · trivial
  · refine .step rfl fun _ => .step rfl fun outcome => ?_
    split
    · trivial
    · exact .step rfl fun _ => trivial

theorem tcpDisconn_connecting :
    tcpDisconn.Uses fun operation => operation.isConnecting := by
  refine .step rfl fun _ => .bind (.step rfl fun iSock => ?_)
    fun _ => .step rfl fun _ => trivial
  split
  · refine .step rfl fun _ => .step rfl fun closed => ?_
    split
    · exact .step rfl fun _ => .step rfl fun _ => trivial
    · trivial
  · trivial

theorem smppSend_requesting (data : Octets) (seqNum : Nat)
    (reqData : ReqPtr) :
    (smppSend data seqNum reqData).Uses
      fun operation => operation.isRequesting := by
  refine .step rfl fun _ => .bind (.step rfl fun added => ?_)
    fun _ => .step rfl fun _ => trivial
  split
  · trivial
  · refine (tcpSend_uses (by rfl) (by rfl)).bind fun sent => ?_
    split
    · trivial
    · refine .step rfl fun garbage =>
        (makeTimespecTimeout_uses (by rfl) _ _ _).bind fun _ =>
          .step rfl fun _ => .step rfl fun dataLen => ?_
      split <;> trivial

/-- An exchange of the controller, with the registration, the `send` and the
wait. -/
theorem exchange_requesting (lib : Smpp34) (request : Pdu) (respId : Nat)
    (freesTlv : Bool) :
    (exchange lib request respId freesTlv).Uses
      fun operation => operation.isRequesting := by
  unfold exchange
  dsimp only
  split
  · trivial
  · refine .step rfl fun reqData => (smppSend_requesting _ _ _).bind
      fun iFnRes => ?_
    split
    · exact .step rfl fun _ => trivial
    · exact (readResponse_uses (fun _ => rfl) (fun _ _ => rfl)
        (fun _ => rfl) (fun _ => rfl) lib _ _ _ _).bind fun _ =>
          .step rfl fun _ => trivial

/-- If the steps of the requests keep to the protocol, so do the functions. -/
theorem CallsKeep.of_steps
    {conf : SConf}
    {lib : Smpp34}
    {protocol : Protocol Thread State}
    (keeps : ∀ (operation : Op) choice state, operation.isRequesting →
      protocol.inv state → condition controller operation choice state →
        protocol.Keeps controller state
          (exec controller operation choice state).2) :
    CallsKeep conf lib condition protocol := by
  have steps {α : Type} {program : Prog α}
      (uses : program.Uses fun operation => operation.isRequesting) :
      protocol.Triple exec condition controller (fun _ => True) program
        fun _ _ => True := by
    refine Protocol.Triple.uses uses (.const True) ?_
    intro operation state choice requesting inv _ holds
    exact ⟨keeps operation choice state requesting inv holds, trivial⟩
  refine ⟨fun operation isControl =>
      steps ⟨Op.isControl.requesting operation isControl, fun _ => trivial⟩,
    steps (tcpConnect_connecting.mono Op.isConnecting.requesting),
    steps (tcpDisconn_connecting.mono Op.isConnecting.requesting),
    steps ?_, steps ?_, steps ?_⟩
  · refine .step rfl fun _ => .bind (.step rfl fun seqNum =>
      (exchange_requesting lib _ _ _).bind fun iRetVal => ?_)
        fun _ => .step rfl fun _ => trivial
    dsimp only
    split
    · exact .step rfl fun _ => trivial
    · trivial
  · exact .step rfl fun _ => .bind (.step rfl fun _ => .step rfl
      fun _ => exchange_requesting lib _ _ _)
        fun _ => .step rfl fun _ => trivial
  · exact .step rfl fun _ => exchange_requesting lib _ _ _

/-! ## The programs of the controller -/

theorem smppConnect_requesting :
    (smppConnect conf lib).Uses fun operation => operation.isRequesting := by
  refine .step rfl fun _ => .bind (.step rfl fun seqNum =>
    (exchange_requesting lib _ _ _).bind fun iRetVal => ?_)
      fun _ => .step rfl fun _ => trivial
  dsimp only
  split
  · exact .step rfl fun _ => trivial
  · trivial

theorem smppDisconn_requesting :
    (smppDisconn lib).Uses fun operation => operation.isRequesting :=
  .step rfl fun _ => .bind (.step rfl fun _ => .step rfl
    fun _ => exchange_requesting lib _ _ _) fun _ => .step rfl fun _ => trivial

theorem tcpConnect_requesting :
    tcpConnect.Uses fun operation => operation.isRequesting :=
  tcpConnect_connecting.mono Op.isConnecting.requesting

theorem tcpDisconn_requesting :
    tcpDisconn.Uses fun operation => operation.isRequesting :=
  tcpDisconn_connecting.mono Op.isConnecting.requesting

theorem main_requesting :
    (main conf lib).Uses fun operation => operation.isRequesting := by
  refine tcpConnect_requesting.bind fun iFnRes => ?_
  split
  · trivial
  · refine .step rfl fun created => ?_
    split
    · exact tcpDisconn_requesting.bind fun _ => trivial
    · refine (smppConnect_requesting conf lib).bind fun iFnRes => ?_
      split
      · exact tcpDisconn_requesting.bind fun _ => trivial
      · refine .step rfl fun created => ?_
        split <;> trivial

theorem startPing_requesting :
    (startPing conf).Uses fun operation => operation.isRequesting := by
  refine .step rfl fun _ => .step rfl fun iFnRes => ?_
  split
  · trivial
  · exact .step rfl fun garbage =>
      (makeTimespecTimeout_uses (by rfl) _ _ _).bind fun _ => trivial

theorem doSmppPing_requesting (soTS : Timespec) :
    (doSmppPing conf lib soTS).Uses fun operation => operation.isRequesting := by
  have binds : (doSmppConnection conf lib soTS).Uses
      fun operation => operation.isRequesting :=
    (smppConnect_requesting conf lib).bind fun _ => trivial
  have connects : (doTcpConnection conf lib soTS).Uses
      fun operation => operation.isRequesting := by
    refine tcpConnect_requesting.bind fun iFnRes => ?_
    split
    · trivial
    · exact binds
  have recovers : (recoverConnection conf lib soTS).Uses
      fun operation => operation.isRequesting :=
    (smppDisconn_requesting lib).bind fun _ =>
      tcpDisconn_requesting.bind fun _ => connects
  refine .step rfl fun iStop => ?_
  split
  · trivial
  · refine .step rfl fun iFnRes => ?_
    split
    · trivial
    · refine .step rfl fun tcpIsConnected => ?_
      split
      · exact connects
      · refine .step rfl fun smppIsConnected => ?_
        split
        · exact binds
        · refine .bind (.step rfl fun seqNum => exchange_requesting lib _ _ _)
            fun iFnRes => ?_
          split
          · trivial
          · exact recovers

/-- Whatever the controller does, at whatever label, is one of the operations
of its requests. -/
theorem controller_requesting (label : Label) :
    (code conf lib controller label).Uses
      fun operation => operation.isRequesting := by
  match label with
  | .main => exact main_requesting conf lib
  | .startPing => exact startPing_requesting conf
  | .ping soTS => exact doSmppPing_requesting conf lib soTS
  | .finish =>
      exact .step rfl fun _ => (smppDisconn_requesting lib).bind fun _ =>
        tcpDisconn_requesting.bind fun _ => trivial
  | .receive | .environment | .stopped => trivial

end Sms112
