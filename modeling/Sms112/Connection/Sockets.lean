import Sms112.Connection.Controller

/-!
# Reconnecting without losing a socket

At most one socket of the program is open, the one in `g_iSock`, in every run
in which the ping loop finds the connection flag cleared only when the socket
is closed, and in which its calls of `close` succeed. A flag cleared by a
failing `send` leads past `sms112_tcp_disconn` to a new socket, and the old
one is lost.
-/

namespace Sms112

open Resumption

/-- No open descriptor is lost. -/
structure NoneStranded (state : State) : Prop where
  current : ∀ entry ∈ state.sockets, entry.1 = state.iSock
  single : state.sockets.length ≤ 1

/-- The ping loop does not find the flag cleared while the socket is open, and
closing it succeeds. -/
def ClosesFirst : Machine.Condition Op Thread Choice State
  | _, .isTcpConnected, _, state =>
      state.tcpIsConnected = false → state.serial = none
  | _, .close, choice, state => state.busy .doSmppPing → choice.ret = 0
  | _, _, _, _ => True

instance (thread : Thread) (operation : Op) (choice : Choice)
    (state : State) :
    Decidable (ClosesFirst thread operation choice state) := by
  unfold ClosesFirst
  split <;> infer_instance

/-- No socket is open, or just the one in `g_iSock`. -/
def HoldsSocket (state : State) : Prop :=
  state.sockets = [] ∨
    ∃ serial, state.sockets = [(state.iSock, serial)] ∧ 0 ≤ state.iSock

/-- A program that holds at most the socket in `g_iSock` has stranded none. -/
theorem HoldsSocket.noneStranded
    {state : State}
    (holds : HoldsSocket state) :
    NoneStranded state := by
  rcases holds with none | ⟨serial, one, -⟩
  · exact ⟨fun entry member => by simp [none] at member, by simp [none]⟩
  · exact ⟨fun entry member => by simp_all, by simp [one]⟩

/-- The ping loop is running. -/
def Pinging (state : State) : Prop :=
  state.busy .doSmppPing

/-- No socket is open. -/
def NoSocket (state : State) : Prop :=
  state.sockets = []

/-- With a descriptor that is not open, none is. -/
theorem HoldsSocket.noSocket
    {state : State}
    (holds : HoldsSocket state)
    (closed : state.serial = none) :
    NoSocket state := by
  rcases holds with none | ⟨serial, one, -⟩
  · exact none
  · simp [State.serial, one] at closed

/-! ## Operations that open and close nothing -/

/-- The sockets are as they were, and so is the ping loop. -/
structure SameSockets (before after : State) : Prop where
  iSock : after.iSock = before.iSock
  sockets : after.sockets = before.sockets
  pinging : after.busy .doSmppPing = before.busy .doSmppPing

/-- An assertion about the sockets and the ping loop only. -/
def AboutSockets (assertion : State → Prop) : Prop :=
  ∀ before after, assertion before → SameSockets before after →
    assertion after

/-- The other threads open and close no socket, so what is said of sockets
lasts. -/
theorem AboutSockets.lasting
    {assertion : State → Prop}
    (about : AboutSockets assertion) :
    Lasting assertion :=
  fun before after holds peripheral => about before after holds
    ⟨peripheral.iSock, peripheral.sockets,
      peripheral.busy .doSmppPing nofun nofun⟩

theorem holdsSocket_about : AboutSockets HoldsSocket := by
  intro before after holds same
  unfold HoldsSocket
  rw [same.sockets, same.iSock]
  exact holds

/-- An assertion about the ping loop only. -/
def AboutPinging (assertion : State → Prop) : Prop :=
  ∀ before after, assertion before →
    after.busy .doSmppPing = before.busy .doSmppPing → assertion after

theorem AboutPinging.sockets
    {assertion : State → Prop}
    (about : AboutPinging assertion) :
    AboutSockets assertion :=
  fun before after holds same => about before after holds same.pinging

theorem pinging_about : AboutPinging Pinging := by
  intro before after holds same
  unfold Pinging
  rw [same]
  exact holds

theorem true_about : AboutPinging fun _ => True :=
  fun _ _ holds _ => holds

theorem noSocket_about : AboutSockets NoSocket := by
  intro before after holds same
  unfold NoSocket
  rw [same.sockets]
  exact holds

theorem AboutSockets.conj
    {first second : State → Prop}
    (firstAbout : AboutSockets first)
    (secondAbout : AboutSockets second) :
    AboutSockets fun state => first state ∧ second state :=
  fun before after holds same =>
    ⟨firstAbout before after holds.1 same,
      secondAbout before after holds.2 same⟩

/-- The operations that neither open nor close a socket nor begin or end the
ping loop. -/
def Op.isNeutral : Op → Bool
  | .socket | .close | .setSock _ | .enter .doSmppPing
  | .leave .doSmppPing => false
  | _ => true

/-- A neutral operation opens and closes no socket. -/
theorem exec_neutral
    (thread : Thread)
    {operation : Op}
    (neutral : operation.isNeutral)
    (choice : Choice)
    (state : State) :
    SameSockets state (exec thread operation choice state).2 := by
  have frame := exec_frame thread operation choice state
  cases operation
  case enter routine =>
    refine ⟨rfl, rfl, ?_⟩
    cases routine <;> first | rfl | cases neutral
  case leave routine =>
    refine ⟨rfl, rfl, ?_⟩
    cases routine <;> first | rfl | cases neutral
  all_goals
    first
      | exact ⟨frame .iSock rfl, frame .sockets rfl,
          congrFun (frame .busy rfl) .doSmppPing⟩
      | cases neutral

theorem Op.isTraffic.neutral
    (operation : Op)
    (traffic : operation.isTraffic) :
    operation.isNeutral := by
  cases operation
  case enter routine => cases routine <;> first | rfl | cases traffic
  case leave routine => cases routine <;> first | rfl | cases traffic
  all_goals first | rfl | cases traffic

theorem Op.isExchange.neutral
    (operation : Op)
    (exchange : operation.isExchange) :
    operation.isNeutral := by
  unfold Op.isExchange at exchange
  split at exchange <;> first
    | rfl
    | exact Op.isTraffic.neutral _ exchange

variable {α : Type}

/-- A triple of the controller about the sockets. -/
abbrev SocketTriple (pre : State → Prop) (program : Prog α)
    (post : α → State → Prop) : Prop :=
  ControllerTriple ClosesFirst HoldsSocket pre program post

/-- A program of such operations keeps what is known of the sockets. -/
theorem neutral_triple
    {program : Prog α}
    {assertion : State → Prop}
    (uses : program.Uses fun operation => operation.isNeutral)
    (about : AboutSockets assertion) :
    SocketTriple assertion program fun _ => assertion := by
  refine Protocol.Triple.uses uses about.lasting.stable ?_
  intro operation state choice neutral inv holds _
  have same := exec_neutral controller neutral choice state
  exact ⟨controller_keeps (holdsSocket_about _ _ inv same),
    about _ _ holds same⟩

/-- The exchanges of the controller leave the sockets alone. -/
theorem exchange_sockets
    {program : Prog α}
    {assertion : State → Prop}
    (uses : program.Uses fun operation => operation.isExchange)
    (about : AboutSockets assertion) :
    SocketTriple assertion program fun _ => assertion :=
  neutral_triple (uses.mono Op.isExchange.neutral) about

theorem neutral_call
    {operation : Op}
    {assertion : State → Prop}
    (neutral : operation.isNeutral)
    (about : AboutSockets assertion) :
    SocketTriple assertion (call operation) fun _ => assertion :=
  neutral_triple ⟨neutral, fun _ => trivial⟩ about

/-! ## Opening and closing -/

section Connection

variable {assertion : State → Prop}

/-- A socket is opened only where there is none. -/
theorem socket_triple (about : AboutPinging assertion) :
    SocketTriple (fun state => NoSocket state ∧ assertion state)
      (call .socket) fun _ => assertion := by
  refine controller_call (noSocket_about.conj about.sockets).lasting
    (fun _ => about.sockets.lasting) ?_
  intro state choice inv ⟨empty, holds⟩ _
  refine ⟨?_, about _ _ holds (congrFun
    (exec_frame controller .socket choice state .busy rfl) .doSmppPing)⟩
  dsimp only [exec]
  rcases state.socket_cases choice with
    ⟨descriptor, errno, nonnegative, -, created⟩ | refused
  · rw [created]
    exact .inr ⟨state.nextSerial, by rw [empty], nonnegative⟩
  · rw [refused]
    exact .inl empty

/-- A connection is only opened when no socket is open. -/
theorem tcpConnect_sockets (about : AboutPinging assertion) :
    SocketTriple (fun state => NoSocket state ∧ assertion state)
      tcpConnect fun _ => assertion := by
  have rest (program : Prog Int)
      (uses : program.Uses fun operation => operation.isNeutral) :
      SocketTriple assertion program fun _ => assertion :=
    neutral_triple uses about.sockets
  refine (neutral_call rfl (noSocket_about.conj about.sockets)).bind
    fun _ => .bind ((socket_triple about).bind fun opened => rest _ ?_)
      fun _ => rest _ (.step rfl fun _ => trivial)
  obtain ⟨iSock, errno⟩ := opened
  dsimp only
  split
  · trivial
  · refine .step rfl fun _ => .step rfl fun outcome => ?_
    split
    · trivial
    · exact .step rfl fun _ => trivial

/-- What is known after a call of `close`: the socket is closed if it
succeeded or if it is called from the ping loop. -/
def Closed (closed : Int) (state : State) : Prop :=
  closed = 0 ∨ Pinging state → NoSocket state

theorem closed_about (closed : Int) : AboutSockets (Closed closed) := by
  intro before after holds same reason
  refine noSocket_about _ _ (holds (reason.imp_right fun pinging => ?_)) same
  unfold Pinging at pinging ⊢
  rwa [same.pinging] at pinging

/-- Closing may fail only where the ping loop is not running. -/
theorem close_triple (about : AboutPinging assertion) :
    SocketTriple assertion (call .close) fun closed state =>
      Closed closed state ∧ assertion state := by
  refine controller_call about.sockets.lasting
    (fun closed => ((closed_about closed).conj about.sockets).lasting) ?_
  intro state choice inv holds closes
  have kept := about _ _ holds (congrFun
    (exec_frame controller .close choice state .busy rfl) .doSmppPing)
  refine ⟨?_, ?_, kept⟩ <;> dsimp only [exec, State.close]
  · split
    next succeeded =>
      rcases inv with empty | ⟨serial, one, -⟩
      · exact .inl (by simp [empty])
      · exact .inl (by simp [one])
    next failed => exact inv
  · split
    next succeeded =>
      intro _
      unfold NoSocket
      rcases inv with empty | ⟨serial, one, -⟩
      · simp [empty]
      · simp [one]
    next failed =>
      rintro (success | pinging)
      · cases success
      · refine inv.noSocket (Option.not_isSome_iff_eq_none.mp fun some => ?_)
        exact failed ⟨some, closes pinging⟩

/-- After `sms112_tcp_disconn` in the ping loop no socket is open. -/
theorem tcpDisconn_sockets (about : AboutPinging assertion) :
    SocketTriple assertion tcpDisconn fun _ state =>
      (Pinging state → NoSocket state) ∧ assertion state := by
  have pingingNone : AboutSockets fun state =>
      Pinging state → NoSocket state := by
    intro before after holds same pinging
    exact closed_about (-1) before after
      (fun reason => holds (reason.resolve_left (by decide))) same
      (.inr pinging)
  have reads : SocketTriple assertion (call .getSock) fun iSock state =>
      (iSock = -1 → NoSocket state) ∧ assertion state := by
    refine controller_call about.sockets.lasting (fun iSock => ?_) ?_
    · intro before after ⟨unset, holds⟩ peripheral
      exact ⟨fun equal => noSocket_about.lasting _ _ (unset equal)
        peripheral, about.sockets.lasting _ _ holds peripheral⟩
    · intro state choice inv holds _
      refine ⟨inv, fun unset => ?_, holds⟩
      rcases inv with empty | ⟨serial, -, nonnegative⟩
      · exact empty
      · have equal : state.iSock = -1 := unset
        omega
  have forgets : SocketTriple
      (fun state => NoSocket state ∧ assertion state)
      (call (.setSock (-1)))
      fun _ state => NoSocket state ∧ assertion state :=
    controller_call (noSocket_about.conj about.sockets).lasting
      (fun _ => (noSocket_about.conj about.sockets).lasting)
      fun state _ inv holds _ => ⟨.inl holds.1, holds.1,
        about _ _ holds.2 rfl⟩
  have after := (pingingNone.conj about.sockets).lasting
  refine (neutral_call rfl about.sockets).bind fun _ => .bind ?_ fun _ =>
    (neutral_call rfl (pingingNone.conj about.sockets)).bind fun _ =>
      controller_returns after fun _ _ holds => holds
  refine reads.bind fun iSock => .ite (fun set => ?_) fun unset => ?_
  · refine .consequence (.bind (neutral_call rfl about.sockets)
      fun _ => (close_triple about).bind fun closed => .ite (fun success => ?_)
        fun failed => ?_) (fun _ _ pre => pre.2) fun _ _ _ post => post
    · refine .consequence (.bind (neutral_call rfl
        (noSocket_about.conj about.sockets)) fun _ => forgets)
          (fun _ _ pre => ⟨pre.1 (.inl success), pre.2⟩)
          fun _ _ _ post => ⟨fun _ => post.1, post.2⟩
    · exact controller_returns after fun _ _ pre =>
        ⟨fun pinging => pre.1 (.inr pinging), pre.2⟩
  · exact controller_returns after fun _ _ pre =>
      ⟨fun _ => pre.1 (not_not.mp unset), pre.2⟩

end Connection

/-! ## The controller's programs -/

section Programs

variable (conf : SConf) (lib : Smpp34)

/-- What holds where the controller starts over. -/
def SocketEntry : Label → State → Prop
  | .main => NoSocket
  | .ping _ => Pinging
  | _ => fun _ => True

theorem socketEntry_about (label : Label) :
    AboutSockets (SocketEntry label) := by
  cases label
  case main => exact noSocket_about
  case ping soTS => exact pinging_about.sockets
  all_goals exact true_about.sockets

/-- Where the loop is left, nothing needs to hold. -/
theorem leaves_triple
    {pre : State → Prop}
    {label : Label}
    (anywhere : ∀ state, SocketEntry label state) :
    SocketTriple pre (.ret label) SocketEntry :=
  controller_returns (socketEntry_about label).lasting
    fun state _ _ => anywhere state

/-- `main` begins without a socket, and what each label asks for holds where it
goes on to it. -/
theorem main_sockets :
    SocketTriple NoSocket (main conf lib) SocketEntry := by
  have always := true_about.sockets
  have stops : SocketTriple (fun _ => True) (do tcpDisconn; return .stopped)
      SocketEntry :=
    (tcpDisconn_sockets true_about).bind fun _ =>
      leaves_triple fun _ => trivial
  refine .consequence (.bind (tcpConnect_sockets true_about) fun iFnRes =>
    .ite (fun _ => leaves_triple fun _ => trivial) fun _ => ?_)
      (fun _ _ empty => ⟨empty, trivial⟩) fun _ _ _ post => post
  refine (neutral_call rfl always).bind fun created =>
    .ite (fun _ => stops) fun _ => ?_
  refine (exchange_sockets (smppConnect_exchange conf lib) always).bind
    fun bound => .ite (fun _ => stops) fun _ => ?_
  exact (neutral_call rfl always).bind fun created =>
    .ite (fun _ => leaves_triple fun _ => trivial)
      fun _ => leaves_triple fun _ => trivial

theorem startPing_sockets :
    SocketTriple (fun _ => True) (startPing conf) SocketEntry := by
  have enters : SocketTriple (fun _ => True) (call (.enter .doSmppPing))
      fun _ => Pinging :=
    controller_call true_about.sockets.lasting
      (fun _ => pinging_about.sockets.lasting)
      fun state _ inv _ _ => ⟨inv, rfl⟩
  have pinging := pinging_about.sockets
  refine enters.bind fun _ => (neutral_call rfl pinging).bind fun created =>
    .ite (fun _ => leaves_triple fun _ => trivial) fun _ => ?_
  refine (neutral_call rfl pinging).bind fun garbage => .bind
    (neutral_triple (makeTimespecTimeout_uses (by rfl) _ _ _) pinging)
      fun timeSpec => ?_
  exact controller_returns pinging.lasting fun _ _ holds => holds

theorem doSmppConnection_sockets (soTS : Timespec) :
    SocketTriple Pinging (doSmppConnection conf lib soTS) SocketEntry :=
  (exchange_sockets (smppConnect_exchange conf lib)
    pinging_about.sockets).bind fun _ =>
      controller_returns pinging_about.sockets.lasting
        fun _ _ holds => holds

theorem doTcpConnection_sockets (soTS : Timespec) :
    SocketTriple (fun state => NoSocket state ∧ Pinging state)
      (doTcpConnection conf lib soTS) SocketEntry :=
  (tcpConnect_sockets pinging_about).bind fun _ =>
    .ite (fun _ => controller_returns pinging_about.sockets.lasting
      fun _ _ holds => holds)
        fun _ => doSmppConnection_sockets conf lib soTS

/-- A connection is made again only after the old one is closed. -/
theorem recoverConnection_sockets (soTS : Timespec) :
    SocketTriple Pinging (recoverConnection conf lib soTS) SocketEntry := by
  refine (exchange_sockets (smppDisconn_exchange lib)
    pinging_about.sockets).bind fun _ =>
      (tcpDisconn_sockets pinging_about).bind fun _ => ?_
  exact (doTcpConnection_sockets conf lib soTS).consequence
    (fun _ _ pre => ⟨pre.1 pre.2, pre.2⟩) fun _ _ _ post => post

/-- The flag is found cleared only when no socket is open. -/
theorem isTcpConnected_sockets :
    SocketTriple Pinging (call .isTcpConnected) fun connected state =>
      (connected = false → NoSocket state) ∧ Pinging state := by
  have pinging := pinging_about.sockets.lasting
  refine controller_call pinging (fun connected => ?_) ?_
  · intro before after ⟨cleared, holds⟩ peripheral
    exact ⟨fun equal => noSocket_about.lasting _ _ (cleared equal)
      peripheral, pinging _ _ holds peripheral⟩
  · intro state choice inv holds closes
    exact ⟨inv, fun cleared => inv.noSocket (closes cleared), holds⟩

/-- A turn of the ping loop opens a socket only where there is none. -/
theorem doSmppPing_sockets (soTS : Timespec) :
    SocketTriple Pinging (doSmppPing conf lib soTS) SocketEntry := by
  have pinging := pinging_about.sockets
  have again (deadline : Timespec) :
      SocketTriple Pinging (.ret (.ping deadline)) SocketEntry :=
    controller_returns pinging.lasting fun _ _ holds => holds
  refine (neutral_call rfl pinging).bind fun iStop =>
    .ite (fun _ => leaves_triple fun _ => trivial) fun _ => ?_
  refine (neutral_call rfl pinging).bind fun iFnRes =>
    .ite (fun _ => leaves_triple fun _ => trivial) fun _ => ?_
  refine isTcpConnected_sockets.bind fun tcpIsConnected =>
    .ite (fun cleared => ?_) fun connected => ?_
  · exact (doTcpConnection_sockets conf lib soTS).consequence
      (fun _ _ pre => ⟨pre.1 (by simpa using cleared), pre.2⟩)
      fun _ _ _ post => post
  · refine .consequence (.bind (neutral_call rfl pinging)
      fun smppIsConnected => .ite
        (fun _ => doSmppConnection_sockets conf lib soTS) fun _ => ?_)
      (fun _ _ pre => pre.2) fun _ _ _ post => post
    exact (exchange_sockets (smppEnqLink_exchange lib) pinging).bind
      fun iFnRes => .ite (fun _ => again _)
        fun _ => recoverConnection_sockets conf lib soTS

theorem finish_sockets :
    SocketTriple (fun _ => True) (finish lib) SocketEntry := by
  have always := true_about.sockets
  have leaves : SocketTriple (fun _ => True) (call (.leave .doSmppPing))
      fun _ _ => True :=
    controller_call always.lasting (fun _ => always.lasting)
      fun _ _ inv _ _ => ⟨inv, trivial⟩
  exact leaves.bind fun _ => (exchange_sockets (smppDisconn_exchange lib)
    always).bind fun _ => (tcpDisconn_sockets true_about).bind
      fun _ => leaves_triple fun _ => trivial

/-- In every run in which the ping loop finds the flag cleared only when the
socket is closed, and in which its calls of `close` succeed, no open
descriptor is lost. -/
theorem gateway_noneStranded
    {config : Config Res Thread State Label}
    (reach : (gateway conf lib).Reach ClosesFirst gatewayStart config) :
    NoneStranded config.state := by
  have inv : HoldsSocket config.state :=
    gateway_invariant conf lib holdsSocket_about.lasting
      (fun label => (socketEntry_about label).lasting)
      (fun _ _ _ => trivial) (main_sockets conf lib) (startPing_sockets conf)
      (doSmppPing_sockets conf lib) (finish_sockets lib) (.inl rfl) rfl reach
  exact inv.noneStranded

end Programs

/-! ## A link that times out and a response that cannot be sent -/

/-- The link check times out, and the ping thread reconnects. -/
theorem linkTimedOut_noneStranded :
    NoneStranded ((gateway {} referenceCodec).run
      (started ++ steps (.requester 0) 43) gatewayStart).state :=
  gateway_noneStranded {} referenceCodec (.run .start _ (by decide +kernel))

/-- Every call succeeds but `send`. -/
def sendFails : Op → Choice
  | .send _ => { ret := -1 }
  | operation => allSucceeds operation

/-- The server unbinds, and the response cannot be sent. -/
def unbindRespFailed : List (Thread × (Op → Choice)) :=
  started ++ arrival 0 (ReferenceCodec.packed (headerPdu UNBIND 7)) ++
    List.replicate 14 (.receiver, sendFails)

/-- The ping thread then opens a second socket beside the first. -/
theorem unbindRespFailed_stranded :
    ∃ config, (gateway {} referenceCodec).Reach Machine.unconditional
        gatewayStart config ∧
      ¬NoneStranded config.state := by
  let schedule := unbindRespFailed ++ steps (.requester 0) 5 ++
    stepWith (.requester 0) { ret := 1 }
  refine ⟨(gateway {} referenceCodec).run schedule gatewayStart,
    .run .start schedule (Machine.admits_unconditional schedule _), ?_⟩
  have open_sockets : ((gateway {} referenceCodec).run schedule
      gatewayStart).state.sockets = [(1, 1), (0, 0)] := by
    decide +kernel
  intro none
  have single := none.single
  rw [open_sockets] at single
  cases single with
  | step impossible => cases impossible

end Sms112
