import Sms112.Connection.Controller

/-!
# The TCP flag

`sms112_tcp_is_connected()` is true only while `connect` has succeeded on the
socket in `g_iSock`, in every run in which a connection is opened only with
the flag cleared, and in which `fcntl` does not succeed on a socket on which
`connect` failed. The error of `connect` is kept in the variable that `fcntl`
overwrites, so nothing else tells the two cases apart.
-/

namespace Sms112

open Resumption

/-- `g_iSock` is an open descriptor on which `connect` succeeded. -/
def Connected (state : State) : Prop :=
  ∃ serial ∈ state.serial, serial ∈ state.established

instance (state : State) : Decidable (Connected state) := by
  unfold Connected
  infer_instance

/-- The flag is true only on an established connection, but between the two
statements of `sms112_tcp_disconn` that close the socket and clear the flag;
and a bind begins only on an established connection. -/
structure TcpFlagSound (state : State) : Prop where
  connected : state.tcpIsConnected →
    Connected state ∨ state.busy .tcpDisconn ∧ state.serial = none
  binding : state.busy .smppConnect → Connected state

/-- A call of `sms112_tcp_connect` returns 0 only on an established
connection; when `connect` fails it returns an error and leaves the flag. -/
structure ConnectSound (oracle : Op → Choice) (state : State) : Prop where
  established :
    (tcpConnect.eval (exec controller) oracle state).1 = 0 →
      Connected (tcpConnect.eval (exec controller) oracle state).2
  refused : (oracle .connect).ret ≠ 0 →
    (tcpConnect.eval (exec controller) oracle state).1 ≠ 0 ∧
      (tcpConnect.eval (exec controller) oracle state).2.tcpIsConnected =
        state.tcpIsConnected

/-- A connection is only opened with the flag cleared, and `fcntl` does not
succeed behind a failed `connect`. -/
def ConnectsFirst : Machine.Condition Op Thread Choice State
  | _, .socket, _, state => state.tcpIsConnected = false
  | _, .fcntl, choice, state => choice.ret = 0 → Connected state
  | _, _, _, _ => True

instance (thread : Thread) (operation : Op) (choice : Choice)
    (state : State) :
    Decidable (ConnectsFirst thread operation choice state) := by
  unfold ConnectsFirst
  split <;> infer_instance

/-! ## One call -/

theorem State.socket_failed
    {state : State}
    {choice : Choice}
    (failed : (state.socket choice).1.1 = -1) :
    (state.socket choice).1.2 ≠ 0 := by
  rcases state.socket_cases choice with
    ⟨descriptor, errno, nonnegative, -, created⟩ | refused
  · rw [created] at failed
    have negative : descriptor = -1 := failed
    omega
  · rw [refused]
    exact choice.failure_ne_zero

theorem State.fcntl_failed
    {state : State}
    {choice : Choice}
    (failed : (state.fcntl choice).1.1 ≠ 0) :
    (state.fcntl choice).1.2 ≠ 0 := by
  rcases state.fcntl_cases choice with
    ⟨_, _, -, -, succeeded⟩ | refused
  · rw [succeeded] at failed
    cases failed rfl
  · rw [refused]
    exact choice.failure_ne_zero

theorem State.connect_establishes
    {state : State}
    {choice : Choice}
    {serial : Nat}
    (accepted : choice.ret = 0)
    (open_socket : (state.connect choice).2.serial = some serial) :
    serial ∈ (state.connect choice).2.established := by
  unfold State.connect at open_socket ⊢
  cases current : state.serial with
  | none =>
      rw [current] at open_socket
      exact absurd (current.symm.trans open_socket) nofun
  | some other =>
      rw [current] at open_socket
      dsimp only at open_socket ⊢
      rw [if_pos accepted] at open_socket ⊢
      have same : other = serial :=
        Option.some.inj (current.symm.trans open_socket)
      rw [same]
      exact .head _

theorem tcpConnectBody_eval
    (oracle : Op → Choice)
    (state : State) :
    tcpConnectBody.eval (exec controller) oracle state =
      let opened := exec controller .socket (oracle .socket) state
      let joined := exec controller .connect (oracle .connect) opened.2
      let set := exec controller .fcntl (oracle .fcntl) joined.2
      if opened.1.1 = -1 then (↑opened.1.2, opened.2)
      else if set.1.1 ≠ 0 then (↑set.1.2, set.2)
      else (set.1.1, { set.2 with tcpIsConnected := true }) := by
  unfold tcpConnectBody
  rw [Program.eval_bind, Program.eval_call]
  dsimp only
  split
  next => rfl
  next =>
    rw [Program.eval_bind, Program.eval_call, Program.eval_bind,
      Program.eval_call]
    split <;> rfl

/-- The body of `sms112_tcp_connect` fails and leaves the flag, or it returns
0 on the socket that `connect` and `fcntl` were called for. -/
theorem tcpConnectBody_cases
    (oracle : Op → Choice)
    (state : State) :
    (∃ error later, error ≠ 0 ∧
      later.tcpIsConnected = state.tcpIsConnected ∧
      tcpConnectBody.eval (exec controller) oracle state = (error, later)) ∨
      ((oracle .fcntl).ret = 0 ∧ ∃ serial later,
        later.serial = some serial ∧
        ((oracle .connect).ret = 0 → serial ∈ later.established) ∧
        tcpConnectBody.eval (exec controller) oracle state = (0, later)) := by
  have opens := exec_frame controller .socket (oracle .socket) state
    .tcpIsConnected rfl
  rw [tcpConnectBody_eval]
  dsimp only
  by_cases created :
      (exec controller .socket (oracle .socket) state).1.1 = -1
  · rw [if_pos created]
    exact .inl ⟨_, _, Int.natCast_ne_zero.mpr (State.socket_failed created),
      opens, rfl⟩
  · rw [if_neg created]
    generalize (exec controller .socket (oracle .socket) state).2 = opened
      at *
    have joins := exec_frame controller .connect (oracle .connect) opened
    by_cases failed : (exec controller .fcntl (oracle .fcntl)
        (exec controller .connect (oracle .connect) opened).2).1.1 ≠ 0
    · rw [if_pos failed]
      refine .inl ⟨_, _, Int.natCast_ne_zero.mpr
        (State.fcntl_failed failed), ?_, rfl⟩
      exact (exec_frame controller .fcntl (oracle .fcntl) _ .tcpIsConnected
        rfl).trans ((joins .tcpIsConnected rfl).trans opens)
    · rw [if_neg failed]
      dsimp only [exec] at failed joins ⊢
      rcases (opened.connect (oracle .connect)).2.fcntl_cases
          (oracle .fcntl) with
        ⟨serial, errno, open_socket, succeeded, equal⟩ | refused
      · rw [equal]
        exact .inr ⟨succeeded, serial,
          { (opened.connect (oracle .connect)).2 with
            tcpIsConnected := true },
          open_socket, fun accepted =>
            State.connect_establishes accepted open_socket, rfl⟩
      · rw [refused] at failed
        exact absurd (show (-1 : Int) ≠ 0 by decide) failed

/-- When `fcntl` fails on every socket on which `connect` failed, a call of
`sms112_tcp_connect` does what it should. -/
theorem tcpConnect_connectSound
    (oracle : Op → Choice)
    (state : State)
    (fails : (oracle .fcntl).ret = 0 → (oracle .connect).ret = 0) :
    ConnectSound oracle state := by
  rcases tcpConnectBody_cases oracle (state.enter .tcpConnect) with
    ⟨error, later, nonzero, flag, evaluated⟩ |
      ⟨succeeded, serial, later, open_socket, establishes, evaluated⟩
  · refine ⟨fun success => ?_, fun _ => ?_⟩ <;>
      unfold tcpConnect at * <;> rw [within_eval, evaluated] at *
    · exact absurd success nonzero
    · exact ⟨nonzero, flag⟩
  · refine ⟨fun _ => ?_, fun refused => absurd (fails succeeded) refused⟩
    unfold tcpConnect
    rw [within_eval, evaluated]
    exact ⟨serial, open_socket, establishes (fails succeeded)⟩

/-! ## The statements that change the connection -/

variable {α : Type}

/-- Neither a bind nor a disconnection is in progress. -/
def Idle (state : State) : Prop :=
  state.busy .smppConnect = false ∧ state.busy .tcpDisconn = false

/-- The flag tells the truth. -/
def FlagTrue (state : State) : Prop :=
  state.tcpIsConnected → Connected state

/-- The flag is cleared. -/
def FlagCleared (state : State) : Prop :=
  state.tcpIsConnected = false

/-- `sms112_tcp_disconn` is running. -/
def Disconnecting (state : State) : Prop :=
  state.busy .smppConnect = false ∧ state.busy .tcpDisconn

theorem Connected.of_eq
    {before after : State}
    (connected : Connected before)
    (serial : after.serial = before.serial)
    (established : after.established = before.established) :
    Connected after := by
  unfold Connected
  rw [serial, established]
  exact connected

theorem connected_lasting : Lasting Connected :=
  fun _ _ connected peripheral =>
    connected.of_eq peripheral.serial peripheral.established

theorem tcpFlagSound_lasting : Lasting TcpFlagSound := by
  intro before after sound peripheral
  refine ⟨fun flag => ?_, fun binding => ?_⟩
  · rw [peripheral.serial, peripheral.busy .tcpDisconn nofun nofun]
    exact (sound.connected (peripheral.tcpIsConnected flag)).imp_left
      fun connected => connected_lasting _ _ connected peripheral
  · rw [peripheral.busy .smppConnect nofun nofun] at binding
    exact connected_lasting _ _ (sound.binding binding) peripheral

theorem idle_lasting : Lasting Idle := by
  intro before after idle peripheral
  unfold Idle
  rw [peripheral.busy .smppConnect nofun nofun,
    peripheral.busy .tcpDisconn nofun nofun]
  exact idle

theorem disconnecting_lasting : Lasting Disconnecting := by
  intro before after disconnecting peripheral
  unfold Disconnecting
  rw [peripheral.busy .smppConnect nofun nofun,
    peripheral.busy .tcpDisconn nofun nofun]
  exact disconnecting

theorem flagTrue_lasting : Lasting FlagTrue :=
  fun _ _ holds peripheral flag => connected_lasting _ _
    (holds (peripheral.tcpIsConnected flag)) peripheral

theorem flagCleared_lasting : Lasting FlagCleared :=
  fun _ _ cleared peripheral => Bool.eq_false_iff.mpr fun flag =>
    Bool.eq_false_iff.mp cleared (peripheral.tcpIsConnected flag)

/-- Outside the two routines the flag tells the truth. -/
theorem TcpFlagSound.flagTrue
    {state : State}
    (sound : TcpFlagSound state)
    (idle : Idle state) :
    FlagTrue state := by
  intro flag
  rcases sound.connected flag with connected | ⟨running, -⟩
  · exact connected
  · rw [idle.2] at running
    cases running

/-- Where no bind is in progress, a true flag is enough. -/
theorem FlagTrue.sound
    {state : State}
    (flagTrue : FlagTrue state)
    (unbound : state.busy .smppConnect = false) :
    TcpFlagSound state :=
  ⟨fun flag => .inl (flagTrue flag), fun binding => by
    rw [unbound] at binding
    cases binding⟩

theorem FlagCleared.flagTrue
    {state : State}
    (cleared : FlagCleared state) :
    FlagTrue state := by
  intro flag
  rw [cleared] at flag
  cases flag

/-- A triple of the controller about the flag. -/
abbrev FlagTriple (pre : State → Prop) (program : Prog α)
    (post : α → State → Prop) : Prop :=
  ControllerTriple ConnectsFirst TcpFlagSound pre program post

/-- What lasts is kept by peripheral operations. -/
theorem keeps_triple
    {program : Prog α}
    {assertion : State → Prop}
    (uses : program.Uses fun operation => operation.isPeripheral)
    (lasting : Lasting assertion) :
    FlagTriple assertion program fun _ => assertion :=
  peripheral_triple tcpFlagSound_lasting uses lasting.stable

theorem keeps_call
    {operation : Op}
    {assertion : State → Prop}
    (peripheral : operation.isPeripheral)
    (lasting : Lasting assertion) :
    FlagTriple assertion (call operation) fun _ => assertion :=
  peripheral_call tcpFlagSound_lasting peripheral lasting

/-- The beginning of the other routines. -/
theorem enter_idle
    (routine : Routine)
    (noBind : routine ≠ .smppConnect)
    (noDisconn : routine ≠ .tcpDisconn) :
    FlagTriple Idle (call (.enter routine)) fun _ => Idle := by
  refine controller_call idle_lasting (fun _ => idle_lasting) ?_
  intro state _ inv idle _
  cases routine <;>
    first
      | exact ⟨⟨inv.connected, inv.binding⟩, idle⟩
      | contradiction

/-- The end of the other routines. -/
theorem leave_idle
    (routine : Routine)
    (noBind : routine ≠ .smppConnect)
    (noDisconn : routine ≠ .tcpDisconn) :
    FlagTriple Idle (call (.leave routine)) fun _ => Idle := by
  refine controller_call idle_lasting (fun _ => idle_lasting) ?_
  intro state _ inv idle _
  cases routine <;>
    first
      | exact ⟨⟨inv.connected, inv.binding⟩, idle⟩
      | contradiction

/-- A connection is opened with the flag cleared. -/
theorem socket_cleared :
    FlagTriple Idle (call .socket) fun outcome state =>
      (outcome.1 = -1 → outcome.2 ≠ 0) ∧ FlagCleared state ∧ Idle state := by
  have after := flagCleared_lasting.conj idle_lasting
  refine controller_call idle_lasting
    (fun _ => (Lasting.const _).conj after) ?_
  intro state choice inv idle cleared
  have frame := exec_frame controller .socket choice state
  have flag := (frame .tcpIsConnected rfl).trans cleared
  have busy := frame .busy rfl
  have idleAfter : Idle (exec controller .socket choice state).2 := by
    unfold Idle
    rw [busy]
    exact idle
  exact ⟨FlagCleared.flagTrue flag |>.sound idleAfter.1,
    State.socket_failed, flag, idleAfter⟩

theorem connect_cleared :
    FlagTriple (fun state => FlagCleared state ∧ Idle state) (call .connect)
      fun _ state => FlagCleared state ∧ Idle state := by
  have around := flagCleared_lasting.conj idle_lasting
  refine controller_call around (fun _ => around) ?_
  intro state choice inv ⟨cleared, idle⟩ _
  have frame := exec_frame controller .connect choice state
  have flag := (frame .tcpIsConnected rfl).trans cleared
  have busy := frame .busy rfl
  have idleAfter : Idle (exec controller .connect choice state).2 := by
    unfold Idle
    rw [busy]
    exact idle
  exact ⟨FlagCleared.flagTrue flag |>.sound idleAfter.1, flag, idleAfter⟩

/-- Where `fcntl` succeeds, `connect` has succeeded before. -/
theorem fcntl_connected :
    FlagTriple Idle (call .fcntl) fun outcome state =>
      (outcome.1 ≠ 0 → outcome.2 ≠ 0) ∧
        (outcome.1 = 0 → Connected state) ∧ Idle state := by
  refine controller_call idle_lasting (fun outcome => ?_) ?_
  · refine (Lasting.const _).conj (Lasting.conj ?_ idle_lasting)
    exact fun before after holds peripheral success =>
      connected_lasting _ _ (holds success) peripheral
  · intro state choice inv idle connectsFirst
    have same : (exec controller .fcntl choice state).2 = state := by
      dsimp only [exec]
      rcases state.fcntl_cases choice with ⟨_, _, -, -, equal⟩ | equal <;>
        rw [equal]
    rw [same]
    refine ⟨inv, State.fcntl_failed, fun success => ?_, idle⟩
    dsimp only [exec] at success
    rcases state.fcntl_cases choice with
      ⟨_, _, -, succeeded, -⟩ | refused
    · exact connectsFirst succeeded
    · rw [refused] at success
      cases success

theorem setConnected_triple :
    FlagTriple (fun state => Connected state ∧ Idle state)
      (call (.setTcpConnected true))
      fun _ state => Connected state ∧ Idle state := by
  have around := connected_lasting.conj idle_lasting
  refine controller_call around (fun _ => around) ?_
  intro state _ inv ⟨connected, idle⟩ _
  exact ⟨⟨fun _ => .inl connected, fun _ => connected⟩, connected, idle⟩

/-- `sms112_tcp_connect` returns 0 only on an established connection. -/
theorem tcpConnect_flag :
    FlagTriple Idle tcpConnect fun iRetVal state =>
      (iRetVal = 0 → Connected state) ∧ Idle state := by
  have post (iRetVal : Int) : Lasting fun state =>
      (iRetVal = 0 → Connected state) ∧ Idle state :=
    Lasting.conj (fun _ _ holds peripheral success =>
      connected_lasting _ _ (holds success) peripheral) idle_lasting
  have leaves (iRetVal : Int) : FlagTriple
      (fun state => (iRetVal = 0 → Connected state) ∧ Idle state)
      (call (.leave .tcpConnect)) fun _ state =>
        (iRetVal = 0 → Connected state) ∧ Idle state :=
    controller_call (post iRetVal) (fun _ => post iRetVal)
      fun state _ inv holds _ => ⟨⟨inv.connected, inv.binding⟩, holds⟩
  have fails {pre : State → Prop} {error : Nat}
      (nonzero : ∀ state, pre state → error ≠ 0 ∧ Idle state) :
      FlagTriple pre (.ret (error : Int)) fun iRetVal state =>
        (iRetVal = 0 → Connected state) ∧ Idle state :=
    controller_returns (post _) fun state _ holds =>
      ⟨fun success => absurd (Int.natCast_eq_zero.mp success)
        (nonzero state holds).1, (nonzero state holds).2⟩
  refine (enter_idle .tcpConnect nofun nofun).bind fun _ => .bind ?_ fun iRetVal =>
    (leaves iRetVal).bind fun _ =>
      controller_returns (post iRetVal) fun _ _ holds => holds
  refine socket_cleared.bind fun opened => .ite (fun refused => ?_)
    fun _ => ?_
  · exact fails fun state holds => ⟨holds.1 refused, holds.2.2⟩
  · refine .bind (connect_cleared.consequence (fun _ _ holds => holds.2)
      fun _ _ _ holds => holds) fun _ => .bind
        (fcntl_connected.consequence (fun _ _ holds => holds.2)
          fun _ _ _ holds => holds) fun controlled =>
            .ite (fun failed => ?_) fun succeeded => ?_
    · exact fails fun state holds => ⟨holds.1 failed, holds.2.2⟩
    · refine (setConnected_triple.consequence
        (fun _ _ holds => ⟨holds.2.1 (not_not.mp succeeded), holds.2.2⟩)
        fun _ _ _ holds => holds).bind fun _ => ?_
      exact controller_returns (post _) fun _ _ holds =>
        ⟨fun _ => holds.1, holds.2⟩

/-- `sms112_tcp_disconn` leaves a flag that tells the truth. -/
theorem tcpDisconn_flag :
    FlagTriple Idle tcpDisconn fun _ => Idle := by
  have inside := flagTrue_lasting.conj disconnecting_lasting
  have enters : FlagTriple Idle (call (.enter .tcpDisconn)) fun _ state =>
      FlagTrue state ∧ Disconnecting state :=
    controller_call idle_lasting (fun _ => inside)
      fun state _ inv idle _ =>
        have flagTrue : FlagTrue (state.enter .tcpDisconn) :=
          inv.flagTrue idle
        ⟨flagTrue.sound idle.1, flagTrue, idle.1, rfl⟩
  have leaves : FlagTriple
      (fun state => FlagTrue state ∧ Disconnecting state)
      (call (.leave .tcpDisconn)) fun _ => Idle :=
    controller_call inside (fun _ => idle_lasting)
      fun state _ inv ⟨flagTrue, disconnecting⟩ _ =>
        have flagTrue : FlagTrue (state.leave .tcpDisconn) := flagTrue
        ⟨flagTrue.sound disconnecting.1, disconnecting.1, rfl⟩
  have closes : FlagTriple
      (fun state => FlagTrue state ∧ Disconnecting state) (call .close)
      fun closed state =>
        (closed ≠ 0 → FlagTrue state) ∧ Disconnecting state := by
    refine controller_call inside (fun closed => ?_) ?_
    · refine Lasting.conj ?_ disconnecting_lasting
      exact fun before after holds peripheral failed =>
        flagTrue_lasting _ _ (holds failed) peripheral
    · intro state choice inv ⟨flagTrue, disconnecting⟩ _
      dsimp only [exec]
      rcases state.close_cases choice with ⟨serial, -, -, closed⟩ | failed
      · rw [closed]
        refine ⟨⟨fun _ => .inr ⟨disconnecting.2, ?_⟩, ?_⟩,
          fun failed => absurd rfl failed, disconnecting⟩
        · exact state.serial_closed
        · intro binding
          rw [show state.busy .smppConnect = false from disconnecting.1]
            at binding
          cases binding
      · rw [failed]
        exact ⟨inv, fun _ => flagTrue, disconnecting⟩
  have clears : FlagTriple Disconnecting (call (.setTcpConnected false))
      fun _ state => FlagCleared state ∧ Disconnecting state :=
    controller_call disconnecting_lasting
      (fun _ => flagCleared_lasting.conj disconnecting_lasting)
      fun state _ inv disconnecting _ =>
        ⟨FlagTrue.sound (FlagCleared.flagTrue rfl) disconnecting.1, rfl,
          disconnecting⟩
  have forgets : FlagTriple
      (fun state => FlagCleared state ∧ Disconnecting state)
      (call (.setSock (-1)))
      fun _ state => FlagTrue state ∧ Disconnecting state :=
    controller_call (flagCleared_lasting.conj disconnecting_lasting)
      (fun _ => inside) fun state _ inv ⟨cleared, disconnecting⟩ _ =>
        have flagTrue : FlagTrue { state with iSock := -1 } :=
          FlagCleared.flagTrue cleared
        ⟨flagTrue.sound disconnecting.1, flagTrue, disconnecting⟩
  refine enters.bind fun _ => .bind ?_ fun _ => leaves.bind fun _ =>
    controller_returns idle_lasting fun _ _ idle => idle
  refine (keeps_call rfl inside).bind fun iSock => .ite (fun _ => ?_)
    fun _ => controller_returns inside fun _ _ holds => holds
  refine (keeps_call rfl inside).bind fun _ => closes.bind fun closed =>
    .ite (fun _ => ?_) fun failed => ?_
  · exact (clears.consequence (fun _ _ holds => holds.2)
      fun _ _ _ holds => holds).bind fun _ => forgets
  · exact controller_returns inside fun _ _ holds =>
      ⟨holds.1 failed, holds.2⟩

variable (conf : SConf) (lib : Smpp34)

/-- A bind begins on an established connection. -/
theorem smppConnect_flag :
    FlagTriple (fun state => Connected state ∧ Idle state)
      (smppConnect conf lib) fun _ => Idle := by
  have around := connected_lasting.conj idle_lasting
  have binding : Lasting fun state =>
      Connected state ∧ state.busy .tcpDisconn = false :=
    connected_lasting.conj fun before after idle peripheral => by
      rw [peripheral.busy .tcpDisconn nofun nofun]
      exact idle
  have enters : FlagTriple (fun state => Connected state ∧ Idle state)
      (call (.enter .smppConnect)) fun _ state =>
        Connected state ∧ state.busy .tcpDisconn = false :=
    controller_call around (fun _ => binding)
      fun state _ inv ⟨connected, idle⟩ _ =>
        ⟨⟨inv.connected, fun _ => connected⟩, connected, idle.2⟩
  have leaves : FlagTriple
      (fun state => Connected state ∧ state.busy .tcpDisconn = false)
      (call (.leave .smppConnect)) fun _ => Idle :=
    controller_call binding (fun _ => idle_lasting)
      fun state _ inv ⟨connected, idle⟩ _ =>
        ⟨⟨inv.connected, fun _ => connected⟩, rfl, idle⟩
  have sets : FlagTriple
      (fun state => Connected state ∧ state.busy .tcpDisconn = false)
      (call (.setSmppConnected true)) fun _ state =>
        Connected state ∧ state.busy .tcpDisconn = false :=
    controller_call binding (fun _ => binding)
      fun state _ inv holds _ => ⟨⟨inv.connected, inv.binding⟩, holds⟩
  refine enters.bind fun _ => .bind ?_ fun _ => leaves.bind fun _ =>
    controller_returns idle_lasting fun _ _ idle => idle
  refine (keeps_call rfl binding).bind fun seqNum =>
    (keeps_triple (exchange_peripheral lib _ _ _) binding).bind
      fun iRetVal => .ite (fun _ => ?_) fun _ =>
        controller_returns binding fun _ _ holds => holds
  exact sets.bind fun _ =>
    controller_returns binding fun _ _ holds => holds

theorem smppDisconn_flag :
    FlagTriple Idle (smppDisconn lib) fun _ => Idle :=
  (enter_idle .smppDisconn nofun nofun).bind fun _ => .bind
    ((keeps_call rfl idle_lasting).bind fun _ =>
      (keeps_call rfl idle_lasting).bind fun _ =>
        keeps_triple (exchange_peripheral lib _ _ _) idle_lasting)
    fun _ => (leave_idle .smppDisconn nofun nofun).bind fun _ =>
      controller_returns idle_lasting fun _ _ idle => idle

theorem smppEnqLink_flag :
    FlagTriple Idle (smppEnqLink lib) fun _ => Idle :=
  (keeps_call rfl idle_lasting).bind fun _ =>
    keeps_triple (exchange_peripheral lib _ _ _) idle_lasting

/-! ## The controller's programs -/

/-- Wherever the controller starts over, it is idle. -/
theorem continues_triple
    {pre : State → Prop}
    {label : Label}
    (idle : ∀ state, pre state → Idle state) :
    FlagTriple pre (.ret label) fun _ => Idle :=
  controller_returns idle_lasting fun state _ holds => idle state holds

theorem main_flag :
    FlagTriple Idle (main conf lib) fun _ => Idle := by
  have stops : FlagTriple Idle (do tcpDisconn; return Label.stopped)
      fun _ => Idle :=
    tcpDisconn_flag.bind fun _ => continues_triple fun _ idle => idle
  refine tcpConnect_flag.bind fun iFnRes =>
    .ite (fun _ => continues_triple fun _ holds => holds.2) fun success => ?_
  have around := connected_lasting.conj idle_lasting
  refine .consequence (.bind (keeps_call rfl around) fun created =>
    .ite (fun _ => stops.consequence (fun _ _ holds => holds.2)
      fun _ _ _ idle => idle) fun _ => ?_)
    (fun _ _ holds => ⟨holds.1 (not_not.mp success), holds.2⟩)
    fun _ _ _ idle => idle
  refine (smppConnect_flag conf lib).bind fun bound =>
    .ite (fun _ => stops) fun _ => ?_
  exact (keeps_call rfl idle_lasting).bind fun created =>
    .ite (fun _ => continues_triple fun _ idle => idle)
      fun _ => continues_triple fun _ idle => idle

theorem startPing_flag :
    FlagTriple Idle (startPing conf) fun _ => Idle := by
  refine (enter_idle .doSmppPing nofun nofun).bind fun _ =>
    (keeps_call rfl idle_lasting).bind fun created =>
      .ite (fun _ => continues_triple fun _ idle => idle) fun _ => ?_
  refine (keeps_call rfl idle_lasting).bind fun garbage => .bind
    (keeps_triple (makeTimespecTimeout_uses (by rfl) _ _ _) idle_lasting)
      fun timeSpec => ?_
  exact continues_triple fun _ idle => idle

theorem doSmppConnection_flag (soTS : Timespec) :
    FlagTriple (fun state => Connected state ∧ Idle state)
      (doSmppConnection conf lib soTS) fun _ => Idle :=
  (smppConnect_flag conf lib).bind fun _ =>
    continues_triple fun _ idle => idle

/-- A connection that was not established is not bound on. -/
theorem doTcpConnection_flag (soTS : Timespec) :
    FlagTriple Idle (doTcpConnection conf lib soTS) fun _ => Idle :=
  tcpConnect_flag.bind fun _ =>
    .ite (fun _ => continues_triple fun _ holds => holds.2) fun success =>
      (doSmppConnection_flag conf lib soTS).consequence
        (fun _ _ holds => ⟨holds.1 (not_not.mp success), holds.2⟩)
        fun _ _ _ idle => idle

theorem recoverConnection_flag (soTS : Timespec) :
    FlagTriple Idle (recoverConnection conf lib soTS) fun _ => Idle :=
  (smppDisconn_flag lib).bind fun _ => tcpDisconn_flag.bind
    fun _ => doTcpConnection_flag conf lib soTS

/-- What the flag says is so. -/
theorem isTcpConnected_flag :
    FlagTriple Idle (call .isTcpConnected) fun connected state =>
      (connected → Connected state) ∧ Idle state :=
  controller_call idle_lasting
    (fun _ => Lasting.conj (fun _ _ holds peripheral flag =>
      connected_lasting _ _ (holds flag) peripheral) idle_lasting)
    fun _ _ inv idle _ => ⟨inv, inv.flagTrue idle, idle⟩

theorem doSmppPing_flag (soTS : Timespec) :
    FlagTriple Idle (doSmppPing conf lib soTS) fun _ => Idle := by
  refine (keeps_call rfl idle_lasting).bind fun iStop =>
    .ite (fun _ => continues_triple fun _ idle => idle) fun _ => ?_
  refine (keeps_call rfl idle_lasting).bind fun iFnRes =>
    .ite (fun _ => continues_triple fun _ idle => idle) fun _ => ?_
  refine isTcpConnected_flag.bind fun tcpIsConnected =>
    .ite (fun _ => ?_) fun connected => ?_
  · exact (doTcpConnection_flag conf lib soTS).consequence
      (fun _ _ holds => holds.2) fun _ _ _ idle => idle
  · refine .consequence (.bind
      (keeps_call rfl (connected_lasting.conj idle_lasting))
      fun smppIsConnected => .ite
        (fun _ => doSmppConnection_flag conf lib soTS) fun _ => ?_)
      (fun _ _ holds => ⟨holds.1 (by simpa using connected), holds.2⟩)
      fun _ _ _ idle => idle
    refine .consequence (.bind (smppEnqLink_flag lib) fun iFnRes => .ite
      (fun _ => continues_triple fun _ idle => idle)
      fun _ => recoverConnection_flag conf lib soTS)
      (fun _ _ holds => holds.2) fun _ _ _ idle => idle

theorem finish_flag :
    FlagTriple Idle (finish lib) fun _ => Idle :=
  (leave_idle .doSmppPing nofun nofun).bind fun _ => (smppDisconn_flag lib).bind
    fun _ => tcpDisconn_flag.bind fun _ =>
      continues_triple fun _ idle => idle

/-- In every run in which a connection is opened only with the flag cleared
and in which `fcntl` does not succeed behind a failed `connect`, the flag is
sound, and so is every call of `sms112_tcp_connect`. -/
theorem gateway_tcpFlagSound
    {config : Config Res Thread State Label}
    (reach : (gateway conf lib).Reach ConnectsFirst gatewayStart config) :
    TcpFlagSound config.state ∧
      ∀ oracle, ((oracle .fcntl).ret = 0 → (oracle .connect).ret = 0) →
        ConnectSound oracle config.state := by
  have initially : TcpFlagSound gatewayStart.state := ⟨nofun, nofun⟩
  have sound : TcpFlagSound config.state :=
    gateway_invariant conf lib tcpFlagSound_lasting
      (fun _ => idle_lasting) (fun _ _ idle => idle) (main_flag conf lib)
      (startPing_flag conf) (doSmppPing_flag conf lib) (finish_flag lib)
      initially ⟨rfl, rfl⟩ reach
  exact ⟨sound, fun oracle => tcpConnect_connectSound oracle config.state⟩

/-! ## A connection that is accepted and one that is refused -/

/-- The link check times out, and the ping thread reconnects. -/
theorem linkTimedOut_tcpFlagSound :
    let config := (gateway {} referenceCodec).run
      (started ++ steps (.requester 0) 43) gatewayStart
    TcpFlagSound config.state ∧ ConnectSound allSucceeds config.state := by
  have sound := gateway_tcpFlagSound {} referenceCodec
    (.run .start (started ++ steps (.requester 0) 43) (by decide +kernel))
  exact ⟨sound.1, sound.2 allSucceeds fun _ => rfl⟩

/-- The server refuses the first connection: the flag is set, and the bind
begins on the socket that is not connected. -/
theorem connectRefused_flagged :
    ∃ config, (gateway {} referenceCodec).Reach Machine.unconditional
        gatewayStart config ∧
      ¬TcpFlagSound config.state := by
  let schedule := steps (.requester 0) 3 ++
    stepWith (.requester 0) { ret := -1, errno := 111 } ++
      steps (.requester 0) 3
  refine ⟨(gateway {} referenceCodec).run schedule gatewayStart,
    .run .start schedule (Machine.admits_unconditional schedule _), ?_⟩
  have flagged : ((gateway {} referenceCodec).run schedule
      gatewayStart).state.tcpIsConnected = true := by
    decide +kernel
  have refused : ¬Connected ((gateway {} referenceCodec).run schedule
      gatewayStart).state := by
    decide +kernel
  have idle : ((gateway {} referenceCodec).run schedule
      gatewayStart).state.busy .tcpDisconn = false := by
    decide +kernel
  intro sound
  rcases sound.connected flagged with connected | ⟨running, -⟩
  · exact refused connected
  · rw [idle] at running
    cases running

end Sms112
