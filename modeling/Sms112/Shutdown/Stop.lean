import Sms112.Session.Gateway
import Sms112.Shutdown.Bounds

/-!
# Stopping the gateway

Once a signal has asked the program to stop, the ping thread and the receiver
end after a bounded number of their own steps, whatever comes in between and
whatever the network does. When the main thread ends, the SMPP flag is cleared.
-/

namespace Sms112

open Resumption

variable {α : Type} {before after state : State}

/-! ## Ranks -/

/-- What the results are once the program was asked to stop. -/
def stopResults : (operation : Op) → Res operation → Prop
  | .getStop, iStop => iStop = true
  | _, _ => True

/-- What the results are for a receiver that has been created. -/
def createdResults : (operation : Op) → Res operation → Prop
  | .isReceiverCreated, created => created = true
  | operation, result => stopResults operation result

/-- How many steps the controller is from its end: one to every program it
starts, and those of the program. -/
def stopRank : Label → Nat
  | .main => 63
  | .startPing => 35
  | .ping _ => 30
  | .finish => 28
  | .receive | .environment => 1
  | .stopped => 0

/-- How many steps the receiver is from its end. -/
def receiverRank : Label → Nat
  | .receive => 3
  | .stopped => 0
  | _ => 1

section Ranks

variable (conf : SConf) (lib : Smpp34)

/-- From `finish` on, 27 steps of the controller are enough to stop it. -/
theorem finish_ends : (finish lib).Ends stopResults stopRank 27 :=
  .step (by decide) fun _ _ => (smppDisconn_within lib).andThen (by decide)
    fun _ => tcpDisconn_within.andThen (by decide) fun _ => Nat.zero_le _

/-- From the beginning of the ping loop on, 34 steps are enough. -/
theorem startPing_ends : (startPing conf).Ends stopResults stopRank 34 := by
  refine .step (by decide) fun _ _ => .step (by decide) fun iFnRes _ => ?_
  split
  · show stopRank .finish ≤ _
    decide
  · refine .step (by decide) fun garbage _ =>
      (makeTimespecTimeout_within _ _ _).andThen (by decide) fun _ => ?_
    exact Nat.le_refl 30

/-- A turn of the ping loop sees the stop before anything else and goes on to
the clean-up. -/
theorem doSmppPing_ends (soTS : Timespec) :
    (doSmppPing conf lib soTS).Ends stopResults stopRank 29 := by
  refine .step (by decide) fun iStop stopped => ?_
  have stopped : iStop = true := stopped
  rw [if_pos stopped]
  exact Nat.le_refl 28

/-- From the beginning of `main` on, 62 steps are enough. -/
theorem main_ends : (main conf lib).Ends stopResults stopRank 62 := by
  refine tcpConnect_within.andThen (by decide) fun iFnRes => ?_
  split
  · exact Nat.zero_le _
  · refine .step (by decide) fun created _ => ?_
    split
    · exact tcpDisconn_within.andThen (by decide) fun _ => Nat.zero_le _
    · refine (smppConnect_within conf lib).andThen (by decide)
        fun iFnRes => ?_
      split
      · exact tcpDisconn_within.andThen (by decide) fun _ => Nat.zero_le _
      · refine .step (by decide) fun created _ => ?_
        split
        · show stopRank .finish ≤ _
          decide
        · exact Nat.le_refl 35

/-- Every label of the controller brings it nearer to its end. -/
theorem controller_winds :
    (gateway conf lib).Winds controller stopResults stopRank where
  ends label _ := by
    cases label with
    | main => exact main_ends conf lib
    | startPing => exact startPing_ends conf
    | ping soTS => exact doSmppPing_ends conf lib soTS
    | finish => exact finish_ends lib
    | receive | environment | stopped => exact Nat.zero_le _
  stays label final := by
    cases label <;> first | rfl | cases final

/-- The receiver, once created, sees the stop at the next turn of its loop. -/
theorem receiver_winds :
    (gateway conf lib).Winds .receiver createdResults receiverRank where
  ends label _ := by
    cases label with
    | receive =>
        refine .step (by decide) fun created isCreated => ?_
        have isCreated : created = true := isCreated
        subst isCreated
        refine .step (by decide) fun iStop stopped => ?_
        have stopped : iStop = true := stopped
        rw [if_pos stopped]
        exact Nat.zero_le _
    | main | startPing | ping | finish | environment | stopped =>
        exact Nat.zero_le _
  stays label final := by
    cases label <;> first | rfl | cases final

end Ranks

/-! ## What lasts -/

/-- No operation takes the stop back. -/
theorem iStop_exec
    (thread : Thread)
    (operation : Op)
    (choice : Choice)
    (state : State)
    (stopped : state.iStop) :
    (exec thread operation choice state).2.iStop := by
  by_cases kept : operation.writes .iStop = false
  · exact (exec_frame thread operation choice state .iStop kept).trans stopped
  · cases operation <;> first | rfl | exact absurd rfl kept

/-- Nor does a step of any thread. -/
theorem iStop_step
    {conf : SConf}
    {lib : Smpp34}
    {config : Config Res Thread State Label}
    (stopped : config.state.iStop)
    (thread : Thread)
    (oracle : Op → Choice) :
    ((gateway conf lib).step thread oracle config).state.iStop := by
  unfold Machine.step
  split
  · exact stopped
  next operation next pending =>
    exact iStop_exec thread operation (oracle operation) config.state stopped

/-- The operations that neither create the receiver nor set the SMPP flag. -/
def Op.isSteady : Op → Bool
  | .createReceiver | .setSmppConnected true => false
  | _ => true

/-- The receiver has been created or not as before, and the SMPP flag may have
been cleared. -/
structure Steady (before after : State) : Prop where
  receiverCreated : after.receiverCreated = before.receiverCreated
  smppIsConnected : after.smppIsConnected → before.smppIsConnected

/-- All other operations leave the creation of the receiver alone and do not
set the flag. -/
theorem exec_steady
    (thread : Thread)
    {operation : Op}
    (steady : operation.isSteady)
    (choice : Choice)
    (state : State) :
    Steady state (exec thread operation choice state).2 := by
  have frame := exec_frame thread operation choice state
  cases operation
  case createReceiver => cases steady
  case setSmppConnected value =>
    cases value
    · exact ⟨rfl, nofun⟩
    · cases steady
  all_goals
    exact ⟨frame .receiverCreated rfl, fun connected =>
      (frame .smppIsConnected rfl).symm.trans connected⟩

/-- The receiver stays created; the controller also relies on the others not
to create it and not to set the SMPP flag. -/
def shutdownProtocol : Protocol Thread State where
  inv _ := True
  rely thread before after :=
    (before.receiverCreated → after.receiverCreated) ∧
      (thread = controller → Steady before after)
  rely_refl _ _ := ⟨id, fun _ => ⟨rfl, id⟩⟩
  rely_trans _ _ _ _ first second :=
    ⟨fun created => second.1 (first.1 created), fun same =>
      ⟨(second.2 same).receiverCreated.trans (first.2 same).receiverCreated,
        fun connected => (first.2 same).smppIsConnected
          ((second.2 same).smppIsConnected connected)⟩⟩

/-- A triple of the controller in this protocol. -/
abbrev ShutdownTriple (pre : State → Prop) (program : Prog α)
    (post : α → State → Prop) : Prop :=
  shutdownProtocol.Triple exec Machine.unconditional controller pre program
    post

theorem Steady.keeps
    (steady : Steady before after)
    (thread : Thread) :
    shutdownProtocol.Keeps thread before after :=
  ⟨trivial, fun _ _ => ⟨fun created =>
    steady.receiverCreated.trans created, fun _ => steady⟩⟩

/-- An assertion that lasts as long as the receiver is not created and the
SMPP flag is not set. -/
def AboutSteady (assertion : State → Prop) : Prop :=
  ∀ before after, assertion before → Steady before after → assertion after

/-- The controller relies on the steps of the others being steady, so such an
assertion is stable for it. -/
theorem AboutSteady.stable
    {assertion : State → Prop}
    (about : AboutSteady assertion) :
    shutdownProtocol.Stable controller assertion :=
  fun before after _ holds rely _ => about before after holds (rely.2 rfl)

/-- A program of steady operations keeps an assertion about what they leave
alone. -/
theorem steady_triple
    {program : Prog α}
    {assertion : State → Prop}
    (uses : program.Uses fun operation => operation.isSteady)
    (about : AboutSteady assertion) :
    ShutdownTriple assertion program fun _ => assertion := by
  refine Protocol.Triple.uses uses about.stable ?_
  intro operation state choice steady _ holds _
  have same := exec_steady controller steady choice state
  exact ⟨same.keeps controller, about _ _ holds same⟩

theorem steady_call
    {operation : Op}
    {assertion : State → Prop}
    (steady : operation.isSteady)
    (about : AboutSteady assertion) :
    ShutdownTriple assertion (call operation) fun _ => assertion :=
  steady_triple ⟨steady, fun _ => trivial⟩ about

/-- Whatever does not create the receiver keeps to the protocol. -/
theorem born_triple
    {program : Prog α}
    (uses : program.Uses fun operation =>
      operation.writes .receiverCreated = false) :
    ShutdownTriple (fun _ => True) program fun _ _ => True := by
  refine Protocol.Triple.uses uses (.const True) ?_
  intro operation state choice kept _ _ _
  have same := exec_frame controller operation choice state .receiverCreated
    kept
  exact ⟨⟨trivial, fun _ different => ⟨fun created => same.trans created,
    fun isController => absurd isController different⟩⟩, trivial⟩

/-! ## The controller's programs -/

theorem smppCleared_steady : AboutSteady SmppCleared :=
  fun _ _ cleared steady => Bool.eq_false_iff.mpr fun connected =>
    Bool.eq_false_iff.mp cleared (steady.smppIsConnected connected)

theorem always_steady : AboutSteady fun _ => True :=
  fun _ _ _ _ => trivial

/-- The receiver has not been created, and the SMPP flag is cleared. -/
def Unborn (state : State) : Prop :=
  state.receiverCreated = false ∧ SmppCleared state

theorem unborn_steady : AboutSteady Unborn :=
  fun before after unborn steady =>
    ⟨steady.receiverCreated.trans unborn.1,
      smppCleared_steady before after unborn.2 steady⟩

/-- What holds where the controller starts a program. -/
def ShutdownEntry : Label → State → Prop
  | .main => Unborn
  | .startPing | .ping _ | .finish => fun _ => True
  | _ => SmppCleared

theorem shutdownEntry_steady (label : Label) :
    AboutSteady (ShutdownEntry label) := by
  cases label <;>
    first
      | exact unborn_steady
      | exact always_steady
      | exact smppCleared_steady

theorem continues_shutdown
    {pre : State → Prop}
    {label : Label}
    (entails : ∀ state, pre state → ShutdownEntry label state) :
    ShutdownTriple pre (.ret label) ShutdownEntry :=
  .returns (shutdownEntry_steady label).stable
    fun state _ holds => entails state holds

theorem Op.isConnecting.steady
    (operation : Op)
    (connecting : operation.isConnecting) :
    operation.isSteady := by
  cases operation <;> first | rfl | cases connecting

theorem Op.isTraffic.steady
    (operation : Op)
    (traffic : operation.isTraffic) :
    operation.isSteady := by
  cases operation
  case setSmppConnected value => cases value <;> first | rfl | cases traffic
  all_goals first | rfl | cases traffic

theorem Op.isExchange.born
    (operation : Op)
    (exchange : operation.isExchange) :
    operation.writes .receiverCreated = false := by
  cases operation <;> first | rfl | cases exchange

section Controller

variable (conf : SConf) (lib : Smpp34)

/-- Disconnecting does not set the SMPP flag. -/
theorem tcpDisconn_shutdown :
    ShutdownTriple SmppCleared tcpDisconn fun _ => SmppCleared :=
  steady_triple (tcpDisconn_connecting.mono Op.isConnecting.steady)
    smppCleared_steady

/-- The flag is set only where the result is zero. -/
theorem smppConnect_shutdown :
    ShutdownTriple SmppCleared (smppConnect conf lib)
      fun iRetVal state => iRetVal ≠ 0 → SmppCleared state := by
  have after (iRetVal : Int) : AboutSteady fun state =>
      iRetVal ≠ 0 → SmppCleared state :=
    fun before after cleared steady failed =>
      smppCleared_steady before after (cleared failed) steady
  have exchanges (seqNum : Nat) : ShutdownTriple SmppCleared
      (exchange lib (bindTransceiver conf seqNum) BIND_TRANSCEIVER_RESP true)
      fun _ => SmppCleared :=
    steady_triple (exchange_uses (fun operation traffic _ =>
      Op.isTraffic.steady operation traffic) (fun _ _ => rfl) _ _ _)
      smppCleared_steady
  have sets {iRetVal : Int} (bound : iRetVal = 0) : ShutdownTriple
      SmppCleared (call (.setSmppConnected true))
      fun _ state => iRetVal ≠ 0 → SmppCleared state := by
    refine .call smppCleared_steady.stable
      (fun _ => (after iRetVal).stable) ?_
    intro state choice _ _ _
    exact ⟨⟨trivial, fun _ different => ⟨id,
      fun isController => absurd isController different⟩⟩,
      fun failed => absurd bound failed⟩
  refine (steady_call rfl smppCleared_steady).bind fun _ => .bind
    ((steady_call rfl smppCleared_steady).bind fun seqNum =>
      (exchanges seqNum).bind fun iRetVal => .ite (fun bound => ?_)
        fun _ => ?_) fun iRetVal => (steady_call rfl (after iRetVal)).bind
          fun _ => .returns (after iRetVal).stable fun _ _ holds => holds
  · exact (sets bound).bind fun _ =>
      .returns (after iRetVal).stable fun _ _ holds => holds
  · exact .returns (after iRetVal).stable fun _ _ cleared _ => cleared

/-- `main` creates the receiver once, and whatever label it goes on to, its
entry condition holds. -/
theorem main_shutdown :
    ShutdownTriple Unborn (main conf lib) ShutdownEntry := by
  have stops : ShutdownTriple SmppCleared
      (do tcpDisconn; return Label.stopped) ShutdownEntry :=
    tcpDisconn_shutdown.bind fun _ =>
      continues_shutdown fun _ cleared => cleared
  have creates : ShutdownTriple Unborn (call .createReceiver)
      fun _ => SmppCleared := by
    refine .call unborn_steady.stable (fun _ => smppCleared_steady.stable) ?_
    intro state choice _ ⟨unborn, cleared⟩ _
    exact ⟨⟨trivial, fun _ different =>
      ⟨fun created => absurd created (Bool.eq_false_iff.mp unborn),
        fun isController => absurd isController different⟩⟩, cleared⟩
  refine (steady_triple (tcpConnect_connecting.mono Op.isConnecting.steady)
    unborn_steady).bind fun iFnRes => .ite
      (fun _ => continues_shutdown fun _ unborn => unborn.2) fun _ => ?_
  refine creates.bind fun created => .ite (fun _ => stops) fun _ => ?_
  refine (smppConnect_shutdown conf lib).bind fun iFnRes => .ite
    (fun failed => stops.consequence (fun _ _ cleared => cleared failed)
      fun _ _ _ holds => holds) fun _ => ?_
  refine .consequence (.bind (steady_call rfl always_steady)
    fun created => .ite (fun _ => continues_shutdown fun _ _ => trivial)
      fun _ => continues_shutdown fun _ _ => trivial)
    (fun _ _ _ => trivial) fun _ _ _ holds => holds

/-- The labels behind the start of the ping loop ask for nothing. -/
theorem startPing_shutdown :
    ShutdownTriple (fun _ => True) (startPing conf) ShutdownEntry := by
  refine (steady_call rfl always_steady).bind fun _ =>
    (steady_call rfl always_steady).bind fun iFnRes => .ite
      (fun _ => continues_shutdown fun _ _ => trivial) fun _ => ?_
  exact (steady_call rfl always_steady).bind fun garbage =>
    (steady_triple (makeTimespecTimeout_uses (by rfl) _ _ _)
      always_steady).bind fun timeSpec =>
        continues_shutdown fun _ _ => trivial

/-- `sms112_smpp_disconn` clears the flag, and nothing sets it before the
stop. -/
theorem finish_shutdown :
    ShutdownTriple (fun _ => True) (finish lib) ShutdownEntry := by
  have clears : ShutdownTriple (fun _ => True) (smppDisconn lib)
      fun _ => SmppCleared := by
    have clearing : ShutdownTriple (fun _ => True)
        (call (.setSmppConnected false)) fun _ => SmppCleared := by
      refine .call (.const True) (fun _ => smppCleared_steady.stable) ?_
      intro state choice _ _ _
      have steady : (Op.setSmppConnected false).isSteady := rfl
      exact ⟨(exec_steady controller steady choice state).keeps controller,
        rfl⟩
    refine (steady_call rfl always_steady).bind fun _ => .bind
      (clearing.bind fun _ => steady_triple (.step rfl fun seqNum =>
        exchange_uses (fun operation traffic _ =>
          Op.isTraffic.steady operation traffic) (fun _ _ => rfl) _ _ _)
        smppCleared_steady) fun iRetVal =>
          (steady_call rfl smppCleared_steady).bind fun _ =>
            .returns smppCleared_steady.stable fun _ _ cleared => cleared
  exact (steady_call rfl always_steady).bind fun _ => clears.bind fun _ =>
    tcpDisconn_shutdown.bind fun _ =>
      continues_shutdown fun _ cleared => cleared

/-- A turn of the ping loop goes on to another turn or to the clean-up, which
ask for nothing. -/
theorem doSmppPing_shutdown (soTS : Timespec) :
    ShutdownTriple (fun _ => True) (doSmppPing conf lib soTS)
      ShutdownEntry := by
  have again {soTS : Timespec} : ShutdownTriple (fun _ => True)
      (.ret (.ping soTS)) ShutdownEntry :=
    continues_shutdown fun _ _ => trivial
  have ends : ShutdownTriple (fun _ => True) (.ret .finish) ShutdownEntry :=
    continues_shutdown fun _ _ => trivial
  have binds : ShutdownTriple (fun _ => True)
      (doSmppConnection conf lib soTS) ShutdownEntry :=
    (born_triple ((smppConnect_exchange conf lib).mono
      Op.isExchange.born)).bind fun _ => again
  have connects : ShutdownTriple (fun _ => True)
      (doTcpConnection conf lib soTS) ShutdownEntry :=
    (steady_triple (tcpConnect_connecting.mono Op.isConnecting.steady)
      always_steady).bind fun _ => .ite (fun _ => again) fun _ => binds
  have recovers : ShutdownTriple (fun _ => True)
      (recoverConnection conf lib soTS) ShutdownEntry :=
    (born_triple ((smppDisconn_exchange lib).mono
      Op.isExchange.born)).bind fun _ =>
        (steady_triple (tcpDisconn_connecting.mono Op.isConnecting.steady)
          always_steady).bind fun _ => connects
  refine (steady_call rfl always_steady).bind fun iStop =>
    .ite (fun _ => ends) fun _ => (steady_call rfl always_steady).bind
      fun iFnRes => .ite (fun _ => ends) fun _ => ?_
  refine (steady_call rfl always_steady).bind fun tcpIsConnected =>
    .ite (fun _ => connects) fun _ => (steady_call rfl always_steady).bind
      fun smppIsConnected => .ite (fun _ => binds) fun _ => ?_
  exact (born_triple ((smppEnqLink_exchange lib).mono
    Op.isExchange.born)).bind fun iFnRes =>
      .ite (fun _ => again) fun _ => recovers

end Controller

/-! ## The gateway -/

section Runs

variable (conf : SConf) (lib : Smpp34)
variable {config : Config Res Thread State Label}

/-- Where the main thread has ended the SMPP flag is cleared, and no thread
takes back that the receiver was created. -/
theorem gateway_shutdown
    (reach : (gateway conf lib).Reach Machine.unconditional gatewayStart
      config) :
    (config.control controller = .ret .stopped →
        config.state.smppIsConnected = false) ∧
      (config.state.receiverCreated → ∀ thread oracle,
        ((gateway conf lib).step thread oracle
          config).state.receiverCreated) := by
  let entry (thread : Thread) (label : Label) (state : State) : Prop :=
    thread = controller → ShutdownEntry label state
  have own {pre : State → Prop} {program : Prog Label}
      (triple : ShutdownTriple pre program ShutdownEntry) :
      ShutdownTriple (fun state => controller = controller → pre state)
        program (entry controller) :=
    triple.consequence (fun _ _ holds => holds rfl)
      fun _ _ _ holds _ => holds
  have others (thread : Thread) (different : thread ≠ controller)
      {label : Label} {program : Prog Label}
      (uses : program.Uses fun operation => operation.isTraffic) :
      shutdownProtocol.Triple exec Machine.unconditional thread
        (entry thread label) program (entry thread) := by
    refine (Protocol.Triple.uses uses (Protocol.Stable.const True)
      ?_).consequence (fun _ _ _ => trivial)
        fun _ _ _ _ isController => absurd isController different
    intro operation state choice traffic _ _ _
    exact ⟨(exec_steady thread (Op.isTraffic.steady operation traffic) choice
      state).keeps thread, trivial⟩
  have stops (thread : Thread) (label : Label) (state : State)
      (stopped : code conf lib thread label = .ret .stopped)
      (holds : entry thread label state) : entry thread .stopped state := by
    intro isController
    subst isController
    cases label <;> first | exact holds rfl | cases stopped
  obtain ⟨-, safe⟩ := gateway_safe conf lib shutdownProtocol entry
    (fun thread label before after _ holds rely _ isController =>
      shutdownEntry_steady label before after (holds isController)
        (rely.2 isController))
    stops (own (main_shutdown conf lib)) (own (startPing_shutdown conf))
    (fun soTS => own (doSmppPing_shutdown conf lib soTS))
    (own (finish_shutdown lib))
    (others .receiver (by decide) (msgReceiver_traffic conf lib))
    (others .environment (by decide) environment_traffic)
    trivial (fun _ => ⟨rfl, rfl⟩) nofun nofun (fun _ => nofun) reach
  refine ⟨fun stopped => ?_, fun created thread oracle => ?_⟩
  · have ended := safe controller
    rw [stopped] at ended
    exact ended _ (shutdownProtocol.rely_refl _ _) trivial rfl
  · unfold Machine.step
    split
    · exact created
    next operation next pending =>
      have steps := safe thread
      rw [pending] at steps
      obtain ⟨keeps, -⟩ := steps _ (shutdownProtocol.rely_refl _ _)
        trivial (oracle operation) trivial
      by_cases isReceiver : thread = .receiver
      · exact (keeps.rely controller (isReceiver ▸ by decide)).1 created
      · exact (keeps.rely .receiver (Ne.symm isReceiver)).1 created
/-- From every label of the controller the next label is at most 71 steps
away. -/
theorem controller_within (label : Label) :
    ((gateway conf lib).code controller label).Within 71 := by
  cases label with
  | main => exact (main_within conf lib).mono (by decide)
  | startPing => exact (startPing_within conf).mono (by decide)
  | ping soTS => exact doSmppPing_within conf lib soTS
  | finish => exact (finish_within lib).mono (by decide)
  | receive | environment | stopped => exact Nat.zero_le _

/-- From every label of the receiver the next label is at most 32 steps
away. -/
theorem receiver_within (label : Label) :
    ((gateway conf lib).code .receiver label).Within 32 := by
  cases label with
  | receive => exact msgReceiver_within conf lib
  | main | startPing | ping | finish | environment | stopped =>
      exact Nat.zero_le _

/-- From the moment at which the program is asked to stop, the main thread has
ended after at most 134 of its own steps, with the SMPP flag cleared, whatever
the other threads and the network do in between. -/
theorem gateway_controllerStops
    (reach : (gateway conf lib).Reach Machine.unconditional gatewayStart
      config)
    (stopped : config.state.iStop)
    (schedule : List (Thread × (Op → Choice)))
    (enough : 134 ≤ schedule.countP fun entry => entry.1 = controller) :
    let final := (gateway conf lib).run schedule config
    final.control controller = .ret .stopped ∧
      final.state.smppIsConnected = false := by
  have top (label : Label) : stopRank label ≤ 63 := by
    unfold stopRank
    split <;> decide
  have left : (config.control controller).Within 71 :=
    reach.within (controller_within conf lib) (Nat.zero_le _)
  have results (config : Config Res Thread State Label) (operation : Op)
      (choice : Choice) (stopped : config.state.iStop) :
      stopResults operation
        (exec controller operation choice config.state).1 := by
    cases operation <;> first | exact stopped | trivial
  obtain ⟨label, ended, final⟩ := (controller_winds conf lib).run_ends
    (fun _ thread oracle stopped => iStop_step stopped thread oracle)
    results schedule stopped (left.ends top) enough
  have isStopped : label = .stopped := by
    cases label <;> first | rfl | cases final
  subst isStopped
  have reached := reach.run schedule (Machine.admits_unconditional _ _)
  exact ⟨ended, (gateway_shutdown conf lib reached).1 ended⟩

/-- A signal has asked the program to stop while the ping loop waits. -/
def signalled : List (Thread × (Op → Choice)) :=
  started ++ steps .environment 1 ++ stepWith .environment { count := 1 } ++
    steps .environment 1

theorem signalled_controllerStops :
    let final := (gateway {} referenceCodec).run
      (steps .receiver 7 ++ steps controller 134)
      ((gateway {} referenceCodec).run signalled gatewayStart)
    final.control controller = .ret .stopped ∧
      final.state.smppIsConnected = false :=
  gateway_controllerStops {} referenceCodec
    (.run .start signalled (Machine.admits_unconditional _ _))
    (by decide +kernel) _ (by decide +kernel)

/-- So has the receiver, if it was created, after at most 35 of its own. -/
theorem gateway_receiverStops
    (reach : (gateway conf lib).Reach Machine.unconditional gatewayStart
      config)
    (stopped : config.state.iStop)
    (created : config.state.receiverCreated)
    (schedule : List (Thread × (Op → Choice)))
    (enough : 35 ≤ schedule.countP fun entry => entry.1 = .receiver) :
    ((gateway conf lib).run schedule config).control .receiver =
      .ret .stopped := by
  let good (config : Config Res Thread State Label) : Prop :=
    (gateway conf lib).Reach Machine.unconditional gatewayStart config ∧
      config.state.iStop ∧ config.state.receiverCreated
  have top (label : Label) : receiverRank label ≤ 3 := by
    unfold receiverRank
    split <;> decide
  have left : (config.control .receiver).Within 32 :=
    reach.within (receiver_within conf lib) (Nat.zero_le _)
  have closed (config : Config Res Thread State Label) (thread : Thread)
      (oracle : Op → Choice) (isGood : good config) :
      good ((gateway conf lib).step thread oracle config) := by
    obtain ⟨reach, stopped, created⟩ := isGood
    refine ⟨reach.step thread oracle ?_, iStop_step stopped thread oracle,
      (gateway_shutdown conf lib reach).2 created thread oracle⟩
    split <;> trivial
  have results (config : Config Res Thread State Label) (operation : Op)
      (choice : Choice) (isGood : good config) :
      createdResults operation
        (exec .receiver operation choice config.state).1 := by
    cases operation <;>
      first | exact isGood.2.1 | exact isGood.2.2 | trivial
  obtain ⟨label, ended, final⟩ := (receiver_winds conf lib).run_ends closed
    results schedule ⟨reach, stopped, created⟩ (left.ends top) enough
  have isStopped : label = .stopped := by
    cases label <;> first | rfl | cases final
  exact isStopped ▸ ended

theorem signalled_receiverStops :
    ((gateway {} referenceCodec).run
      (steps .receiver 35 ++ steps controller 7)
      ((gateway {} referenceCodec).run signalled
        gatewayStart)).control .receiver = .ret .stopped :=
  gateway_receiverStops {} referenceCodec
    (.run .start signalled (Machine.admits_unconditional _ _))
    (by decide +kernel) (by decide +kernel) _ (by decide +kernel)

end Runs

end Sms112
