import Sms112.Process.Booting
import Sms112.Process.Running

/-!
# Cleaning up

In every run of the process nothing is used before it is set up. What may be used
after it was cleaned up is libcurl: `main` waits for the worker thread, but not
for the receiver, which may still be in a transfer. In a build without assertions
a dialog may also find missing what only an assertion looks after. And when the
process exits, libcurl is cleaned up and the worker thread, if it was created, has
ended.
-/

namespace Sms112
namespace Process

open Resumption

variable {condition : Machine.Condition Sms112.Op Sms112.Thread Sms112.Choice
  Sms112.State}
variable {sipCondition : Machine.Condition Dialogs.Op Dialog.Thread
  Dialogs.Choice Dialogs.State}
variable {conf : SConf} {build : Build} {lib : Smpp34} {state : State}

/-! ## The main thread after the gateway -/

/-- The worker thread is told to end. -/
theorem setQuitFlag_triple :
    LifeTriple conf build condition sipCondition mainThread
      (Booted conf build) (call .setQuitFlag)
      fun _ => mainEntry conf build .joinWorker := by
  refine .call booted_about.stable
    (fun _ => (mainEntry_about .joinWorker).stable) ?_
  intro state choice inv booted admitted
  refine ⟨⟨⟨inv.missed, inv.worker, fun created => ?_,
    fun number registered => ?_, inv.dialogs, fun status exited => ?_⟩,
    fun other notMain => ?_⟩, booted, fun _ => rfl⟩
  · exact ⟨(inv.receiver created).1, .inr rfl⟩
  · exact ⟨(inv.signals number registered).1, .inr rfl⟩
  · cases admitted.1.symm.trans exited
  · exact lifeRely_other notMain (fun _ _ member => member)
      fun _ _ => .inr rfl

/-- The main thread waits for the worker thread. -/
theorem joinWorker_triple :
    LifeTriple conf build condition sipCondition mainThread
      (mainEntry conf build .joinWorker) (call .joinWorker)
      fun ended state => mainEntry conf build .joinWorker state ∧
        (ended → state.workerEnded) := by
  have about : AboutSetups (mainEntry conf build .joinWorker) :=
    mainEntry_about _
  have plain : Op.joinWorker.isPlain := rfl
  refine .call about.stable (fun isEnded => AboutSetups.stable ?_) ?_
  · intro before after holds made quit ended live
    exact ⟨about _ _ holds.1 made quit ended live, ended ∘ holds.2⟩
  · intro state choice inv waits admitted
    have created : WorkerCreated state := List.forall_mem_singleton.mpr
      (waits.1 admitted.1 _
        (List.mem_cons_of_mem _ threadCreate_mem_bootedSetups))
    have met : Met conf build .joinWorker state :=
      met_of_has created fun _ member => member
    obtain ⟨keeps, kept⟩ :=
      plain_step plain mainThread choice inv admitted.1 met
    exact ⟨keeps, about.lasts _ _ waits kept, kept.workerEnded⟩

/-- `sms112_curl_fini` -/
theorem curlGlobalCleanup_triple :
    LifeTriple conf build condition sipCondition mainThread
      (mainEntry conf build .cleanupCurl) (call .curlGlobalCleanup)
      fun _ => mainEntry conf build (.exit 0) := by
  refine .call (mainEntry_about .cleanupCurl).stable
    (fun _ => (mainEntry_about (.exit 0)).stable) ?_
  intro state choice inv leaves admitted
  obtain ⟨curl, worker⟩ := leaves admitted.1
  have cleaned : (exec conf build mainThread .curlGlobalCleanup choice
      state).2 = { state with
        made := state.made.filter (· ≠ .curlGlobalInit) } := by
    have used : state.use [.curlGlobalInit] = state :=
      State.use_of_has (List.forall_mem_singleton.mpr curl)
    show (perform build mainThread .curlGlobalCleanup choice
      (state.use [.curlGlobalInit])).2 = _
    rw [used]
    rfl
  have stays {setup : Setup} (other : setup ≠ .curlGlobalInit)
      (made : setup ∈ state.made) :
      setup ∈ state.made.filter (· ≠ .curlGlobalInit) :=
    List.mem_filter.mpr ⟨made, decide_eq_true other⟩
  have keeps {setups : List Setup} (without : .curlGlobalInit ∉ setups)
      (has : state.Has setups) :
      State.Has { state with
        made := state.made.filter (· ≠ .curlGlobalInit) } setups :=
    fun setup member => stays (fun same => without (same ▸ member))
      (has setup member)
  rw [cleaned]
  have stillReady (ready : state.Ready conf build) :
      State.Ready conf build { state with
        made := state.made.filter (· ≠ .curlGlobalInit) } :=
    ⟨keeps curl_notMem_bootedSetups ready.1,
      .inr (worker (ready.1 _ threadCreate_mem_bootedSetups)).2⟩
  refine ⟨⟨⟨inv.missed, fun created => ?_,
    fun created => stillReady (inv.receiver created), fun number registered =>
      stillReady (inv.signals number (List.mem_of_mem_filter registered)),
    fun index sent => ?_, fun status exited => ?_⟩, fun other notMain => ?_⟩,
    fun _ => ?_⟩
  · exact keeps (by simp [endpointSetups])
      (inv.worker (List.mem_of_mem_filter created))
  · exact keeps curl_notMem_bootedSetups (inv.dialogs index sent)
  · cases admitted.1.symm.trans exited
  · exact lifeRely_other notMain (fun _ => stays)
      fun created _ => .inr (worker created).2
  · refine ⟨fun stillThere => ?_, fun created => ?_, fun same => absurd rfl same⟩
    · exact of_decide_eq_true (List.mem_filter.mp stillThere).2 rfl
    · exact (worker (List.mem_of_mem_filter created)).1

/-- The process exits. -/
theorem exit_triple (status : Int) :
    LifeTriple conf build condition sipCondition mainThread (Exiting status)
      (call (.exit status)) fun _ _ => True := by
  refine .call (exiting_about status).stable (fun _ => .const True) ?_
  intro state choice inv exiting admitted
  refine ⟨⟨⟨inv.missed, inv.worker, inv.receiver, inv.signals, inv.dialogs,
    ?_⟩, fun other notMain => ?_⟩, trivial⟩
  · intro other exited
    cases exited
    obtain ⟨curl, worker, failed⟩ := exiting admitted.1
    exact ⟨curl, worker, failed⟩
  · exact lifeRely_other notMain (fun _ _ member => member) fun _ => id

/-! ## Runs -/

/-- Each label of the main thread is come to with what it asks for. -/
theorem mainCode_life
    (loaded : LoadEnd)
    (label : Label) :
    LifeTriple (loadedConf loaded) build condition sipCondition mainThread
      (mainEntry (loadedConf loaded) build label)
      (mainCode (loadedConf loaded) lib build loaded label)
      (mainEntry (loadedConf loaded) build) := by
  have runs (label : Sms112.Label) :
      LifeTriple (loadedConf loaded) build condition sipCondition mainThread
        (Booted (loadedConf loaded) build)
        (gatewayCode (loadedConf loaded) lib (.requester 0) label)
        (mainEntry (loadedConf loaded) build) :=
    (mainGateway_life _).bind fun _ => entry_returns fun _ booted => booted
  match label with
  | .boot => exact main_triple loaded
  | .gateway .main | .gateway .startPing | .gateway (.ping _)
  | .gateway .finish | .gateway .receive | .gateway .environment =>
      exact runs _
  | .gateway .stopped => exact entry_returns fun _ booted => booted
  | .cleanupSip =>
      exact setQuitFlag_triple.bind fun _ => entry_returns fun _ holds => holds
  | .joinWorker =>
      exact joinWorker_triple.bind fun ended => .ite
        (fun isEnded => entry_returns fun state holds live =>
          ⟨holds.1.1 live _ List.mem_cons_self,
            fun _ => ⟨holds.2 isEnded, holds.1.2 live⟩⟩)
        fun _ => entry_returns fun _ holds => holds.1
  | .cleanupCurl =>
      exact curlGlobalCleanup_triple.bind fun _ =>
        entry_returns fun _ holds => holds
  | .exit status =>
      exact (exit_triple status).bind fun _ => entry_returns fun _ _ => trivial
  | .work | .events _ | .signals | .ended =>
      exact entry_returns fun _ _ => trivial

/-- Where the threads are at their labels. -/
def lifeEntry (conf : SConf) (build : Build) : Thread → Label → State → Prop
  | .gateway (.requester 0), label => mainEntry conf build label
  | .worker, label => workerEntry label
  | _, _ => fun _ => True

theorem lifeEntry_stable (thread : Thread) (label : Label) :
    (lifeProtocol conf build).Stable thread
      (lifeEntry conf build thread label) := by
  unfold lifeEntry
  split
  next => exact (mainEntry_about label).stable
  next => exact workerEntry_stable label
  next => exact .const True

theorem lifeEntry_ended (thread : Thread) (state : State) :
    lifeEntry conf build thread .ended state := by
  match thread with
  | .gateway (.requester 0) | .gateway (.requester (_ + 1))
  | .gateway .receiver | .gateway .environment | .worker | .tester _ =>
      trivial

/-- So is each label of every thread. -/
theorem code_life
    (loaded : LoadEnd)
    (thread : Thread)
    (label : Label) :
    LifeTriple (loadedConf loaded) build condition sipCondition thread
      (lifeEntry (loadedConf loaded) build thread label)
      (code lib build loaded thread label)
      (lifeEntry (loadedConf loaded) build thread) := by
  unfold code
  split
  next => exact mainCode_life loaded label
  next thread label notMain =>
    match thread with
    | .requester 0 => exact (notMain rfl).elim
    | .requester (_ + 1) => cases label <;> exact returns_life _
    | .receiver => exact receiver_life label
    | .environment => exact environment_life label
  next => exact workerThread_life
  next left => exact endptHandleEvents_life left
  next serial => exact sigOper_life serial
  next =>
    exact .returns (lifeEntry_stable _ _) fun state _ _ =>
      lifeEntry_ended thread state

/-- The invariant holds throughout the life of the process. -/
theorem lifeInv
    {loaded : LoadEnd}
    {config : Config Res Thread State Label}
    (reach : (machine lib build loaded).Reach (Running condition sipCondition)
      start config) :
    LifeInv (loadedConf loaded) build config.state := by
  have initially : LifeInv (loadedConf loaded) build start.state :=
    ⟨nofun, nofun, nofun, nofun, nofun, nofun⟩
  have begins (thread : Thread) :
      (lifeProtocol (loadedConf loaded) build).Safe
        (machine lib build loaded).exec (Running condition sipCondition) thread
        (lifeEntry (loadedConf loaded) build thread) (start.control thread)
        start.state := by
    have starts (label : Label)
        (enters : lifeEntry (loadedConf loaded) build thread label
          start.state) :
        (lifeProtocol (loadedConf loaded) build).Safe
          (machine lib build loaded).exec (Running condition sipCondition)
          thread (lifeEntry (loadedConf loaded) build thread) (.ret label)
          start.state :=
      fun later rely inv =>
        lifeEntry_stable thread label _ _ initially enters rely inv
    match thread with
    | .gateway (.requester 0) => exact starts .boot fun _ => rfl
    | .gateway (.requester (_ + 1)) => exact starts .ended trivial
    | .gateway .receiver => exact starts (.gateway .receive) trivial
    | .gateway .environment => exact starts (.gateway .environment) trivial
    | .worker => exact starts .work trivial
    | .tester _ => exact starts .signals trivial
  exact (Protocol.sound (code_life loaded) initially begins reach).1

/-- In every run of the process nothing is used that is not set up, except
libcurl after the process began to clean up and, in a build without assertions,
what only they look after. -/
theorem uses_setUp
    {loaded : LoadEnd}
    {config : Config Res Thread State Label}
    (reach : (machine lib build loaded).Reach (Running condition sipCondition)
      start config) :
    ∀ miss ∈ config.state.missed, miss = ⟨.curlGlobalInit, true⟩ ∨
      build.assertions = false ∧
        miss.setup ∈ assertedSetups (loadedConf loaded) :=
  (lifeInv reach).missed

/-- In every run, when the process exits libcurl is cleaned up, and the worker
thread has ended if it was created. It exits with a failure only before
anything was set up. -/
theorem exits_clean
    {loaded : LoadEnd}
    {config : Config Res Thread State Label}
    (reach : (machine lib build loaded).Reach (Running condition sipCondition)
      start config)
    {status : Int}
    (exited : config.state.ended = some (.exited status)) :
    Clean config.state status :=
  (lifeInv reach).exited status exited

/-! ## A late transfer -/

/-- SIGTERM is delivered. -/
def signalled : List (Thread × (Op → Choice)) :=
  ofGateway (Sms112.steps .environment 1 ++
    stepWith .environment { count := 1 } ++ Sms112.steps .environment 1)

/-- A signal comes while the receiver is in a transfer. The main thread cleans
up, the receiver goes on, and the process exits. -/
def lateTransfer : List (Thread × (Op → Choice)) :=
  started ++ ofGateway (arrival 0 plainDeliverSm) ++
    steps receiver 17 accepting ++ signalled ++
      steps mainThread 28 accepting ++ steps .worker 4 accepting ++
        steps mainThread 4 accepting ++ steps receiver 1 accepting ++
          steps mainThread 2 accepting

theorem lateTransfer_usesSetUp :
    let config := (machine referenceCodec {} (.returned 0 {})).run
      lateTransfer start
    config.state.missed.length = 1 ∧
      ∀ miss ∈ config.state.missed, miss = ⟨.curlGlobalInit, true⟩ := by
  intro config
  have reach : (machine referenceCodec {} (.returned 0 {})).Reach
      (Running Machine.unconditional Machine.unconditional) start config :=
    .run .start lateTransfer (by decide +kernel)
  exact ⟨by decide +kernel, fun miss member =>
    (uses_setUp reach miss member).resolve_right nofun⟩

/-- A call fails that only an assertion looks after. -/
def unasserted : Op → Choice
  | .setUp .uaInitModule => { ret := 1 }
  | operation => allWorks allSucceeds operation

/-- In a build without assertions a dialog is created without the UA module. -/
example :
    let schedule := steps mainThread 22 unasserted ++
      ofGateway Sms112.started ++ ofGateway (arrival 0 plainDeliverSm) ++
        steps receiver 38 accepting
    ∃ miss ∈ ((machine referenceCodec { assertions := false }
        (.returned 0 {})).run schedule start).state.missed,
      miss.setup = .uaInitModule := by decide +kernel

theorem lateTransfer_exitsClean :
    let config := (machine referenceCodec {} (.returned 0 {})).run
      lateTransfer start
    Clean config.state 0 := by
  intro config
  have reach : (machine referenceCodec {} (.returned 0 {})).Reach
      (Running Machine.unconditional Machine.unconditional) start config :=
    .run .start lateTransfer (by decide +kernel)
  exact exits_clean reach (by decide +kernel)

/-- The other side refuses the connection (ECONNREFUSED). -/
def refused : Op → Choice
  | .gateway (.connect ..) => { gateway := { ret := -1, errno := 111 } }
  | .gateway (.send _) => { gateway := { ret := -1, errno := EPIPE } }
  | operation => allWorks allSucceeds operation

/-- The BIND_TRANSCEIVER is sent all the same, and SIGPIPE ends the process
before anything is cleaned up. -/
example :
    ((machine referenceCodec {} (.returned 0 {})).run
      (steps mainThread 36 refused) start).state.ended =
        some (.killed .sigpipe) := by decide +kernel

end Process
end Sms112
