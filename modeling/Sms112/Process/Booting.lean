import Sms112.Process.Lifecycle

/-!
# Setting up

The main thread from the first call of `main` to the gateway. One call after the
other sets something up; where a call fails nothing of what follows is set up,
and the worker thread is created only where the endpoint is there. Where the
gateway begins everything is ready.
-/

namespace Sms112
namespace Process

open Resumption

variable {α β : Type}
variable {condition : Machine.Condition Sms112.Op Sms112.Thread Sms112.Choice
  Sms112.State}
variable {sipCondition : Machine.Condition Dialogs.Op Dialog.Thread
  Dialogs.Choice Dialogs.State}
variable {conf : SConf} {build : Build} {state : State}

/-! ## The main thread in the gateway -/

/-- Everything is set up, unless the process is over. -/
def Booted (conf : SConf) (build : Build) (state : State) : Prop :=
  state.ended = none →
    state.Has (.curlGlobalInit :: bootedSetups conf build)

/-- Where everything is set up, everything is ready for the other threads. -/
theorem Booted.ready
    (booted : Booted conf build state)
    (running : state.ended = none) :
    state.Ready conf build :=
  ⟨fun setup member => booted running setup (List.mem_cons_of_mem _ member),
    .inl (booted running _ List.mem_cons_self)⟩

/-- What the main thread relies on: it alone sets up and cleans up. -/
theorem main_rely
    {before after : State}
    (rely : (lifeProtocol conf build).rely mainThread before after) :
    after.made = before.made ∧ after.quitFlag = before.quitFlag ∧
      (before.workerEnded → after.workerEnded) ∧
        (after.ended = none → before.ended = none) := by
  have rely : LifeRely mainThread before after := rely
  rwa [LifeRely, if_pos rfl] at rely

/-- So what it has set up stays set up. -/
theorem booted_stable :
    (lifeProtocol conf build).Stable mainThread (Booted conf build) := by
  intro before after _ booted rely _ live
  obtain ⟨made, -, -, ended⟩ := main_rely rely
  rw [State.Has, made]
  exact booted (ended live)

/-- An operation of the gateway by the main thread. -/
theorem mainGateway_step
    (operation : Sms112.Op)
    (choice : Choice)
    (inv : LifeInv conf build state)
    (booted : Booted conf build state)
    (running : state.ended = none) :
    let after :=
      (exec conf build mainThread (.gateway operation) choice state).2
    (lifeProtocol conf build).Keeps mainThread state after ∧
      Booted conf build after := by
  intro after
  refine ⟨⟨⟨inv.missed, inv.worker, fun _ => booted.ready running,
    inv.signals, inv.dialogs, ?_⟩, fun other notMain => ?_⟩,
    fun _ => booted running⟩
  · intro status exited
    obtain ⟨-, ended⟩ := ended_sigpipe (rfl : after.ended = _)
    cases running.symm.trans (ended status exited)
  · exact lifeRely_other notMain (fun _ _ member => member) fun _ => id

/-- In the gateway the main thread sets up and cleans up nothing. -/
theorem mainGateway_life (program : Sms112.Prog α) :
    LifeTriple conf build condition sipCondition mainThread
      (Booted conf build) (program.expand (refine conf (.requester 0)))
      fun _ => Booted conf build := by
  have uses : (program.expand (refine conf (.requester 0))).Uses
      fun operation => ∃ performed, operation = .gateway performed := by
    refine program.uses_any.expand fun operation _ => ?_
    exact ⟨⟨operation, rfl⟩, fun _ => trivial⟩
  refine Protocol.Triple.uses uses booted_stable ?_
  rintro _ state choice ⟨operation, rfl⟩ inv booted admitted
  exact mainGateway_step operation choice inv booted admitted.1

/-! ## Setting up -/

/-- These are set up, and the worker thread only if it is said so, unless the
process is over. -/
structure Booting (worker : Bool) (setups : List Setup) (state : State) :
    Prop where
  has : state.ended = none → state.Has setups
  noWorker : worker = false → state.ended = none →
    .threadCreate ∉ state.made

variable {worker : Bool} {setups : List Setup}

/-- More is set up than is asked for. -/
theorem Booting.mono
    (booting : Booting worker setups state)
    {fewer : List Setup}
    (among : ∀ setup ∈ fewer, setup ∈ setups) :
    Booting worker fewer state :=
  ⟨fun live setup member => booting.has live setup (among setup member),
    booting.noWorker⟩

/-- An assertion about what is set up, which says nothing once the process is
over. -/
def AboutSetups (assertion : State → Prop) : Prop :=
  ∀ before after, assertion before → after.made = before.made →
    after.quitFlag = before.quitFlag →
      (before.workerEnded → after.workerEnded) →
        (after.ended = none → before.ended = none) → assertion after

/-- What is said of the set-ups is stable for the main thread. -/
theorem AboutSetups.stable
    {assertion : State → Prop}
    (about : AboutSetups assertion) :
    (lifeProtocol conf build).Stable mainThread assertion := by
  intro before after _ holds rely _
  obtain ⟨made, quit, ended, live⟩ := main_rely rely
  exact about before after holds made quit ended live

theorem AboutSetups.lasts
    {assertion : State → Prop}
    (about : AboutSetups assertion)
    (before after : State)
    (holds : assertion before)
    (kept : SetupsKept before after) :
    assertion after :=
  about before after holds kept.made kept.quitFlag kept.workerEnded kept.live

/-- How far the booting has come is said in terms of the set-ups. -/
theorem booting_about (worker : Bool) (setups : List Setup) :
    AboutSetups (Booting worker setups) := by
  intro before after booting made _ _ live
  refine ⟨fun isLive => ?_, fun isFalse isLive => ?_⟩
  · rw [State.Has, made]
    exact booting.has (live isLive)
  · rw [made]
    exact booting.noWorker isFalse (live isLive)

/-- The calls that nothing else has to precede. -/
def Setup.isOrdinary : Setup → Bool
  | .threadCreate | .signal _ => false
  | _ => true

theorem ordinary_ne_threadCreate
    {setup : Setup}
    (ordinary : setup.isOrdinary) :
    setup ≠ .threadCreate := by
  rintro rfl
  cases ordinary

/-- What a call that sets something up does. The worker thread is created when
the endpoint is there, and a signal registered when everything is ready. -/
theorem setUp_step
    (setup : Setup)
    (choice : Choice)
    (inv : LifeInv conf build state)
    (running : state.ended = none)
    (endpoint : setup = .threadCreate → state.Has (endpointSetups conf))
    (registers : ∀ number, setup = .signal number →
      state.Ready conf build) :
    let outcome := exec conf build mainThread (.setUp setup) choice state
    (lifeProtocol conf build).Keeps mainThread state outcome.2 ∧
      ((∀ given ∈ setup.takes, given ∈ state.made) ∧ outcome.1 = 0 ∧
          outcome.2 = { state with made := setup :: state.made } ∨
        outcome.1 ≠ 0 ∧ setup.isVoid = false ∧ outcome.2 = state) := by
  intro outcome
  rcases state.setUp_cases setup choice.ret with
    ⟨takes, made⟩ | ⟨failure, failed, notVoid, unchanged⟩
  · have result : outcome =
        (0, { state with made := setup :: state.made }) := made
    rw [result]
    have grows {setups : List Setup} (has : state.Has setups) :
        State.Has { state with made := setup :: state.made } setups :=
      fun other member => List.mem_cons_of_mem _ (has other member)
    have stays (ready : state.Ready conf build) :
        State.Ready conf build { state with made := setup :: state.made } :=
      ⟨grows ready.1, ready.2.imp_left (List.mem_cons_of_mem _)⟩
    refine ⟨⟨⟨inv.missed, fun created => grows ?_,
      fun created => stays (inv.receiver created),
      fun number registered => stays ?_,
      fun index sent => grows (inv.dialogs index sent), ?_⟩, ?_⟩,
      .inl ⟨takes, rfl, rfl⟩⟩
    · rcases List.mem_cons.mp created with rfl | already
      · exact endpoint rfl
      · exact inv.worker already
    · rcases List.mem_cons.mp registered with rfl | already
      · exact registers number rfl
      · exact inv.signals number already
    · intro status exited
      cases running.symm.trans exited
    · intro other notMain
      exact lifeRely_other notMain (fun _ _ => List.mem_cons_of_mem _)
        fun _ curl => curl.imp_left (List.mem_cons_of_mem _)
  · have result : outcome = (failure, state) := unchanged
    rw [result]
    exact ⟨⟨inv, fun other _ => (lifeProtocol conf build).rely_refl _ _⟩,
      .inr ⟨failed, notVoid, rfl⟩⟩

/-- A call that nothing else has to precede. -/
theorem ordinary_step
    {setup : Setup}
    (ordinary : setup.isOrdinary)
    (choice : Choice)
    (inv : LifeInv conf build state)
    (running : state.ended = none) :
    let outcome := exec conf build mainThread (.setUp setup) choice state
    (lifeProtocol conf build).Keeps mainThread state outcome.2 ∧
      ((∀ given ∈ setup.takes, given ∈ state.made) ∧ outcome.1 = 0 ∧
          outcome.2 = { state with made := setup :: state.made } ∨
        outcome.1 ≠ 0 ∧ setup.isVoid = false ∧ outcome.2 = state) := by
  refine setUp_step setup choice inv running ?_ ?_
  · rintro rfl
    cases ordinary
  · rintro number rfl
    cases ordinary

/-- What remains of the booting when one more thing is set up. -/
theorem Booting.cons
    (booting : Booting worker setups state)
    {setup : Setup}
    (notWorker : setup ≠ .threadCreate) :
    Booting worker (setup :: setups)
      { state with made := setup :: state.made } := by
  refine ⟨fun live => List.forall_mem_cons.mpr ⟨List.mem_cons_self,
    fun other member =>
      List.mem_cons_of_mem _ (booting.has live other member)⟩, ?_⟩
  intro isFalse live created
  rcases List.mem_cons.mp created with same | already
  · exact notWorker same.symm
  · exact booting.noWorker isFalse live already

/-- A call sets up what it is for, or it is not void and fails. -/
theorem setUp_triple
    {setup : Setup}
    (ordinary : setup.isOrdinary) :
    LifeTriple conf build condition sipCondition mainThread
      (Booting worker setups) (call (.setUp setup)) fun status state =>
        Booting worker setups state ∧
          (status = 0 ∨ setup.isVoid → Booting worker (setup :: setups) state) := by
  refine .call (booting_about _ _).stable (fun status => ?_) ?_
  · refine AboutSetups.stable ?_
    intro before after holds made quit ended live
    exact ⟨booting_about _ _ _ _ holds.1 made quit ended live, fun succeeds =>
      booting_about _ _ _ _ (holds.2 succeeds) made quit ended live⟩
  · intro state choice inv booting admitted
    obtain ⟨keeps, ⟨-, -, made⟩ | ⟨failed, notVoid, unchanged⟩⟩ :=
      ordinary_step ordinary choice inv admitted.1
    · have grown : Booting worker (setup :: setups)
          (exec conf build mainThread (.setUp setup) choice state).2 := by
        rw [made]
        exact booting.cons (ordinary_ne_threadCreate ordinary)
      exact ⟨keeps, grown.mono fun _ => List.mem_cons_of_mem _,
        fun _ => grown⟩
    · rw [unchanged] at keeps ⊢
      refine ⟨keeps, booting, fun succeeds => ?_⟩
      rcases succeeds with zero | isVoid
      · exact absurd zero failed
      · cases notVoid.symm.trans isVoid

/-- `pj_assert( false )` -/
theorem failAssertion_triple :
    LifeTriple conf build condition sipCondition mainThread
      (Booting worker setups) (failAssertion build) fun _ state =>
        Booting worker setups state ∧
          (build.assertions → state.ended ≠ none) := by
  have stable : (lifeProtocol conf build).Stable mainThread fun state =>
      Booting worker setups state ∧
        (build.assertions → state.ended ≠ none) := by
    refine AboutSetups.stable ?_
    intro before after holds made quit ended live
    exact ⟨booting_about _ _ _ _ holds.1 made quit ended live,
      fun asserts isLive => holds.2 asserts (live isLive)⟩
  unfold failAssertion
  split
  next asserts =>
    refine plain_call rfl (booting_about _ _).stable (fun _ => stable)
      (fun state _ _ => Op.isFree.met rfl state) ?_
    intro state choice inv booting kept
    exact ⟨⟨nofun, fun _ => nofun⟩, fun _ => nofun⟩
  next without =>
    exact .returns stable fun state _ booting =>
      ⟨booting, fun asserts => absurd asserts without⟩

/-- A call, and `pj_assert` that it succeeds. -/
theorem asserted_triple
    {setup : Setup}
    (ordinary : setup.isOrdinary) :
    LifeTriple conf build condition sipCondition mainThread
      (Booting worker setups) (asserted build setup) fun _ =>
        Booting worker
          (if build.assertions then setup :: setups else setups) := by
  have about := booting_about worker
    (if build.assertions then setup :: setups else setups)
  refine (setUp_triple ordinary).bind fun status => .ite (fun zero => ?_)
    fun failed => ?_
  · refine .returns about.stable fun state _ holds => ?_
    have grown := holds.2 (.inl zero)
    split
    · exact grown
    · exact grown.mono fun _ => List.mem_cons_of_mem _
  · refine Protocol.Triple.consequence failAssertion_triple
      (fun _ _ holds => holds.1) fun _ state _ holds => ?_
    split
    next asserts =>
      exact ⟨fun live => absurd live (holds.2 asserts),
        fun _ live => absurd live (holds.2 asserts)⟩
    next => exact holds.1

/-- A call, and `PJ_ASSERT_RETURN` that it succeeds. -/
theorem required_triple
    {setup : Setup}
    {rest : Prog Int}
    {post : Int → State → Prop}
    (ordinary : setup.isOrdinary)
    (continues : LifeTriple conf build condition sipCondition mainThread
      (Booting worker (setup :: setups)) rest post)
    (about : AboutSetups (post 1))
    (fails : ∀ state, Booting worker setups state → post 1 state) :
    LifeTriple conf build condition sipCondition mainThread
      (Booting worker setups) (required build setup rest) post := by
  refine (setUp_triple ordinary).bind fun status => .ite (fun zero => ?_)
    fun failed => ?_
  · exact continues.weakenPre fun _ _ holds => holds.2 (.inl zero)
  · refine Protocol.Triple.bind (Protocol.Triple.consequence
      failAssertion_triple (fun _ _ holds => holds.1) fun _ _ _ holds => holds.1)
      fun _ => .returns about.stable fun state _ holds => fails state holds

/-- The worker thread is created when the endpoint is there. -/
theorem threadCreate_triple
    (endpoint : ∀ setup ∈ endpointSetups conf, setup ∈ setups) :
    LifeTriple conf build condition sipCondition mainThread
      (Booting false setups) (call (.setUp .threadCreate)) fun status state =>
        if status = 0 then
          Booting true (.threadCreate :: .createPool :: setups) state
        else Booting false setups state := by
  refine .call (booting_about _ _).stable (fun status => ?_) ?_
  · split <;> exact (booting_about _ _).stable
  · intro state choice inv booting admitted
    have has := booting.has admitted.1
    obtain ⟨keeps, ⟨takes, zero, made⟩ | ⟨failed, -, unchanged⟩⟩ :=
      setUp_step .threadCreate choice inv admitted.1
        (fun _ setup member => has setup (endpoint setup member)) nofun
    · refine ⟨keeps, ?_⟩
      rw [if_pos zero, made]
      refine ⟨fun _ => List.forall_mem_cons.mpr ⟨List.mem_cons_self,
        List.forall_mem_cons.mpr ⟨?_, fun setup member => ?_⟩⟩, nofun⟩
      · exact List.mem_cons_of_mem _ (takes _ List.mem_cons_self)
      · exact List.mem_cons_of_mem _ (has setup member)
    · refine ⟨keeps, ?_⟩
      rw [if_neg failed, unchanged]
      exact booting

/-- Where the main thread is after `sms112_sip_init`: all is set up, or the
worker thread was not created. -/
def SipInitialised (conf : SConf) (build : Build) (status : Int)
    (state : State) : Prop :=
  if status = 0 then Booted conf build state
  else Booting false [.curlGlobalInit] state

theorem booted_about : AboutSetups (Booted conf build) := by
  intro before after booted made _ _ live isLive
  rw [State.Has, made]
  exact booted (live isLive)

theorem sipInitialised_about (status : Int) :
    AboutSetups (SipInitialised conf build status) := by
  unfold SipInitialised
  split
  · exact booted_about
  · exact booting_about _ _

/-- Without a worker thread the initialisation has failed. -/
theorem Booting.sipFailed
    (booting : Booting false setups state)
    (curl : .curlGlobalInit ∈ setups)
    {status : Int}
    (failed : status ≠ 0) :
    SipInitialised conf build status state := by
  rw [SipInitialised, if_neg failed]
  exact booting.mono (List.forall_mem_singleton.mpr curl)

/-- What is set up before the transaction layer. -/
def transportSetups (conf : SConf) : List Setup :=
  [.udpTransportStart conf.sipLocalAddr conf.sipLocalPort,
    .endptCreate (ascii "sipstateless"), .cachingPoolInit, .pjlibUtilInit,
    .pjInit, .curlGlobalInit]

/-- What is set up before the module of the program. -/
def moduleSetups (conf : SConf) (build : Build) : List Setup :=
  (if build.assertions then [.uaInitModule, .tsxLayerInitModule] else []) ++
    transportSetups conf

/-- What is set up before the dialogs. -/
def workerSetups (conf : SConf) (build : Build) : List Setup :=
  .threadCreate :: .createPool :: .registerModule :: moduleSetups conf build

/-- `sms112_sip_init` after the creation of the worker thread cannot fail. -/
theorem sipInitDialogs_triple :
    LifeTriple conf build condition sipCondition mainThread
      (Booting true (workerSetups conf build)) (sipInitDialogs conf build)
      (SipInitialised conf build) := by
  have initAuth : LifeTriple conf build condition sipCondition mainThread
      (Booting true (.uaInstance :: workerSetups conf build))
      (initAuth conf build) (SipInitialised conf build) := by
    refine (asserted_triple rfl).bind fun _ =>
      (asserted_triple rfl).bind fun _ =>
        .returns (sipInitialised_about 0).stable fun state _ booting => ?_
    refine (booting.mono ?_).has
    unfold workerSetups moduleSetups transportSetups bootedSetups
      endpointSetups assertedSetups
    split <;> simp
  exact (setUp_triple rfl).bind fun _ =>
    initAuth.weakenPre fun _ _ holds => holds.2 (.inr rfl)

/-- `sms112_sip_init` from the registration of its module on. -/
theorem sipInitWorker_triple :
    LifeTriple conf build condition sipCondition mainThread
      (Booting false (moduleSetups conf build)) (sipInitWorker conf build)
      (SipInitialised conf build) := by
  have curl : .curlGlobalInit ∈ moduleSetups conf build :=
    List.mem_append_right _ (by simp [transportSetups])
  have fails (state : State)
      (booting : Booting false (moduleSetups conf build) state) :
      SipInitialised conf build 1 state :=
    booting.sipFailed curl (by decide)
  have failed : LifeTriple conf build condition sipCondition mainThread
      (Booting false (.registerModule :: moduleSetups conf build))
      (do failAssertion build; return 1) (SipInitialised conf build) :=
    failAssertion_triple.bind fun _ =>
      .returns (sipInitialised_about 1).stable fun state _ holds =>
        holds.1.sipFailed (List.mem_cons_of_mem _ curl) (by decide)
  have creates : LifeTriple conf build condition sipCondition mainThread
      (Booting false (.registerModule :: moduleSetups conf build))
      (required build .threadCreate (sipInitDialogs conf build))
      (SipInitialised conf build) := by
    refine (threadCreate_triple ?_).bind fun status => .ite (fun zero => ?_)
      fun notZero => ?_
    · unfold moduleSetups transportSetups endpointSetups
      simp
    · refine sipInitDialogs_triple.weakenPre fun state _ holds => ?_
      rwa [if_pos zero] at holds
    · refine failed.weakenPre fun state _ holds => ?_
      rwa [if_neg notZero] at holds
  refine required_triple rfl ?_ (sipInitialised_about 1) fails
  exact (setUp_triple rfl).bind fun _ =>
    creates.weakenPre fun _ _ holds => holds.1

/-- `sms112_sip_init` from the initialisation of the transaction layer on. -/
theorem sipInitModules_triple :
    LifeTriple conf build condition sipCondition mainThread
      (Booting false (transportSetups conf)) (sipInitModules conf build)
      (SipInitialised conf build) := by
  refine (asserted_triple rfl).bind fun _ =>
    (asserted_triple rfl).bind fun _ =>
      sipInitWorker_triple.weakenPre fun state _ booting =>
        booting.mono fun setup member => ?_
  unfold moduleSetups at member
  split at member <;> simpa [*] using member

/-- `sms112_sip_init` -/
theorem sipInit_triple :
    LifeTriple conf build condition sipCondition mainThread
      (Booting false [.curlGlobalInit]) (sipInit conf build)
      (SipInitialised conf build) := by
  have fails {setups : List Setup}
      (curl : .curlGlobalInit ∈ setups) (status : Int) (failed : status ≠ 0) :
      LifeTriple conf build condition sipCondition mainThread
        (Booting false setups) (.ret status) (SipInitialised conf build) :=
    .returns (sipInitialised_about status).stable fun _ _ booting =>
      booting.sipFailed curl failed
  have asks {setups : List Setup} (address : Octets) :
      LifeTriple conf build condition sipCondition mainThread
        (Booting false setups) (call (.inetAton address))
        fun _ => Booting false setups := by
    have uses : (call (.inetAton address)).Uses
        fun operation => operation.isFree := ⟨rfl, fun _ => trivial⟩
    exact free_triple uses (booting_about _ _).stable
      (booting_about _ _).lasts
  have transports : LifeTriple conf build condition sipCondition mainThread
      (Booting false [.endptCreate (ascii "sipstateless"), .cachingPoolInit,
        .pjlibUtilInit, .pjInit, .curlGlobalInit])
      (do
        let tStatus ← call
          (.setUp (.udpTransportStart conf.sipLocalAddr conf.sipLocalPort))
        if tStatus = 0 then
          sipInitModules conf build
        else
          return 1) (SipInitialised conf build) := by
    refine (setUp_triple rfl).bind fun status => .ite (fun zero => ?_)
      fun _ => ?_
    · exact sipInitModules_triple.weakenPre
        fun _ _ holds => holds.2 (.inl zero)
    · exact (fails (by simp) 1 (by decide)).weakenPre
        fun _ _ holds => holds.1
  refine required_triple rfl (required_triple rfl ?_
    (sipInitialised_about 1) fun _ booting => booting.sipFailed (by simp)
      (by decide)) (sipInitialised_about 1) fun _ booting =>
        booting.sipFailed (by simp) (by decide)
  refine (setUp_triple rfl).bind fun _ => Protocol.Triple.weakenPre
    (required_triple rfl ((asks _).bind fun _ => (asks _).bind
      fun converted => .ite (fun _ => fails (by simp) (-1) (by decide))
        fun _ => transports) (sipInitialised_about 1) fun _ booting =>
          booting.sipFailed (by simp) (by decide))
    fun _ _ holds => holds.2 (.inr rfl)

/-- Just these are set up, unless the process is over. -/
def Exactly (setups : List Setup) (state : State) : Prop :=
  state.ended = none → state.made = setups

theorem exactly_about (setups : List Setup) : AboutSetups (Exactly setups) :=
  fun _ _ exactly made _ _ live isLive => made.trans (exactly (live isLive))

/-- Where a set-up fails, exactly what was there before is there. -/
theorem exactly_triple
    {setup : Setup}
    (ordinary : setup.isOrdinary) :
    LifeTriple conf build condition sipCondition mainThread (Exactly setups)
      (call (.setUp setup)) fun status =>
        if status = 0 then Exactly (setup :: setups) else Exactly setups := by
  refine .call (exactly_about _).stable (fun status => ?_) ?_
  · split <;> exact (exactly_about _).stable
  · intro state choice inv exactly admitted
    obtain ⟨keeps, ⟨-, zero, made⟩ | ⟨failed, -, unchanged⟩⟩ :=
      ordinary_step ordinary choice inv admitted.1
    · refine ⟨keeps, ?_⟩
      rw [if_pos zero, made]
      exact fun live => congrArg _ (exactly live)
    · refine ⟨keeps, ?_⟩
      rw [if_neg failed, unchanged]
      exact exactly

/-- The process is about to exit. -/
def Exiting (status : Int) (state : State) : Prop :=
  state.ended = none → Clean state status

theorem exiting_about (status : Int) : AboutSetups (Exiting status) := by
  intro before after exiting made _ ended live isLive
  obtain ⟨curl, worker, failed⟩ := exiting (live isLive)
  rw [← made] at curl worker failed
  exact ⟨curl, ended ∘ worker, failed⟩

/-- libcurl is to be cleaned up: the worker thread has ended, or it was never
created. -/
structure Leaving (state : State) : Prop where
  curl : .curlGlobalInit ∈ state.made
  worker : .threadCreate ∈ state.made → state.workerEnded ∧ state.quitFlag

/-- Where the main thread is at its labels. -/
def mainEntry (conf : SConf) (build : Build) : Label → State → Prop
  | .boot => Exactly []
  | .gateway _ | .cleanupSip => Booted conf build
  | .joinWorker => fun state =>
      Booted conf build state ∧ (state.ended = none → state.quitFlag)
  | .cleanupCurl => fun state => state.ended = none → Leaving state
  | .exit status => Exiting status
  | .work | .events _ | .signals | .ended => fun _ => True

theorem mainEntry_about (label : Label) :
    AboutSetups (mainEntry conf build label) := by
  cases label
  case boot => exact exactly_about _
  case gateway label => exact booted_about
  case cleanupSip => exact booted_about
  case joinWorker =>
    intro before after holds made quit ended live
    refine ⟨booted_about _ _ holds.1 made quit ended live, fun isLive => ?_⟩
    rw [quit]
    exact holds.2 (live isLive)
  case cleanupCurl =>
    intro before after leaving made quit ended live isLive
    obtain ⟨curl, worker⟩ := leaving (live isLive)
    rw [← made] at curl worker
    rw [← quit] at worker
    exact ⟨curl, fun created => (worker created).imp_left ended⟩
  case exit status => exact exiting_about status
  all_goals exact fun _ _ _ _ _ _ _ => trivial

theorem entry_returns
    {pre : State → Prop}
    {label : Label}
    (enters : ∀ state, pre state → mainEntry conf build label state) :
    LifeTriple conf build condition sipCondition mainThread pre (.ret label)
      (mainEntry conf build) :=
  .returns (mainEntry_about label).stable fun state _ => enters state

/-- Exactly these may be left behind: libcurl and the worker thread are not
among them, and after a failure there are none. -/
theorem Exactly.clean
    (exactly : Exactly setups state)
    (noCurl : .curlGlobalInit ∉ setups)
    (noWorker : .threadCreate ∉ setups)
    {status : Int}
    (failed : status ≠ 0 → setups = []) :
    Exiting status state := by
  intro live
  have made := exactly live
  rw [← made] at noCurl noWorker failed
  exact ⟨noCurl, fun created => absurd created noWorker, failed⟩

/-- A signal is registered where everything is ready. -/
theorem signal_triple (number : Signal) :
    LifeTriple conf build condition sipCondition mainThread
      (Booted conf build) (call (.setUp (.signal number)))
      fun _ => Booted conf build := by
  refine .call booted_stable (fun _ => booted_stable) ?_
  intro state choice inv booted admitted
  obtain ⟨keeps, ⟨-, -, made⟩ | ⟨-, -, unchanged⟩⟩ :=
    setUp_step (.signal number) choice inv admitted.1 nofun
      fun _ _ => booted.ready admitted.1
  · refine ⟨keeps, ?_⟩
    rw [made]
    exact fun live setup member =>
      List.mem_cons_of_mem _ (booted live setup member)
  · refine ⟨keeps, ?_⟩
    rw [unchanged]
    exact booted

/-- `sms112_reg_sig` -/
theorem register_triple (numbers : List Signal) :
    LifeTriple conf build condition sipCondition mainThread
      (Booted conf build) (register numbers) fun _ => Booted conf build := by
  induction numbers with
  | nil => exact .returns booted_stable fun _ _ holds => holds
  | cons number numbers inductionHypothesis =>
      exact (signal_triple number).bind fun status => .ite
        (fun _ => inductionHypothesis)
        fun _ => .returns booted_stable fun _ _ holds => holds

/-- `main` up to `sms112_tcp_connect` -/
theorem main_triple (loaded : LoadEnd) :
    LifeTriple (loadedConf loaded) build condition sipCondition mainThread
      (Exactly []) (main build loaded)
      (mainEntry (loadedConf loaded) build) := by
  cases loaded with
  | threw exception conf =>
      have aborts : (call .abort).Uses fun operation => operation.isFree :=
        ⟨rfl, fun _ => trivial⟩
      exact (free_triple aborts (exactly_about _).stable
        (exactly_about _).lasts).bind fun _ => entry_returns fun _ _ => trivial
  | returned iFnRes conf =>
      have registers : LifeTriple conf build condition sipCondition mainThread
          (Booted conf build)
          (do
            let iFnRes ← regSig build
            if iFnRes = 0 then
              return .gateway .main
            else
              return .cleanupSip) (mainEntry conf build) := by
        refine Protocol.Triple.bind (register_triple _) fun iFnRes => .ite
          (fun _ => entry_returns fun _ booted => booted)
          fun _ => entry_returns fun _ booted => booted
      have initialises : LifeTriple conf build condition sipCondition
          mainThread (Exactly [.curlGlobalInit, .logInit conf.logFileMask])
          (do
            let iFnRes ← sipInit conf build
            if iFnRes = 0 then
              let iFnRes ← regSig build
              if iFnRes = 0 then
                return .gateway .main
              else
                return .cleanupSip
            else
              return .cleanupCurl) (mainEntry conf build) := by
        refine Protocol.Triple.bind (Protocol.Triple.weakenPre
          sipInit_triple fun state _ exactly => ?_) fun iFnRes =>
            .ite (fun zero => ?_)
              fun failed => entry_returns fun state booting live => ?_
        · refine ⟨fun live => ?_, fun _ live => ?_⟩
          · rw [State.Has, exactly live]
            simp
          · rw [exactly live]
            simp
        · refine registers.weakenPre fun state _ holds => ?_
          rwa [SipInitialised, if_pos zero] at holds
        · rw [SipInitialised, if_neg failed] at booting
          exact ⟨booting.has live _ List.mem_cons_self,
            fun created => absurd created (booting.noWorker rfl live)⟩
      refine .ite (fun _ => ?_) fun _ => entry_returns fun _ exactly =>
        exactly.clean List.not_mem_nil List.not_mem_nil fun _ => rfl
      refine (exactly_triple rfl).bind fun iFnRes => .ite
        (fun zero => ?_) fun failed => entry_returns fun state exactly => ?_
      · rw [if_pos zero]
        refine (exactly_triple rfl).bind fun iFnRes => .ite
          (fun zero => ?_) fun failed => entry_returns fun state exactly => ?_
        · rw [if_pos zero]
          exact initialises
        · rw [if_neg failed] at exactly
          exact exactly.clean (by simp) (by simp) fun same => absurd rfl same
      · rw [if_neg failed] at exactly
        exact exactly.clean List.not_mem_nil List.not_mem_nil fun _ => rfl

end Process
end Sms112
