import Sms112.Process.Requests

/-!
# The life of the process

What is set up, and what the threads may count on: an invariant of the whole
process, what every thread relies on the others for, and what a step of an
operation that sets up and cleans up nothing preserves. libcurl is the one thing
that may be used after it was cleaned up, by a transfer that is still going on.
Without assertions nobody looks after what only an assertion checks.
-/

namespace Sms112
namespace Process

open Resumption

variable {α β : Type}
variable {condition : Machine.Condition Sms112.Op Sms112.Thread Sms112.Choice
  Sms112.State}
variable {sipCondition : Machine.Condition Dialogs.Op Dialog.Thread
  Dialogs.Choice Dialogs.State}

section Lifecycle

variable (conf : SConf) (build : Build)

/-! ## The invariant -/

/-- What is set up when `main` enters the gateway. -/
def bootedSetups : List Setup :=
  endpointSetups conf ++ [.createPool, .threadCreate, .uaInstance] ++
    if build.assertions then assertedSetups conf else []

/-- The uses of what is not set up that occur: libcurl while the process is
cleaning up, and without assertions what only they look after. -/
def Tolerated (miss : Miss) : Prop :=
  miss = ⟨.curlGlobalInit, true⟩ ∨
    build.assertions = false ∧ miss.setup ∈ assertedSetups conf

/-- All of these are set up. -/
def State.Has (state : State) (setups : List Setup) : Prop :=
  ∀ setup ∈ setups, setup ∈ state.made

/-- libcurl is there, or the process is cleaning up. -/
def State.CurlOrQuit (state : State) : Prop :=
  .curlGlobalInit ∈ state.made ∨ state.quitFlag

/-- Dialogs and transfers have what they need, as far as anybody looks after
it. -/
def State.Ready (state : State) : Prop :=
  state.Has (bootedSetups conf build) ∧ state.CurlOrQuit

/-- How the process is left behind when it exits. -/
structure Clean (state : State) (status : Int) : Prop where
  curl : .curlGlobalInit ∉ state.made
  worker : .threadCreate ∈ state.made → state.workerEnded
  failed : status ≠ 0 → state.made = []

/-- What holds throughout the life of the process. -/
structure LifeInv (state : State) : Prop where
  missed : ∀ miss ∈ state.missed, Tolerated conf build miss
  worker : .threadCreate ∈ state.made → state.Has (endpointSetups conf)
  receiver : state.gateway.receiverCreated → state.Ready conf build
  signals : ∀ number, .signal number ∈ state.made → state.Ready conf build
  dialogs : ∀ index, (state.sip.calls index).inviteSent →
    state.Has (bootedSetups conf build)
  exited : ∀ status, state.ended = some (.exited status) →
    Clean state status

/-- What a thread relies on: the main thread, that only it sets up and cleans
up; the others, that nothing but libcurl is cleaned up, and that only after the
worker thread was told to end. -/
def LifeRely (thread : Thread) (before after : State) : Prop :=
  if thread = mainThread then
    after.made = before.made ∧ after.quitFlag = before.quitFlag ∧
      (before.workerEnded → after.workerEnded) ∧
        (after.ended = none → before.ended = none)
  else
    (∀ setup ≠ .curlGlobalInit, setup ∈ before.made → setup ∈ after.made) ∧
      (.threadCreate ∈ before.made → before.CurlOrQuit → after.CurlOrQuit)

/-- The protocol of the life of the process. -/
def lifeProtocol : Protocol Thread State where
  inv := LifeInv conf build
  rely := LifeRely
  rely_refl thread state := by
    unfold LifeRely
    split
    · exact ⟨rfl, rfl, id, id⟩
    · exact ⟨fun _ _ member => member, fun _ => id⟩
  rely_trans thread first second third before after := by
    unfold LifeRely at *
    split at before
    next isMain =>
      rw [if_pos isMain] at after ⊢
      obtain ⟨made, quit, ended, live⟩ := before
      obtain ⟨made', quit', ended', live'⟩ := after
      exact ⟨made'.trans made, quit'.trans quit, ended' ∘ ended, live ∘ live'⟩
    next notMain =>
      rw [if_neg notMain] at after ⊢
      refine ⟨fun setup other member =>
        after.1 setup other (before.1 setup other member), ?_⟩
      intro created curl
      exact after.2 (before.1 _ nofun created) (before.2 created curl)

/-- A triple in this protocol. -/
abbrev LifeTriple
    (condition : Machine.Condition Sms112.Op Sms112.Thread Sms112.Choice
      Sms112.State)
    (sipCondition : Machine.Condition Dialogs.Op Dialog.Thread Dialogs.Choice
      Dialogs.State)
    (thread : Thread) (pre : State → Prop) (program : Prog α)
    (post : α → State → Prop) : Prop :=
  (lifeProtocol conf build).Triple (exec conf build)
    (Running condition sipCondition) thread pre program post

variable {conf build}

/-- What the main thread may do as far as the others are concerned. -/
theorem lifeRely_other
    {thread : Thread}
    {before after : State}
    (notMain : thread ≠ mainThread)
    (kept : ∀ setup ≠ .curlGlobalInit,
      setup ∈ before.made → setup ∈ after.made)
    (curl : .threadCreate ∈ before.made → before.CurlOrQuit →
      after.CurlOrQuit) :
    (lifeProtocol conf build).rely thread before after := by
  show LifeRely thread before after
  rw [LifeRely, if_neg notMain]
  exact ⟨kept, curl⟩

/-! ## Steps that set nothing up -/

/-- The operation that creates the receiver. -/
def createsReceiver : Sms112.Op → Bool
  | .createReceiver => true
  | _ => false

/-- The operations that neither set up nor clean up anything, and do not end
the process in an orderly way. -/
def Op.isPlain : Op → Bool
  | .gateway operation | .settle operation _ => !createsReceiver operation
  | .setUp _ | .setQuitFlag | .curlGlobalCleanup | .exit _ => false
  | _ => true

variable {state : State}

/-- Where everything is set up nothing is missed. -/
theorem State.use_of_has
    {setups : List Setup}
    (has : state.Has setups) :
    state.use setups = state := by
  have none : setups.filter (· ∉ state.made) = [] :=
    List.filter_eq_nil_iff.mpr fun setup member =>
      by simpa using has setup member
  unfold State.use
  rw [none]
  rfl

/-- What a use adds to the misses is something it needs and that is not set
up. -/
theorem mem_use_missed
    {setups : List Setup}
    {miss : Miss}
    (member : miss ∈ (state.use setups).missed) :
    miss ∈ state.missed ∨
      ∃ setup ∈ setups, setup ∉ state.made ∧
        miss = ⟨setup, state.quitFlag⟩ := by
  rcases List.mem_append.mp member with added | already
  · obtain ⟨setup, absent, rfl⟩ := List.mem_map.mp added
    have absent := List.mem_filter.mp absent
    exact .inr ⟨setup, absent.1, by simpa using absent.2, rfl⟩
  · exact .inl already

/-- Only one operation creates the receiver. -/
theorem receiverCreated_exec
    {operation : Sms112.Op}
    (other : !createsReceiver operation)
    (thread : Sms112.Thread)
    (choice : Sms112.Choice)
    (state : Sms112.State) :
    (Sms112.exec thread operation choice state).2.receiverCreated =
      state.receiverCreated := by
  refine exec_frame thread operation choice state .receiverCreated ?_
  cases operation <;> first | rfl | cases other

/-- SIGPIPE ends the process, and nothing else of an operation does. -/
theorem ended_sigpipe
    {raised : Bool}
    {before after : Option End}
    (same : after = if raised then some (.killed .sigpipe) else before) :
    (after = none → before = none) ∧
      ∀ status, after = some (.exited status) →
        before = some (.exited status) := by
  subst same
  cases raised with
  | true => exact ⟨nofun, nofun⟩
  | false => exact ⟨id, fun _ => id⟩

/-- What a plain operation leaves alone. -/
structure SetupsKept (before after : State) : Prop where
  made : after.made = before.made
  quitFlag : after.quitFlag = before.quitFlag
  receiverCreated :
    after.gateway.receiverCreated = before.gateway.receiverCreated
  workerEnded : before.workerEnded → after.workerEnded
  live : after.ended = none → before.ended = none
  ended : ∀ status, after.ended = some (.exited status) →
    before.ended = some (.exited status)

theorem SetupsKept.has
    {before after : State}
    {setups : List Setup}
    (kept : SetupsKept before after)
    (has : before.Has setups) :
    after.Has setups := by
  rw [State.Has, kept.made]
  exact has

theorem SetupsKept.curlOrQuit
    {before after : State}
    (kept : SetupsKept before after)
    (curl : before.CurlOrQuit) :
    after.CurlOrQuit := by
  rw [State.CurlOrQuit, kept.made, kept.quitFlag]
  exact curl

/-- Where nothing is set up or cleaned up, what was ready stays so. -/
theorem SetupsKept.ready
    {before after : State}
    (kept : SetupsKept before after)
    (ready : before.Ready conf build) :
    after.Ready conf build :=
  ⟨kept.has ready.1, kept.curlOrQuit ready.2⟩

/-- A plain operation sets up and cleans up nothing and adds no miss. -/
theorem perform_plain
    {operation : Op}
    (plain : operation.isPlain)
    (build : Build)
    (thread : Thread)
    (choice : Choice)
    (state : State) :
    SetupsKept state (perform build thread operation choice state).2 ∧
      (perform build thread operation choice state).2.missed =
        state.missed := by
  cases operation
  case gateway operation =>
    obtain ⟨live, ended⟩ := ended_sigpipe
      (rfl : (perform build thread (.gateway operation) choice state).2.ended =
        _)
    exact ⟨⟨rfl, rfl, receiverCreated_exec plain _ _ _, id, live, ended⟩,
      rfl⟩
  case settle operation result =>
    exact ⟨⟨rfl, rfl, receiverCreated_exec plain _ _ _, id, id,
      fun _ => id⟩, rfl⟩
  case deliver =>
    dsimp only [perform]
    rcases State.deliver_cases
      (if choice.interrupt then .sigint else .sigterm) choice.gateway with
      stopped | killed
    · rw [stopped]
      have created : !createsReceiver .stopSmppReceiverThread := rfl
      exact ⟨⟨rfl, rfl, receiverCreated_exec created .environment
        choice.gateway _, id, id, fun _ => id⟩, rfl⟩
    · rw [killed]
      exact ⟨⟨rfl, rfl, rfl, id, nofun, nofun⟩, rfl⟩
  case deliverTest =>
    dsimp only [perform]
    rcases State.deliverTest_cases
      (choice.testSignal.filter (· ∈ testSignals)) with
        ⟨-, started⟩ | ⟨number, -, killed⟩
    · rw [started]
      exact ⟨⟨rfl, rfl, rfl, id, id, fun _ => id⟩, rfl⟩
    · rw [killed]
      exact ⟨⟨rfl, rfl, rfl, id, nofun, nofun⟩, rfl⟩
  case abort => exact ⟨⟨rfl, rfl, rfl, id, nofun, nofun⟩, rfl⟩
  case endWorker =>
    exact ⟨⟨rfl, rfl, rfl, fun _ => rfl, id, fun _ => id⟩, rfl⟩
  case setUp setup => cases plain
  case setQuitFlag => cases plain
  case curlGlobalCleanup => cases plain
  case exit status => cases plain
  all_goals exact ⟨⟨rfl, rfl, rfl, id, id, fun _ => id⟩, rfl⟩

/-- Only what needs all that a dialog needs sends an INVITE. -/
theorem exec_inviteSent
    (operation : Op)
    (thread : Thread)
    (choice : Choice)
    (state : State) :
    needs conf operation = dialogSetups conf ∨
      ∀ index,
        ((exec conf build thread operation choice state).2.sip.calls
          index).inviteSent = (state.sip.calls index).inviteSent := by
  by_cases apart : operation.isApart
  · refine .inr fun index => ?_
    rw [exec_apart apart]
  · cases operation
    case createUac request => exact .inl rfl
    case sip operation =>
      cases operation
      case handleEvents =>
        refine .inr fun index => ?_
        show ((Dialogs.exec .handleEvents choice.sip state.sip).2.calls
          index).inviteSent = _
        rcases Dialogs.handleEvents_cases choice.sip.toChoice
          (state.sip.dialog choice.sip.index) with
          none | ⟨message, -, some⟩
        · simp only [Dialogs.exec, none]
        · simp only [Dialogs.exec, some, Dialogs.State.put]
          by_cases same : index = choice.sip.index
          · rw [same, Function.update_self]
            rfl
          · rw [Function.update_of_ne same]
      all_goals exact .inl rfl
    all_goals exact absurd rfl apart

theorem curl_notMem_bootedSetups :
    .curlGlobalInit ∉ bootedSetups conf build := by
  unfold bootedSetups
  split <;> simp [endpointSetups, assertedSetups]

/-- The worker thread is one of the things set up. -/
theorem threadCreate_mem_bootedSetups :
    .threadCreate ∈ bootedSetups conf build := by
  simp [bootedSetups]

/-- It is part of what a dialog needs. -/
theorem bootedSetups_subset :
    ∀ setup ∈ bootedSetups conf build, setup ∈ dialogSetups conf := by
  intro setup member
  rcases List.mem_append.mp member with always | asserted
  · exact List.mem_append_left _ always
  · refine List.mem_append_right _ ?_
    split at asserted
    · exact asserted
    · exact absurd asserted List.not_mem_nil

/-- Without assertions just what they look after may be missing to a
dialog. -/
theorem mem_dialogSetups
    (build : Build)
    {setup : Setup}
    (member : setup ∈ dialogSetups conf) :
    setup ∈ bootedSetups conf build ∨
      build.assertions = false ∧ setup ∈ assertedSetups conf := by
  rcases List.mem_append.mp member with always | asserted
  · exact .inl (List.mem_append_left _ always)
  · cases assertions : build.assertions with
    | true =>
        refine .inl (List.mem_append_right _ ?_)
        rw [if_pos assertions]
        exact asserted
    | false => exact .inr ⟨rfl, asserted⟩

/-- What is set up before the gateway is not what is tolerated. -/
theorem not_tolerated
    {setup : Setup}
    (booted : setup ∈ bootedSetups conf build)
    (cleaningUp : Bool) :
    ¬Tolerated conf build ⟨setup, cleaningUp⟩ := by
  rintro (curl | ⟨without, asserted⟩)
  · cases curl
    exact curl_notMem_bootedSetups booted
  · rw [bootedSetups, without, if_neg Bool.false_ne_true, List.append_nil]
      at booted
    simp only [assertedSetups, List.mem_cons, List.not_mem_nil, or_false]
      at asserted
    rcases asserted with rfl | rfl | rfl | rfl <;>
      simp [endpointSetups] at booted

/-- What an operation needs is set up, or it is tolerated that it is not. -/
def Met (conf : SConf) (build : Build) (operation : Op) (state : State) :
    Prop :=
  ∀ setup ∈ needs conf operation,
    setup ∈ state.made ∨ Tolerated conf build ⟨setup, state.quitFlag⟩

/-- Only uses that are tolerated are missed. -/
theorem missed_use
    {operation : Op}
    (inv : LifeInv conf build state)
    (met : Met conf build operation state) :
    ∀ miss ∈ (state.use (needs conf operation)).missed,
      Tolerated conf build miss := by
  intro miss member
  rcases mem_use_missed member with
    already | ⟨setup, isNeeded, absent, rfl⟩
  · exact inv.missed miss already
  · exact (met setup isNeeded).resolve_left absent

/-- The step of a plain operation. -/
theorem plain_step
    {operation : Op}
    (plain : operation.isPlain)
    (thread : Thread)
    (choice : Choice)
    (inv : LifeInv conf build state)
    (running : state.ended = none)
    (met : Met conf build operation state) :
    let after := (exec conf build thread operation choice state).2
    (lifeProtocol conf build).Keeps thread state after ∧
      SetupsKept state after := by
  intro after
  obtain ⟨kept, missed⟩ := perform_plain plain build thread choice
    (state.use (needs conf operation))
  have kept : SetupsKept state after :=
    ⟨kept.made, kept.quitFlag, kept.receiverCreated,
      kept.workerEnded, kept.live, kept.ended⟩
  have has (setups : List Setup) : after.Has setups ↔ state.Has setups := by
    rw [State.Has, State.Has, kept.made]
  refine ⟨⟨⟨?_, ?_, ?_, ?_, ?_, ?_⟩, fun other _ => ?_⟩, kept⟩
  · intro miss member
    exact missed_use inv met miss (missed ▸ member)
  · intro created
    exact (has _).mpr (inv.worker (kept.made ▸ created))
  · intro created
    rw [kept.receiverCreated] at created
    exact kept.ready (inv.receiver created)
  · intro number registered
    exact kept.ready (inv.signals number (kept.made ▸ registered))
  · intro index sent
    rw [has]
    rcases exec_inviteSent operation thread choice state with all | same
    · intro setup member
      have needed : setup ∈ needs conf operation :=
        all ▸ bootedSetups_subset setup member
      exact (met setup needed).resolve_right (not_tolerated member _)
    · exact inv.dialogs index ((same index).symm.trans sent)
  · intro status exited
    have before := kept.ended status exited
    rw [running] at before
    cases before
  · show LifeRely other state after
    unfold LifeRely
    split
    · exact ⟨kept.made, kept.quitFlag, kept.workerEnded,
        fun _ => running⟩
    · refine ⟨fun setup _ member => ?_, fun _ => kept.curlOrQuit⟩
      rw [kept.made]
      exact member

/-! ## Rules -/

variable {thread : Thread}

/-- A program of plain operations whose needs are met. -/
theorem plain_triple
    {program : Prog α}
    {allowed : Op → Prop}
    {assertion : State → Prop}
    (uses : program.Uses allowed)
    (stable : (lifeProtocol conf build).Stable thread assertion)
    (lasts : ∀ before after, assertion before → SetupsKept before after →
      assertion after)
    (plain : ∀ operation state, allowed operation →
      LifeInv conf build state → assertion state →
        operation.isPlain ∧ Met conf build operation state) :
    LifeTriple conf build condition sipCondition thread assertion program
      fun _ => assertion := by
  refine Protocol.Triple.uses uses stable ?_
  intro operation state choice isAllowed inv holds admitted
  obtain ⟨isPlain, met⟩ := plain operation state isAllowed inv holds
  obtain ⟨keeps, kept⟩ :=
    plain_step isPlain thread choice inv admitted.1 met
  exact ⟨keeps, lasts _ _ holds kept⟩

/-- One plain operation, with what its result tells. -/
theorem plain_call
    {operation : Op}
    {assertion : State → Prop}
    {post : Res operation → State → Prop}
    (plain : operation.isPlain)
    (stable : (lifeProtocol conf build).Stable thread assertion)
    (postStable : ∀ result,
      (lifeProtocol conf build).Stable thread (post result))
    (met : ∀ state, LifeInv conf build state → assertion state →
      Met conf build operation state)
    (tells : ∀ state choice, LifeInv conf build state → assertion state →
      SetupsKept state (exec conf build thread operation choice state).2 →
        post (exec conf build thread operation choice state).1
          (exec conf build thread operation choice state).2) :
    LifeTriple conf build condition sipCondition thread assertion
      (call operation) post := by
  refine .call stable postStable ?_
  intro state choice inv holds admitted
  obtain ⟨keeps, kept⟩ :=
    plain_step plain thread choice inv admitted.1 (met state inv holds)
  exact ⟨keeps, tells state choice inv holds kept⟩

/-- A thread from which nothing is asked may return anywhere. -/
theorem returns_life
    {pre : State → Prop}
    (label : Label) :
    LifeTriple conf build condition sipCondition thread pre (.ret label)
      fun _ _ => True :=
  .returns (.const True) fun _ _ _ => trivial

/-- What is set up stays so for the other threads, but for libcurl. -/
theorem has_stable
    (other : thread ≠ mainThread)
    {setups : List Setup}
    (without : .curlGlobalInit ∉ setups) :
    (lifeProtocol conf build).Stable thread (State.Has · setups) := by
  intro before after _ has rely _ setup member
  have rely : LifeRely thread before after := rely
  rw [LifeRely, if_neg other] at rely
  refine rely.1 setup ?_ (has setup member)
  rintro rfl
  exact without member

/-- The main thread takes nothing away from the others but libcurl, and that
only when they may no longer count on it. -/
theorem ready_stable (other : thread ≠ mainThread) :
    (lifeProtocol conf build).Stable thread (State.Ready conf build) := by
  intro before after inv ready rely afterInv
  refine ⟨has_stable other curl_notMem_bootedSetups before after inv ready.1
    rely afterInv, ?_⟩
  have rely : LifeRely thread before after := rely
  rw [LifeRely, if_neg other] at rely
  exact rely.2 (ready.1 _ threadCreate_mem_bootedSetups) ready.2

/-- An operation finds what it needs where everything it may need is set up. -/
theorem met_of_has
    {operation : Op}
    {setups : List Setup}
    (has : state.Has setups)
    (among : ∀ setup ∈ needs conf operation, setup ∈ setups) :
    Met conf build operation state :=
  fun setup member => .inl (has setup (among setup member))

/-- Where the main thread has entered the gateway, the needs of a dialog are
met. -/
theorem met_of_booted
    {operation : Op}
    (has : state.Has (bootedSetups conf build))
    (among : ∀ setup ∈ needs conf operation, setup ∈ dialogSetups conf) :
    Met conf build operation state :=
  fun setup member => (mem_dialogSetups build (among setup member)).imp
    (has setup) .inr

/-! ## Operations that need nothing -/

/-- The operations that need nothing. -/
def Op.isFree : Op → Bool
  | .gateway operation | .settle operation _ => !createsReceiver operation
  | .enterCurl | .getResult | .inetAton _ | .getQuitFlag | .isWorkerCreated
  | .endWorker | .abort | .deliver | .deliverTest => true
  | _ => false

theorem Op.isFree.plain
    {operation : Op}
    (free : operation.isFree) :
    operation.isPlain := by
  cases operation <;> first | exact free | cases free

theorem Op.isFree.met
    {operation : Op}
    (free : operation.isFree)
    (state : State) :
    Met conf build operation state := by
  cases operation <;>
    first
      | exact fun _ member => absurd member List.not_mem_nil
      | cases free

/-- A program that needs nothing. -/
theorem free_triple
    {program : Prog α}
    {assertion : State → Prop}
    (uses : program.Uses fun operation => operation.isFree)
    (stable : (lifeProtocol conf build).Stable thread assertion)
    (lasts : ∀ before after, assertion before → SetupsKept before after →
      assertion after) :
    LifeTriple conf build condition sipCondition thread assertion program
      fun _ => assertion :=
  plain_triple uses stable lasts fun _ state free _ _ =>
    ⟨Op.isFree.plain free, Op.isFree.met free state⟩

/-- A question that needs nothing: what a positive answer tells stays so. -/
theorem asks_call
    (operation : Op)
    {told : State → Prop}
    (free : operation.isFree)
    (yes : Res operation → Bool)
    (stable : (lifeProtocol conf build).Stable thread told)
    (tells : ∀ state choice, LifeInv conf build state →
      SetupsKept state (exec conf build thread operation choice state).2 →
        yes (exec conf build thread operation choice state).1 →
          told (exec conf build thread operation choice state).2) :
    LifeTriple conf build condition sipCondition thread (fun _ => True)
      (call operation) fun answer state => yes answer → told state :=
  plain_call (Op.isFree.plain free) (.const True)
    (fun _ before after inv holds rely afterInv isYes =>
      stable before after inv (holds isYes) rely afterInv)
    (fun state _ _ => Op.isFree.met free state)
    fun state choice inv _ kept => tells state choice inv kept

end Lifecycle

end Process
end Sms112
