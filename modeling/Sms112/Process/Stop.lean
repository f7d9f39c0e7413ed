import Sms112.Process.Bounds
import Sms112.Process.CleaningUp

/-!
# Stopping the process

Once a signal has asked the program to stop, the process ends. Three things have
to happen, each after a bounded number of steps of one thread: the main thread
leaves the gateway and tells the worker thread to end, the worker thread ends,
and the main thread sees it and exits.
-/

namespace Sms112
namespace Process

open Resumption Program

variable {α : Type} {before after state : State}

/-! ## What is never undone -/

/-- The process does not go back. -/
structure Lasts (before after : State) : Prop where
  iStop : before.gateway.iStop → after.gateway.iStop
  quitFlag : before.quitFlag → after.quitFlag
  workerEnded : before.workerEnded → after.workerEnded
  ended : before.ended ≠ none → after.ended ≠ none
  worker : .threadCreate ∈ before.made → .threadCreate ∈ after.made

theorem Lasts.refl (state : State) : Lasts state state :=
  ⟨id, id, id, id, id⟩

theorem Lasts.trans
    {first second third : State}
    (before : Lasts first second)
    (after : Lasts second third) :
    Lasts first third where
  iStop := after.iStop ∘ before.iStop
  quitFlag := after.quitFlag ∘ before.quitFlag
  workerEnded := after.workerEnded ∘ before.workerEnded
  ended := after.ended ∘ before.ended
  worker := after.worker ∘ before.worker

/-- No operation of any thread goes back. -/
theorem exec_lasts
    (conf : SConf)
    (build : Build)
    (thread : Thread)
    (operation : Op)
    (choice : Choice)
    (state : State) :
    Lasts state (exec conf build thread operation choice state).2 := by
  cases operation
  case gateway operation =>
    refine ⟨iStop_exec _ operation _ _, id, id, fun ended => ?_, id⟩
    dsimp only [exec, perform]
    split
    · nofun
    · exact ended
  case settle operation result =>
    exact ⟨iStop_exec _ operation _ _, id, id, id, id⟩
  case setUp setup =>
    dsimp only [exec, perform]
    rcases State.setUp_cases setup choice.ret with
      ⟨-, made⟩ | ⟨failure, -, -, failed⟩
    · rw [made]
      exact ⟨id, id, id, id, List.mem_cons_of_mem _⟩
    · rw [failed]
      exact ⟨id, id, id, id, id⟩
  case deliver =>
    dsimp only [exec, perform]
    rcases State.deliver_cases (if choice.interrupt then .sigint else .sigterm)
      choice.gateway with stopped | killed
    · rw [stopped]
      exact ⟨fun _ => rfl, id, id, id, id⟩
    · rw [killed]
      exact ⟨id, id, id, fun _ => nofun, id⟩
  case deliverTest =>
    dsimp only [exec, perform]
    rcases State.deliverTest_cases
      (choice.testSignal.filter (· ∈ testSignals)) with
        ⟨-, started⟩ | ⟨number, -, killed⟩
    · rw [started]
      exact ⟨id, id, id, id, id⟩
    · rw [killed]
      exact ⟨id, id, id, fun _ => nofun, id⟩
  case setQuitFlag => exact ⟨id, fun _ => rfl, id, id, id⟩
  case endWorker => exact ⟨id, id, fun _ => rfl, id, id⟩
  case exit status => exact ⟨id, id, id, fun _ => nofun, id⟩
  case abort => exact ⟨id, id, id, fun _ => nofun, id⟩
  case curlGlobalCleanup =>
    refine ⟨id, id, id, id, fun created => ?_⟩
    exact List.mem_filter.mpr ⟨created, by decide⟩
  all_goals exact ⟨id, id, id, id, id⟩

variable {lib : Smpp34} {build : Build} {loaded : LoadEnd}
variable {config : Config Res Thread State Label}

/-- Nor does a step. -/
theorem step_lasts (thread : Thread) (oracle : Op → Choice) :
    Lasts config.state
      ((machine lib build loaded).step thread oracle config).state := by
  unfold Machine.step
  split
  · exact .refl _
  · exact exec_lasts _ _ thread _ _ _

/-- Nor does a run. -/
theorem run_lasts (schedule : List (Thread × (Op → Choice))) :
    Lasts config.state
      ((machine lib build loaded).run schedule config).state := by
  induction schedule generalizing config with
  | nil => exact .refl _
  | cons entry schedule inductionHypothesis =>
      exact (step_lasts entry.1 entry.2).trans inductionHypothesis

/-! ## Where the threads are -/

/-- An assertion that is not undone. -/
def AboutEnd (assertion : State → Prop) : Prop :=
  ∀ before after, assertion before → Lasts before after → assertion after

/-- Every thread relies on what is never undone. -/
def endProtocol : Protocol Thread State where
  inv _ := True
  rely _ := Lasts
  rely_refl _ := .refl
  rely_trans _ _ _ _ first second := first.trans second

section Programs

variable {conf : SConf} {thread : Thread}
variable {condition : Machine.Condition Op Thread Choice State}

/-- A triple in this protocol. -/
abbrev EndTriple (condition : Machine.Condition Op Thread Choice State)
    (conf : SConf) (build : Build) (thread : Thread) (pre : State → Prop)
    (program : Prog α) (post : α → State → Prop) : Prop :=
  endProtocol.Triple (exec conf build) condition thread pre program post

/-- An assertion that is not undone is stable for every thread. -/
theorem AboutEnd.stable
    {assertion : State → Prop}
    (about : AboutEnd assertion) :
    endProtocol.Stable thread assertion :=
  fun before after _ holds rely _ => about before after holds rely

/-- Whatever is done, an assertion that is not undone stays. -/
theorem lasting_triple
    {assertion : State → Prop}
    (program : Prog α)
    (about : AboutEnd assertion) :
    EndTriple condition conf build thread assertion program
      fun _ => assertion := by
  refine Protocol.Triple.uses program.uses_any about.stable ?_
  intro operation state choice _ _ holds _
  have lasts := exec_lasts conf build thread operation choice state
  exact ⟨⟨trivial, fun _ _ => lasts⟩, about _ _ holds lasts⟩

/-- One operation, with what its result tells. -/
theorem ending_call
    {operation : Op}
    {pre : State → Prop}
    {post : Res operation → State → Prop}
    (about : AboutEnd pre)
    (postAbout : ∀ result, AboutEnd (post result))
    (tells : ∀ state choice, pre state →
      post (exec conf build thread operation choice state).1
        (exec conf build thread operation choice state).2) :
    EndTriple condition conf build thread pre (call operation) post := by
  refine .call about.stable (fun result => (postAbout result).stable) ?_
  intro state choice _ holds _
  have lasts := exec_lasts conf build thread operation choice state
  exact ⟨⟨trivial, fun _ _ => lasts⟩, tells state choice holds⟩

theorem always_aboutEnd : AboutEnd fun _ => True :=
  fun _ _ _ _ => trivial

/-- A thread of which nothing is asked keeps to the protocol. -/
theorem any_triple (program : Prog α) :
    EndTriple condition conf build thread (fun _ => True) program
      fun _ _ => True :=
  lasting_triple program always_aboutEnd

theorem ended_aboutEnd : AboutEnd fun state => state.ended ≠ none :=
  fun _ _ ended lasts => lasts.ended ended

theorem created_aboutEnd : AboutEnd fun state => .threadCreate ∈ state.made :=
  fun _ _ created lasts => lasts.worker created

/-- The worker thread is there if the initialisation succeeded. -/
def CreatedIf (status : Int) (state : State) : Prop :=
  status = 0 → .threadCreate ∈ state.made

theorem createdIf_aboutEnd (status : Int) : AboutEnd (CreatedIf status) :=
  fun _ _ created lasts zero => lasts.worker (created zero)

/-- Where a thread is at its labels: the main thread stays in the gateway and
waits for the worker thread only if it is there, and waits only after it was
told to end; the other labels are the ends. -/
def endEntry : Thread → Label → State → Prop
  | .worker, .work, _ | .worker, .events _, _ => True
  | .worker, _, state => state.workerEnded
  | .gateway (.requester 0), .gateway _, state
  | .gateway (.requester 0), .cleanupSip, state =>
      .threadCreate ∈ state.made
  | .gateway (.requester 0), .joinWorker, state =>
      .threadCreate ∈ state.made ∧ state.quitFlag
  | .gateway (.requester 0), .work, state
  | .gateway (.requester 0), .events _, state
  | .gateway (.requester 0), .signals, state
  | .gateway (.requester 0), .ended, state => state.ended ≠ none
  | _, _, _ => True

theorem endEntry_about (thread : Thread) (label : Label) :
    AboutEnd (endEntry thread label) := by
  intro before after holds lasts
  unfold endEntry at holds ⊢
  split at holds
  case h_3 => exact lasts.workerEnded holds
  case h_4 | h_5 => exact lasts.worker holds
  case h_6 => exact ⟨lasts.worker holds.1, lasts.quitFlag holds.2⟩
  case h_7 | h_8 | h_9 | h_10 => exact lasts.ended holds
  all_goals trivial

theorem end_returns
    {pre : State → Prop}
    {label : Label}
    (enters : ∀ state, pre state → endEntry thread label state) :
    EndTriple condition conf build thread pre (.ret label)
      (endEntry thread) :=
  .returns (endEntry_about thread label).stable fun state _ => enters state

/-! ### Setting up -/

/-- A step of the initialisation without which it fails. -/
theorem required_end
    {setup : Setup}
    {pre : State → Prop}
    {rest : Prog Int}
    (sets : EndTriple condition conf build thread (fun _ => True)
      (call (.setUp setup)) fun status state => status = 0 → pre state)
    (continues : EndTriple condition conf build thread pre rest CreatedIf) :
    EndTriple condition conf build thread (fun _ => True)
      (required build setup rest) CreatedIf := by
  refine sets.bind fun status => .ite (fun zero => ?_) fun _ => ?_
  · exact continues.weakenPre fun _ _ holds => holds zero
  · refine Protocol.Triple.bind (Protocol.Triple.weakenPre (any_triple _)
      fun _ _ _ => trivial) fun _ => ?_
    exact .returns (createdIf_aboutEnd 1).stable fun _ _ _ => nofun

/-- One that tells nothing about the worker thread. -/
theorem requires_end
    (setup : Setup)
    {rest : Prog Int}
    (continues : EndTriple condition conf build thread (fun _ => True) rest
      CreatedIf) :
    EndTriple condition conf build thread (fun _ => True)
      (required build setup rest) CreatedIf :=
  required_end ((any_triple _).consequence (fun _ _ holds => holds)
    fun _ _ _ _ _ => trivial) continues

/-- The worker thread is there if its creation succeeded, whatever follows it
in the initialisation. -/
theorem threadCreate_end :
    EndTriple condition conf build thread (fun _ => True)
      (required build .threadCreate (sipInitDialogs conf build))
      CreatedIf := by
  have creates : EndTriple condition conf build thread (fun _ => True)
      (call (.setUp .threadCreate)) CreatedIf := by
    refine ending_call always_aboutEnd createdIf_aboutEnd ?_
    intro state choice _
    dsimp only [exec, perform]
    rcases State.setUp_cases .threadCreate choice.ret with
      ⟨-, made⟩ | ⟨failure, failed, -, unchanged⟩
    · rw [made]
      exact fun _ => List.mem_cons_self
    · rw [unchanged]
      exact fun zero => absurd zero failed
  refine required_end creates ?_
  exact (lasting_triple _ created_aboutEnd).consequence
    (fun _ _ holds => holds) fun _ _ _ created _ => created

/-- `sms112_sip_init` -/
theorem sipInit_end :
    EndTriple condition conf build thread (fun _ => True)
      (sipInit conf build) CreatedIf := by
  have fails {status : Int} (failed : status ≠ 0) :
      EndTriple condition conf build thread (fun _ => True) (.ret status)
        CreatedIf :=
    .returns (createdIf_aboutEnd status).stable
      fun _ _ _ zero => absurd zero failed
  have modules : EndTriple condition conf build thread (fun _ => True)
      (sipInitModules conf build) CreatedIf :=
    (any_triple _).bind fun _ => (any_triple _).bind fun _ =>
      requires_end _ ((any_triple _).bind fun _ => threadCreate_end)
  refine requires_end _ (requires_end _ ((any_triple _).bind fun _ =>
    requires_end _ ((any_triple _).bind fun _ => (any_triple _).bind
      fun converted => .ite (fun _ => fails (by decide)) fun _ => ?_)))
  exact (any_triple _).bind fun tStatus =>
    .ite (fun _ => modules) fun _ => fails (by decide)

/-- `main` up to `sms112_tcp_connect` -/
theorem boot_end (loaded : LoadEnd) :
    EndTriple condition (loadedConf loaded) build mainThread (fun _ => True)
      (main build loaded) (endEntry mainThread) := by
  cases loaded with
  | threw exception conf =>
      have aborts : EndTriple condition conf build mainThread (fun _ => True)
          (call .abort) fun _ state => state.ended ≠ none :=
        ending_call always_aboutEnd (fun _ => ended_aboutEnd)
          fun _ _ _ => nofun
      exact aborts.bind fun _ => end_returns fun _ ended => ended
  | returned iFnRes conf =>
      have exits (status : Int) : EndTriple condition conf build mainThread
          (fun _ => True) (.ret (.exit status)) (endEntry mainThread) :=
        end_returns fun _ _ => trivial
      refine .ite (fun _ => (any_triple _).bind fun _ => .ite (fun _ =>
        (any_triple _).bind fun _ => .ite (fun _ => ?_) fun _ => exits _)
          fun _ => exits _) fun _ => exits _
      refine sipInit_end.bind fun iFnRes => .ite (fun zero => ?_)
        fun _ => end_returns fun _ _ => trivial
      refine Protocol.Triple.bind (Protocol.Triple.weakenPre
        (lasting_triple _ created_aboutEnd) fun _ _ created => created zero)
          fun iFnRes => .ite (fun _ => end_returns fun _ created => created)
            fun _ => end_returns fun _ created => created

/-! ### The code -/

/-- The main thread comes to its end, to the clean-up or to the join only as
its entry conditions say. -/
theorem mainCode_end (label : Label) :
    EndTriple condition (loadedConf loaded) build mainThread
      (endEntry mainThread label)
      (mainCode (loadedConf loaded) lib build loaded label)
      (endEntry mainThread) := by
  have runs (label : Sms112.Label) :
      EndTriple condition (loadedConf loaded) build mainThread
        (fun state => .threadCreate ∈ state.made)
        (gatewayCode (loadedConf loaded) lib (.requester 0) label)
        (endEntry mainThread) :=
    (lasting_triple _ created_aboutEnd).bind fun _ =>
      end_returns fun _ created => created
  match label with
  | .boot => exact boot_end loaded
  | .gateway .main | .gateway .startPing | .gateway (.ping _)
  | .gateway .finish | .gateway .receive | .gateway .environment =>
      exact runs _
  | .gateway .stopped => exact end_returns fun _ created => created
  | .cleanupSip =>
      have tells : EndTriple condition (loadedConf loaded) build mainThread
          (fun state => .threadCreate ∈ state.made) (call .setQuitFlag)
          fun _ => endEntry mainThread .joinWorker :=
        ending_call created_aboutEnd (fun _ => endEntry_about _ _)
          fun _ _ created => ⟨created, rfl⟩
      exact tells.bind fun _ => end_returns fun _ waits => waits
  | .joinWorker =>
      exact (lasting_triple _ (endEntry_about mainThread .joinWorker)).bind
        fun workerEnded => .ite (fun _ => end_returns fun _ _ => trivial)
          fun _ => end_returns fun _ waits => waits
  | .cleanupCurl =>
      exact (any_triple _).bind fun _ =>
        end_returns fun _ _ => trivial
  | .exit status =>
      have exits : EndTriple condition (loadedConf loaded) build mainThread
          (fun _ => True) (call (.exit status))
          fun _ state => state.ended ≠ none :=
        ending_call always_aboutEnd (fun _ => ended_aboutEnd)
          fun _ _ _ => nofun
      exact exits.bind fun _ => end_returns fun _ ended => ended
  | .work | .events _ | .signals | .ended =>
      exact end_returns fun _ ended => ended

/-- So does the worker. -/
theorem workerThread_end :
    EndTriple condition conf build .worker (fun _ => True) workerThread
      (endEntry .worker) := by
  have works : EndTriple condition conf build .worker (fun _ => True)
      (.ret .work) (endEntry .worker) :=
    end_returns fun _ _ => trivial
  have ends : EndTriple condition conf build .worker (fun _ => True)
      (call .endWorker) fun _ state => state.workerEnded :=
    ending_call always_aboutEnd
      (fun _ _ _ ended lasts => lasts.workerEnded ended) fun _ _ _ => rfl
  refine (any_triple _).bind fun created => .ite (fun _ => ?_) fun _ => works
  refine (any_triple _).bind fun quitFlag => .ite (fun _ => ?_) fun _ => ?_
  · exact ends.bind fun _ => end_returns fun _ ended => ended
  · exact (any_triple _).bind fun _ => end_returns fun _ _ => trivial

theorem endptHandleEvents_end (left : Nat) :
    EndTriple condition conf build .worker (fun _ => True)
      (endptHandleEvents left) (endEntry .worker) := by
  cases left with
  | zero => exact end_returns fun _ _ => trivial
  | succ left =>
      exact (any_triple _).bind fun _ => end_returns fun _ _ => trivial

/-- So does every thread of the process. -/
theorem code_end (thread : Thread) (label : Label) :
    EndTriple condition (loadedConf loaded) build thread
      (endEntry thread label) (code lib build loaded thread label)
      (endEntry thread) := by
  have others {thread : Sms112.Thread} (other : thread ≠ .requester 0)
      (label : Label) (state : State) : endEntry (.gateway thread) label state := by
    match thread with
    | .requester 0 => exact absurd rfl other
    | .requester (_ + 1) | .receiver | .environment => exact trivial
  unfold code
  split
  next => exact mainCode_end label
  next thread label notMain =>
    exact (any_triple _).consequence (fun _ _ _ => trivial)
      fun label state _ _ => others notMain _ state
  next => exact workerThread_end
  next left => exact endptHandleEvents_end left
  next serial =>
    exact (any_triple _).consequence (fun _ _ _ => trivial)
      fun _ _ _ _ => trivial
  next notMain _ notWork notEvents _ =>
    refine end_returns fun state holds => ?_
    match thread with
    | .worker =>
        cases label with
        | work => exact (notWork rfl rfl).elim
        | events left => exact (notEvents left rfl rfl).elim
        | _ => exact holds
    | .tester _ => exact trivial
    | .gateway thread => exact others (fun same => notMain (same ▸ rfl)) _ _

end Programs

/-- Where the threads are in every run. -/
theorem entry_reached
    {condition : Machine.Condition Op Thread Choice State}
    (reach : (machine lib build loaded).Reach condition start config)
    {thread : Thread}
    {label : Label}
    (returned : config.control thread = .ret label) :
    endEntry thread label config.state := by
  have begins (thread : Thread) :
      endProtocol.Safe (machine lib build loaded).exec condition thread
        (endEntry thread) (start.control thread) start.state := by
    match thread with
    | .gateway (.requester 0) | .gateway (.requester (_ + 1))
    | .gateway .receiver | .gateway .environment | .worker | .tester _ =>
        exact fun _ _ _ => trivial
  have safe := (Protocol.sound code_end trivial begins reach).2 thread
  rw [returned] at safe
  exact safe _ (.refl _) trivial

/-! ## Ranks -/

/-- How many steps the main thread is from its end once it has been joined;
before, it need not get past waiting for the worker thread. -/
def waitRank (joined : Bool) : Nat :=
  if joined then 6 else 0

/-- How many steps the main thread is from there at its labels. -/
def mainRank (joined : Bool) : Label → Nat
  | .boot => waitRank joined + 93
  | .gateway label => stopRank label + (waitRank joined + 3)
  | .cleanupSip => waitRank joined + 2
  | .joinWorker => waitRank joined
  | .cleanupCurl => 4
  | .exit _ => 2
  | .work | .events _ | .signals => 1
  | .ended => 0

/-- What the results are once the program was asked to stop, and the worker
thread has ended. -/
def mainResults (joined : Bool) : (operation : Op) → Res operation → Prop
  | .gateway operation, result => stopResults operation result
  | .joinWorker, workerEnded => joined → workerEnded = true
  | _, _ => True

/-- Once booted, the main thread is at most 66 of its steps and the wait away
from its end. -/
theorem mainRank_le (joined : Bool) (label : Label) (other : label ≠ .boot) :
    mainRank joined label ≤ waitRank joined + 66 := by
  cases label
  case boot => exact absurd rfl other
  case gateway label =>
    have top : stopRank label ≤ 63 := by
      unfold stopRank
      split <;> decide
    show stopRank label + (waitRank joined + 3) ≤ _
    omega
  all_goals
    simp only [mainRank]
    omega

/-- Every label of the main thread brings it nearer to its end. -/
theorem mainCode_ends
    (joined : Bool)
    (label : Label)
    (positive : 0 < mainRank joined label) :
    (mainCode (loadedConf loaded) lib build loaded label).Ends
      (mainResults joined) (mainRank joined) (mainRank joined label - 1) := by
  have runs (label : Sms112.Label) (going : 0 < stopRank label) :
      (gatewayCode (loadedConf loaded) lib (.requester 0) label).Ends
        (mainResults joined) (mainRank joined)
        (mainRank joined (.gateway label) - 1) := by
    have ends := (controller_winds (loadedConf loaded) lib).ends label going
    have spent : mainRank joined (.gateway label) - 1 =
        stopRank label - 1 + (waitRank joined + 3) := by
      simp only [mainRank]
      omega
    rw [spent]
    exact gatewayCode_ends ends (fun _ _ tells => tells) fun _ => Nat.le_refl _
  match label with
  | .boot => exact (boot_ends (mainRank_le joined)).mono (Nat.le_refl _)
  | .gateway .main | .gateway .startPing | .gateway (.ping _)
  | .gateway .finish | .gateway .receive | .gateway .environment =>
      exact runs _ (Nat.succ_pos _)
  | .gateway .stopped =>
      show waitRank joined + 2 ≤ 0 + (waitRank joined + 3) - 1
      omega
  | .cleanupSip => exact .step (by simp [mainRank]) fun _ _ => Nat.le_refl _
  | .joinWorker =>
      cases joined with
      | false => exact absurd positive (Nat.lt_irrefl 0)
      | true =>
          refine .step (Nat.succ_pos 4) fun workerEnded ended => ?_
          have ended : workerEnded = true := ended rfl
          rw [if_pos ended]
          exact Nat.le_refl 4
  | .cleanupCurl => exact .step (Nat.succ_pos 2) fun _ _ => Nat.le_refl 2
  | .exit status => exact .step (Nat.succ_pos 0) fun _ _ => Nat.zero_le _
  | .work | .events _ | .signals => exact Nat.zero_le _
  | .ended => exact absurd positive (Nat.lt_irrefl 0)

/-- What the results are once the worker thread was told to end. -/
def workerResults (build : Build) : (operation : Op) → Res operation → Prop
  | .isWorkerCreated, created => created = true
  | .getQuitFlag, quitFlag => quitFlag = true
  | .pollEvents, events => events ≤ build.maxEvents
  | _, _ => True

theorem workerResults.polled
    (operation : Op)
    (result : Res operation)
    (tells : workerResults build operation result) :
    pollResults build operation result := by
  cases operation
  case pollEvents => exact tells
  all_goals trivial

/-- A worker that sees the quit flag ends within 3 steps. -/
theorem workerThread_ends :
    workerThread.Ends (workerResults build) workerRank 3 := by
  refine .step (by decide) fun created isCreated => ?_
  have isCreated : created = true := isCreated
  rw [if_pos isCreated]
  refine .step (by decide) fun quitFlag isSet => ?_
  have isSet : quitFlag = true := isSet
  rw [if_pos isSet]
  exact .step (by decide) fun _ _ => Nat.zero_le _

/-! ## The end -/

/-- What holds where a thread was at a label holds to the end of the run. -/
theorem entry_lasts
    (reach : (machine lib build loaded).Reach Machine.unconditional start
      config)
    {thread : Thread}
    {label : Label}
    {earlier : List (Thread × (Op → Choice))}
    (returned : ((machine lib build loaded).run earlier config).control
      thread = .ret label)
    (later : List (Thread × (Op → Choice))) :
    endEntry thread label
      ((machine lib build loaded).run (earlier ++ later) config).state := by
  rw [Machine.run_append]
  have reached := reach.run earlier (Machine.admits_unconditional _ _)
  exact endEntry_about thread label _ _ (entry_reached reached returned)
    (run_lasts later)

/-- The main thread gets to its end, or, where the worker thread may not have
ended, at least to waiting for it. -/
theorem main_reaches
    (joined : Bool)
    (reach : (machine lib build loaded).Reach Machine.unconditional start
      config)
    (stopped : config.state.gateway.iStop)
    (workerEnded : joined → config.state.workerEnded)
    (schedule : List (Thread × (Op → Choice)))
    (enough : 164 + waitRank joined ≤
      schedule.countP fun entry => entry.1 = mainThread) :
    ∃ label, mainRank joined label = 0 ∧ endEntry mainThread label
      ((machine lib build loaded).run schedule config).state := by
  have top (label : Label) : mainRank joined label ≤ 93 + waitRank joined := by
    by_cases other : label = .boot
    · subst other
      exact Nat.le_of_eq (Nat.add_comm _ _)
    · have := mainRank_le joined label other
      omega
  have left : (config.control mainThread).Within 71 :=
    reach.within mainCode_within (Nat.zero_le _)
  have spends : 71 + (93 + waitRank joined) ≤
      schedule.countP fun entry => entry.1 = mainThread := by omega
  let good (config : Config Res Thread State Label) : Prop :=
    config.state.gateway.iStop ∧ (joined → config.state.workerEnded)
  have closed (config : Config Res Thread State Label) (thread : Thread)
      (oracle : Op → Choice) (holds : good config) :
      good ((machine lib build loaded).step thread oracle config) :=
    have lasts := step_lasts thread oracle
    ⟨lasts.iStop holds.1, fun isJoined => lasts.workerEnded (holds.2 isJoined)⟩
  have results (config : Config Res Thread State Label) (operation : Op)
      (choice : Choice) (holds : good config) :
      mainResults joined operation
        (exec (loadedConf loaded) build mainThread operation choice
          config.state).1 := by
    cases operation
    case gateway operation =>
      cases operation <;> first | exact holds.1 | trivial
    case joinWorker => exact holds.2
    all_goals trivial
  obtain ⟨earlier, later, label, rfl, returned, final⟩ :=
    Machine.run_reaches (mainCode_ends joined) closed results schedule
      ⟨stopped, workerEnded⟩ (left.ends top) spends
  exact ⟨label, final, entry_lasts reach returned later⟩

/-- The worker thread ends once it was told to. -/
theorem worker_ends
    (reach : (machine lib build loaded).Reach Machine.unconditional start
      config)
    (created : .threadCreate ∈ config.state.made)
    (quitFlag : config.state.quitFlag)
    (schedule : List (Thread × (Op → Choice)))
    (enough : workerBound build ≤
      schedule.countP fun entry => entry.1 = .worker) :
    ((machine lib build loaded).run schedule config).state.workerEnded := by
  have ends (label : Label) (positive : 0 < workerRank label) :
      (code lib build loaded .worker label).Ends (workerResults build)
        workerRank (workerRank label - 1) := by
    cases label
    case work => exact workerThread_ends
    case events left => exact endptHandleEvents_ends left
    all_goals exact Nat.zero_le _
  have polls (state : State) (operation : Op) (choice : Choice) :
      pollResults build operation
        (exec (loadedConf loaded) build .worker operation choice
          state).1 := by
    cases operation
    case pollEvents => exact Nat.min_le_right _ _
    all_goals trivial
  have initially : workerRank .work ≤ workerBound build := by
    show 4 ≤ 14 + 10 * build.maxEvents
    omega
  have begins : (start.control .worker).Ends (pollResults build) workerRank
      (workerBound build) := initially
  have left : (config.control .worker).Ends (pollResults build) workerRank
      (workerBound build) :=
    reach.ends workerCode_bounded polls begins
  let good (config : Config Res Thread State Label) : Prop :=
    .threadCreate ∈ config.state.made ∧ config.state.quitFlag
  have closed (config : Config Res Thread State Label) (thread : Thread)
      (oracle : Op → Choice) (holds : good config) :
      good ((machine lib build loaded).step thread oracle config) :=
    have lasts := step_lasts thread oracle
    ⟨lasts.worker holds.1, lasts.quitFlag holds.2⟩
  have results (config : Config Res Thread State Label) (operation : Op)
      (choice : Choice) (holds : good config) :
      workerResults build operation
        (exec (loadedConf loaded) build .worker operation choice
          config.state).1 := by
    cases operation
    case isWorkerCreated => exact decide_eq_true holds.1
    case getQuitFlag => exact holds.2
    case pollEvents => exact Nat.min_le_right _ _
    all_goals trivial
  obtain ⟨earlier, later, label, rfl, returned, final⟩ :=
    Machine.run_reaches ends closed results schedule ⟨created, quitFlag⟩
      (left.restrict workerResults.polled) enough
  have ended := entry_lasts reach returned later
  cases label
  case ended => exact ended
  all_goals cases final

/-- From the moment at which the program is asked to stop, the process has
ended when the main thread, the worker thread and again the main thread have
had enough steps, whatever the other threads, the network and the libraries
do. -/
theorem stops
    (reach : (machine lib build loaded).Reach Machine.unconditional start
      config)
    (stopped : config.state.gateway.iStop)
    (first second third : List (Thread × (Op → Choice)))
    (leaves : 164 ≤ first.countP fun entry => entry.1 = mainThread)
    (joins : workerBound build ≤
      second.countP fun entry => entry.1 = .worker)
    (exits : 170 ≤ third.countP fun entry => entry.1 = mainThread) :
    ((machine lib build loaded).run (first ++ second ++ third)
      config).state.ended ≠ none := by
  rw [Machine.run_append, Machine.run_append]
  obtain ⟨label, final, entry⟩ := main_reaches false reach stopped nofun first
    leaves
  have reach := reach.run first (Machine.admits_unconditional _ _)
  have stopped :
      ((machine lib build loaded).run first config).state.gateway.iStop :=
    (run_lasts first).iStop stopped
  generalize (machine lib build loaded).run first config = config at *
  cases label
  case joinWorker =>
    obtain ⟨created, quitFlag⟩ := entry
    have workerEnded := worker_ends reach created quitFlag second joins
    obtain ⟨label, final, entry⟩ := main_reaches true
      (reach.run second (Machine.admits_unconditional _ _))
      ((run_lasts second).iStop stopped) (fun _ => workerEnded) third exits
    cases label
    case ended => exact entry
    all_goals cases final
  case ended => exact (run_lasts third).ended ((run_lasts second).ended entry)
  all_goals cases final

/-- A signal comes while the ping loop waits. -/
theorem signalled_stops :
    let config := (machine referenceCodec {} (.returned 0 {})).run
      (started ++ signalled) start
    ((machine referenceCodec {} (.returned 0 {})).run
      (steps mainThread 164 accepting ++ steps .worker 24 accepting ++
        steps mainThread 170 accepting) config).state.ended ≠ none :=
  stops (.run .start _ (Machine.admits_unconditional _ _)) (by decide +kernel)
    _ _ _ (by decide +kernel) (by decide +kernel) (by decide +kernel)

end Process
end Sms112
