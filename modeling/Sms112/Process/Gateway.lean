import Sms112.Model.Process

/-!
# The process is a gateway

Whatever the process does between two operations of the gateway (setting up and
cleaning up, the calls of a curl session, the dialog of a SIP request, the
messages that the worker thread handles, the tests that a signal starts) is not
seen by the gateway: as far as its own state goes, every run of the process is a
run of the gateway, in which a curl session and a SIP request are single
operations. So what holds in all runs of the gateway holds in all runs of the
process.
-/

namespace Sms112
namespace Process

open Resumption

/-! ## The condition on a run -/

/-- The thread of a dialog that a thread is. -/
def Thread.ofDialog : Thread → Dialog.Thread
  | .worker => .worker
  | .gateway _ | .tester _ => .caller

/-- The steps of the gateway and those of the dialogs satisfy conditions. -/
def Guards
    (condition : Machine.Condition Sms112.Op Sms112.Thread Sms112.Choice
      Sms112.State)
    (sipCondition : Machine.Condition Dialogs.Op Dialog.Thread Dialogs.Choice
      Dialogs.State)
    (thread : Thread) (choice : Choice) (state : State) : Op → Prop
  | .gateway operation =>
      condition thread.ofGateway operation choice.gateway state.gateway
  | .settle operation result =>
      condition thread.ofGateway operation (answer operation result)
        state.gateway
  | .deliver =>
      condition .environment .stopSmppReceiverThread choice.gateway
        state.gateway
  | .sip operation =>
      sipCondition thread.ofDialog operation choice.sip state.sip
  | .createUac _ =>
      sipCondition thread.ofDialog .createUac choice.sip state.sip
  | _ => True

/-- Nothing happens after the end of the process, and the steps before it
satisfy conditions. -/
def Running
    (condition : Machine.Condition Sms112.Op Sms112.Thread Sms112.Choice
      Sms112.State)
    (sipCondition : Machine.Condition Dialogs.Op Dialog.Thread Dialogs.Choice
      Dialogs.State) :
    Machine.Condition Op Thread Choice State :=
  fun thread operation choice state =>
    state.ended = none ∧
      Guards condition sipCondition thread choice state operation

instance Guards.decidable
    (condition : Machine.Condition Sms112.Op Sms112.Thread Sms112.Choice
      Sms112.State)
    (sipCondition : Machine.Condition Dialogs.Op Dialog.Thread Dialogs.Choice
      Dialogs.State)
    [∀ thread operation choice state,
      Decidable (condition thread operation choice state)]
    [∀ thread operation choice state,
      Decidable (sipCondition thread operation choice state)]
    (thread : Thread) (choice : Choice) (state : State) :
    (operation : Op) →
      Decidable (Guards condition sipCondition thread choice state operation)
  | .gateway operation =>
      inferInstanceAs (Decidable
        (condition thread.ofGateway operation choice.gateway state.gateway))
  | .settle operation result =>
      inferInstanceAs (Decidable (condition thread.ofGateway operation
        (answer operation result) state.gateway))
  | .deliver =>
      inferInstanceAs (Decidable (condition .environment
        .stopSmppReceiverThread choice.gateway state.gateway))
  | .sip operation =>
      inferInstanceAs (Decidable
        (sipCondition thread.ofDialog operation choice.sip state.sip))
  | .createUac _ =>
      inferInstanceAs (Decidable
        (sipCondition thread.ofDialog .createUac choice.sip state.sip))
  | .curl _ | .enterCurl | .getResult | .look _ | .setUp _ | .inetAton _
  | .setQuitFlag | .getQuitFlag | .isWorkerCreated | .endWorker | .joinWorker
  | .curlGlobalCleanup | .exit _ | .abort | .pollEvents | .tsxState
  | .authReinitReq | .endptSendRequest | .deliverTest => .isTrue trivial

instance
    (condition : Machine.Condition Sms112.Op Sms112.Thread Sms112.Choice
      Sms112.State)
    (sipCondition : Machine.Condition Dialogs.Op Dialog.Thread Dialogs.Choice
      Dialogs.State)
    [∀ thread operation choice state,
      Decidable (condition thread operation choice state)]
    [∀ thread operation choice state,
      Decidable (sipCondition thread operation choice state)]
    (thread : Thread) (operation : Op) (choice : Choice) (state : State) :
    Decidable
      (Running condition sipCondition thread operation choice state) :=
  inferInstanceAs (Decidable (_ ∧ _))

variable {condition : Machine.Condition Sms112.Op Sms112.Thread Sms112.Choice
  Sms112.State}
variable {sipCondition : Machine.Condition Dialogs.Op Dialog.Thread
  Dialogs.Choice Dialogs.State}

/-! ## What the gateway sees -/

variable (condition sipCondition)

/-- The gateway within the process. -/
def toGateway (lib : Smpp34) (build : Build) (loaded : LoadEnd) :
    Refinement Sms112.Res Res Sms112.Thread Sms112.Choice Sms112.State
      Sms112.Label Thread Choice State Label where
  machine := gateway (loadedConf loaded) lib
  larger := machine lib build loaded
  condition := condition
  admits := Running condition sipCondition
  view := State.gateway
  live state := state.ended = none
  role
    | .gateway thread => some thread
    | .worker | .tester _ => none

/-- Where the gateway is when a thread of the process starts over. -/
def gatewayEnds (thread : Thread) :
    Label → Program Sms112.Res Sms112.Label → Prop
  | .boot, part => thread = mainThread → part = .ret .main
  | .gateway label, part =>
      ∀ played, thread = .gateway played → part = .ret label
  | _, _ => True

/-- The operations that change nothing the gateway sees. -/
def Op.isOutside : Op → Bool
  | .gateway _ | .settle .. | .deliver => false
  | _ => true

variable {condition sipCondition}
variable {lib : Smpp34} {build : Build} {loaded : LoadEnd} {thread : Thread}
variable {α β : Type} {part : Program Sms112.Res Sms112.Label}

/-- A set-up changes nothing the gateway knows of. -/
theorem setUp_gateway (state : State) (setup : Setup) (ret : Int) :
    (state.setUp setup ret).2.gateway = state.gateway := by
  rcases state.setUp_cases setup ret with ⟨-, made⟩ | ⟨failure, -, -, failed⟩
  · rw [made]
  · rw [failed]

/-- Neither does the start of a test. -/
theorem deliverTest_gateway (state : State) (delivered : Option Signal) :
    (state.deliverTest delivered).2.gateway = state.gateway := by
  rcases state.deliverTest_cases delivered with
    ⟨-, started⟩ | ⟨number, -, killed⟩
  · rw [started]
  · rw [killed]

/-- An operation outside the gateway leaves its state as it is. -/
theorem exec_outside
    {operation : Op}
    (outside : operation.isOutside)
    (conf : SConf)
    (build : Build)
    (thread : Thread)
    (choice : Choice)
    (state : State) :
    (exec conf build thread operation choice state).2.gateway =
      state.gateway := by
  cases operation
  case setUp setup => exact setUp_gateway _ setup choice.ret
  case gateway operation => cases outside
  case settle operation result => cases outside
  case deliver => cases outside
  case deliverTest => exact deliverTest_gateway _ _
  all_goals rfl

/-- A program that does nothing the gateway sees. -/
theorem outside_follows
    {program : Prog α}
    (uses : program.Uses fun operation => operation.isOutside)
    {ends : α → Program Sms112.Res Sms112.Label → Prop}
    (returns : ∀ value, ends value part) :
    (toGateway condition sipCondition lib build loaded).Follows thread ends
      program part :=
  .uses uses (fun _ choice state outside =>
    exec_outside outside _ build thread choice state) returns

/-- What is done outside may stand in front of any step of the gateway. -/
theorem outside_then
    {first : Prog β}
    {next : β → Prog α}
    (uses : first.Uses fun operation => operation.isOutside)
    {ends : α → Program Sms112.Res Sms112.Label → Prop}
    (rest : ∀ value, (toGateway condition sipCondition lib build
      loaded).Follows thread ends (next value) part) :
    (toGateway condition sipCondition lib build loaded).Follows thread ends
      (first >>= next) part := by
  refine .bind (outside_follows uses fun _ => rfl) ?_
  rintro value _ rfl
  exact rest value

theorem call_outside
    {operation : Op}
    (outside : operation.isOutside) :
    (call operation).Uses fun operation => operation.isOutside :=
  ⟨outside, fun _ => trivial⟩

/-! ## Operations of the gateway -/

/-- The operations of neither the gateway nor the dialogs. -/
def Op.isOwn : Op → Bool
  | .gateway _ | .settle .. | .deliver | .sip _ | .createUac _ => false
  | _ => true

theorem Op.isOwn.outside
    (operation : Op)
    (own : operation.isOwn) :
    operation.isOutside := by
  cases operation <;> first | rfl | cases own

theorem curlPerfRequest_own (url : Octets)
    (body contentType : Option Octets) :
    (curlPerfRequest url body contentType).Uses
      fun operation => operation.isOwn := by
  have session : ((Curl.perfRequest url body contentType).embed Op.curl
      fun _ => id : Prog Int).Uses fun operation => operation.isOwn :=
    (Program.uses_any _).embed fun _ _ => rfl
  exact .step rfl fun _ => session.bind fun _ => .step rfl fun _ => trivial

/-- The dialog of a SIP request lies outside. -/
theorem sip_outside (program : Dialogs.Prog α) :
    (program.embed Op.sip fun _ => id : Prog α).Uses
      fun operation => operation.isOutside :=
  program.uses_any.embed fun _ _ => rfl

theorem sipSendReq_outside (conf : SConf) (request : SipRequest) :
    (sipSendReq conf request).Uses fun operation => operation.isOutside :=
  .step rfl fun _ => sip_outside _

/-- An operation of the gateway as such. -/
theorem gateway_follows
    (thread : Sms112.Thread)
    (operation : Sms112.Op)
    (next : Sms112.Res operation → Program Sms112.Res Sms112.Label) :
    (toGateway condition sipCondition lib build loaded).Follows
      (.gateway thread) (fun result part => part = next result)
      (call (.gateway operation)) (.perform operation next) :=
  .mimics rfl Choice.gateway id (fun _ _ admitted => admitted.2)
    (fun _ _ => rfl) fun _ => rfl

/-- What was done for an operation of the gateway is its result. -/
theorem settle_follows
    {operation : Sms112.Op}
    {result : Sms112.Res operation}
    (answers : ∀ state, (Sms112.exec .receiver operation
      (answer operation result) state).1 = result)
    (next : Sms112.Res operation → Program Sms112.Res Sms112.Label) :
    (toGateway condition sipCondition lib build loaded).Follows receiver
      (fun result part => part = next result)
      (do
        call (.settle operation result)
        return result)
      (.perform operation next) :=
  .mimics rfl (fun _ => answer operation result) (fun _ => result)
    (fun _ _ admitted => admitted.2)
    (fun _ _ => Prod.ext (answers _) rfl) fun _ => rfl

/-- A signal stops the gateway, or the process is over. -/
theorem exec_deliver
    (conf : SConf)
    (build : Build)
    (thread : Thread)
    (choice : Choice)
    (state : State) :
    let after := (exec conf build thread .deliver choice state).2
    after.gateway = (Sms112.exec .environment .stopSmppReceiverThread
        choice.gateway state.gateway).2 ∨
      after.gateway = state.gateway ∧ after.ended ≠ none := by
  rcases State.deliver_cases (if choice.interrupt then .sigint else .sigterm)
    choice.gateway with stopped | killed
  · exact .inl (congrArg State.gateway stopped)
  · refine .inr ⟨(congrArg State.gateway killed).trans rfl, fun live => ?_⟩
    cases (congrArg State.ended killed).symm.trans live

/-- A signal that stops the program is one step of the gateway's
environment. -/
theorem deliver_follows
    (next : Unit → Program Sms112.Res Sms112.Label) :
    (toGateway condition sipCondition lib build loaded).Follows
      (.gateway .environment) (fun result part => part = next result)
      (call .deliver) (.perform .stopSmppReceiverThread next) := by
  intro choice state ⟨_, admitted⟩
  rcases exec_deliver (loadedConf loaded) build (.gateway .environment) choice
    state with stopped | ⟨same, ended⟩
  · have stops : (toGateway condition sipCondition lib build loaded).Moves
        (some .environment) (.perform .stopSmppReceiverThread next)
        state.gateway (next ()) _ :=
      .perform choice.gateway admitted rfl stopped
    exact ⟨next (), stops, fun _ => rfl⟩
  · exact ⟨_, .stay same _ _, fun live => absurd live ended⟩

/-- Every operation is followed by what the process does for it. -/
theorem refine_follows
    (thread : Sms112.Thread)
    (operation : Sms112.Op)
    (next : Sms112.Res operation → Program Sms112.Res Sms112.Label) :
    (toGateway condition sipCondition lib build loaded).Follows
      (.gateway thread) (fun result part => part = next result)
      (refine (loadedConf loaded) thread operation)
      (.perform operation next) := by
  unfold refine
  split
  next localName remoteName caller text geodata =>
    refine .bind (outside_follows (sipSendReq_outside _ _)
      fun _ => rfl) ?_
    rintro iRetVal _ rfl
    exact settle_follows (fun _ => rfl) next
  next url body contentType =>
    refine .bind (outside_follows ((curlPerfRequest_own _ _ _).mono
      Op.isOwn.outside)
      fun _ => rfl) ?_
    rintro outcome _ rfl
    exact settle_follows (fun _ => rfl) next
  next => exact deliver_follows next
  next => exact gateway_follows thread operation next

/-! ## The threads -/

/-- A thread of the gateway starts over. -/
theorem gatewayCode_follows
    (thread : Sms112.Thread)
    (label : Sms112.Label)
    {ends : Label → Program Sms112.Res Sms112.Label → Prop}
    (returns : ∀ label, ends (.gateway label) (.ret label)) :
    ∃ later, (∀ state, (toGateway condition sipCondition lib build
        loaded).Moves (some thread) (.ret label) state later state) ∧
      (toGateway condition sipCondition lib build loaded).Follows
        (.gateway thread) ends
        (gatewayCode (loadedConf loaded) lib thread label) later := by
  refine ⟨Sms112.code (loadedConf loaded) lib thread label,
    fun state => .jump (.refl _ _), ?_⟩
  have followed : (toGateway condition sipCondition lib build loaded).Follows
      (.gateway thread) (fun label part => part = .ret label)
      ((Sms112.code (loadedConf loaded) lib thread label).expand
        (refine (loadedConf loaded) thread)) _ :=
    .expand (refine_follows thread) _ fun label => .ret label
  rw [Program.bind_ret] at followed
  refine followed.bind ?_
  rintro label _ rfl
  exact returns label

/-! ### Setting up -/

theorem failAssertion_own :
    (failAssertion build).Uses fun operation => operation.isOwn := by
  unfold failAssertion
  split
  · exact ⟨rfl, fun _ => trivial⟩
  · trivial

theorem asserted_own (setup : Setup) :
    (asserted build setup).Uses fun operation => operation.isOwn := by
  refine .step rfl fun tStatus => ?_
  split
  · trivial
  · exact failAssertion_own

theorem required_own
    (setup : Setup)
    {rest : Prog Int}
    (uses : rest.Uses fun operation => operation.isOwn) :
    (required build setup rest).Uses fun operation => operation.isOwn := by
  refine .step rfl fun tStatus => ?_
  split
  · exact uses
  · exact failAssertion_own.bind fun _ => trivial

theorem sipInit_own (conf : SConf) :
    (sipInit conf build).Uses fun operation => operation.isOwn := by
  have modules : (sipInitModules conf build).Uses
      fun operation => operation.isOwn :=
    (asserted_own _).bind fun _ => (asserted_own _).bind fun _ =>
      required_own _ (.step rfl fun _ => required_own _
        (.step rfl fun _ => (asserted_own _).bind fun _ =>
          (asserted_own _).bind fun _ => trivial))
  refine required_own _ (required_own _ (.step rfl fun _ =>
    required_own _ (.step rfl fun _ => .step rfl fun converted => ?_)))
  split
  · trivial
  · refine .step rfl fun tStatus => ?_
    split
    · exact modules
    · trivial

theorem register_own (numbers : List Signal) :
    (register numbers).Uses fun operation => operation.isOwn := by
  induction numbers with
  | nil => trivial
  | cons number numbers inductionHypothesis =>
      refine .step rfl fun iRetVal => ?_
      split
      · exact inductionHypothesis
      · trivial

/-- Setting up and cleaning up lie outside. -/
theorem main_own : (main build loaded).Uses fun operation => operation.isOwn := by
  cases loaded with
  | threw exception conf => exact .step rfl fun _ => trivial
  | returned iFnRes conf =>
      unfold main
      dsimp only
      split
      · refine .step rfl fun logResult => ?_
        split
        · refine .step rfl fun curlResult => ?_
          split
          · refine (sipInit_own conf).bind fun sipResult => ?_
            split
            · refine (register_own _).bind fun signalResult => ?_
              split <;> trivial
            · trivial
          · trivial
        · trivial
      · trivial

/-- Before the gateway begins, nothing of it has happened. -/
theorem main_follows :
    (toGateway condition sipCondition lib build loaded).Follows mainThread
      (gatewayEnds mainThread) (main build loaded) (.ret .main) := by
  have ends {label : Label} (anywhere : ∀ part, gatewayEnds mainThread label part) :
      (toGateway condition sipCondition lib build loaded).Follows mainThread
        (gatewayEnds mainThread) (.ret label) (.ret .main) :=
    anywhere _
  have sets (setup : Setup) := call_outside
    (show (Op.setUp setup).isOutside from rfl)
  cases loaded with
  | threw exception conf =>
      exact outside_then (call_outside rfl) fun _ => ends fun _ => trivial
  | returned iFnRes conf =>
      refine .ite (fun _ => outside_then (sets _) fun _ => .ite (fun _ =>
        outside_then (sets _) fun _ => .ite (fun _ =>
          outside_then ((sipInit_own conf).mono Op.isOwn.outside) fun _ => .ite (fun _ =>
            outside_then ((register_own _).mono Op.isOwn.outside) fun _ => .ite (fun _ => ?_)
              fun _ => ends fun _ => trivial)
            fun _ => ends fun _ => trivial)
          fun _ => ends fun _ => trivial)
        fun _ => ends fun _ => trivial)
        fun _ => ends fun _ => trivial
      exact fun _ _ => rfl

/-- The main thread before, in and after the gateway. -/
theorem mainCode_follows
    (label : Label)
    (ends : gatewayEnds mainThread label part) :
    ∃ later, (∀ state, (toGateway condition sipCondition lib build
        loaded).Moves (some (.requester 0)) part state later state) ∧
      (toGateway condition sipCondition lib build loaded).Follows mainThread
        (gatewayEnds mainThread)
        (mainCode (loadedConf loaded) lib build loaded label) later := by
  have stays {program : Prog Label}
      (follows : (toGateway condition sipCondition lib build loaded).Follows
        mainThread (gatewayEnds mainThread) program part) :
      ∃ later, (∀ state, (toGateway condition sipCondition lib build
          loaded).Moves (some (.requester 0)) part state later state) ∧
        (toGateway condition sipCondition lib build loaded).Follows mainThread
          (gatewayEnds mainThread) program later :=
    ⟨part, fun _ => .stay rfl _ _, follows⟩
  have runs (label : Sms112.Label) (same : part = .ret label) :
      ∃ later, (∀ state, (toGateway condition sipCondition lib build
          loaded).Moves (some (.requester 0)) part state later state) ∧
        (toGateway condition sipCondition lib build loaded).Follows mainThread
          (gatewayEnds mainThread)
          (gatewayCode (loadedConf loaded) lib (.requester 0) label) later := by
    subst same
    exact gatewayCode_follows _ label fun _ _ _ => rfl
  have once {operation : Op} (outside : operation.isOutside)
      {next : Res operation → Prog Label}
      (rest : ∀ result, (toGateway condition sipCondition lib build
        loaded).Follows mainThread (gatewayEnds mainThread) (next result)
          part) :=
    stays (outside_then (call_outside outside) rest)
  match label with
  | .boot =>
      obtain rfl : part = .ret .main := ends rfl
      exact stays main_follows
  | .gateway .main | .gateway .startPing | .gateway (.ping _)
  | .gateway .finish | .gateway .receive | .gateway .environment =>
      exact runs _ (ends _ rfl)
  | .gateway .stopped => exact stays trivial
  | .cleanupSip => exact once rfl fun _ => trivial
  | .joinWorker => exact once rfl fun _ => .ite (fun _ => trivial) fun _ => trivial
  | .cleanupCurl => exact once rfl fun _ => trivial
  | .exit status => exact once rfl fun _ => trivial
  | .work | .events _ | .signals | .ended => exact stays trivial

theorem onTsxState_own (event : TsxEvent) :
    (onTsxState event).Uses fun operation => operation.isOwn := by
  unfold onTsxState
  split
  · trivial
  · split
    · refine .step rfl fun tStatus => ?_
      split
      · exact ⟨rfl, fun _ => trivial⟩
      · trivial
    · trivial

/-- So does the whole worker thread. -/
theorem workerThread_own :
    workerThread.Uses fun operation => operation.isOwn := by
  refine .step rfl fun created => ?_
  split
  · refine .step rfl fun quitFlag => ?_
    split
    · exact .step rfl fun _ => trivial
    · exact .step rfl fun _ => trivial
  · trivial

/-- The worker does nothing the gateway sees. -/
theorem endptHandleEvents_outside (left : Nat) :
    (endptHandleEvents left).Uses fun operation => operation.isOutside := by
  cases left with
  | zero => trivial
  | succ left =>
      refine .step rfl fun event => ?_
      match event with
      | some event =>
          exact ((onTsxState_own event).mono Op.isOwn.outside).bind
            fun _ => trivial
      | none => exact (sip_outside _).bind fun _ => trivial

/-! ### Tests -/

/-- What a test does for an operation of the gateway, the gateway does not
see. -/
theorem refineTest_outside (conf : SConf) (operation : Sms112.Op) :
    (refineTest conf operation).Uses fun operation => operation.isOutside := by
  unfold refineTest
  split
  · exact sipSendReq_outside _ _
  · exact (curlPerfRequest_own _ _ _).mono Op.isOwn.outside
  · exact call_outside rfl

theorem test_outside (conf : SConf) (program : Sms112.Prog α) :
    (program.expand (refineTest conf)).Uses
      fun operation => operation.isOutside :=
  program.uses_any.expand fun operation _ => refineTest_outside conf operation

theorem testGeodata_outside (conf : SConf) :
    (testGeodata conf).Uses fun operation => operation.isOutside :=
  (test_outside conf _).bind fun _ => trivial

theorem runTest_outside (conf : SConf) (number : Option Signal) :
    (runTest conf number).Uses fun operation => operation.isOutside := by
  unfold runTest
  split
  · exact (testGeodata_outside conf).bind fun _ => trivial
  · exact (testGeodata_outside conf).bind fun _ =>
      (test_outside conf _).bind fun _ => trivial
  · trivial

/-- So do the tests: their look-ups and SIP requests are made by the thread of
the signal. -/
theorem sigOper_outside (conf : SConf) :
    (sigOper conf).Uses fun operation => operation.isOutside :=
  .step rfl fun number => (runTest_outside conf number).bind fun _ => trivial

/-- Each gateway thread is played by one thread of the process, and what that
thread does is what the gateway's program does next. -/
theorem toGateway_sound :
    (toGateway condition sipCondition lib build loaded).Sound gatewayEnds where
  alone first second thread playsFirst playsSecond := by
    cases first with
    | worker => cases playsFirst
    | tester serial => cases playsFirst
    | gateway first =>
        cases second with
        | worker => cases playsSecond
        | tester serial => cases playsSecond
        | gateway second =>
            cases playsFirst
            cases playsSecond
            rfl
  alive _ _ _ _ admitted := admitted.1
  code actor label part ends := by
    have outside {program : Prog Label}
        (uses : program.Uses fun operation => operation.isOutside)
        (notPlayed : ∀ played, actor ≠ .gateway played) :
        ∃ later, (∀ state, (toGateway condition sipCondition lib build
            loaded).Moves ((toGateway condition sipCondition lib build
              loaded).role actor) part state later state) ∧
          (toGateway condition sipCondition lib build loaded).Follows actor
            (gatewayEnds actor) program later := by
      refine ⟨part, fun _ => .stay rfl _ _, outside_follows uses fun label => ?_⟩
      cases label with
      | boot => exact fun same => absurd same (notPlayed _)
      | gateway label => exact fun played same => absurd same (notPlayed played)
      | _ => trivial
    show ∃ later, _ ∧ Refinement.Follows _ actor (gatewayEnds actor)
      (Process.code lib build loaded actor label) later
    unfold Process.code
    split
    next => exact mainCode_follows _ ends
    next thread label _ =>
      obtain rfl : part = .ret label := ends _ rfl
      exact gatewayCode_follows thread label fun _ _ _ => rfl
    next => exact outside (workerThread_own.mono Op.isOwn.outside) nofun
    next left => exact outside (endptHandleEvents_outside left) nofun
    next serial => exact outside (sigOper_outside _) nofun
    next => exact ⟨part, fun _ => .stay rfl _ _, trivial⟩

/-- Every thread begins where the thread of the gateway does. -/
theorem gateway_plays (actor : Thread) :
    (toGateway condition sipCondition lib build loaded).Plays gatewayEnds
      start.control gatewayStart.control actor := by
  have begins (thread : Sms112.Thread) (label : Label)
      (ends : gatewayEnds (.gateway thread) label
        (gatewayStart.control thread))
      (same : start.control (.gateway thread) = .ret label) :
      (toGateway condition sipCondition lib build loaded).Plays gatewayEnds
        start.control gatewayStart.control (.gateway thread) := by
    refine ⟨gatewayStart.control thread, ?_, fun _ plays => ?_⟩
    · rw [same]
      exact ends
    · cases plays
      rfl
  match actor with
  | .gateway (.requester 0) => exact begins _ .boot (fun _ => rfl) rfl
  | .gateway (.requester (_ + 1)) => exact begins _ .ended trivial rfl
  | .gateway .receiver =>
      exact begins _ (.gateway .receive) (fun _ _ => rfl) rfl
  | .gateway .environment =>
      exact begins _ (.gateway .environment) (fun _ _ => rfl) rfl
  | .worker | .tester _ => exact ⟨.ret .stopped, trivial, nofun⟩

/-- Every run of the process is a run of the gateway, as far as its state
goes. -/
theorem refines_gateway
    {config : Config Res Thread State Label}
    (reach : (machine lib build loaded).Reach (Running condition sipCondition)
      start config) :
    ∃ control, (gateway (loadedConf loaded) lib).Reach condition gatewayStart
      { state := config.state.gateway, control } := by
  obtain ⟨control, reached, -⟩ :=
    toGateway_sound.simulates rfl gateway_plays reach
  exact ⟨control, reached⟩

theorem started_refinesGateway :
    ∃ control, (gateway (loadedConf (.returned 0 {})) referenceCodec).Reach
      Machine.unconditional gatewayStart
      { state := ((machine referenceCodec {} (.returned 0 {})).run started
          start).state.gateway
        control } :=
  refines_gateway
    (show (machine referenceCodec {} (.returned 0 {})).Reach
        (Running Machine.unconditional Machine.unconditional) start
        ((machine referenceCodec {} (.returned 0 {})).run started start) from
      .run .start started (by decide +kernel))

end Process
end Sms112
