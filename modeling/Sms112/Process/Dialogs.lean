import Sms112.Dialogs.Settled
import Sms112.Handler.Calls
import Sms112.Handler.Outcome
import Sms112.Process.Gateway

/-!
# The process and its dialogs

As far as the dialogs and the map that they share go, every run of the process
in which no test makes a SIP request is a run of many dialogs: the receiver makes
one request after the other, and the worker thread handles the messages. So what
holds of the dialogs in all of their runs holds of them in all such runs of the
process. The test of SIGUSR2 makes requests of its own beside the receiver's.
-/

namespace Sms112
namespace Process

open Resumption

variable {condition : Machine.Condition Sms112.Op Sms112.Thread Sms112.Choice
  Sms112.State}
variable {sipCondition : Machine.Condition Dialogs.Op Dialog.Thread
  Dialogs.Choice Dialogs.State}
variable {lib : Smpp34} {build : Build} {loaded : LoadEnd} {thread : Thread}
variable {α : Type} {part : Program Dialogs.Res Unit}

/-! ## What the dialogs see -/

/-- A signal starts a test that makes a SIP request. -/
def startsRequest (choice : Choice) : Op → Bool
  | .deliverTest => choice.testSignal = some .sigusr2
  | _ => false

variable (condition sipCondition)

/-- The process runs, and no test makes a SIP request. -/
def Untested : Machine.Condition Op Thread Choice State :=
  fun thread operation choice state =>
    Running condition sipCondition thread operation choice state ∧
      startsRequest choice operation = false

instance
    [∀ thread operation choice state,
      Decidable (condition thread operation choice state)]
    [∀ thread operation choice state,
      Decidable (sipCondition thread operation choice state)]
    (thread : Thread) (operation : Op) (choice : Choice) (state : State) :
    Decidable
      (Untested condition sipCondition thread operation choice state) :=
  inferInstanceAs (Decidable (_ ∧ _))

/-- The dialogs within the process. -/
def toDialogs (lib : Smpp34) (build : Build) (loaded : LoadEnd) :
    Refinement Dialogs.Res Res Dialog.Thread Dialogs.Choice Dialogs.State Unit
      Thread Choice State Label where
  machine := Dialogs.machine (loadedConf loaded)
  larger := machine lib build loaded
  condition := sipCondition
  admits := Untested condition sipCondition
  view := State.sip
  live state := state.ended = none
  role
    | .gateway .receiver => some .caller
    | .worker => some .worker
    | _ => none

/-- Between two programs no thread is in a dialog. -/
def dialogEnds (_ : Thread) (_ : Label) (part : Program Dialogs.Res Unit) :
    Prop :=
  part = .ret ()

/-- The operations that change nothing the dialogs see. -/
def Op.isApart : Op → Bool
  | .sip _ | .createUac _ => false
  | _ => true

variable {condition sipCondition}

/-- Setting up touches no dialog. -/
theorem setUp_sip (state : State) (setup : Setup) (ret : Int) :
    (state.setUp setup ret).2.sip = state.sip := by
  rcases state.setUp_cases setup ret with ⟨-, made⟩ | ⟨failure, -, -, failed⟩
  · rw [made]
  · rw [failed]

/-- Neither does a signal that stops the program. -/
theorem deliver_sip (state : State) (number : Signal)
    (choice : Sms112.Choice) :
    (state.deliver number choice).sip = state.sip := by
  rcases state.deliver_cases number choice with stopped | killed
  · rw [stopped]
  · rw [killed]

/-- Neither does one that starts a test; the test does it later. -/
theorem deliverTest_sip (state : State) (delivered : Option Signal) :
    (state.deliverTest delivered).2.sip = state.sip := by
  rcases state.deliverTest_cases delivered with
    ⟨-, started⟩ | ⟨number, -, killed⟩
  · rw [started]
  · rw [killed]

/-- An operation apart from the dialogs leaves them all as they are. -/
theorem exec_apart
    {operation : Op}
    (isApart : operation.isApart)
    (conf : SConf)
    (build : Build)
    (thread : Thread)
    (choice : Choice)
    (state : State) :
    (exec conf build thread operation choice state).2.sip = state.sip := by
  cases operation
  case setUp setup => exact setUp_sip _ setup choice.ret
  case deliver => exact deliver_sip _ _ _
  case deliverTest => exact deliverTest_sip _ _
  case sip operation => cases isApart
  case createUac request => cases isApart
  all_goals rfl

/-- A program that does nothing the dialogs see. -/
theorem apart_follows
    {program : Prog α}
    (uses : program.Uses fun operation => operation.isApart)
    {ends : α → Program Dialogs.Res Unit → Prop}
    (returns : ∀ value, ends value part) :
    (toDialogs condition sipCondition lib build loaded).Follows thread ends
      program part :=
  .uses uses (fun _ choice state isApart =>
    exec_apart isApart _ build thread choice state) returns

/-- It is no step of theirs. -/
theorem apart_step
    {operation : Op}
    (isApart : operation.isApart)
    {next : Res operation → Prog α}
    {ends : α → Program Dialogs.Res Unit → Prop}
    (rest : ∀ result, (toDialogs condition sipCondition lib build
      loaded).Follows thread ends (next result) part) :
    (toDialogs condition sipCondition lib build loaded).Follows thread ends
      (.perform operation next) part :=
  .unseen (fun choice state => exec_apart isApart _ build thread choice state)
    rest

/-! ## The receiver -/

/-- The request in a dialog with its result. -/
def answered (conf : SConf) : Dialog.Prog Int := do
  let iRetVal ← Dialog.sendReq conf
  Dialog.call (.note (.returned iRetVal))
  return iRetVal

/-- The result of a request is of no concern to its dialog. -/
theorem request_eq (conf : SConf) (index : Nat) :
    Dialogs.inDialog index (Dialogs.request conf) =
      Dialogs.inDialog index (answered conf) >>= fun _ => .ret () := by
  have forgets : Dialogs.request conf =
      answered conf >>= fun _ => .ret () := by
    rw [answered, Program.bind_bind]
    rfl
  rw [forgets]
  exact Program.embed_bind ..

/-- A program of the dialogs, performed in the process. -/
theorem sip_follows
    {role : Dialog.Thread}
    (plays : (toDialogs condition sipCondition lib build loaded).role thread =
      some role)
    (same : thread.ofDialog = role)
    (program : Dialogs.Prog α)
    (next : α → Program Dialogs.Res Unit) :
    (toDialogs condition sipCondition lib build loaded).Follows thread
      (fun value part => part = next value)
      (program.embed Op.sip fun _ => id) (program >>= next) := by
  subst same
  refine .embed plays Choice.sip ?_ (fun _ _ _ => rfl) program next
  exact fun operation choice state admitted => admitted.1.2

/-- A SIP request of the process is a request of the dialogs. -/
theorem sipSendReq_follows (request : SipRequest) :
    (toDialogs condition sipCondition lib build loaded).Follows receiver
      (fun _ later => later = .ret ())
      (sipSendReq (loadedConf loaded) request) (.ret ()) := by
  have plays : (toDialogs condition sipCondition lib build loaded).role
      receiver = some .caller := rfl
  refine .restart plays ?_
  show Refinement.Follows _ _ _ _ (.perform .createUac fun index =>
    Dialogs.inDialog index (Dialogs.request (loadedConf loaded)))
  refine .mimics plays Choice.sip id (fun _ _ admitted => admitted.1.2)
    (fun _ _ => rfl) fun index => ?_
  rw [id, request_eq]
  exact sip_follows plays rfl _ _

theorem Op.isOwn.isApart
    (operation : Op)
    (own : operation.isOwn) :
    operation.isApart := by
  cases operation <;> first | rfl | cases own

/-- Whatever the receiver does for an operation of the gateway, it is in no
dialog afterwards. -/
theorem refine_apart
    (thread : Sms112.Thread)
    (operation : Sms112.Op) :
    (toDialogs condition sipCondition lib build loaded).Follows
      (.gateway thread) (fun _ later => later = .ret ())
      (refine (loadedConf loaded) thread operation) (.ret ()) := by
  unfold refine
  split
  next =>
    refine (sipSendReq_follows _).bind ?_
    rintro iRetVal _ rfl
    exact apart_step rfl fun _ => rfl
  next =>
    refine apart_follows (((curlPerfRequest_own _ _ _).mono
      Op.isOwn.isApart).bind fun outcome => ?_) fun _ => rfl
    exact .step rfl fun _ => trivial
  next => exact apart_step rfl fun _ => rfl
  next => exact apart_step rfl fun _ => rfl

/-! ## The threads -/

/-- Between two programs of the gateway no request is in progress. -/
theorem gatewayCode_apart
    (thread : Sms112.Thread)
    (label : Sms112.Label) :
    (toDialogs condition sipCondition lib build loaded).Follows
      (.gateway thread) (dialogEnds (.gateway thread))
      (gatewayCode (loadedConf loaded) lib thread label) (.ret ()) := by
  have expanded : (toDialogs condition sipCondition lib build loaded).Follows
      (.gateway thread) (fun _ later => later = .ret ())
      ((Sms112.code (loadedConf loaded) lib thread label).expand
        (refine (loadedConf loaded) thread)) (.ret ()) :=
    .expand_same (refine_apart thread) _ fun _ => rfl
  exact expanded.bind fun _ _ same => same

/-- The main thread has no dialogs. -/
theorem mainCode_apart (label : Label) :
    (toDialogs condition sipCondition lib build loaded).Follows mainThread
      (dialogEnds mainThread)
      (mainCode (loadedConf loaded) lib build loaded label) (.ret ()) := by
  have follows {program : Prog Label}
      (uses : program.Uses fun operation => operation.isApart) :
      (toDialogs condition sipCondition lib build loaded).Follows mainThread
        (dialogEnds mainThread) program (.ret ()) :=
    apart_follows uses fun _ => rfl
  match label with
  | .boot =>
      exact follows (main_own.mono Op.isOwn.isApart)
  | .gateway .main | .gateway .startPing | .gateway (.ping _)
  | .gateway .finish | .gateway .receive | .gateway .environment =>
      exact gatewayCode_apart _ _
  | .gateway .stopped | .work | .events _ | .signals | .ended => exact rfl
  | .cleanupSip | .cleanupCurl | .exit _ =>
      exact follows (.step rfl fun _ => trivial)
  | .joinWorker =>
      refine follows (.step rfl fun ended => ?_)
      split <;> trivial

/-- The worker thread of the process is that of the dialogs. -/
theorem endptHandleEvents_follows (left : Nat) :
    (toDialogs condition sipCondition lib build loaded).Follows .worker
      (dialogEnds .worker) (endptHandleEvents left) (.ret ()) := by
  have plays : (toDialogs condition sipCondition lib build loaded).role
      .worker = some .worker := rfl
  have handles : (toDialogs condition sipCondition lib build loaded).Follows
      .worker (fun _ later => later = .ret ()) handleEvents (.ret ()) := by
    refine apart_step rfl fun event => ?_
    match event with
    | some event =>
        exact apart_follows ((onTsxState_own event).mono Op.isOwn.isApart) fun _ => rfl
    | none =>
        refine .restart plays ?_
        have followed := sip_follows plays rfl Dialogs.workerThread
          fun _ => .ret ()
        rwa [Program.bind_ret] at followed
  cases left with
  | zero => exact rfl
  | succ left => exact handles.bind fun _ _ same => same

/-! ## Tests -/

/-- The look-up of a test is in no dialog. -/
theorem testGeodata_apart (conf : SConf) :
    (testGeodata conf).Uses fun operation => operation.isApart := by
  refine .bind ((geodataGet_lookUp conf _ _).expand ?_) fun _ => trivial
  intro operation lookUp
  cases operation
  case snprintf => exact ⟨rfl, fun _ => trivial⟩
  case curl => exact (curlPerfRequest_own _ _ _).mono Op.isOwn.isApart
  all_goals cases lookUp

/-- Only the test of SIGUSR2 is in a dialog. -/
theorem runTest_apart
    (conf : SConf)
    {number : Option Signal}
    (noRequest : number ≠ some .sigusr2) :
    (runTest conf number).Uses fun operation => operation.isApart := by
  unfold runTest
  split
  · exact (testGeodata_apart conf).bind fun _ => trivial
  · exact absurd rfl noRequest
  · trivial

/-- Which test a signal starts. -/
theorem exec_deliverTest
    (conf : SConf)
    (build : Build)
    (thread : Thread)
    (choice : Choice)
    (state : State)
    {number : Signal}
    (started : (exec conf build thread .deliverTest choice state).1 =
      some number) :
    choice.testSignal = some number := by
  have delivers : (exec conf build thread .deliverTest choice state).1 =
      ((state.use []).deliverTest
        (choice.testSignal.filter (· ∈ testSignals))).1 := rfl
  rw [delivers] at started
  rcases State.deliverTest_cases (choice.testSignal.filter (· ∈ testSignals))
    with ⟨-, asked⟩ | ⟨killer, -, killed⟩
  · rw [asked] at started
    exact (Option.filter_eq_some_iff.mp started).1
  · rw [killed] at started
    cases started

/-- Unless it makes a SIP request, a test is in no dialog. -/
theorem sigOper_follows (serial : Nat) :
    (toDialogs condition sipCondition lib build loaded).Follows
      (.tester serial) (dialogEnds (.tester serial))
      (sigOper (loadedConf loaded)) (.ret ()) := by
  intro choice state admitted
  refine ⟨.ret (), .stay (exec_apart rfl _ build _ choice state) _ _,
    fun _ => ?_⟩
  have noRequest : (exec (loadedConf loaded) build (.tester serial)
      .deliverTest choice state).1 ≠ some .sigusr2 := by
    intro started
    have noTest : startsRequest choice .deliverTest = false := admitted.2
    rw [startsRequest, exec_deliverTest _ _ _ _ _ started] at noTest
    cases noTest
  have runs : (runTest (loadedConf loaded) _ >>= fun _ =>
      Program.ret Label.signals : Prog Label).Uses
        fun operation => operation.isApart :=
    (runTest_apart _ noRequest).bind fun _ => trivial
  exact apart_follows runs fun _ => rfl

/-- Each part is played by one thread, and that thread does what the programs
of the dialogs do next. -/
theorem toDialogs_sound :
    (toDialogs condition sipCondition lib build loaded).Sound dialogEnds where
  alone first second thread playsFirst playsSecond := by
    match first, second with
    | .gateway .receiver, .gateway .receiver | .worker, .worker => rfl
    | .gateway .receiver, .worker | .worker, .gateway .receiver =>
        cases playsFirst
        cases playsSecond
    | .gateway (.requester _), _ | .gateway .environment, _ | .tester _, _ =>
        cases playsFirst
    | _, .gateway (.requester _) | _, .gateway .environment | _, .tester _ =>
        cases playsSecond
  alive _ _ _ _ admitted := admitted.1.1
  code actor label part ends := by
    obtain rfl : part = .ret () := ends
    refine ⟨.ret (), fun _ => .stay rfl _ _, ?_⟩
    show Refinement.Follows _ actor (dialogEnds actor)
      (Process.code lib build loaded actor label) _
    unfold Process.code
    split
    next => exact mainCode_apart _
    next thread label _ => exact gatewayCode_apart thread label
    next =>
      exact apart_follows (workerThread_own.mono Op.isOwn.isApart)
        fun _ => rfl
    next left => exact endptHandleEvents_follows left
    next serial => exact sigOper_follows serial
    next => exact rfl

/-- Every run of the process in which no test makes a SIP request is a run of
many dialogs, as far as these go. -/
theorem refines_dialogs
    {config : Config Res Thread State Label}
    (reach : (machine lib build loaded).Reach
      (Untested condition sipCondition) start config) :
    ∃ control, (Dialogs.machine (loadedConf loaded)).Reach sipCondition
      Dialogs.start { state := config.state.sip, control } := by
  have plays (actor : Thread) :
      (toDialogs condition sipCondition lib build loaded).Plays dialogEnds
        start.control Dialogs.start.control actor := by
    refine ⟨.ret (), ?_, fun _ _ => rfl⟩
    match actor with
    | .gateway (.requester 0) | .gateway (.requester (_ + 1))
    | .gateway .receiver | .gateway .environment | .worker | .tester _ =>
        exact rfl
  obtain ⟨control, reached, -⟩ :=
    toDialogs_sound.simulates rfl plays reach
  exact ⟨control, reached⟩

/-- The geodata server knows the caller, and the other side accepts the
INVITE. -/
def accepting : Op → Choice
  | .curl _ => { curl := { chunks := [ascii "<presence></presence>"] } }
  | .createUac _ => { sip := { callId := ascii "a7" } }
  | .sip .handleEvents => { sip := Dialogs.inviteResponse 0 200 }
  | operation => allWorks allSucceeds operation

/-- The process has started, and a message arrives, is delivered over SIP,
reported and answered. -/
def messageAccepted : List (Thread × (Op → Choice)) :=
  started ++ ofGateway (arrival 0 plainDeliverSm) ++
    steps receiver 38 accepting ++ steps .worker 12 accepting ++
      steps receiver 36 accepting

theorem messageAccepted_refinesDialogs :
    ∃ control, (Dialogs.machine (loadedConf (.returned 0 {}))).Reach
      (Dialogs.Undisturbed (Dialogs.Whole true)) Dialogs.start
      { state := ((machine referenceCodec {} (.returned 0 {})).run
          messageAccepted start).state.sip
        control } :=
  refines_dialogs
    (show (machine referenceCodec {} (.returned 0 {})).Reach
        (Untested Machine.unconditional
          (Dialogs.Undisturbed (Dialogs.Whole true)))
        start ((machine referenceCodec {} (.returned 0 {})).run
          messageAccepted start) from
      .run .start messageAccepted (by decide +kernel))

end Process
end Sms112
