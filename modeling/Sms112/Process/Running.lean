import Sms112.Process.Lifecycle

/-!
# The threads beside `main`

The worker thread handles events once it has been created, and then the endpoint
is there; an event of a dialog comes only where an INVITE was sent, and then all
that a dialog needs is there. The receiver and the tests find everything ready:
the receiver is created in the gateway, and the signals are registered right
before it.
-/

namespace Sms112
namespace Process

open Resumption

variable {α β : Type}
variable {condition : Machine.Condition Sms112.Op Sms112.Thread Sms112.Choice
  Sms112.State}
variable {sipCondition : Machine.Condition Dialogs.Op Dialog.Thread
  Dialogs.Choice Dialogs.State}
variable {conf : SConf} {build : Build} {lib : Smpp34} {state : State}
variable {thread : Thread}

/-! ## The worker thread -/

/-- The operations of a dialog. -/
def Op.isOfDialog : Op → Bool
  | .sip _ | .createUac _ | .authReinitReq | .endptSendRequest => true
  | _ => false

/-- Handling the events of the endpoint needs less than a dialog. -/
theorem needs_sip (operation : Dialogs.Op) :
    ∀ setup ∈ needs conf (.sip operation), setup ∈ dialogSetups conf := by
  intro setup member
  cases operation
  case handleEvents =>
    exact List.mem_append_left _ (List.mem_append_left _ member)
  all_goals exact member

theorem worker_ne_main : Thread.worker ≠ mainThread := nofun

/-- What is done for a dialog. -/
theorem dialog_triple
    {program : Prog α}
    (uses : program.Uses fun operation => operation.isOfDialog) :
    LifeTriple conf build condition sipCondition .worker
      (State.Has · (bootedSetups conf build)) program
      fun _ state => state.Has (bootedSetups conf build) := by
  refine plain_triple uses (has_stable worker_ne_main curl_notMem_bootedSetups)
    (fun _ _ has kept => kept.has has) ?_
  intro operation state ofDialog _ has
  cases operation <;> try cases ofDialog
  case sip operation =>
    exact ⟨rfl, met_of_booted has (needs_sip operation)⟩
  all_goals exact ⟨rfl, met_of_booted has fun _ member => member⟩

/-- Whatever is done for a transaction belongs to a dialog. -/
theorem onTsxState_ofDialog (event : TsxEvent) :
    (onTsxState event).Uses fun operation => operation.isOfDialog := by
  unfold onTsxState
  split
  · trivial
  · split
    · refine .step rfl fun tStatus => ?_
      split
      · exact ⟨rfl, fun _ => trivial⟩
      · trivial
    · trivial

/-- The worker thread is created. -/
abbrev WorkerCreated (state : State) : Prop := state.Has [.threadCreate]

/-- Nobody undoes the creation of the worker thread. -/
theorem workerCreated_stable :
    (lifeProtocol conf build).Stable .worker WorkerCreated :=
  has_stable worker_ne_main (by decide)

/-- Where the worker thread is, the endpoint is. -/
theorem WorkerCreated.met
    {operation : Op}
    (inv : LifeInv conf build state)
    (created : WorkerCreated state)
    (needed : needs conf operation = endpointSetups conf) :
    Met conf build operation state :=
  met_of_has (inv.worker (created _ List.mem_cons_self))
    fun _ member => needed ▸ member

/-- Where an event of a dialog was handed out, all that a dialog needs is set
up. -/
theorem hasIf_stable (isSome : Bool) :
    (lifeProtocol conf build).Stable .worker fun state =>
      isSome → state.Has (bootedSetups conf build) :=
  fun before after inv has rely afterInv some =>
    has_stable worker_ne_main curl_notMem_bootedSetups before after inv
      (has some) rely afterInv

/-- The worker thread asks for an event. One of a dialog is handed out only where
its INVITE was sent, and there is all that a dialog needs. -/
theorem event_call
    (operation : Op)
    (plain : operation.isPlain)
    (needed : needs conf operation = endpointSetups conf)
    (ofDialog : Res operation → Bool)
    (sent : ∀ state choice,
      ofDialog (exec conf build .worker operation choice state).1 →
        ∃ index, (state.sip.calls index).inviteSent) :
    LifeTriple conf build condition sipCondition .worker WorkerCreated
      (call operation) fun event state =>
        WorkerCreated state ∧
          (ofDialog event → state.Has (bootedSetups conf build)) := by
  refine plain_call plain workerCreated_stable
    (fun event => workerCreated_stable.conj (hasIf_stable (ofDialog event)))
    (fun state inv created => created.met inv needed) ?_
  intro state choice inv created kept
  refine ⟨kept.has created, fun isOfDialog => kept.has ?_⟩
  obtain ⟨index, inviteSent⟩ := sent state choice isOfDialog
  exact inv.dialogs index inviteSent

theorem tsxState_life :
    LifeTriple conf build condition sipCondition .worker WorkerCreated
      (call .tsxState) fun event state =>
        WorkerCreated state ∧
          (event.isSome → state.Has (bootedSetups conf build)) := by
  refine event_call .tsxState rfl rfl Option.isSome
    fun state choice some => ?_
  obtain ⟨event, isEvent⟩ := Option.isSome_iff_exists.mp some
  exact ⟨event.index, (Option.filter_eq_some_iff.mp isEvent).2⟩

theorem handleEvents_life :
    LifeTriple conf build condition sipCondition .worker WorkerCreated
      (call (.sip .handleEvents)) fun event state =>
        WorkerCreated state ∧
          (event.isSome → state.Has (bootedSetups conf build)) := by
  refine event_call (.sip .handleEvents) rfl rfl Option.isSome
    fun state choice some => ⟨choice.sip.index, ?_⟩
  rcases Dialogs.handleEvents_cases choice.sip.toChoice
    (state.sip.dialog choice.sip.index) with none | ⟨message, sent, -⟩
  · have handed : (Dialogs.exec .handleEvents choice.sip state.sip).1.isSome :=
      some
    simp only [Dialogs.exec, none] at handed
    cases handed
  · exact sent

/-- Where a dialog has what it needs, the worker thread was created. -/
theorem WorkerCreated.of_booted
    (has : state.Has (bootedSetups conf build)) :
    WorkerCreated state :=
  List.forall_mem_singleton.mpr (has _ threadCreate_mem_bootedSetups)

/-- One event of the endpoint. -/
theorem handleEvents_worker :
    LifeTriple conf build condition sipCondition .worker WorkerCreated
      handleEvents fun _ => WorkerCreated := by
  have dispatches : LifeTriple conf build condition sipCondition .worker
      WorkerCreated (Dialogs.workerThread.embed .sip fun _ => id)
      fun _ => WorkerCreated := by
    refine Protocol.Triple.bind handleEvents_life fun event => ?_
    match event with
    | none =>
        exact .returns workerCreated_stable fun _ _ holds => holds.1
    | some (index, message) =>
        have uses : ((Dialogs.inDialog index (Dialogs.handle message)).embed
            Op.sip fun _ => id : Prog Unit).Uses
              fun operation => operation.isOfDialog :=
          (Program.uses_any _).embed fun _ _ => rfl
        refine Protocol.Triple.consequence (dialog_triple uses) ?_
          fun _ _ _ has => WorkerCreated.of_booted has
        exact fun _ _ holds => holds.2 rfl
  refine tsxState_life.bind fun event => ?_
  match event with
  | none =>
      exact dispatches.weakenPre fun _ _ holds => holds.1
  | some event =>
      refine Protocol.Triple.consequence
        (dialog_triple (onTsxState_ofDialog event)) ?_
        fun _ _ _ has => WorkerCreated.of_booted has
      exact fun _ _ holds => holds.2 rfl

/-- Where the worker thread is at its labels. -/
def workerEntry : Label → State → Prop
  | .events _ => WorkerCreated
  | _ => fun _ => True

theorem workerEntry_stable (label : Label) :
    (lifeProtocol conf build).Stable .worker (workerEntry label) := by
  cases label
  case events left => exact workerCreated_stable
  all_goals exact .const True

/-- The endpoint is there while its events are handled. -/
theorem endptHandleEvents_life (left : Nat) :
    LifeTriple conf build condition sipCondition .worker WorkerCreated
      (endptHandleEvents left) workerEntry := by
  cases left with
  | zero =>
      exact .returns (workerEntry_stable .work) fun _ _ _ => trivial
  | succ left =>
      refine handleEvents_worker.bind fun _ =>
        .ret workerEntry (.events left) (workerEntry_stable _)

/-- One round of the worker thread. -/
theorem workerThread_life :
    LifeTriple conf build condition sipCondition .worker (fun _ => True)
      workerThread workerEntry := by
  have asks : LifeTriple conf build condition sipCondition .worker
      (fun _ => True) (call .isWorkerCreated) fun created state =>
        created → WorkerCreated state := by
    refine asks_call .isWorkerCreated rfl id workerCreated_stable ?_
    intro state choice _ kept created
    exact kept.has (List.forall_mem_singleton.mpr
      (of_decide_eq_true created))
  have flag : (call .getQuitFlag).Uses fun operation => operation.isFree :=
    ⟨rfl, fun _ => trivial⟩
  have ends : (call .endWorker).Uses fun operation => operation.isFree :=
    ⟨rfl, fun _ => trivial⟩
  have lasts (before after : State) (created : WorkerCreated before)
      (kept : SetupsKept before after) : WorkerCreated after :=
    kept.has created
  have polls : LifeTriple conf build condition sipCondition .worker
      WorkerCreated (call .pollEvents) fun _ => WorkerCreated :=
    plain_call rfl workerCreated_stable (fun _ => workerCreated_stable)
      (fun state inv created => created.met inv rfl)
      fun state choice _ created kept => kept.has created
  refine asks.bind fun created => .ite (fun isCreated => ?_)
    fun _ => .returns (workerEntry_stable .work) fun _ _ _ => trivial
  refine Protocol.Triple.weakenPre
    ((free_triple flag workerCreated_stable lasts).bind fun quitFlag => .ite
      (fun _ => (free_triple ends workerCreated_stable lasts).bind fun _ =>
        .returns (workerEntry_stable .ended) fun _ _ _ => trivial)
      fun _ => polls.bind fun events =>
        .ret workerEntry (.events events) (workerEntry_stable _)) ?_
  exact fun _ _ holds => holds isCreated

/-! ## The receiver -/

theorem receiver_ne_main : receiver ≠ mainThread := nofun

/-- What the receiver and the tests do for the operations of the gateway. -/
def Op.isServing : Op → Bool
  | .gateway operation | .settle operation _ => !createsReceiver operation
  | .sip _ | .createUac _ | .curl _ | .enterCurl | .getResult | .look _ => true
  | _ => false

/-- A SIP request needs what was set up before the receiver was created. -/
theorem sipSendReq_serving (request : SipRequest) :
    (sipSendReq conf request).Uses fun operation => operation.isServing :=
  .step rfl fun _ => (Program.uses_any _).embed fun _ _ => rfl

/-- So does a transfer. -/
theorem curlPerfRequest_serving (url : Octets)
    (body contentType : Option Octets) :
    (curlPerfRequest url body contentType).Uses
      fun operation => operation.isServing := by
  have session : ((Curl.perfRequest url body contentType).embed Op.curl
      fun _ => id : Prog Int).Uses fun operation => operation.isServing :=
    (Program.uses_any _).embed fun _ _ => rfl
  exact .step rfl fun _ => session.bind fun _ => .step rfl fun _ => trivial

theorem refine_serving
    (operation : Sms112.Op)
    (other : !createsReceiver operation) :
    (refine conf .receiver operation).Uses
      fun operation => operation.isServing := by
  cases operation
  case sipCall localName remoteName caller text geodata =>
    exact (sipSendReq_serving _).bind fun iRetVal => .step rfl fun _ => trivial
  case curl url body contentType =>
    exact (curlPerfRequest_serving _ _ _).bind fun outcome =>
      .step rfl fun _ => trivial
  all_goals exact ⟨other, fun _ => trivial⟩

theorem Op.isReceiving.creates
    (operation : Sms112.Op)
    (receiving : operation.isReceiving) :
    !createsReceiver operation := by
  cases operation <;> first | rfl | cases receiving

/-- Where everything is ready, all that this needs is there, or it is tolerated
that it is not. -/
theorem serving_met
    {operation : Op}
    (serving : operation.isServing)
    (ready : state.Ready conf build) :
    operation.isPlain ∧ Met conf build operation state := by
  obtain ⟨has, curl⟩ := ready
  cases operation
  case gateway operation =>
    exact ⟨serving, fun _ member => absurd member List.not_mem_nil⟩
  case settle operation result =>
    exact ⟨serving, fun _ member => absurd member List.not_mem_nil⟩
  case curl operation =>
    refine ⟨rfl, List.forall_mem_singleton.mpr ?_⟩
    refine curl.imp_right fun quit => .inl ?_
    rw [quit]
  case sip operation =>
    exact ⟨rfl, met_of_booted has (needs_sip operation)⟩
  case createUac request =>
    exact ⟨rfl, met_of_booted has fun _ member => member⟩
  all_goals
    first
      | exact ⟨rfl, fun _ member => absurd member List.not_mem_nil⟩
      | cases serving

/-- A program that serves the gateway, where everything is ready. -/
theorem serving_triple
    {program : Prog α}
    (notMain : thread ≠ mainThread)
    (uses : program.Uses fun operation => operation.isServing) :
    LifeTriple conf build condition sipCondition thread
      (State.Ready conf build) program fun _ => State.Ready conf build :=
  plain_triple uses (ready_stable notMain) (fun _ _ ready kept =>
    kept.ready ready) fun _ _ serving _ ready => serving_met serving ready

/-- The receiver begins when everything is ready, and it stays ready enough for
what it does. -/
theorem receiver_life (label : Sms112.Label) :
    LifeTriple conf build condition sipCondition receiver (fun _ => True)
      (gatewayCode conf lib .receiver label) fun _ _ => True := by
  have asks : LifeTriple conf build condition sipCondition receiver
      (fun _ => True) (call (.gateway .isReceiverCreated))
      fun created state => created → state.Ready conf build := by
    refine asks_call (.gateway .isReceiverCreated) rfl id
      (ready_stable receiver_ne_main) ?_
    intro state choice inv kept created
    exact kept.ready (inv.receiver created)
  have receives (next : Bool → Sms112.Prog Sms112.Label)
      (same : msgReceiver conf lib = .perform .isReceiverCreated next) :
      LifeTriple conf build condition sipCondition receiver (fun _ => True)
        ((msgReceiver conf lib).expand (refine conf .receiver))
        fun _ _ => True := by
    have uses := msgReceiver_receiving conf lib
    rw [same] at uses ⊢
    refine Protocol.Triple.bind asks fun created => ?_
    have serves : ((next created).expand (refine conf .receiver)).Uses
        fun operation => operation.isServing :=
      ((uses.2 created).mono Op.isReceiving.creates).expand refine_serving
    cases created with
    | false =>
        -- the thread does nothing before it is created
        obtain rfl : next = _ := (eq_of_heq (Program.perform.inj same).2).symm
        exact .returns (.const True) fun _ _ _ => trivial
    | true =>
        refine Protocol.Triple.consequence
          (serving_triple receiver_ne_main serves) ?_ fun _ _ _ _ => trivial
        exact fun _ _ holds => holds rfl
  cases label
  case receive =>
    exact Protocol.Triple.bind (receives _ rfl) fun _ => returns_life _
  all_goals exact returns_life _

/-! ## The environment and the tests -/

/-- The environment needs nothing. -/
theorem environment_life (label : Sms112.Label) :
    LifeTriple conf build condition sipCondition (.gateway .environment)
      (fun _ => True) (gatewayCode conf lib .environment label)
      fun _ _ => True := by
  have refines (operation : Sms112.Op) (other : !createsReceiver operation) :
      (refine conf .environment operation).Uses
        fun operation => operation.isFree := by
    cases operation <;> exact ⟨other, fun _ => trivial⟩
  have uses : (Sms112.code conf lib .environment label).Uses
      fun operation => !createsReceiver operation := by
    cases label
    case environment => exact environment_uses rfl rfl rfl
    all_goals trivial
  have free : (gatewayCode conf lib .environment label).Uses
      fun operation => operation.isFree :=
    (uses.expand refines).bind fun _ => trivial
  exact free_triple free (.const True) fun _ _ _ _ => trivial

/-- What a test does for the gateway. -/
theorem refineTest_serving (operation : Sms112.Op) :
    (refineTest conf operation).Uses fun operation => operation.isServing := by
  unfold refineTest
  split
  · exact sipSendReq_serving _
  · exact curlPerfRequest_serving _ _ _
  · exact ⟨rfl, fun _ => trivial⟩

theorem runTest_serving (number : Option Signal) :
    (runTest conf number).Uses fun operation => operation.isServing := by
  have test {α : Type} (program : Sms112.Prog α) :
      (program.expand (refineTest conf)).Uses
        fun operation => operation.isServing :=
    program.uses_any.expand fun operation _ => refineTest_serving operation
  have located : (testGeodata conf).Uses
      fun operation => operation.isServing :=
    (test _).bind fun _ => trivial
  unfold runTest
  split
  · exact located.bind fun _ => trivial
  · exact located.bind fun _ => (test _).bind fun _ => trivial
  · trivial

/-- A test is started only where its signal is registered, and then everything
is ready. -/
theorem deliverTest_life (serial : Nat) :
    LifeTriple conf build condition sipCondition (.tester serial)
      (fun _ => True) (call .deliverTest) fun number state =>
        number.isSome → state.Ready conf build := by
  have notMain : Thread.tester serial ≠ mainThread := nofun
  refine asks_call .deliverTest rfl Option.isSome (ready_stable notMain) ?_
  intro state choice inv kept started
  refine kept.ready ?_
  obtain ⟨number, isNumber⟩ := Option.isSome_iff_exists.mp started
  have delivered : (state.deliverTest
      (choice.testSignal.filter (· ∈ testSignals))).1 = some number := isNumber
  rcases State.deliverTest_cases (choice.testSignal.filter (· ∈ testSignals))
    with ⟨registered, asked⟩ | ⟨killer, -, killed⟩
  · rw [asked] at delivered
    exact inv.signals number (registered number delivered)
  · rw [killed] at delivered
    cases delivered

/-- A test begins with a signal, which is registered when everything is
ready. -/
theorem sigOper_life (serial : Nat) :
    LifeTriple conf build condition sipCondition (.tester serial)
      (fun _ => True) (sigOper conf) fun _ _ => True := by
  refine (deliverTest_life serial).bind fun number => ?_
  cases number with
  | none => exact returns_life _
  | some number =>
      refine Protocol.Triple.bind (Protocol.Triple.weakenPre
        (serving_triple nofun (runTest_serving _)) ?_) fun _ => returns_life _
      exact fun _ _ holds => holds rfl

end Process
end Sms112
