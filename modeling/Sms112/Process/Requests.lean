import Sms112.Connection.Runs
import Sms112.Process.Dialogs

/-!
# The requests of the gateway and the dialogs

The gateway notes every SIP request it has made with its result. In every run
of the process these notes and the dialogs belong together one by one and in
order: each note is about a dialog of its own, created for this caller, text
and geodata, in which the request returned the result that was noted. Only a
request whose names do not fit their buffers has no dialog, and its result is
-1. The requests that a test makes have dialogs too, and are not noted.
-/

namespace Sms112
namespace Process

open Resumption

variable {α β : Type}

/-! ## What is noted -/

/-- A SIP request with its result. -/
structure NotedRequest where
  caller : Octets
  text : Option Octets
  geodata : Octets
  result : Int
  deriving DecidableEq

/-- What an event tells about the SIP requests. -/
def notedRequest : Sms112.Event → Option NotedRequest
  | .sipSendReq caller text geodata result =>
      some ⟨caller, text, geodata, result⟩
  | _ => none

/-- The requests of a log, newest first. -/
def notedRequests (log : List Sms112.Event) : List NotedRequest :=
  log.filterMap notedRequest

/-- The dialog was created for the request, which returned in it. -/
structure Serves (state : State) (index : Nat) (noted : NotedRequest) :
    Prop where
  request : ∃ request, state.requests index = some request ∧
    request.caller = noted.caller ∧ request.text = noted.text ∧
      request.geodata = noted.geodata
  returned : .returned noted.result ∈ (state.sip.calls index).log

/-- Every request has a dialog of its own below the bound, the newer ones
later dialogs; one that returned -1 may have none. -/
def Paired (state : State) : Nat → List NotedRequest → Prop
  | _, [] => True
  | bound, noted :: earlier =>
      (∃ index < bound, Serves state index noted ∧
        Paired state index earlier) ∨
      noted.result = -1 ∧ Paired state bound earlier

/-- What the other threads leave alone: the dialogs may go on and new ones may
be created, but no request is noted. -/
structure Leaves (before after : State) : Prop where
  count : before.sip.count ≤ after.sip.count
  requests : ∀ index < before.sip.count,
    after.requests index = before.requests index
  kept : ∀ index < before.sip.count, ∀ event ∈ (before.sip.calls index).log,
    event ∈ (after.sip.calls index).log
  noted : notedRequests after.gateway.log = notedRequests before.gateway.log

theorem Leaves.refl (state : State) : Leaves state state :=
  ⟨Nat.le_refl _, fun _ _ => rfl, fun _ _ _ member => member, rfl⟩

theorem Leaves.trans
    {first second third : State}
    (before : Leaves first second)
    (after : Leaves second third) :
    Leaves first third where
  count := before.count.trans after.count
  requests index below :=
    (after.requests index (Nat.lt_of_lt_of_le below before.count)).trans
      (before.requests index below)
  kept index below event member :=
    after.kept index (Nat.lt_of_lt_of_le below before.count) event
      (before.kept index below event member)
  noted := after.noted.trans before.noted

variable {before after state : State} {bound : Nat}

/-- A dialog goes on serving its request: what it was created for stays, and
its log only grows. -/
theorem Serves.leaves
    {index : Nat}
    {noted : NotedRequest}
    (serves : Serves before index noted)
    (requests : after.requests index = before.requests index)
    (kept : ∀ event ∈ (before.sip.calls index).log,
      event ∈ (after.sip.calls index).log) :
    Serves after index noted where
  request := requests ▸ serves.request
  returned := kept _ serves.returned

/-- A larger bound leaves room for more dialogs. -/
theorem Paired.mono
    {noted : List NotedRequest}
    (paired : Paired state bound noted)
    {larger : Nat}
    (le : bound ≤ larger) :
    Paired state larger noted := by
  induction noted generalizing bound larger with
  | nil => trivial
  | cons request earlier inductionHypothesis =>
      rcases paired with ⟨index, below, served⟩ | ⟨failed, paired⟩
      · exact .inl ⟨index, Nat.lt_of_lt_of_le below le, served⟩
      · exact .inr ⟨failed, inductionHypothesis paired le⟩

/-- What was served stays so while the dialogs below the bound are kept. -/
theorem Paired.leaves
    {noted : List NotedRequest}
    (paired : Paired before bound noted)
    (requests : ∀ index < bound, after.requests index = before.requests index)
    (kept : ∀ index < bound, ∀ event ∈ (before.sip.calls index).log,
      event ∈ (after.sip.calls index).log) :
    Paired after bound noted := by
  induction noted generalizing bound with
  | nil => trivial
  | cons request earlier inductionHypothesis =>
      rcases paired with ⟨index, below, serves, paired⟩ | ⟨failed, paired⟩
      · refine .inl ⟨index, below,
          serves.leaves (requests index below) (kept index below),
          inductionHypothesis paired ?_ ?_⟩
        · exact fun other isBelow => requests other (isBelow.trans below)
        · exact fun other isBelow => kept other (isBelow.trans below)
      · exact .inr ⟨failed, inductionHypothesis paired requests kept⟩

/-! ## Operations that note nothing -/

/-- The operations of the gateway that note no SIP request. -/
def notesNone : Sms112.Op → Bool
  | .note (.sipSendReq ..) => false
  | _ => true

/-- Those that make none either. -/
def makesNone : Sms112.Op → Bool
  | .sipCall .. => false
  | operation => notesNone operation

/-- The operations that note no request. -/
def Op.isQuiet : Op → Bool
  | .gateway operation | .settle operation _ => notesNone operation
  | _ => true

theorem notesNone_quiet
    {operation : Sms112.Op}
    (none : notesNone operation) :
    operation.Quiet notedRequest := by
  intro event noted
  cases operation
  case note other =>
    obtain rfl := of_decide_eq_true noted
    cases event <;> first | rfl | cases none
  case enter routine =>
    cases routine <;> cases event <;> first | rfl | cases noted
  all_goals
    cases event <;> first | rfl | cases noted

/-- An operation that notes no request leaves the noted ones as they are. -/
theorem notedRequests_exec
    {operation : Sms112.Op}
    (none : notesNone operation)
    (thread : Sms112.Thread)
    (choice : Sms112.Choice)
    (state : Sms112.State) :
    notedRequests (Sms112.exec thread operation choice state).2.log =
      notedRequests state.log := by
  rcases exec_notes thread operation choice state with
    unchanged | ⟨event, noted, appended⟩
  · rw [unchanged]
  · rw [appended, notedRequests,
      List.filterMap_cons_none (notesNone_quiet none event noted)]
    rfl

/-- The log of a dialog only grows. -/
theorem dialog_kept
    (operation : Dialog.Op)
    (choice : Dialog.Choice)
    (state : Dialog.State)
    {event : Dialog.Event}
    (member : event ∈ state.log) :
    event ∈ (Dialog.exec operation choice state).2.log := by
  cases operation
  case handleEvents =>
    dsimp only [Dialog.exec]
    split
    · split
      · exact List.mem_cons_of_mem _ member
      · exact member
    · exact member
  case insertLock key =>
    dsimp only [Dialog.exec, Dialog.State.insertLock]
    split <;> exact member
  case setResult key result => simpa [Dialog.exec] using member
  case unlock key => simpa [Dialog.exec] using member
  case timedLock key =>
    dsimp only [Dialog.exec, Dialog.State.timedLock]
    split
    · split
      · exact List.mem_cons_of_mem _ member
      · exact List.mem_cons_of_mem _ (by simpa using member)
    · exact List.mem_cons_of_mem _ member
  all_goals first | exact member | exact List.mem_cons_of_mem _ member

/-- A step of one dialog leaves the logs of the others alone. -/
theorem put_kept
    {dialogs : Dialogs.State}
    {index : Nat}
    {later : Dialog.State}
    (kept : ∀ event ∈ (dialogs.dialog index).log, event ∈ later.log)
    (other : Nat) :
    ∀ event ∈ (dialogs.calls other).log,
      event ∈ ((dialogs.put index later).calls other).log := by
  by_cases same : other = index
  · subst same
    simp only [Dialogs.State.put, Function.update_self]
    exact kept
  · simp only [Dialogs.State.put, Function.update_of_ne same]
    exact fun _ member => member

/-- The worker's next event only adds to a log. -/
theorem handleEvents_kept (choice : Dialogs.Choice)
    (dialogs : Dialogs.State) :
    let later := (Dialogs.exec .handleEvents choice dialogs).2
    later.count = dialogs.count ∧
      ∀ index, ∀ event ∈ (dialogs.calls index).log,
        event ∈ (later.calls index).log := by
  obtain none | ⟨message, -, some⟩ := Dialogs.handleEvents_cases
    choice.toChoice (dialogs.dialog choice.index)
  · have nothing : Dialogs.exec .handleEvents choice dialogs =
        (.none, dialogs) := by
      simp only [Dialogs.exec, none]
    rw [nothing]
    exact ⟨rfl, fun _ _ member => member⟩
  · have handed : Dialogs.exec .handleEvents choice dialogs =
        (.some (choice.index, message), dialogs.put choice.index
          ((dialogs.dialog choice.index).note (.dispatched message))) := by
      simp only [Dialogs.exec, some]
    rw [handed]
    exact ⟨rfl, put_kept fun _ member => List.mem_cons_of_mem _ member⟩

/-- A new dialog leaves the earlier ones alone. -/
theorem create_kept
    (dialogs : Dialogs.State)
    (callId : Octets)
    {index : Nat}
    (below : index < dialogs.count) :
    (dialogs.create callId).calls index = dialogs.calls index :=
  Function.update_of_ne (Nat.ne_of_lt below) _ _

/-- A quiet operation may create a dialog or take one further, but notes no
request. -/
theorem exec_quiet
    {operation : Op}
    (quiet : operation.isQuiet)
    (conf : SConf)
    (build : Build)
    (thread : Thread)
    (choice : Choice)
    (state : State) :
    Leaves state (exec conf build thread operation choice state).2 := by
  have unchanged : Leaves state state := .refl state
  cases operation
  case gateway operation =>
    exact { unchanged with noted := notedRequests_exec quiet _ _ _ }
  case settle operation result =>
    exact { unchanged with noted := notedRequests_exec quiet _ _ _ }
  case createUac request =>
    refine ⟨Nat.le_succ _, fun index below => ?_,
      fun index below event member => ?_, rfl⟩
    · exact Function.update_of_ne (Nat.ne_of_lt below) _ _
    · have same := create_kept state.sip choice.sip.callId below
      exact same ▸ member
  case setUp setup =>
    dsimp only [exec, perform]
    rcases State.setUp_cases setup choice.ret with
      ⟨-, made⟩ | ⟨failure, -, -, failed⟩
    · rw [made]
      exact { unchanged with }
    · rw [failed]
      exact { unchanged with }
  case deliver =>
    dsimp only [exec, perform]
    rcases State.deliver_cases (if choice.interrupt then .sigint else .sigterm)
      choice.gateway with stopped | killed
    · rw [stopped]
      exact { unchanged with }
    · rw [killed]
      exact { unchanged with }
  case deliverTest =>
    dsimp only [exec, perform]
    rcases State.deliverTest_cases
      (choice.testSignal.filter (· ∈ testSignals)) with
        ⟨-, started⟩ | ⟨number, -, killed⟩
    · rw [started]
      exact { unchanged with }
    · rw [killed]
      exact { unchanged with }
  case sip operation =>
    cases operation
    case createUac =>
      refine ⟨Nat.le_succ _, fun _ _ => rfl, fun index below event member => ?_,
        rfl⟩
      have same := create_kept state.sip choice.sip.callId below
      exact same ▸ member
    case handleEvents =>
      obtain ⟨count, kept⟩ := handleEvents_kept choice.sip state.sip
      exact ⟨Nat.le_of_eq count.symm, fun _ _ => rfl, fun index _ => kept index,
        rfl⟩
    case inDialog index operation =>
      exact ⟨Nat.le_refl _, fun _ _ => rfl, fun other _ => put_kept
        (fun event member => dialog_kept operation _ _ member) other, rfl⟩
  all_goals exact { unchanged with }

/-! ## The protocol -/

variable {condition : Machine.Condition Op Thread Choice State}
variable {conf : SConf} {build : Build} {thread : Thread}

/-- Only the receiver relies on the others. -/
def requestProtocol : Protocol Thread State where
  inv state :=
    Paired state state.sip.count (notedRequests state.gateway.log)
  rely thread before after := thread = receiver → Leaves before after
  rely_refl _ state _ := .refl state
  rely_trans _ _ _ _ before after same := (before same).trans (after same)

/-- A triple in this protocol. -/
abbrev RequestTriple (condition : Machine.Condition Op Thread Choice State)
    (conf : SConf) (build : Build) (thread : Thread) (pre : State → Prop)
    (program : Prog α) (post : α → State → Prop) : Prop :=
  requestProtocol.Triple (exec conf build) condition thread pre program post

theorem Leaves.keeps
    (leaves : Leaves before after)
    (inv : requestProtocol.inv before) :
    requestProtocol.Keeps thread before after where
  inv := by
    show Paired after after.sip.count (notedRequests after.gateway.log)
    rw [leaves.noted]
    exact (Paired.leaves inv leaves.requests leaves.kept).mono leaves.count
  rely _ _ _ := leaves

/-- An assertion that survives the steps of the others. -/
def AboutRequests (assertion : State → Prop) : Prop :=
  ∀ before after, assertion before → Leaves before after → assertion after

/-- What the receiver knows of its request survives whatever the others leave
alone. -/
theorem AboutRequests.stable
    {assertion : State → Prop}
    (about : AboutRequests assertion) :
    requestProtocol.Stable receiver assertion :=
  fun before after _ holds rely _ => about before after holds (rely rfl)

theorem always_about : AboutRequests fun _ => True :=
  fun _ _ _ _ => trivial

/-- A program that notes no request. -/
theorem quiet_triple
    {program : Prog α}
    (uses : program.Uses fun operation => operation.isQuiet)
    {assertion : State → Prop}
    (about : AboutRequests assertion) :
    RequestTriple condition conf build receiver assertion program
      fun _ => assertion := by
  refine Protocol.Triple.uses uses about.stable ?_
  intro operation state choice quiet inv holds _
  have leaves := exec_quiet quiet conf build receiver choice state
  exact ⟨leaves.keeps inv, about _ _ holds leaves⟩

/-- Threads whose programs are quiet keep to the protocol. -/
theorem others_triple
    {program : Prog α}
    (uses : program.Uses fun operation => operation.isQuiet) :
    RequestTriple condition conf build thread (fun _ => True) program
      fun _ _ => True := by
  refine Protocol.Triple.uses uses (.const True) ?_
  intro operation state choice quiet inv _ _
  exact ⟨(exec_quiet quiet conf build thread choice state).keeps inv, trivial⟩

/-! ## A SIP request -/

/-- A dialog was created for a request, and the requests noted so far have
earlier ones. -/
structure Begun (index : Nat) (request : SipRequest) (state : State) :
    Prop where
  created : index < state.sip.count
  request : state.requests index = some request
  paired : Paired state index (notedRequests state.gateway.log)

theorem begun_about (index : Nat) (request : SipRequest) :
    AboutRequests (Begun index request) := by
  intro before after begun leaves
  refine ⟨Nat.lt_of_lt_of_le begun.created leaves.count,
    (leaves.requests index begun.created).trans begun.request, ?_⟩
  rw [leaves.noted]
  exact begun.paired.leaves
    (fun other below => leaves.requests other (below.trans begun.created))
    fun other below => leaves.kept other (below.trans begun.created)

/-- The request has returned in its dialog. -/
def Answered (request : SipRequest) (result : Int) (state : State) : Prop :=
  ∃ index, Begun index request state ∧
    .returned result ∈ (state.sip.calls index).log

theorem answered_about (request : SipRequest) (result : Int) :
    AboutRequests (Answered request result) := by
  rintro before after ⟨index, begun, returned⟩ leaves
  exact ⟨index, begun_about index request before after begun leaves,
    leaves.kept index begun.created _ returned⟩

/-- A dialog is created for a request. -/
theorem createUac_triple (request : SipRequest) :
    RequestTriple condition conf build receiver (fun _ => True)
      (call (.createUac request)) fun index => Begun index request := by
  refine .call always_about.stable
    (fun index => (begun_about index request).stable) ?_
  intro state choice inv _ _
  have quiet : (Op.createUac request).isQuiet := rfl
  have leaves := exec_quiet quiet conf build receiver choice state
  exact ⟨leaves.keeps inv, Nat.lt_succ_self _, Function.update_self ..,
    Paired.leaves inv leaves.requests leaves.kept⟩

/-- The dialog itself notes nothing for the gateway; its caller does, when it
is over. -/
theorem sip_quiet (program : Dialogs.Prog α) :
    (program.embed Op.sip fun _ => id : Prog α).Uses
      fun operation => operation.isQuiet :=
  program.uses_any.embed fun _ _ => rfl

/-- The request returns in its dialog. -/
theorem noteReturned_triple (index : Nat) (request : SipRequest)
    (result : Int) :
    RequestTriple condition conf build receiver (Begun index request)
      (call (.sip (.inDialog index (.note (.returned result)))))
      fun _ => Answered request result := by
  refine .call (begun_about index request).stable
    (fun _ => (answered_about request result).stable) ?_
  intro state choice inv begun _
  have quiet :
      (Op.sip (.inDialog index (.note (.returned result)))).isQuiet := rfl
  have leaves := exec_quiet quiet conf build receiver choice state
  refine ⟨leaves.keeps inv, index,
    begun_about index request _ _ begun leaves, ?_⟩
  show Dialog.Event.returned result ∈
    ((state.sip.put index _).calls index).log
  simp only [Dialogs.State.put, Function.update_self]
  exact List.mem_cons_self

/-- `sms112_sip_send_req` -/
theorem sipSendReq_triple (request : SipRequest) :
    RequestTriple condition conf build receiver (fun _ => True)
      (sipSendReq conf request) fun result => Answered request result := by
  refine (createUac_triple request).bind fun index => ?_
  rw [Dialogs.inDialog, Program.embed_bind, Program.embed_bind]
  refine (quiet_triple (sip_quiet _) (begun_about index request)).bind fun result => ?_
  exact (noteReturned_triple index request result).bind fun _ =>
    .returns (answered_about request result).stable fun _ _ holds => holds

/-! ## The receiver -/

section Receiver

variable (condition conf build)

/-- A triple for what the receiver does for a program of the gateway. -/
abbrev ReceiverTriple (pre : State → Prop) (program : Sms112.Prog α)
    (post : α → State → Prop) : Prop :=
  RequestTriple condition conf build receiver pre
    (program.expand (refine conf .receiver)) post

variable {condition conf build}

/-- Two programs of the receiver in a row. -/
theorem ReceiverTriple.bind
    {pre : State → Prop}
    {program : Sms112.Prog α}
    {middle : α → State → Prop}
    {next : α → Sms112.Prog β}
    {post : β → State → Prop}
    (first : ReceiverTriple condition conf build pre program middle)
    (rest : ∀ value, ReceiverTriple condition conf build (middle value)
      (next value) post) :
    ReceiverTriple condition conf build pre (program >>= next) post := by
  rw [ReceiverTriple, Program.expand_bind]
  exact Protocol.Triple.bind first rest

/-- A program of the receiver that branches. -/
theorem ReceiverTriple.ite
    {pre : State → Prop}
    {test : Prop} [Decidable test]
    {onTrue onFalse : Sms112.Prog α}
    {post : α → State → Prop}
    (whenTrue : test → ReceiverTriple condition conf build pre onTrue post)
    (whenFalse : ¬test →
      ReceiverTriple condition conf build pre onFalse post) :
    ReceiverTriple condition conf build pre (if test then onTrue else onFalse)
      post := by
  split
  next holds => exact whenTrue holds
  next fails => exact whenFalse fails

/-- Nothing is noted any more. -/
theorem done
    {pre : State → Prop}
    (value : α) :
    ReceiverTriple condition conf build pre (.ret value) fun _ _ => True :=
  .returns (.const True) fun _ _ _ => trivial

theorem Op.isOwn.quiet
    (operation : Op)
    (own : operation.isOwn) :
    operation.isQuiet := by
  cases operation <;> first | rfl | cases own

/-- What the process does for an operation that makes no request is quiet. -/
theorem refine_quiet
    (operation : Sms112.Op)
    (none : makesNone operation) :
    (refine conf .receiver operation).Uses
      fun operation => operation.isQuiet := by
  cases operation
  case sipCall => cases none
  case curl url body contentType =>
    exact ((curlPerfRequest_own url body contentType).mono
      Op.isOwn.quiet).bind fun _ => .step rfl fun _ => trivial
  all_goals exact ⟨none, fun _ => trivial⟩

/-- What the gateway does without making or noting a request. -/
theorem other_triple
    {program : Sms112.Prog α}
    (uses : program.Uses fun operation => makesNone operation)
    {assertion : State → Prop}
    (about : AboutRequests assertion) :
    ReceiverTriple condition conf build assertion program
      fun _ => assertion :=
  quiet_triple (uses.expand refine_quiet) about

/-- Such a call keeps what the receiver knows. -/
theorem other_call
    {operation : Sms112.Op}
    (none : makesNone operation)
    {assertion : State → Prop}
    (about : AboutRequests assertion) :
    ReceiverTriple condition conf build assertion (Sms112.call operation)
      fun _ => assertion := by
  have uses : (Sms112.call operation).Uses
      fun operation => makesNone operation := ⟨none, fun _ => trivial⟩
  exact other_triple uses about

/-- A request that is to be noted: it returned in its dialog, or it had none
and failed. -/
def Notable (caller : Octets) (text : Option Octets) (geodata : Octets)
    (result : Int) (state : State) : Prop :=
  result = -1 ∨ ∃ request, request.caller = caller ∧ request.text = text ∧
    request.geodata = geodata ∧ Answered request result state

theorem notable_about (caller : Octets) (text : Option Octets)
    (geodata : Octets) (result : Int) :
    AboutRequests (Notable caller text geodata result) := by
  rintro before after (failed | ⟨request, isCaller, isText, isGeodata,
    isAnswered⟩) leaves
  · exact .inl failed
  · exact .inr ⟨request, isCaller, isText, isGeodata,
      answered_about request result before after isAnswered leaves⟩

/-- `sms112_sip_send_req`, with its names. -/
theorem sipSendReq_receiver (caller : Octets) (text : Option Octets)
    (geodata : Octets) :
    ReceiverTriple condition conf build (fun _ => True)
      (Sms112.sipSendReq conf caller text geodata)
      fun result => Notable caller text geodata result := by
  have about (result : Int) := notable_about caller text geodata result
  have fails : ReceiverTriple condition conf build (fun _ => True) (.ret (-1))
      fun result => Notable caller text geodata result :=
    .returns (about _).stable fun _ _ _ => .inl rfl
  refine .bind (other_call rfl always_about) fun host =>
    .ite (fun _ => fails) fun _ => .ite (fun _ => fails) fun _ => ?_
  let request : SipRequest :=
    ⟨sipLocal caller host, sipRemote conf, caller, text, geodata⟩
  have settles (result : Int) :
      (call (.settle (.sipCall request.localName request.remoteName caller text
        geodata) result)).Uses fun operation => operation.isQuiet :=
    ⟨rfl, fun _ => trivial⟩
  have made : RequestTriple condition conf build receiver (fun _ => True)
      (refine conf .receiver (.sipCall request.localName request.remoteName
        caller text geodata))
      fun result => Notable caller text geodata result :=
    (sipSendReq_triple request).bind fun result =>
      (quiet_triple (settles result) (answered_about request result)).bind
        fun _ => .returns (about _).stable fun _ _ isAnswered =>
          .inr ⟨request, rfl, rfl, rfl, isAnswered⟩
  exact made.bind fun result => .ret _ _ (about result).stable

/-- A request is noted. -/
theorem noteRequest_triple (caller : Octets) (text : Option Octets)
    (geodata : Octets) (result : Int) :
    ReceiverTriple condition conf build (Notable caller text geodata result)
      (Sms112.call (.note (.sipSendReq caller text geodata result)))
      fun _ _ => True := by
  have notes : RequestTriple condition conf build receiver
      (Notable caller text geodata result)
      (call (.gateway (.note (.sipSendReq caller text geodata result))))
      fun _ _ => True := by
    refine .call (notable_about caller text geodata result).stable
      (fun _ => .const True) ?_
    intro state choice inv notable _
    refine ⟨⟨?_, fun _ different same => absurd same different⟩, trivial⟩
    rcases notable with rfl | ⟨request, rfl, rfl, rfl, index, begun, returned⟩
    · exact .inr ⟨rfl, Paired.leaves inv (fun _ _ => rfl)
        fun _ _ _ member => member⟩
    · exact .inl ⟨index, begun.created,
        ⟨⟨request, begun.request, rfl, rfl, rfl⟩, returned⟩,
        begun.paired.leaves (fun _ _ => rfl) fun _ _ _ member => member⟩
  exact notes.bind fun _ => done ()

/-! ## The programs of the receiver -/

theorem Op.isLookUp.makesNone
    (operation : Sms112.Op)
    (lookUp : operation.isLookUp) :
    makesNone operation := by
  cases operation <;> first | rfl | cases lookUp

theorem readText_makesNone (printData : Option Nat) :
    (readText printData).Uses fun operation => makesNone operation := by
  cases printData with
  | none => trivial
  | some address => exact .step rfl fun _ => trivial

theorem sendReport_makesNone (phoneNumber : Octets) (message : Option Octets)
    (resultString resultXML : Octets) :
    (sendReport conf phoneNumber message resultString resultXML).Uses
      fun operation => makesNone operation := by
  refine .step rfl fun _ => .step rfl fun tTime => ?_
  split
  · trivial
  · refine .step rfl fun converted => ?_
    split
    · trivial
    · refine .step rfl fun stamp => ?_
      dsimp only
      split
      · exact .step rfl fun _ => trivial
      · trivial

/-- The request is made and then noted with its result, so the notes and the
dialogs stay paired. -/
theorem deliverAndReport_receiver (caller : Octets) (printData : Option Nat) :
    ReceiverTriple condition conf build (fun _ => True)
      (deliverAndReport conf caller printData) fun _ _ => True := by
  have delivers (found : Int × Octets) :
      ReceiverTriple condition conf build (fun _ => True)
        (deliver conf caller printData found.1 found.2) fun _ _ => True := by
    refine .ite (fun _ => ?_) fun _ => done _
    refine .bind (other_triple (readText_makesNone printData) always_about)
      fun text => .bind (sipSendReq_receiver caller text _) fun iFnRes =>
        .bind (noteRequest_triple caller text _ iFnRes) fun _ => .ite (fun _ => done _)
          fun _ => ?_
    exact .bind (other_call rfl always_about) fun _ => done _
  exact .bind (other_triple ((geodataGet_lookUp conf _ _).mono
      Op.isLookUp.makesNone) always_about)
    fun found => .bind (delivers found) fun result =>
      .bind (other_triple (readText_makesNone printData) always_about)
        fun text => .bind
          (other_triple (sendReport_makesNone _ _ _ _) always_about)
          fun _ => done ()

theorem Op.isMemory.makesNone
    (operation : Sms112.Op)
    (memory : operation.isMemory) :
    makesNone operation := by
  cases operation <;> first | rfl | cases memory

variable (lib : Smpp34)

theorem respond_makesNone (response : Pdu) (bufSize : Nat) :
    (respond lib response bufSize).Uses
      fun operation => makesNone operation :=
  respond_uses (fun _ => rfl) rfl

/-- So they do when a message is served, on each of its ways out. -/
theorem smppDeliverSmOper_receiver (buf : Octets) (dataLen : Int)
    (bufSize seqNum : Nat) :
    ReceiverTriple condition conf build (fun _ => True)
      (smppDeliverSmOper conf lib buf dataLen bufSize seqNum)
      fun _ _ => True := by
  refine .bind (other_call rfl always_about) fun garbage => .bind
    (other_call rfl always_about) fun _ => .ite (fun _ => done _)
      fun _ => .bind (other_triple ((convertText_memory _ _ _ _).mono
        Op.isMemory.makesNone) always_about) fun converted => ?_
  match converted with
  | none => exact done _
  | some printData =>
      exact .bind (deliverAndReport_receiver _ printData) fun _ => .bind
        (other_triple (respond_makesNone lib _ _) always_about) fun iRetVal =>
          .bind (other_triple ((deletePrintData_memory printData).mono
            Op.isMemory.makesNone) always_about) fun _ => done _

theorem smppUnbindOper_makesNone (buf : Octets) (dataLen : Int)
    (bufSize seqNum : Nat) :
    (smppUnbindOper lib buf dataLen bufSize seqNum).Uses
      fun operation => makesNone operation := by
  refine .step rfl fun _ => .bind (.step rfl fun _ => ?_) fun _ =>
    .step rfl fun _ => trivial
  dsimp only
  split
  · trivial
  · exact respond_makesNone lib _ _

/-- So they do for every request of the server. -/
theorem smppOperReq_receiver (header : SPDUHdr) :
    ReceiverTriple condition conf build (fun _ => True)
      (smppOperReq conf lib header) fun _ _ => True := by
  have receives : (tcpRecv header.commandLength none).Uses
      fun operation => makesNone operation := .step rfl fun _ => trivial
  have switches (buf : Octets) :
      ReceiverTriple condition conf build (fun _ => True)
        (operReqSwitch conf lib header buf) fun _ _ => True := by
    refine .ite (fun _ => smppDeliverSmOper_receiver lib _ _ _ _) fun _ =>
      .ite (fun _ => ?_) fun _ => done _
    exact other_triple (smppUnbindOper_makesNone lib _ _ _ _) always_about
  refine .ite (fun _ => done _) fun _ =>
    .bind (other_triple receives always_about) fun received =>
      .ite (fun _ => done _) fun _ => .bind (other_call rfl always_about)
        fun _ => .bind (switches _) fun _ => done _

theorem operResp_makesNone (header : SPDUHdr) :
    (operResp header).Uses fun operation => makesNone operation := by
  refine .step rfl fun found => ?_
  match found with
  | none => trivial
  | some reqData =>
      refine .step rfl fun buf => .step rfl fun _ => .step rfl fun buf =>
        .bind (.step rfl fun _ => trivial) fun received => ?_
      dsimp only
      split
      · exact .step rfl fun _ => .step rfl fun _ => .step rfl
          fun _ => trivial
      · exact .step rfl fun _ => trivial

/-- So they do in a turn of the receiver's loop. -/
theorem msgReceiver_receiver :
    ReceiverTriple condition conf build (fun _ => True)
      (msgReceiver conf lib) fun _ _ => True := by
  have peeks : (tcpPeek headerLength).Uses
      fun operation => makesNone operation := .step rfl fun _ => trivial
  have handles : ReceiverTriple condition conf build (fun _ => True)
      (smppHandler conf lib) fun _ _ => True := by
    refine .bind (other_call rfl always_about) fun _ => .bind
      (.bind (other_triple peeks always_about) fun peeked => .ite
        (fun _ => done _) fun _ => .ite (fun _ => ?_)
          fun _ => smppOperReq_receiver lib _)
      fun _ => .bind (other_call rfl always_about) fun _ => done _
    exact other_triple (operResp_makesNone _) always_about
  refine .bind (other_call rfl always_about) fun created => .ite
    (fun _ => done _) fun _ => .bind (other_call rfl always_about)
      fun iStop => .ite (fun _ => done _) fun _ => .bind
        (other_call rfl always_about) fun fd => .bind
          (other_call rfl always_about) fun pollIn => .ite (fun _ => ?_)
            fun _ => done _
  exact .bind handles fun _ => done _

end Receiver

/-! ## The other threads -/

theorem Op.isRequesting.notesNone
    (operation : Sms112.Op)
    (requesting : operation.isRequesting) :
    notesNone operation := by
  unfold Process.notesNone
  split
  · cases requesting
  · rfl

/-- The threads that make no SIP requests to be noted. -/
theorem refine_others
    {thread : Sms112.Thread}
    (other : thread ≠ .receiver)
    (operation : Sms112.Op)
    (none : notesNone operation) :
    (refine conf thread operation).Uses fun operation => operation.isQuiet := by
  unfold refine
  split
  · exact absurd rfl other
  · exact absurd rfl other
  · exact ⟨rfl, fun _ => trivial⟩
  · exact ⟨none, fun _ => trivial⟩

variable {lib : Smpp34} {loaded : LoadEnd}

/-- No thread of the gateway but the receiver makes or notes a request. -/
theorem gatewayCode_quiet
    {thread : Sms112.Thread}
    (other : thread ≠ .receiver)
    (label : Sms112.Label) :
    (gatewayCode conf lib thread label).Uses
      fun operation => operation.isQuiet := by
  have uses : (Sms112.code conf lib thread label).Uses
      fun operation => notesNone operation := by
    match thread with
    | .requester 0 =>
        exact (controller_requesting conf lib label).mono
          Op.isRequesting.notesNone
    | .environment =>
        cases label
        case environment => exact environment_uses rfl rfl rfl
        all_goals trivial
    | .requester (_ + 1) => cases label <;> trivial
    | .receiver => exact absurd rfl other
  exact (uses.expand (refine_others other)).bind fun _ => trivial

theorem mainCode_quiet (label : Label) :
    (mainCode conf lib build loaded label).Uses
      fun operation => operation.isQuiet := by
  have other : Sms112.Thread.requester 0 ≠ .receiver := nofun
  match label with
  | .boot => exact main_own.mono Op.isOwn.quiet
  | .gateway .main | .gateway .startPing | .gateway (.ping _)
  | .gateway .finish | .gateway .receive | .gateway .environment =>
      exact gatewayCode_quiet other _
  | .gateway .stopped | .work | .events _ | .signals | .ended => exact trivial
  | .cleanupSip | .cleanupCurl | .exit _ =>
      exact .step rfl fun _ => trivial
  | .joinWorker =>
      refine .step rfl fun ended => ?_
      split <;> trivial

theorem endptHandleEvents_quiet (left : Nat) :
    (endptHandleEvents left).Uses fun operation => operation.isQuiet := by
  cases left with
  | zero => trivial
  | succ left =>
      refine .step rfl fun event => ?_
      match event with
      | some event =>
          exact ((onTsxState_own event).mono Op.isOwn.quiet).bind
            fun _ => trivial
      | none => exact (sip_quiet _).bind fun _ => trivial

/-- What a test does is not noted. -/
theorem refineTest_quiet (operation : Sms112.Op) :
    (refineTest conf operation).Uses fun operation => operation.isQuiet := by
  unfold refineTest
  split
  · exact .step rfl fun _ => sip_quiet _
  · exact (curlPerfRequest_own _ _ _).mono Op.isOwn.quiet
  · exact ⟨rfl, fun _ => trivial⟩

/-- The tests make requests, but they are not noted. -/
theorem sigOper_quiet :
    (sigOper conf).Uses fun operation => operation.isQuiet := by
  have test {α : Type} (program : Sms112.Prog α) :
      (program.expand (refineTest conf)).Uses
        fun operation => operation.isQuiet :=
    program.uses_any.expand fun operation _ => refineTest_quiet operation
  have located : (testGeodata conf).Uses fun operation => operation.isQuiet :=
    (test _).bind fun _ => trivial
  refine .step rfl fun number => .bind ?_ fun _ => trivial
  unfold runTest
  split
  · exact located.bind fun _ => trivial
  · exact located.bind fun _ => (test _).bind fun _ => trivial
  · trivial

/-- The receiver at one of its labels. -/
theorem receiver_code (label : Sms112.Label) :
    RequestTriple condition conf build receiver (fun _ => True)
      (gatewayCode conf lib .receiver label) fun _ _ => True := by
  have performs : ReceiverTriple condition conf build (fun _ => True)
      (Sms112.code conf lib .receiver label) fun _ _ => True := by
    cases label
    case receive => exact msgReceiver_receiver lib
    all_goals exact done _
  exact Protocol.Triple.bind performs fun _ =>
    .returns (.const True) fun _ _ _ => trivial

/-! ## The result -/

/-- In every run the requests of the gateway, with their results, are those of
the dialogs. -/
theorem requests_paired
    {config : Config Res Thread State Label}
    (reach : (machine lib build loaded).Reach condition start config) :
    Paired config.state config.state.sip.count
      (notedRequests config.state.gateway.log) := by
  have code (thread : Thread) (label : Label) :
      RequestTriple condition (loadedConf loaded) build thread
        (fun _ => True) ((machine lib build loaded).code thread label)
        fun _ _ => True := by
    show RequestTriple condition (loadedConf loaded) build thread
      (fun _ => True) (Process.code lib build loaded thread label)
      fun _ _ => True
    unfold Process.code
    split
    next => exact others_triple (mainCode_quiet _)
    next thread label _ =>
      by_cases same : thread = .receiver
      · subst same
        exact receiver_code label
      · exact others_triple (gatewayCode_quiet same label)
    next => exact others_triple (workerThread_own.mono Op.isOwn.quiet)
    next left => exact others_triple (endptHandleEvents_quiet left)
    next serial => exact others_triple sigOper_quiet
    next => exact .returns (.const True) fun _ _ _ => trivial
  have begins (thread : Thread) :
      requestProtocol.Safe (machine lib build loaded).exec condition thread
        (fun _ _ => True) (start.control thread) start.state := by
    have starts (label : Label) :
        requestProtocol.Safe (machine lib build loaded).exec condition thread
          (fun _ _ => True) (.ret label) start.state :=
      fun _ _ _ => trivial
    match thread with
    | .gateway (.requester 0) | .gateway (.requester (_ + 1))
    | .gateway .receiver | .gateway .environment | .worker | .tester _ =>
        exact starts _
  exact (Protocol.sound code trivial begins reach).1

theorem messageAccepted_paired :
    let config := (machine referenceCodec {} (.returned 0 {})).run
      messageAccepted start
    (notedRequests config.state.gateway.log).length = 1 ∧
      Paired config.state config.state.sip.count
        (notedRequests config.state.gateway.log) := by
  intro config
  have reach : (machine referenceCodec {} (.returned 0 {})).Reach
      Machine.unconditional start config :=
    .run .start messageAccepted (Machine.admits_unconditional _ _)
  have one : (notedRequests config.state.gateway.log).length = 1 := by
    decide +kernel
  clear_value config
  exact ⟨one, requests_paired reach⟩

end Process
end Sms112
