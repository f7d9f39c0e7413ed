import Sms112.Connection.Controller
import Sms112.Requests.Objects

/-!
# The binding on a connection

A bind is in force on a socket when the newest event that concerns it is a
positive response. While the program has such a response but has not set its
flag, while the receiver fills in a response, and while it handles an
unbinding, the controller and the receiver rely on each other. The invariant
and the interference that each of them tolerates are stated here.
-/

namespace Sms112

open Resumption

/-! ## Binds in the log -/

/-- A positive bind response. -/
def isBindOk (data : Octets) : Bool :=
  headerLength ≤ data.length && word data 4 = BIND_TRANSCEIVER_RESP &&
    word data 8 = ESME_ROK

/-- What an event does to the bind on a socket: a positive response puts it
in force, an unbinding sent or received ends it. -/
def Event.effect (serial : Nat) : Event → Option Bool
  | .received other data =>
      if other = serial ∧ isBindOk data then some true else none
  | .unbindReceived other =>
      if other = some serial then some false else none
  | .sent _ other data _ =>
      if other = serial ∧ word data 4 = UNBIND then some false else none
  | _ => none

/-- A bind was answered on the socket, and no unbinding has been sent or
received since. -/
def boundOn (serial : Nat) (log : List Event) : Bool :=
  (log.findSome? (Event.effect serial)).getD false

/-- The newest event with an effect on the bind decides. -/
theorem boundOn_cons (serial : Nat) (event : Event) (log : List Event) :
    boundOn serial (event :: log) =
      (event.effect serial).getD (boundOn serial log) := by
  unfold boundOn
  cases effect : event.effect serial <;> simp [effect]

/-- Only a positive response puts a bind in force. -/
theorem boundOn_of_cons
    {serial : Nat}
    {event : Event}
    {log : List Event}
    (noAnswer : event.effect serial ≠ some true)
    (bound : boundOn serial (event :: log)) :
    boundOn serial log := by
  rw [boundOn_cons] at bound
  cases effect : event.effect serial with
  | none => rwa [effect] at bound
  | some value =>
      rw [effect, Option.getD_some] at bound
      rw [bound] at effect
      exact absurd effect noAnswer

/-- A `BIND_TRANSCEIVER` was sent on the socket. -/
def RequestedOn (serial : Nat) (log : List Event) : Prop :=
  ∃ thread data accepted, .sent thread serial data accepted ∈ log ∧
    word data 4 = BIND_TRANSCEIVER

/-- A bind is in force on the socket in `g_iSock`. -/
def InForce (state : State) : Prop :=
  ∃ serial ∈ state.serial, boundOn serial state.log

instance (state : State) : Decidable (InForce state) := by
  unfold InForce
  infer_instance

/-- On the socket in `g_iSock` a `BIND_TRANSCEIVER` was sent and answered with
`ESME_ROK`, and no `UNBIND` has been sent or received since. -/
def Bound (state : State) : Prop :=
  ∃ serial ∈ state.serial, RequestedOn serial state.log ∧
    boundOn serial state.log

/-- What is requested and answered is in force. -/
theorem Bound.inForce
    {state : State}
    (bound : Bound state) :
    InForce state := by
  obtain ⟨serial, current, -, answered⟩ := bound
  exact ⟨serial, current, answered⟩

/-- What the two logs say about the binds on a socket is the same, and
nothing is forgotten. -/
structure SameBinds (before after : State) : Prop where
  serial : after.serial = before.serial
  boundOn : ∀ serial, boundOn serial after.log = boundOn serial before.log
  log : before.log <:+ after.log

namespace SameBinds

variable {before after : State}

/-- A bind is in force in both states or in neither. -/
theorem inForce_iff
    (same : SameBinds before after) :
    InForce after ↔ InForce before := by
  unfold InForce
  rw [same.serial]
  simp only [same.boundOn]

theorem bound
    (same : SameBinds before after)
    (bound : Bound before) :
    Bound after := by
  obtain ⟨serial, current, ⟨thread, data, accepted, sent, bind⟩, answered⟩ :=
    bound
  exact ⟨serial, same.serial ▸ current,
    ⟨thread, data, accepted, same.log.subset sent, bind⟩,
    (same.boundOn serial).trans answered⟩

/-- The binds are read off the log. -/
theorem of_log_eq
    (serial : after.serial = before.serial)
    (log : after.log = before.log) :
    SameBinds before after :=
  ⟨serial, fun _ => by rw [log], log ▸ List.suffix_refl _⟩

end SameBinds

/-! ## The invariant -/

/-- What is known of the session: outside `sms112_smpp_unbind_oper` the flag
tells the truth, inside it no bind is in force, and the receiver has read the
response on the socket on which a bind is in force. -/
structure SessionInv (state : State) : Prop where
  flag : state.smppIsConnected → state.busy .smppUnbindOper = false →
    Bound state
  unbinding : state.busy .smppUnbindOper → ¬InForce state
  newest : InForce state → state.lastRecv = state.serial
  fresh : ∀ serial, state.nextSerial ≤ serial →
    boundOn serial state.log = false
  known : ∀ entry ∈ state.sockets,
    0 ≤ entry.1 ∧ entry.2 < state.nextSerial

/-- A positive response in an object that the receiver is done with has put a
bind in force. -/
def Filled (state : State) : Prop :=
  ∀ addr data, state.requests.lookup addr = some data →
    data.owner ∉ state.held → state.busy .smppConnect →
      isBindOk (state.contents data) → InForce state

/-- The invariant of the binding. -/
structure BindInv (state : State) : Prop where
  session : SessionInv state
  objects : ObjectsInv state
  filled : Filled state

/-! ## The protocol -/

/-- What the controller tolerates: the connection stays, its own calls and
objects stay, nobody else links its objects, changes them before or sets the
flag, and a bind in force stays so while `sms112_smpp_connect` runs. -/
structure ControllerRely (before after : State) : Prop where
  serial : after.serial = before.serial
  sending : after.sending = before.sending
  binding : after.busy .smppConnect = before.busy .smppConnect
  flag : after.smppIsConnected → before.smppIsConnected
  inForce : before.busy .smppConnect → InForce before → InForce after
  linked : ∀ owner, Linked after owner → Linked before owner
  objects : after.objects = before.objects
  unlinked : ∀ addr data, before.requests.lookup addr = some data →
    ¬Linked before data.owner → after.requests.lookup addr = some data
  log : before.log <:+ after.log

/-- What the controller does not touch while the receiver holds its
request. -/
structure StandsStill (before after : State) : Prop where
  buffers : after.buffers = before.buffers
  serial : after.serial = before.serial
  binding : after.busy .smppConnect = before.busy .smppConnect
  inForce : before.busy .smppConnect → InForce before → InForce after
  object : ∀ addr data, before.requests.lookup addr = some data →
    ∃ later, after.requests.lookup addr = some later ∧
      later.owner = data.owner ∧ later.buf = data.buf ∧
      later.dataLen = data.dataLen

/-- What the receiver tolerates: what it holds is its own, the controller
stands still meanwhile, and it does not set the flag while an unbinding is
handled. -/
structure ReceiverRely (before after : State) : Prop where
  held : after.held = before.held
  unbinding : after.busy .smppUnbindOper = before.busy .smppUnbindOper
  flag : before.busy .smppUnbindOper → after.smppIsConnected →
    before.smppIsConnected
  still : before.held ≠ [] → StandsStill before after

theorem ControllerRely.trans
    {first second third : State}
    (before : ControllerRely first second)
    (after : ControllerRely second third) :
    ControllerRely first third where
  serial := after.serial.trans before.serial
  sending := after.sending.trans before.sending
  binding := after.binding.trans before.binding
  flag connected := before.flag (after.flag connected)
  inForce binding bound :=
    after.inForce (before.binding.trans binding)
      (before.inForce binding bound)
  linked owner linked := before.linked owner (after.linked owner linked)
  objects := after.objects.trans before.objects
  unlinked addr data found free :=
    after.unlinked addr data (before.unlinked addr data found free)
      fun linked => free (before.linked _ linked)
  log := before.log.trans after.log

theorem StandsStill.trans
    {first second third : State}
    (before : StandsStill first second)
    (after : StandsStill second third) :
    StandsStill first third where
  buffers := after.buffers.trans before.buffers
  serial := after.serial.trans before.serial
  binding := after.binding.trans before.binding
  inForce binding bound :=
    after.inForce (before.binding.trans binding)
      (before.inForce binding bound)
  object addr data found := by
    obtain ⟨later, foundLater, owner, buf, dataLen⟩ :=
      before.object addr data found
    obtain ⟨last, foundLast, ownerLast, bufLast, dataLenLast⟩ :=
      after.object addr later foundLater
    exact ⟨last, foundLast, ownerLast.trans owner, bufLast.trans buf,
      dataLenLast.trans dataLen⟩

theorem ReceiverRely.trans
    {first second third : State}
    (before : ReceiverRely first second)
    (after : ReceiverRely second third) :
    ReceiverRely first third where
  held := after.held.trans before.held
  unbinding := after.unbinding.trans before.unbinding
  flag unbinding connected :=
    before.flag unbinding
      (after.flag (before.unbinding.trans unbinding) connected)
  still holding :=
    (before.still holding).trans
      (after.still (by rw [before.held]; exact holding))

/-- What each thread tolerates. -/
def BindRely : Thread → State → State → Prop
  | .requester 0 => ControllerRely
  | .receiver => ReceiverRely
  | _ => fun _ _ => True

/-! ## Steps that are no matter to the binding -/

/-- The step is no matter to the binding. -/
structure Calm (before after : State) : Prop where
  binds : SameBinds before after
  flag : after.smppIsConnected = before.smppIsConnected
  binding : after.busy .smppConnect = before.busy .smppConnect
  unbinding : after.busy .smppUnbindOper = before.busy .smppUnbindOper
  lastRecv : after.lastRecv = before.lastRecv
  sockets : after.sockets = before.sockets
  nextSerial : after.nextSerial = before.nextSerial
  mapReq : after.mapReq = before.mapReq
  requests : after.requests = before.requests
  buffers : after.buffers = before.buffers
  sending : after.sending = before.sending
  held : after.held = before.held
  nextOwner : after.nextOwner = before.nextOwner

namespace SessionInv

variable {before after : State}

/-- The invariant of the session speaks of the binds, the flag, the unbind
under way and the sockets; where these are the same it goes on holding. -/
theorem congr
    (inv : SessionInv before)
    (binds : SameBinds before after)
    (flag : after.smppIsConnected = before.smppIsConnected)
    (unbinding : after.busy .smppUnbindOper = before.busy .smppUnbindOper)
    (lastRecv : after.lastRecv = before.lastRecv)
    (sockets : after.sockets = before.sockets)
    (nextSerial : after.nextSerial = before.nextSerial) :
    SessionInv after where
  flag connected idle :=
    binds.bound (inv.flag (flag.symm.trans connected)
      (unbinding.symm.trans idle))
  unbinding busy inForce :=
    inv.unbinding (unbinding.symm.trans busy) (binds.inForce_iff.mp inForce)
  newest inForce := by
    rw [lastRecv, binds.serial]
    exact inv.newest (binds.inForce_iff.mp inForce)
  fresh serial old := by
    rw [nextSerial] at old
    rw [binds.boundOn]
    exact inv.fresh serial old
  known := by
    rw [sockets, nextSerial]
    exact inv.known

/-- A step after which no other bind is in force, with the flag cleared. -/
theorem of_fewer
    (inv : SessionInv before)
    (flag : after.smppIsConnected = false)
    (unbinding : after.busy .smppUnbindOper → ¬InForce after)
    (serial : after.serial = before.serial)
    (lastRecv : after.lastRecv = before.lastRecv)
    (sockets : after.sockets = before.sockets)
    (nextSerial : after.nextSerial = before.nextSerial)
    (fewer : ∀ serial, boundOn serial after.log →
      boundOn serial before.log) :
    SessionInv after where
  flag connected := by
    rw [flag] at connected
    cases connected
  unbinding := unbinding
  newest := by
    rintro ⟨current, isCurrent, bound⟩
    rw [lastRecv, serial]
    exact inv.newest ⟨current, serial ▸ isCurrent, fewer current bound⟩
  fresh current old := by
    rw [nextSerial] at old
    exact Bool.eq_false_iff.mpr fun bound =>
      Bool.eq_false_iff.mp (inv.fresh current old) (fewer current bound)
  known := by
    rw [sockets, nextSerial]
    exact inv.known

end SessionInv

/-- What was filled in stays filled in while the objects stand still and a bind
that is in force stays so. -/
theorem Filled.congr
    {before after : State}
    (filled : Filled before)
    (requests : after.requests = before.requests)
    (buffers : after.buffers = before.buffers)
    (held : after.held = before.held)
    (binding : after.busy .smppConnect = before.busy .smppConnect)
    (inForce : before.busy .smppConnect → InForce before → InForce after) :
    Filled after := by
  intro addr data found free connecting positive
  rw [requests] at found
  rw [held] at free
  rw [binding] at connecting
  refine inForce connecting (filled addr data found free connecting ?_)
  unfold State.contents State.buffer at positive ⊢
  rwa [buffers] at positive

namespace Calm

variable {before after : State}

/-- A calm step keeps the invariant. -/
theorem inv
    (calm : Calm before after)
    (inv : BindInv before) :
    BindInv after where
  session := inv.session.congr calm.binds calm.flag calm.unbinding
    calm.lastRecv calm.sockets calm.nextSerial
  objects := inv.objects.congr calm.mapReq calm.requests calm.sending
    calm.held calm.nextOwner
  filled := inv.filled.congr calm.requests calm.buffers calm.held
    calm.binding fun _ inForce => calm.binds.inForce_iff.mpr inForce

/-- The controller tolerates a calm step. -/
theorem controllerRely
    (calm : Calm before after) :
    ControllerRely before after where
  serial := calm.binds.serial
  sending := calm.sending
  binding := calm.binding
  flag connected := calm.flag.symm.trans connected
  inForce _ := calm.binds.inForce_iff.mpr
  linked owner linked := by
    unfold Linked at linked ⊢
    rwa [calm.mapReq, calm.held] at linked
  objects := by
    unfold State.objects
    rw [calm.requests]
  unlinked addr data found _ := by rwa [calm.requests]
  log := calm.binds.log

/-- In a calm step the controller stands still. -/
theorem standsStill
    (calm : Calm before after) :
    StandsStill before after where
  buffers := calm.buffers
  serial := calm.binds.serial
  binding := calm.binding
  inForce _ := calm.binds.inForce_iff.mpr
  object addr data found := ⟨data, by rwa [calm.requests], rfl, rfl, rfl⟩

/-- The receiver tolerates a calm step. -/
theorem receiverRely
    (calm : Calm before after) :
    ReceiverRely before after where
  held := calm.held
  unbinding := calm.unbinding
  flag _ connected := calm.flag.symm.trans connected
  still _ := calm.standsStill

/-- So every thread tolerates it. -/
theorem rely
    (calm : Calm before after)
    (thread : Thread) :
    BindRely thread before after := by
  unfold BindRely
  split
  · exact calm.controllerRely
  · exact calm.receiverRely
  · trivial

theorem refl (state : State) : Calm state state :=
  ⟨.of_log_eq rfl rfl, rfl, rfl, rfl, rfl, rfl, rfl, rfl, rfl, rfl, rfl, rfl,
    rfl⟩

/-- An event that concerns no bind. -/
theorem note
    {event : Event}
    (calm : ∀ serial, event.effect serial = none)
    (state : State) :
    Calm state (state.note event) := by
  refine ⟨⟨rfl, fun serial => ?_, List.suffix_cons event state.log⟩, rfl, rfl,
    rfl, rfl, rfl, rfl, rfl, rfl, rfl, rfl, rfl, rfl⟩
  exact (boundOn_cons serial event state.log).trans (by rw [calm]; rfl)

end Calm

/-- The protocol of the binding. -/
def bindProtocol : Protocol Thread State where
  inv := BindInv
  rely := BindRely
  rely_refl thread state := (Calm.refl state).rely thread
  rely_trans thread first second third before after := by
    unfold BindRely at *
    split at before
    · exact ControllerRely.trans before after
    · exact ReceiverRely.trans before after
    · trivial

/-! ## Calm operations -/

/-- Events that concern no bind. -/
def Event.isCalm : Event → Bool
  | .sent .. | .received .. | .unbindReceived _ => false
  | _ => true

/-- The operations that are no matter to the binding. -/
def Op.isCalm : Op → Bool
  | .socket | .close | .setSock _ | .recv .. | .setSmppConnected _
  | .reqStorAdd .. | .reqStorGetAndRem _ | .newReqData | .deleteReqData _
  | .setReqBuf .. | .setReqDataLen .. | .unlockReq _ | .timedLockReq ..
  | .malloc _ | .enterSend _ | .leaveSend _ | .enter .smppConnect
  | .leave .smppConnect | .enter .smppUnbindOper
  | .leave .smppUnbindOper => false
  | .send data => word data 4 ≠ UNBIND
  | .note event => event.isCalm
  | _ => true

theorem Event.isCalm.effect
    {event : Event}
    (calm : event.isCalm)
    (serial : Nat) :
    event.effect serial = none := by
  cases event <;> first | rfl | cases calm

/-- No event that a calm operation notes has an effect on a bind. -/
theorem Op.isCalm.effect
    {operation : Op}
    (calm : operation.isCalm)
    {event : Event}
    (noted : operation.notes event)
    (serial : Nat) :
    event.effect serial = none := by
  cases operation
  case send data =>
    cases event <;> simp only [Op.notes, Bool.false_eq_true] at noted
    obtain rfl := of_decide_eq_true noted
    have harmless := of_decide_eq_true calm
    simp [Event.effect, harmless]
  case note noted' =>
    obtain rfl := of_decide_eq_true noted
    exact Event.isCalm.effect calm serial
  case enter routine =>
    cases routine <;> cases event <;>
      first | rfl | (cases noted; done) | cases calm
  all_goals
    cases event <;>
      first | rfl | (cases noted; done) | cases calm

/-- A calm operation writes no field that is a matter to the binding. -/
theorem Op.isCalm.untouched
    {operation : Op}
    (calm : operation.isCalm) :
    operation.writes .smppIsConnected = false ∧
      operation.writes .iSock = false ∧ operation.writes .sockets = false ∧
      operation.writes .nextSerial = false ∧
      operation.writes .lastRecv = false ∧
      operation.writes .mapReq = false ∧
      operation.writes .requests = false ∧
      operation.writes .buffers = false ∧
      operation.writes .sending = false ∧ operation.writes .held = false ∧
      operation.writes .nextOwner = false := by
  cases operation <;>
    first
      | exact ⟨rfl, rfl, rfl, rfl, rfl, rfl, rfl, rfl, rfl, rfl, rfl⟩
      | cases calm

/-- A calm operation neither enters nor leaves a bind or an unbind. -/
theorem exec_calm_busy
    (thread : Thread)
    {operation : Op}
    (calm : operation.isCalm)
    (choice : Choice)
    (state : State) :
    (exec thread operation choice state).2.busy .smppConnect =
        state.busy .smppConnect ∧
      (exec thread operation choice state).2.busy .smppUnbindOper =
        state.busy .smppUnbindOper := by
  have frame := exec_frame thread operation choice state .busy
  cases operation
  case enter routine =>
    cases routine <;> first | exact ⟨rfl, rfl⟩ | cases calm
  case leave routine =>
    cases routine <;> first | exact ⟨rfl, rfl⟩ | cases calm
  all_goals
    exact ⟨congrFun (frame rfl) .smppConnect,
      congrFun (frame rfl) .smppUnbindOper⟩

/-- A calm operation takes a calm step. -/
theorem exec_calm
    (thread : Thread)
    {operation : Op}
    (calm : operation.isCalm)
    (choice : Choice)
    (state : State) :
    Calm state (exec thread operation choice state).2 := by
  have frame := exec_frame thread operation choice state
  obtain ⟨binding, unbinding⟩ := exec_calm_busy thread calm choice state
  obtain ⟨flag, iSock, sockets, nextSerial, lastRecv, mapReq, requests,
    buffers, sending, held, nextOwner⟩ := Op.isCalm.untouched calm
  refine ⟨⟨?_, fun serial => ?_, ?_⟩, frame .smppIsConnected flag, binding,
    unbinding, frame .lastRecv lastRecv, frame .sockets sockets,
    frame .nextSerial nextSerial, frame .mapReq mapReq,
    frame .requests requests, frame .buffers buffers,
    frame .sending sending, frame .held held, frame .nextOwner nextOwner⟩
  · unfold State.serial
    rw [frame .sockets sockets, frame .iSock iSock]
  · rcases exec_notes thread operation choice state with
      same | ⟨event, noted, appended⟩
    · rw [same]
    · rw [appended, boundOn_cons, Op.isCalm.effect calm noted,
        Option.getD_none]
  · rcases exec_notes thread operation choice state with
      same | ⟨event, -, appended⟩
    · exact same ▸ List.suffix_refl _
    · exact appended ▸ List.suffix_cons event state.log

end Sms112
