import Sms112.Exchange.History
import Sms112.Requests.Objects

/-!
# The protocol of an exchange

The thread that sends requests and the receiver rely on each other while a
response is on its way. Two aims share the protocol: that a call which returns
0 was completed, and that it agrees with its response. They differ in the runs
they exclude and in what the invariant then says of an object nothing was
received into.
-/

namespace Sms112

open Resumption History

/-- What is to be shown of the calls. -/
inductive Aim
  | completion
  | agreement
  deriving DecidableEq

/-! ## The runs in which requests take their turns -/

/-- No response is taken up for a request whose call has returned, and no call
returns while its response is filled in. A response of 2^31 octets and more is
not received.

For completion, a response is received whole and into a buffer, and a `send`
that does not take all octets leaves an error in `errno`. For agreement, the
wait does not end while the response is filled in, and a PDU is received on the
socket on which its header was seen. -/
def InTurn (aim : Aim) : Machine.Condition Op Thread Choice State
  | _, .reqStorGetAndRem seqNum, _, state =>
      ∀ pointer ∈ (reqStorGetAndRem state.mapReq seqNum).1,
        InProgress state pointer.owner
  | _, .leaveSend pointer, _, state => pointer.owner ∉ state.held
  | _, .timedLockReq pointer _, _, state =>
      aim = .agreement → pointer.owner ∉ state.held
  | thread, .recv size into, choice, state =>
      (aim = .agreement →
        ∀ seen ∈ lastPeek state.log, state.serial = some seen.1) ∧
      ∀ buf ∈ into, size < 2 ^ 31 ∧ (aim = .completion →
        buf ≠ none ∧ 0 < size ∧
          (state.recv thread size into choice).1.1 = size)
  | .requester number, .send data, choice, state =>
      aim = .completion →
        equalsUnsigned (state.send (.requester number) data choice).1.1
            data.length ∨
          (state.send (.requester number) data choice).1.2 ≠ 0
  | _, _, _, _ => True

instance (aim : Aim) (thread : Thread) (operation : Op) (choice : Choice)
    (state : State) :
    Decidable (InTurn aim thread operation choice state) := by
  induction operation using Op.casesOn
  case send data =>
    induction thread using Thread.casesOn <;> unfold InTurn <;>
      infer_instance
  all_goals
    unfold InTurn
    infer_instance

/-! ## The response in an object -/

section Objects

variable (aim : Aim) (data : SReqData)

/-- A response was received whole behind a header, into the buffer of the
object, and the object has its length. -/
structure ReceivedInto (serial : Nat) (header response : Octets)
    (state : State) : Prop where
  behind : ReceivedBehind serial header response state.log
  whole : response.length = (SPDUHdr.ofOctets header).commandLength
  positive : 0 < response.length
  dataLen : data.dataLen = response.length
  contents : ∃ address, data.buf = some address ∧
    (state.buffer address).take response.length = response

/-- The response is the only one of the current call. It was received on the
socket in `g_iSock`, it begins with its header, and its number is that of the
current call. -/
structure Matching (serial : Nat) (header response : Octets)
    (state : State) : Prop where
  current : state.serial = some serial
  size : header.length = headerLength
  isResponse : (SPDUHdr.ofOctets header).isResponse
  begins : response.take headerLength = header.take response.length
  number : .registered (SPDUHdr.ofOctets header).sequenceNumber ∈
    calls.current state.log
  only : ∀ event ∈ calls.current state.log, event.isAnswer →
    event = .received serial response

/-- Nothing was received into the object; its mutex is locked, or no response
was received at all. -/
structure Vacant (state : State) : Prop where
  empty : data.dataLen = 0
  silent : aim = .agreement → Silent state.log
  locked : aim = .completion → data.locked

/-- The object holds a response, or nothing. -/
def Settled (state : State) : Prop :=
  Vacant aim data state ∨
    ∃ serial header response, ReceivedInto data serial header response state ∧
      (aim = .agreement → Matching serial header response state)

end Objects

variable {aim : Aim} {before after state : State} {pointer : ReqPtr}

/-- A response was read into the object, so its length is not zero: it is what
`sync_oper_req` looks at. -/
theorem ReceivedInto.nonzero
    {data : SReqData}
    {serial : Nat}
    {header response : Octets}
    (delivered : ReceivedInto data serial header response state) :
    data.dataLen ≠ 0 := by
  have positive := delivered.positive
  rw [delivered.dataLen]
  omega

/-- What is received behind a header begins with it. -/
theorem ofOctets_of_begins
    {header response : Octets}
    (size : header.length = headerLength)
    (begins : response.take headerLength = header.take response.length)
    (long : headerLength ≤ response.length) :
    SPDUHdr.ofOctets response = SPDUHdr.ofOctets header := by
  have whole : header.take response.length = header :=
    List.take_of_length_le (by omega)
  rw [← ofOctets_take (Nat.le_refl headerLength), begins, whole]

/-- What the requester reads through its pointer is the response as the
receiver read it from the socket. -/
theorem ReceivedInto.readReqData
    {data : SReqData}
    {serial : Nat}
    {header response : Octets}
    (delivered : ReceivedInto data serial header response state)
    (found : state.request pointer = some data) :
    state.readReqData pointer = response := by
  obtain ⟨address, points, contents⟩ := delivered.contents
  rw [State.readReqData_eq found]
  unfold State.contents
  simp only [points]
  rw [delivered.dataLen, Int.toNat_natCast]
  exact contents

theorem Matching.isAnswer
    {data : SReqData}
    {serial : Nat}
    {header response : Octets}
    (matching : Matching serial header response state)
    (delivered : ReceivedInto data serial header response state)
    (long : headerLength ≤ response.length) :
    IsResponse response := by
  have same := ofOctets_of_begins matching.size matching.begins long
  refine ⟨long, ?_, ?_⟩
  · rw [same]
    exact delivered.whole.symm
  · rw [same]
    exact matching.isResponse

/-! ## The invariant -/

/-- What is known of the exchange: the number of a registered request in
progress is that of the current call, an object the receiver is done with holds
a response or nothing, and every call that has returned is good. -/
structure ExchangeInv (aim : Aim) (state : State) : Prop where
  objects : ObjectsInv state
  numbered : ∀ entry ∈ state.mapReq, InProgress state entry.2.owner →
    .registered entry.1 ∈ calls.current state.log
  settled : ∀ addr data, state.requests.lookup addr = some data →
    data.owner ∉ state.held → Settled aim data state
  guarded : aim = .completion → ∀ addr data,
    state.requests.lookup addr = some data → data.owner ∈ state.held →
      data.locked
  good : aim = .agreement → calls.Each GoodCall state.log

/-! ## What the threads tolerate -/

/-- What the thread that sends tolerates: the connection, its calls and its
objects stay, nobody else links its objects or empties them, and its calls are
its own. Unless a call is in progress no response is received. -/
structure SenderRely (aim : Aim) (before after : State) : Prop where
  serial : after.serial = before.serial
  sending : after.sending = before.sending
  objects : after.objects = before.objects
  linked : ∀ owner, Linked after owner → Linked before owner
  unlinked : ∀ addr data, before.requests.lookup addr = some data →
    ¬Linked before data.owner → after.requests.lookup addr = some data
  filled : ∀ addr data, before.requests.lookup addr = some data →
    data.dataLen ≠ 0 → ∃ later, after.requests.lookup addr = some later ∧
      later.dataLen ≠ 0
  log : Grows Unmarked before.log after.log
  silent : aim = .agreement → before.sending = [] →
    Grows (fun event => event.isMark = false ∧ event.isAnswer = false)
      before.log after.log

/-- What the other threads do not touch while the receiver fills an object. -/
structure LeavesObjects (before after : State) : Prop where
  serial : after.serial = before.serial
  buffers : after.buffers = before.buffers
  object : ∀ addr data, before.requests.lookup addr = some data →
    ∃ later, after.requests.lookup addr = some later ∧
      later.owner = data.owner ∧ later.buf = data.buf ∧
      later.dataLen = data.dataLen
  log : Grows (fun event => calls.opens event = false ∧
    event.isReading = false) before.log after.log

/-- What the receiver tolerates: what it holds is its own, octets only arrive,
what is read is read by itself, and the object it fills is left alone. -/
structure ReceiverTolerates (before after : State) : Prop where
  held : after.held = before.held
  inbound : ∀ serial, before.inbound serial <+: after.inbound serial
  log : Grows Unread before.log after.log
  still : before.held ≠ [] → LeavesObjects before after

theorem SenderRely.trans
    {aim : Aim}
    {first second third : State}
    (before : SenderRely aim first second)
    (after : SenderRely aim second third) :
    SenderRely aim first third where
  serial := after.serial.trans before.serial
  sending := after.sending.trans before.sending
  objects := after.objects.trans before.objects
  linked owner linked := before.linked owner (after.linked owner linked)
  unlinked addr data found free :=
    after.unlinked addr data (before.unlinked addr data found free)
      fun linked => free (before.linked _ linked)
  filled addr data found nonzero := by
    obtain ⟨later, foundLater, nonzeroLater⟩ :=
      before.filled addr data found nonzero
    exact after.filled addr later foundLater nonzeroLater
  log := before.log.trans after.log
  silent agreement idle :=
    (before.silent agreement idle).trans
      (after.silent agreement (before.sending.trans idle))

theorem LeavesObjects.trans
    {first second third : State}
    (before : LeavesObjects first second)
    (after : LeavesObjects second third) :
    LeavesObjects first third where
  serial := after.serial.trans before.serial
  buffers := after.buffers.trans before.buffers
  object addr data found := by
    obtain ⟨later, foundLater, owner, buf, dataLen⟩ :=
      before.object addr data found
    obtain ⟨last, foundLast, ownerLast, bufLast, dataLenLast⟩ :=
      after.object addr later foundLater
    exact ⟨last, foundLast, ownerLast.trans owner, bufLast.trans buf,
      dataLenLast.trans dataLen⟩
  log := before.log.trans after.log

theorem ReceiverTolerates.trans
    {first second third : State}
    (before : ReceiverTolerates first second)
    (after : ReceiverTolerates second third) :
    ReceiverTolerates first third where
  held := after.held.trans before.held
  inbound serial := (before.inbound serial).trans (after.inbound serial)
  log := before.log.trans after.log
  still holding :=
    (before.still holding).trans
      (after.still (by rw [before.held]; exact holding))

/-- What each thread tolerates. -/
def ExchangeRely (aim : Aim) : Thread → State → State → Prop
  | .requester 0 => SenderRely aim
  | .receiver => ReceiverTolerates
  | _ => fun _ _ => True

/-! ## How objects stay settled -/

/-- The events that leave a settled object settled. -/
def Settling (aim : Aim) (event : Event) : Prop :=
  calls.opens event = false ∧ (aim = .agreement → event.isAnswer = false)

/-- A response stays where it was read into as long as its object keeps buffer
and length, and no buffer changes. -/
theorem ReceivedInto.later
    {data later : SReqData}
    {serial : Nat}
    {header response : Octets}
    (delivered : ReceivedInto data serial header response before)
    (buffers : after.buffers = before.buffers)
    (log : Grows (fun event => calls.opens event = false)
      before.log after.log)
    (buf : later.buf = data.buf)
    (dataLen : later.dataLen = data.dataLen) :
    ReceivedInto later serial header response after := by
  obtain ⟨⟨earlier, grows, seen⟩, whole, positive, length, address, points,
    contents⟩ := delivered
  refine ⟨⟨earlier, grows.trans log, seen⟩, whole, positive,
    dataLen.trans length, address, buf.trans points, ?_⟩
  unfold State.buffer at contents ⊢
  rwa [buffers]

/-- What matches goes on matching while no connection is opened and no answer
arrives. -/
theorem Matching.later
    {serial : Nat}
    {header response : Octets}
    (matching : Matching serial header response before)
    (same : after.serial = before.serial)
    (log : Grows (fun event => calls.opens event = false ∧
      event.isAnswer = false) before.log after.log) :
    Matching serial header response after := by
  obtain ⟨current, size, isResponse, begins, number, only⟩ := matching
  have during := Brackets.current_grows log fun _ inside => inside.1
  refine ⟨same.trans current, size, isResponse, begins, during.mem number,
    fun event member answer => ?_⟩
  rcases during.mem_or member with isNew | old
  · rw [isNew.2] at answer
    cases answer
  · exact only event old answer

/-- An object that is settled stays settled: for completion its mutex must not
open on its own. -/
theorem Settled.later
    {data later : SReqData}
    (settled : Settled aim data before)
    (serial : after.serial = before.serial)
    (buffers : after.buffers = before.buffers)
    (log : Grows (Settling aim) before.log after.log)
    (buf : later.buf = data.buf)
    (dataLen : later.dataLen = data.dataLen)
    (locked : data.locked → later.locked) :
    Settled aim later after := by
  have quiet (agreement : aim = .agreement) :
      Grows (fun event => calls.opens event = false ∧
        event.isAnswer = false) before.log after.log :=
    log.mono fun _ settling => ⟨settling.1, settling.2 agreement⟩
  rcases settled with ⟨empty, silent, isLocked⟩ |
    ⟨socket, header, response, delivered, matching⟩
  · refine .inl ⟨dataLen.trans empty, fun agreement => ?_,
      fun completion => locked (isLocked completion)⟩
    exact (silent agreement).grows (quiet agreement)
      (fun _ inside => inside.1) fun _ inside => inside.2
  · refine .inr ⟨socket, header, response,
      delivered.later buffers (log.mono fun _ settling => settling.1) buf
        dataLen, fun agreement => ?_⟩
    exact (matching agreement).later serial (quiet agreement)

/-! ## Steps that are no matter to an exchange -/

/-- The step only adds events of a kind to the log, as far as an exchange is
concerned. -/
structure Mild (kind : Event → Prop) (before after : State) : Prop where
  serial : after.serial = before.serial
  mapReq : after.mapReq = before.mapReq
  requests : after.requests = before.requests
  buffers : after.buffers = before.buffers
  sending : after.sending = before.sending
  held : after.held = before.held
  nextOwner : after.nextOwner = before.nextOwner
  log : Grows kind before.log after.log

/-- The event is none of the client's, and for agreement no response. -/
def Quiet (aim : Aim) (event : Event) : Prop :=
  event.isMark = false ∧ (aim = .agreement → event.isAnswer = false)

theorem Quiet.settling
    {event : Event}
    (quiet : Quiet aim event) :
    Settling aim event :=
  ⟨(Event.inner quiet.1).1, quiet.2⟩

theorem Event.IsPlain.quiet
    {event : Event}
    (plain : event.IsPlain) :
    Quiet aim event :=
  ⟨plain.1, fun _ => Event.not_isAnswer plain.2⟩

/-- Whether an object is linked depends on the map and on what the receiver
holds. -/
theorem Linked.congr
    {owner : Nat}
    (linked : Linked after owner)
    (mapReq : after.mapReq = before.mapReq)
    (held : after.held = before.held) :
    Linked before owner := by
  unfold Linked at linked ⊢
  rwa [mapReq, held] at linked

namespace Mild

variable {kind other : Event → Prop}

theorem refl (kind : Event → Prop) (state : State) : Mild kind state state :=
  ⟨rfl, rfl, rfl, rfl, rfl, rfl, rfl, .refl _ _⟩

theorem mono
    (mild : Mild kind before after)
    (implies : ∀ event, kind event → other event) :
    Mild other before after where
  serial := mild.serial
  mapReq := mild.mapReq
  requests := mild.requests
  buffers := mild.buffers
  sending := mild.sending
  held := mild.held
  nextOwner := mild.nextOwner
  log := mild.log.mono implies

/-- A mild step with quiet events keeps the invariant. -/
theorem inv
    (mild : Mild (Quiet aim) before after)
    (inv : ExchangeInv aim before) :
    ExchangeInv aim after where
  objects := inv.objects.congr mild.mapReq mild.requests mild.sending
    mild.held mild.nextOwner
  numbered entry member progress := by
    rw [mild.mapReq] at member
    unfold InProgress at progress
    rw [mild.sending] at progress
    refine (Brackets.current_grows mild.log fun _ quiet =>
      (Event.inner quiet.1).1).mem ?_
    exact inv.numbered entry member progress
  settled addr data found free := by
    rw [mild.requests] at found
    rw [mild.held] at free
    exact (inv.settled addr data found free).later mild.serial mild.buffers
      (mild.log.mono fun _ => Quiet.settling) rfl rfl id
  guarded completion addr data found held := by
    rw [mild.requests] at found
    rw [mild.held] at held
    exact inv.guarded completion addr data found held
  good agreement :=
    (inv.good agreement).grows mild.log fun _ quiet =>
      (Event.inner quiet.1).2

/-- A sender tolerates such a step of another thread. -/
theorem senderRely
    (mild : Mild (Quiet aim) before after) :
    SenderRely aim before after where
  serial := mild.serial
  sending := mild.sending
  objects := by
    unfold State.objects
    rw [mild.requests]
  linked _ linked := linked.congr mild.mapReq mild.held
  unlinked addr data found _ := by rwa [mild.requests]
  filled addr data found nonzero :=
    ⟨data, by rwa [mild.requests], nonzero⟩
  log := mild.log.mono fun _ quiet => quiet.1
  silent agreement _ :=
    mild.log.mono fun _ quiet => ⟨quiet.1, quiet.2 agreement⟩

/-- The receiver tolerates a mild step with plain events, as long as what has
arrived on a socket is not taken back. -/
theorem receiverTolerates
    (mild : Mild Event.IsPlain before after)
    (inbound : ∀ serial, before.inbound serial <+: after.inbound serial) :
    ReceiverTolerates before after where
  held := mild.held
  inbound := inbound
  log := mild.log.mono fun _ plain => plain.2
  still _ :=
    { serial := mild.serial
      buffers := mild.buffers
      object := fun addr data found =>
        ⟨data, by rwa [mild.requests], rfl, rfl, rfl⟩
      log := mild.log.mono fun _ plain =>
        ⟨(Event.inner plain.1).1, plain.2⟩ }

theorem quiet
    (mild : Mild Event.IsPlain before after) :
    Mild (Quiet aim) before after :=
  mild.mono fun _ => Event.IsPlain.quiet

/-- Such a step is tolerated by every thread. -/
theorem rely
    (mild : Mild Event.IsPlain before after)
    (inbound : ∀ serial, before.inbound serial <+: after.inbound serial)
    (thread : Thread) :
    ExchangeRely aim thread before after := by
  unfold ExchangeRely
  split
  · exact mild.quiet.senderRely
  · exact mild.receiverTolerates inbound
  · trivial

end Mild

/-- The protocol of an exchange. -/
def exchangeProtocol (aim : Aim) : Protocol Thread State where
  inv := ExchangeInv aim
  rely := ExchangeRely aim
  rely_refl thread state :=
    (Mild.refl _ state).rely (fun _ => List.prefix_refl _) thread
  rely_trans thread first second third before after := by
    unfold ExchangeRely at *
    split at before
    · exact SenderRely.trans before after
    · exact ReceiverTolerates.trans before after
    · trivial

/-- A sender keeps to the protocol if the invariant holds after its step and
the receiver tolerates it. -/
theorem exchange_keeps_sender
    (inv : ExchangeInv aim after)
    (rely : ReceiverTolerates before after) :
    (exchangeProtocol aim).Keeps controller before after := by
  refine ⟨inv, fun other different => ?_⟩
  match other with
  | .requester 0 => exact absurd rfl different
  | .requester (number + 1) => trivial
  | .receiver => exact rely
  | .environment => trivial

/-- The receiver keeps to the protocol if the invariant holds after its step
and the senders tolerate it. -/
theorem exchange_keeps_receiver
    (inv : ExchangeInv aim after)
    (rely : SenderRely aim before after) :
    (exchangeProtocol aim).Keeps .receiver before after := by
  refine ⟨inv, fun other different => ?_⟩
  match other with
  | .requester 0 => exact rely
  | .requester (number + 1) => trivial
  | .receiver => exact absurd rfl different
  | .environment => trivial

/-! ## Mild operations -/

/-- The operations that are no matter to an exchange. -/
def Op.isMild : Op → Bool
  | .socket | .close | .setSock _ | .recv .. | .peek _ | .reqStorAdd ..
  | .reqStorGetAndRem _ | .newReqData | .deleteReqData _ | .setReqBuf ..
  | .setReqDataLen .. | .unlockReq _ | .timedLockReq .. | .malloc _
  | .enterSend _ | .leaveSend _ => false
  | .note event => !event.isMark && !event.isReading
  | _ => true

/-- A mild operation notes nothing about requests, responses or connections. -/
theorem Op.isMild.plain
    {operation : Op}
    (mild : operation.isMild)
    {event : Event}
    (noted : operation.notes event) :
    event.IsPlain := by
  cases operation
  case note noted' =>
    obtain rfl := of_decide_eq_true noted
    simpa [Op.isMild, Event.IsPlain] using mild
  case enter routine =>
    cases routine <;> cases event <;>
      first | exact ⟨rfl, rfl⟩ | cases noted
  all_goals
    cases event <;>
      first | exact ⟨rfl, rfl⟩ | (cases noted; done) | cases mild

/-- A mild operation writes no field that is a matter to an exchange. -/
theorem Op.isMild.untouched
    {operation : Op}
    (mild : operation.isMild) :
    operation.writes .iSock = false ∧ operation.writes .sockets = false ∧
      operation.writes .mapReq = false ∧
      operation.writes .requests = false ∧
      operation.writes .buffers = false ∧
      operation.writes .sending = false ∧ operation.writes .held = false ∧
      operation.writes .nextOwner = false := by
  cases operation <;>
    first
      | exact ⟨rfl, rfl, rfl, rfl, rfl, rfl, rfl, rfl⟩
      | cases mild

theorem Op.isMild.unwatched
    {operation : Op}
    (mild : operation.isMild) :
    operation.isUnwatched := by
  cases operation <;> first | rfl | cases mild

/-- A mild operation takes nothing off a stream. -/
theorem Op.isMild.inbound
    {operation : Op}
    (mild : operation.isMild)
    (thread : Thread)
    (choice : Choice)
    (serial : Nat) :
    state.inbound serial <+:
      (watched thread operation choice state).2.inbound serial := by
  rw [watched_of_isUnwatched (Op.isMild.unwatched mild)]
  have frame := exec_frame thread operation choice state .inbound
  have kept (unwritten : operation.writes .inbound = false) :
      state.inbound serial <+:
        (exec thread operation choice state).2.inbound serial := by
    have same : (exec thread operation choice state).2.inbound =
        state.inbound := frame unwritten
    exact same ▸ List.prefix_refl _
  cases operation
  case recv => cases mild
  case arrive =>
    change state.inbound serial <+: Function.update state.inbound
      choice.count (state.inbound choice.count ++ choice.data) serial
    by_cases here : serial = choice.count
    · rw [here, Function.update_self]
      exact List.prefix_append _ _
    · exact Function.update_of_ne here _ _ ▸ List.prefix_refl _
  all_goals exact kept rfl

/-- A mild operation takes a mild step: by what it writes and what it notes. -/
theorem watched_mild
    (thread : Thread)
    {operation : Op}
    (mild : operation.isMild)
    (choice : Choice)
    (state : State) :
    Mild Event.IsPlain state (watched thread operation choice state).2 := by
  rw [watched_of_isUnwatched (Op.isMild.unwatched mild)]
  have frame := exec_frame thread operation choice state
  obtain ⟨iSock, sockets, mapReq, requests, buffers, sending, held,
    nextOwner⟩ := Op.isMild.untouched mild
  refine ⟨?_, frame .mapReq mapReq,
    frame .requests requests, frame .buffers buffers,
    frame .sending sending, frame .held held, frame .nextOwner nextOwner, ?_⟩
  · unfold State.serial
    rw [frame .sockets sockets, frame .iSock iSock]
  · rcases exec_notes thread operation choice state with
      same | ⟨event, noted, appended⟩
    · exact .of_eq same
    · rw [appended]
      exact .cons (Op.isMild.plain mild noted) _

end Sms112
