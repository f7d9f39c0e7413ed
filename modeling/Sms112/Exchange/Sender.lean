import Sms112.Exchange.Protocol

/-!
# What the sender does to an exchange

A call creates its object, registers it, sends the request, waits, and reads
the response. Each step re-establishes the invariant, the receiver tolerates
it, and the sender learns what its next step needs.
-/

namespace Sms112

open Resumption History

namespace Exchange

variable {aim : Aim} {before after state : State} {pointer : ReqPtr}
variable {sending : List (Thread × Nat)} {objects : List (Nat × Nat)}

/-! ## What the sender knows -/

/-- The sender's calls in progress and its objects. -/
structure Calling (sending : List (Thread × Nat))
    (objects : List (Nat × Nat)) (state : State) : Prop where
  sending : state.sending = sending
  objects : state.objects = objects

/-- The client's call is open and has left these marks. -/
structure InCall (marked : List Event) (state : State) : Prop where
  opened : calls.Open state.log
  marks : marks state.log = marked

/-- The client's call has begun, and nothing has happened yet. -/
structure Started (aim : Aim) (state : State) : Prop where
  calling : Calling [] [] state
  inCall : InCall [] state
  silent : aim = .agreement → Silent state.log

/-- The request was sent in the current call on the socket in `g_iSock`, for
completion to its end. -/
def SentBy (aim : Aim) (data : Octets) (state : State) : Prop :=
  data.length < 2 ^ 31 → ∃ serial accepted, state.serial = some serial ∧
    .sent controller serial data accepted ∈ calls.current state.log ∧
    (aim = .completion → accepted = data.length)

/-- Something was received into the object. -/
def HasLength (pointer : ReqPtr) (state : State) : Prop :=
  ∃ data, state.request pointer = some data ∧ data.dataLen ≠ 0

/-- What the result of `sms112_smpp_send` tells: a request was registered and
sent if it is 0, it is 0 if a response came in time, and for completion it is
0 only if a response came. -/
structure Outcome (aim : Aim) (data : Octets) (seqNum : Nat)
    (pointer : ReqPtr) (result : Int) (state : State) : Prop where
  early : aim = .agreement → Early state.log → result = 0
  sent : result = 0 → SentBy aim data state ∧
    InCall [.waited, .registered seqNum] state
  filled : aim = .completion → result = 0 → HasLength pointer state

section Stability

theorem calling_stable :
    (exchangeProtocol aim).Stable controller (Calling sending objects) := by
  rintro before after - calling rely -
  have rely : SenderRely aim before after := rely
  exact ⟨rely.sending.trans calling.sending,
    rely.objects.trans calling.objects⟩

theorem opened_stable :
    (exchangeProtocol aim).Stable controller
      fun state => calls.Open state.log := by
  rintro before after - opened rely -
  have rely : SenderRely aim before after := rely
  exact opened.grows rely.log fun _ => Event.inner

theorem inCall_stable (marked : List Event) :
    (exchangeProtocol aim).Stable controller (InCall marked) := by
  rintro before after invBefore inCall rely invAfter
  refine ⟨opened_stable before after invBefore inCall.opened rely invAfter,
    ?_⟩
  have rely : SenderRely aim before after := rely
  exact (marks_unmarked rely.log).trans inCall.marks

theorem started_stable :
    (exchangeProtocol aim).Stable controller (Started aim) := by
  rintro before after invBefore started rely invAfter
  refine ⟨calling_stable before after invBefore started.calling rely
    invAfter, inCall_stable [] before after invBefore started.inCall rely
      invAfter, fun agreement => ?_⟩
  have rely : SenderRely aim before after := rely
  exact (started.silent agreement).grows
    (rely.silent agreement started.calling.sending)
    (fun _ quiet => (Event.inner quiet.1).1) fun _ quiet => quiet.2

theorem fresh_stable :
    (exchangeProtocol aim).Stable controller (Fresh pointer) := by
  rintro before after - ⟨unlinked, data, found, owner, empty⟩ rely -
  have rely : SenderRely aim before after := rely
  refine ⟨fun linked => unlinked (rely.linked _ linked), data,
    rely.unlinked _ data found ?_, owner, empty⟩
  rw [owner]
  exact unlinked

theorem sentBy_stable (data : Octets) :
    (exchangeProtocol aim).Stable controller (SentBy aim data) := by
  rintro before after - sentBy rely - small
  have rely : SenderRely aim before after := rely
  obtain ⟨serial, accepted, current, sent, whole⟩ := sentBy small
  exact ⟨serial, accepted, rely.serial.trans current,
    (current_unmarked rely.log).mem sent, whole⟩

theorem hasLength_stable :
    (exchangeProtocol aim).Stable controller (HasLength pointer) := by
  rintro before after - ⟨data, found, nonzero⟩ rely -
  have rely : SenderRely aim before after := rely
  exact rely.filled pointer.addr data found nonzero

theorem outcome_stable (data : Octets) (seqNum : Nat) (result : Int) :
    (exchangeProtocol aim).Stable controller
      (Outcome aim data seqNum pointer result) := by
  rintro before after invBefore ⟨early, sent, filled⟩ rely invAfter
  refine ⟨fun agreement isEarly => ?_, fun success => ?_,
    fun completion success => hasLength_stable before after invBefore
      (filled completion success) rely invAfter⟩
  · have rely : SenderRely aim before after := rely
    exact early agreement ((early_unmarked rely.log).mp isEarly)
  · exact ⟨sentBy_stable data before after invBefore (sent success).1 rely
      invAfter, inCall_stable _ before after invBefore (sent success).2 rely
        invAfter⟩

end Stability

/-! ## Between the calls -/

theorem receiverTolerates_of_nothing
    (nothing : before.held = [])
    (held : after.held = before.held)
    (inbound : after.inbound = before.inbound)
    (log : Grows Unread before.log after.log) :
    ReceiverTolerates before after where
  held := held
  inbound _ := inbound ▸ List.prefix_refl _
  log := log
  still holding := absurd nothing holding

/-- Without objects nothing is waiting to be filled. -/
theorem inv_of_idle
    (inv : ObjectsInv state)
    (calling : Calling [] [] state)
    (good : aim = .agreement → calls.Each GoodCall state.log) :
    ExchangeInv aim state where
  objects := inv
  numbered entry _ progress :=
    absurd progress (not_inProgress calling.sending _)
  settled addr data found := by
    rw [requests_eq_nil calling.objects] at found
    cases found
  guarded _ addr data found := by
    rw [requests_eq_nil calling.objects] at found
    cases found
  good := good

/-- A step that changes the connection between the calls. -/
theorem watched_idle
    (inv : ExchangeInv aim state)
    (calling : Calling [] [] state)
    {operation : Op}
    (plain : operation.isPlain)
    (unwatched : operation.isUnwatched)
    (inbound : operation.writes .inbound = false)
    (notes : ∀ event, operation.notes event = false)
    (choice : Choice) :
    let later := (watched controller operation choice state).2
    (exchangeProtocol aim).Keeps controller state later ∧
      Calling [] [] later := by
  rw [watched_of_isUnwatched unwatched]
  dsimp only
  have same := exec_plain controller plain choice state
  have log : (exec controller operation choice state).2.log =
      state.log := by
    rcases exec_notes controller operation choice state with
      unchanged | ⟨event, noted, -⟩
    · exact unchanged
    · rw [notes] at noted
      cases noted
  have later : Calling [] []
      (exec controller operation choice state).2 := by
    refine ⟨same.sending.trans calling.sending, ?_⟩
    unfold State.objects
    rw [same.requests]
    exact calling.objects
  refine ⟨exchange_keeps_sender (inv_of_idle (inv.objects.of_same same) later
    fun agreement => ?_) (receiverTolerates_of_nothing
      (inv.objects.held_eq_nil calling.sending) same.held
      (exec_frame controller operation choice state .inbound inbound)
      (.of_eq log)), later⟩
  rw [log]
  exact inv.good agreement

/-- A call begins. -/
theorem note_called
    (inv : ExchangeInv aim state)
    (calling : Calling [] [] state) :
    (exchangeProtocol aim).Keeps controller state (state.note .called) ∧
      Started aim (state.note .called) := by
  have later : Calling [] [] (state.note .called) :=
    ⟨calling.sending, calling.objects⟩
  refine ⟨exchange_keeps_sender (inv_of_idle
    (inv.objects.congr rfl rfl rfl rfl rfl) later fun agreement => ?_)
    (receiverTolerates_of_nothing (inv.objects.held_eq_nil calling.sending)
      rfl rfl (grows_note (by rfl) state)), later, ⟨?_, marks_called _⟩,
    fun _ => silent_called _⟩
  · exact (inv.good agreement).cons rfl
  · exact Brackets.open_cons rfl _

/-- A call returns, and it is good. -/
theorem note_returned
    (inv : ExchangeInv aim state)
    (calling : Calling [] [] state)
    {requestId : Nat}
    {result : Int}
    (opened : calls.Open state.log)
    (good : aim = .agreement →
      GoodCall (.returned requestId result) (calls.current state.log)) :
    (exchangeProtocol aim).Keeps controller state
        (state.note (.returned requestId result)) ∧
      Calling [] [] (state.note (.returned requestId result)) := by
  have later : Calling [] [] (state.note (.returned requestId result)) :=
    ⟨calling.sending, calling.objects⟩
  refine ⟨exchange_keeps_sender (inv_of_idle
    (inv.objects.congr rfl rfl rfl rfl rfl) later fun agreement => ?_)
    (receiverTolerates_of_nothing (inv.objects.held_eq_nil calling.sending)
      rfl rfl (grows_note (by rfl) state)), later⟩
  exact (inv.good agreement).close opened rfl (good agreement)

/-! ## The object -/

/-- The object is created, and nothing points to it. -/
theorem watched_newReqData
    (inv : ExchangeInv aim state)
    (started : Started aim state)
    (choice : Choice) :
    let pointer := (watched controller .newReqData choice state).1
    let later := (watched controller .newReqData choice state).2
    (exchangeProtocol aim).Keeps controller state later ∧
      Calling [] [(pointer.addr, pointer.owner)] later ∧
      InCall [] later ∧ Fresh pointer later := by
  dsimp only [watched, exec]
  obtain ⟨addr, -, created⟩ := state.newReqData_cases controller choice
  rw [created]
  have none := requests_eq_nil started.calling.objects
  have free : ¬Linked state state.nextOwner := fun linked =>
    Nat.lt_irrefl _ (inv.objects.older _ linked)
  have here : (withObject controller addr state).requests.lookup addr =
      some { owner := state.nextOwner, creator := controller } := by
    rw [lookup_withObject, if_pos rfl]
  have only {address : Nat} {data : SReqData}
      (found : (withObject controller addr state).requests.lookup address =
        some data) :
      data = { owner := state.nextOwner, creator := controller } := by
    rw [lookup_withObject, none] at found
    split at found
    · cases found
      rfl
    · cases found
  have nothing := inv.objects.held_eq_nil started.calling.sending
  refine ⟨exchange_keeps_sender
    ⟨inv.objects.newReqData started.calling.sending none controller addr,
      fun entry _ progress => ?_, fun address data found _ => ?_,
      fun _ address data found held => ?_, inv.good⟩
    (receiverTolerates_of_nothing nothing rfl rfl (.refl _ _)),
    ⟨started.calling.sending, by simp [State.objects, none]⟩,
    ⟨started.inCall.opened, started.inCall.marks⟩, free, _, here, rfl, rfl⟩
  · exact absurd progress (@not_inProgress
      (withObject controller addr state) started.calling.sending _)
  · rw [only found]
    exact .inl ⟨rfl, started.silent, fun _ => rfl⟩
  · have impossible : data.owner ∈ state.held := held
    rw [nothing] at impossible
    cases impossible

theorem watched_deleteReqData
    (inv : ExchangeInv aim state)
    (calling : Calling [] [(pointer.addr, pointer.owner)] state)
    (choice : Choice) :
    let later := (watched controller (.deleteReqData pointer) choice state).2
    (exchangeProtocol aim).Keeps controller state later ∧
      Calling [] [] later ∧ later.log = state.log := by
  obtain ⟨⟨addr, data⟩, one, same⟩ :=
    List.map_eq_singleton_iff.mp calling.objects
  obtain ⟨rfl, -⟩ := Prod.mk.inj same
  have none : (state.deleteReqData pointer).requests = [] := by
    simp [State.deleteReqData, one]
  have later : Calling [] [] (state.deleteReqData pointer) := by
    refine ⟨calling.sending, ?_⟩
    unfold State.objects
    rw [none]
    rfl
  exact ⟨exchange_keeps_sender
    (inv_of_idle (inv.objects.deleteReqData calling.sending none) later
      inv.good)
    (receiverTolerates_of_nothing (inv.objects.held_eq_nil calling.sending)
      rfl rfl (.refl _ _)), later, rfl⟩

/-! ## A call in progress -/

theorem settled_congr
    {data : SReqData}
    (settled : Settled aim data before)
    (serial : after.serial = before.serial)
    (buffers : after.buffers = before.buffers)
    (log : Grows (Settling aim) before.log after.log) :
    Settled aim data after :=
  settled.later serial buffers log rfl rfl id

theorem watched_enterSend
    (inv : ExchangeInv aim state)
    (calling : Calling [] objects state)
    (fresh : Fresh pointer state)
    (choice : Choice) :
    let later := (watched controller (.enterSend pointer) choice state).2
    (exchangeProtocol aim).Keeps controller state later ∧
      Calling [(controller, pointer.owner)] objects later ∧
      later.log = state.log ∧ Fresh pointer later := by
  have nothing := inv.objects.held_eq_nil calling.sending
  refine ⟨exchange_keeps_sender
    ⟨inv.objects.enterSend calling.sending fresh.1 controller,
      fun entry member progress => ?_,
      fun addr data found free => settled_congr
        (inv.settled addr data found free) rfl rfl (.refl _ _),
      inv.guarded, inv.good⟩
    (receiverTolerates_of_nothing nothing rfl rfl (.refl _ _)),
    ⟨by simp [watched, exec, calling.sending], calling.objects⟩, rfl, fresh⟩
  have same : entry.2.owner = pointer.owner := by
    simpa [InProgress, watched, exec, calling.sending] using progress
  refine absurd (.inl ?_) fresh.1
  rw [← same]
  exact List.mem_map_of_mem member

/-- The call returns while the receiver does not hold its object. -/
theorem watched_leaveSend
    (inv : ExchangeInv aim state)
    (calling : Calling [(controller, pointer.owner)] objects state)
    (free : pointer.owner ∉ state.held)
    (choice : Choice) :
    let later := (watched controller (.leaveSend pointer) choice state).2
    (exchangeProtocol aim).Keeps controller state later ∧
      Calling [] objects later := by
  have nothing := inv.objects.held_eq_nil_of_free calling.sending free
  have ended : (watched controller (.leaveSend pointer) choice
      state).2.sending = [] := by
    simp [watched, exec, calling.sending]
  refine ⟨exchange_keeps_sender
    ⟨inv.objects.leaveSend calling.sending free,
      fun entry _ progress => absurd progress (not_inProgress ended _),
      fun addr data found unheld => settled_congr
        (inv.settled addr data found unheld) rfl rfl (.refl _ _),
      inv.guarded, inv.good⟩
    (receiverTolerates_of_nothing nothing rfl rfl (.refl _ _)),
    ended, calling.objects⟩

/-- The request is registered with a note, or its number is taken. -/
theorem watched_reqStorAdd
    (inv : ExchangeInv aim state)
    (calling : Calling [(controller, pointer.owner)] objects state)
    (inCall : InCall [] state)
    (fresh : Fresh pointer state)
    (seqNum : Nat)
    (choice : Choice) :
    let outcome :=
      watched controller (.reqStorAdd seqNum pointer) choice state
    (exchangeProtocol aim).Keeps controller state outcome.2 ∧
      Calling [(controller, pointer.owner)] objects outcome.2 ∧
      InCall (if outcome.1 = 0 then [.registered seqNum] else [])
        outcome.2 := by
  have nothing := inv.objects.held_eq_nil_of_free calling.sending
    fun held => fresh.1 (.inr held)
  dsimp only
  rcases watched_reqStorAdd_cases controller choice state seqNum pointer with
    added | refused
  · rw [added]
    let registered : State :=
      { state with mapReq := (seqNum, pointer) :: state.mapReq }
    have log : Grows (Settling aim) state.log
        (registered.note (.registered seqNum)).log :=
      grows_note ⟨rfl, fun _ => rfl⟩ registered
    have during := Brackets.current_grows log fun _ settling => settling.1
    have inner : Grows calls.Inner state.log
        (registered.note (.registered seqNum)).log :=
      grows_note ⟨rfl, rfl⟩ registered
    have add : ObjectsInv registered := inv.objects.reqStorAdd fresh seqNum
    refine ⟨exchange_keeps_sender
      ⟨add.congr rfl rfl rfl rfl rfl, fun entry member progress => ?_,
        fun addr data found free => settled_congr
          (inv.settled addr data found free) rfl rfl log,
        inv.guarded, fun agreement => (inv.good agreement).cons rfl⟩
      (receiverTolerates_of_nothing nothing rfl rfl
        (grows_note (by rfl) registered)),
      ⟨calling.sending, calling.objects⟩, ?_, ?_⟩
    · rcases List.mem_cons.mp member with rfl | earlier
      · refine mem_of_mem_marks (?_ : _ ∈ marks (_ :: _))
        rw [marks_cons rfl rfl]
        exact List.mem_cons_self
      · exact during.mem (inv.numbered entry earlier progress)
    · exact inCall.opened.grows inner fun _ => id
    · exact (marks_cons rfl rfl state.log).trans
        (congrArg (_ :: ·) inCall.marks)
  · rw [refused]
    have mild : Mild Event.IsPlain state (state.note (.storRefused seqNum
        (state.sending.length - 1))) :=
      ⟨rfl, rfl, rfl, rfl, rfl, rfl, rfl, grows_note ⟨rfl, rfl⟩ state⟩
    refine ⟨exchange_keeps_sender (mild.quiet.inv inv)
        (mild.receiverTolerates fun _ => List.prefix_refl _),
      ⟨calling.sending, calling.objects⟩, ?_, ?_⟩
    · exact inCall.opened.grows mild.log fun _ plain => Event.inner plain.1
    · exact (marks_unmarked (mild.log.mono fun _ plain => plain.1)).trans
        inCall.marks

/-- A request that `sms112_tcp_send` takes for sent was sent, for completion
to its end. -/
theorem watched_send_sentBy
    {data : Octets}
    (choice : Choice)
    (inTurn : InTurn aim controller (.send data) choice state)
    (success : equalsUnsigned
        (watched controller (.send data) choice state).1.1 data.length ∨
      (watched controller (.send data) choice state).1.2 = 0) :
    SentBy aim data (watched controller (.send data) choice state).2 := by
  intro small
  dsimp only [watched, exec, InTurn] at inTurn success ⊢
  rcases state.send_cases controller choice data with
    ⟨serial, current, -, equal⟩ | failed
  · rw [equal] at inTurn success ⊢
    refine ⟨serial, min choice.ret.toNat data.length, current, ?_,
      fun completion => ?_⟩
    · change _ ∈ calls.current (_ :: _)
      rw [current_cons rfl]
      exact List.mem_cons_self
    · have whole : equalsUnsigned
          ((min choice.ret.toNat data.length : Nat) : Int) data.length := by
        rcases success with whole | noError
        · exact whole
        · exact (inTurn completion).resolve_right (absurd noError)
      rw [equalsUnsigned_natCast (by omega)] at whole
      exact of_decide_eq_true whole
  · rw [failed] at success
    rcases success with whole | noError
    · have size : ((-1 : Int) % 2 ^ 32) = data.length :=
        of_decide_eq_true whole
      omega
    · exact absurd noError choice.failure_ne_zero

/-! ## The wait -/

/-- The object of the call. -/
theorem Calling.found
    (calling : Calling sending [(pointer.addr, pointer.owner)] state) :
    ∃ data, state.request pointer = some data ∧
      data.owner = pointer.owner := by
  obtain ⟨⟨addr, data⟩, one, same⟩ :=
    List.map_eq_singleton_iff.mp calling.objects
  obtain ⟨rfl, owner⟩ := Prod.mk.inj same
  refine ⟨data, ?_, owner⟩
  unfold State.request
  rw [one]
  exact List.lookup_cons_self

/-- The wait may lock the mutex, and nothing else. -/
structure KeepsContents (change : SReqData → SReqData) : Prop where
  owner : ∀ data, (change data).owner = data.owner
  buf : ∀ data, (change data).buf = data.buf
  dataLen : ∀ data, (change data).dataLen = data.dataLen
  locked : ∀ data, data.locked → (change data).locked

theorem updateRequest_id (pointer : ReqPtr) (state : State) :
    state.updateRequest pointer id = state := by
  have same : (state.requests.map fun entry =>
      if entry.1 = pointer.addr then (entry.1, id entry.2) else entry) =
      state.requests := by
    refine List.map_id'' (fun entry => ?_) state.requests
    split <;> rfl
  unfold State.updateRequest
  rw [same]

/-- An object after the wait, and what it was before. -/
theorem lookup_keepsContents
    {change : SReqData → SReqData}
    (keeps : KeepsContents change)
    {addr : Nat}
    {later : SReqData}
    (found : (state.updateRequest pointer change).requests.lookup addr =
      some later) :
    ∃ data, state.requests.lookup addr = some data ∧
      later.owner = data.owner ∧ later.buf = data.buf ∧
      later.dataLen = data.dataLen ∧ (data.locked → later.locked) := by
  rw [state.lookup_updateRequest] at found
  split at found
  next here =>
    obtain ⟨data, before, rfl⟩ := Option.map_eq_some_iff.mp found
    exact ⟨data, before, keeps.owner data, keeps.buf data,
      keeps.dataLen data, keeps.locked data⟩
  next elsewhere => exact ⟨later, found, rfl, rfl, rfl, id⟩

/-- An object before the wait, and what becomes of it. -/
theorem lookup_of_keepsContents
    {change : SReqData → SReqData}
    (keeps : KeepsContents change)
    {addr : Nat}
    {data : SReqData}
    (found : state.requests.lookup addr = some data) :
    ∃ later,
      (state.updateRequest pointer change).requests.lookup addr =
          some later ∧
        later.owner = data.owner ∧ later.buf = data.buf ∧
        later.dataLen = data.dataLen := by
  have later := state.lookup_updateRequest pointer change addr
  rw [found] at later
  split at later
  next here =>
    exact ⟨_, later, keeps.owner data, keeps.buf data, keeps.dataLen data⟩
  next elsewhere => exact ⟨_, later, rfl, rfl, rfl⟩

/-- The end of the wait is noted. -/
theorem note_waited
    (inv : ExchangeInv aim state)
    (calling : Calling sending objects state)
    {marked : List Event}
    (inCall : InCall marked state)
    {change : SReqData → SReqData}
    (keeps : KeepsContents change) :
    let later := (state.updateRequest pointer change).note .waited
    (exchangeProtocol aim).Keeps controller state later ∧
      Calling sending objects later ∧ InCall (.waited :: marked) later := by
  have objectsInv : ObjectsInv (state.updateRequest pointer change) :=
    inv.objects.update pointer change keeps.owner (List.Sublist.refl _)
      fun data _ _ empty => (keeps.dataLen data).trans empty
  have log : Grows (Settling aim) state.log
      ((state.updateRequest pointer change).note .waited).log :=
    grows_note ⟨rfl, fun _ => rfl⟩ (state.updateRequest pointer change)
  have inner : Grows (fun event => calls.Inner event ∧ Unread event)
      state.log ((state.updateRequest pointer change).note .waited).log :=
    grows_note ⟨⟨rfl, rfl⟩, rfl⟩ (state.updateRequest pointer change)
  refine ⟨exchange_keeps_sender
    ⟨objectsInv.congr rfl rfl rfl rfl rfl, fun entry member progress => ?_,
      fun addr later found free => ?_,
      fun completion addr later found held => ?_,
      fun agreement => (inv.good agreement).cons rfl⟩
    ⟨rfl, fun _ => List.prefix_refl _, inner.mono fun _ holds => holds.2,
      fun _ => ⟨rfl, rfl, fun addr data found =>
        lookup_of_keepsContents keeps found,
        inner.mono fun _ holds => ⟨holds.1.1, holds.2⟩⟩⟩,
    ⟨calling.sending, ?_⟩,
    inCall.opened.grows inner fun _ holds => holds.1,
    (marks_cons rfl rfl state.log).trans
      (congrArg (_ :: ·) inCall.marks)⟩
  · exact (Brackets.current_grows log fun _ settling => settling.1).mem
      (inv.numbered entry member progress)
  · obtain ⟨data, before, owner, buf, dataLen, locked⟩ :=
      lookup_keepsContents keeps found
    rw [owner] at free
    exact (inv.settled addr data before free).later rfl rfl log buf dataLen
      locked
  · obtain ⟨data, before, owner, -, -, locked⟩ :=
      lookup_keepsContents keeps found
    rw [owner] at held
    exact locked (inv.guarded completion addr data before held)
  · exact (objects_updateRequest keeps.owner).trans calling.objects

/-- When the wait ends, a response that came in time is in the object. For
completion it ends with 0 only if a response is. -/
theorem watched_timedLockReq
    (inv : ExchangeInv aim state)
    (calling : Calling sending [(pointer.addr, pointer.owner)] state)
    {marked : List Event}
    (inCall : InCall marked state)
    (deadline : Timespec)
    (choice : Choice)
    (free : aim = .agreement → pointer.owner ∉ state.held) :
    let outcome :=
      watched controller (.timedLockReq pointer deadline) choice state
    (exchangeProtocol aim).Keeps controller state outcome.2 ∧
      Calling sending [(pointer.addr, pointer.owner)] outcome.2 ∧
      InCall (.waited :: marked) outcome.2 ∧
      (aim = .agreement → Early outcome.2.log →
        HasLength pointer outcome.2) ∧
      (aim = .completion → outcome.1 = 0 → HasLength pointer outcome.2) := by
  obtain ⟨data, found, owner⟩ := calling.found
  have hasLength {change : SReqData → SReqData} (keeps : KeepsContents change)
      (nonzero : data.dataLen ≠ 0) :
      HasLength pointer ((state.updateRequest pointer change).note
        .waited) := by
    obtain ⟨later, after, -, -, dataLen⟩ :=
      lookup_of_keepsContents keeps found
    exact ⟨later, after, dataLen ▸ nonzero⟩
  have early (agreement : aim = .agreement) (late : ¬Silent state.log) :
      data.dataLen ≠ 0 := by
    rcases inv.settled _ data found (owner ▸ free agreement) with
      vacant | ⟨_, _, _, delivered, -⟩
    · exact absurd (vacant.silent agreement) late
    · exact delivered.nonzero
  dsimp only
  rcases watched_timedLockReq_cases controller choice state pointer
    deadline with ⟨data', found', unlocked, woken⟩ | ⟨ret, failed, ended⟩
  · rw [woken]
    have keeps : KeepsContents fun data => { data with locked := true } :=
      ⟨fun _ => rfl, fun _ => rfl, fun _ => rfl, fun _ _ => rfl⟩
    obtain ⟨kept, callingLater, inCallLater⟩ :=
      note_waited inv calling inCall keeps
    refine ⟨kept, callingLater, inCallLater, fun agreement isEarly =>
      hasLength keeps (early agreement ((early_waited _).mp isEarly)),
      fun completion _ => hasLength keeps ?_⟩
    obtain rfl : data' = data := Option.some.inj (found'.symm.trans found)
    have open_mutex : ¬data'.locked := Bool.eq_false_iff.mp unlocked
    by_cases held : data'.owner ∈ state.held
    · exact absurd (inv.guarded completion _ data' found held) open_mutex
    · rcases inv.settled _ data' found held with
        vacant | ⟨_, _, _, delivered, -⟩
      · exact absurd (vacant.locked completion) open_mutex
      · exact delivered.nonzero
  · rw [ended]
    have keeps : KeepsContents id :=
      ⟨fun _ => rfl, fun _ => rfl, fun _ => rfl, fun _ => id⟩
    have unchanged := updateRequest_id pointer state
    obtain ⟨kept, callingLater, inCallLater⟩ :=
      @note_waited aim state pointer _ _ inv calling _ inCall id keeps
    rw [unchanged] at kept callingLater inCallLater
    refine ⟨kept, callingLater, inCallLater, fun agreement isEarly => ?_,
      fun _ success => absurd success failed⟩
    have length := hasLength keeps
      (early agreement ((early_waited _).mp isEarly))
    rwa [unchanged] at length

/-- The wait changes nothing about what was sent. -/
theorem SentBy.timedLockReq
    {data : Octets}
    (sent : SentBy aim data state)
    (deadline : Timespec)
    (choice : Choice) :
    SentBy aim data (watched controller (.timedLockReq pointer deadline)
      choice state).2 := by
  intro small
  obtain ⟨serial, accepted, current, member, whole⟩ := sent small
  rcases watched_timedLockReq_cases controller choice state pointer
    deadline with ⟨_, -, -, woken⟩ | ⟨_, -, ended⟩
  · rw [woken]
    refine ⟨serial, accepted, current, ?_, whole⟩
    change _ ∈ calls.current (_ :: _)
    rw [current_cons rfl]
    exact .tail _ member
  · rw [ended]
    refine ⟨serial, accepted, current, ?_, whole⟩
    change _ ∈ calls.current (_ :: _)
    rw [current_cons rfl]
    exact .tail _ member

/-! ## The response -/

/-- What the sender reads when its call has returned: nothing, or the response
that was received for it. -/
structure Reading (seqNum : Nat) (buffer : Octets) (state : State) : Prop where
  early : ∀ serial answer, .received serial answer ∈
    beforeWaited (calls.current state.log) → IsResponse answer →
      answer = buffer
  answer : headerLength ≤ buffer.length → ∃ serial,
    state.serial = some serial ∧
    .received serial buffer ∈ calls.current state.log ∧ IsResponse buffer ∧
    word buffer 12 = seqNum

theorem reading_stable (seqNum : Nat) (buffer : Octets) :
    (exchangeProtocol aim).Stable controller (Reading seqNum buffer) := by
  rintro before after - ⟨early, answer⟩ rely -
  have rely : SenderRely aim before after := rely
  have during := current_unmarked rely.log
  refine ⟨?_, fun long => ?_⟩
  · rw [beforeWaited_unmarked during]
    exact early
  · obtain ⟨serial, current, received, isAnswer, number⟩ := answer long
    exact ⟨serial, rely.serial.trans current, during.mem received, isAnswer,
      number⟩

/-- The number of the current call. -/
theorem InCall.number_eq
    {seqNum number : Nat}
    (inCall : InCall [.waited, .registered seqNum] state)
    (member : .registered number ∈ calls.current state.log) :
    number = seqNum := by
  have marked := mem_marks rfl member
  rw [inCall.marks] at marked
  simpa using marked

theorem readReqData_reading
    (inv : ExchangeInv .agreement state)
    (calling : Calling [] [(pointer.addr, pointer.owner)] state)
    {seqNum : Nat}
    (inCall : InCall [.waited, .registered seqNum] state) :
    Reading seqNum (state.readReqData pointer) state := by
  obtain ⟨data, found, -⟩ := calling.found
  have free : data.owner ∉ state.held := by
    rw [inv.objects.held_eq_nil calling.sending]
    exact List.not_mem_nil
  have inside {event : Event}
      (member : event ∈ beforeWaited (calls.current state.log)) :
      event ∈ calls.current state.log :=
    (List.dropWhile_suffix _).subset member
  rcases inv.settled _ data found free with
    vacant | ⟨serial, header, response, delivered, matching⟩
  · have silent := vacant.silent rfl
    have empty : state.readReqData pointer = [] := by
      rw [State.readReqData_eq found, State.contents_eq_nil]
      rw [vacant.empty]
      rfl
    rw [empty]
    refine ⟨fun serial answer member isAnswer => ?_, nofun⟩
    have noAnswer := silent _ (inside member)
    exact absurd isAnswer (of_decide_eq_false noAnswer)
  · have matching := matching rfl
    rw [delivered.readReqData found]
    refine ⟨fun other answer member isAnswer => ?_, fun long => ?_⟩
    · have same := matching.only _ (inside member) (decide_eq_true isAnswer)
      exact (Event.received.inj same).2
    · refine ⟨serial, matching.current, ?_,
        matching.isAnswer delivered long, ?_⟩
      · obtain ⟨earlier, grows, -⟩ := delivered.behind
        refine (Brackets.current_grows grows fun _ inner => inner).mem ?_
        rw [current_cons rfl]
        exact List.mem_cons_self
      · have same := ofOctets_of_begins matching.size matching.begins long
        have number := congrArg SPDUHdr.sequenceNumber same
        exact number.trans (inCall.number_eq matching.number)

end Exchange

end Sms112
