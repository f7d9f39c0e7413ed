import Sms112.Exchange.Protocol

/-!
# What the receiver does to an exchange

The receiver sees the header of the next PDU, takes the request with its number
out of the store, receives the response into a new buffer, stores its length
and unlocks the mutex of the waiting thread. Each step re-establishes the
invariant, the sender tolerates it, and the receiver learns what its next step
needs.
-/

namespace Sms112

open Resumption History

namespace Exchange

variable {aim : Aim} {before after state : State} {pointer : ReqPtr}
variable {header : Octets}

/-! ## What the receiver knows -/

/-- The receiver holds nothing. -/
def HoldsNothing (state : State) : Prop :=
  state.held = []

/-- A whole header was seen, and it is still at the front of its stream. -/
def Seen (header : Octets) (state : State) : Prop :=
  header.length = headerLength ∧
    ∃ serial, lastPeek state.log = some (serial, header) ∧
      header <+: state.inbound serial

/-- The receiver fills the object and holds no other. -/
structure Filling (pointer : ReqPtr) (fill : SReqData → State → Prop)
    (state : State) : Prop where
  held : state.held = [pointer.owner]
  object : ∃ data, state.request pointer = some data ∧
    data.owner = pointer.owner ∧ fill data state

/-- Nothing was received into the object, and its request has the number in
the header. -/
structure Blank (aim : Aim) (header : Octets) (data : SReqData)
    (state : State) : Prop where
  empty : data.dataLen = 0
  silent : aim = .agreement → Silent state.log
  seen : Seen header state
  number : .registered (SPDUHdr.ofOctets header).sequenceNumber ∈
    calls.current state.log

/-- A pointer of `malloc` is null or points to a block. -/
def Allocated (buf : Option Nat) (state : State) : Prop :=
  ∀ address ∈ buf, (state.buffers.lookup address).isSome

/-- With this length, and with the mutex unlocked, the object is settled. -/
def SettledWith (aim : Aim) (dataLen : Int) (data : SReqData)
    (state : State) : Prop :=
  Settled aim { data with dataLen := dataLen, locked := false } state

/-- The object is settled and may be unlocked. -/
def Ready (aim : Aim) (data : SReqData) (state : State) : Prop :=
  SettledWith aim data.dataLen data state

/-- The object is given its length. -/
theorem SettledWith.ready
    {data : SReqData}
    {dataLen : Int}
    {change : SReqData → SReqData}
    (settled : SettledWith aim dataLen data state) :
    Ready aim { data with dataLen := dataLen }
      (state.updateRequest pointer change) :=
  Settled.later settled rfl rfl (.refl _ _) rfl rfl id

/-- Behind `recv` the object can be given the length of the response if it was
received whole, and else be left as it is. -/
structure AfterRecv (aim : Aim) (size : Nat) (whole : Prop) (data : SReqData)
    (state : State) : Prop where
  onSuccess : whole → SettledWith aim (int32 size) data state
  onFailure : ¬whole → Ready aim data state

/-- What is known of an object and lasts while the receiver fills it. -/
def Lasts (fill : SReqData → State → Prop) : Prop :=
  ∀ before after data later, ReceiverTolerates before after →
    LeavesObjects before after → later.buf = data.buf →
      later.dataLen = data.dataLen → fill data before → fill later after

section Stability

theorem Seen.later
    (seen : Seen header before)
    (rely : ReceiverTolerates before after) :
    Seen header after := by
  obtain ⟨size, serial, peeked, front⟩ := seen
  exact ⟨size, serial, (lastPeek_grows rely.log).trans peeked,
    front.trans (rely.inbound serial)⟩

theorem holdsNothing_stable :
    (exchangeProtocol aim).Stable .receiver HoldsNothing := by
  rintro before after - nothing rely -
  have rely : ReceiverTolerates before after := rely
  exact rely.held.trans nothing

theorem seen_stable (condition : Prop) :
    (exchangeProtocol aim).Stable .receiver fun state =>
      HoldsNothing state ∧ (condition → Seen header state) := by
  rintro before after invBefore ⟨nothing, seen⟩ rely invAfter
  refine ⟨holdsNothing_stable before after invBefore nothing rely invAfter,
    fun holds => ?_⟩
  have rely : ReceiverTolerates before after := rely
  exact (seen holds).later rely

theorem filling_stable
    {fill : SReqData → State → Prop}
    (lasts : Lasts fill) :
    (exchangeProtocol aim).Stable .receiver (Filling pointer fill) := by
  rintro before after - ⟨held, data, found, owner, filled⟩ rely -
  have rely : ReceiverTolerates before after := rely
  have still := rely.still (by rw [held]; exact List.cons_ne_nil _ _)
  obtain ⟨later, foundLater, ownerLater, buf, dataLen⟩ :=
    still.object pointer.addr data found
  exact ⟨rely.held.trans held, later, foundLater, ownerLater.trans owner,
    lasts before after data later rely still buf dataLen filled⟩

theorem blank_lasts : Lasts (Blank aim header) := by
  rintro before after data later rely still - dataLen
    ⟨empty, silent, seen, number⟩
  refine ⟨dataLen.trans empty, fun agreement => ?_, seen.later rely, ?_⟩
  · exact (silent agreement).grows still.log (fun _ inside => inside.1)
      fun _ inside => Event.not_isAnswer inside.2
  · exact (Brackets.current_grows still.log fun _ inside => inside.1).mem
      number

theorem allocated_lasts (buf : Option Nat) :
    Lasts fun _ state => Allocated buf state := by
  intro before after data later _ still _ _ allocated address member
  rw [still.buffers]
  exact allocated address member

theorem buf_lasts (buf : Option Nat) :
    Lasts fun data _ => data.buf = buf :=
  fun _ _ _ _ _ _ same _ points => same.trans points

theorem settledWith_lasts (dataLen : Int) :
    Lasts (SettledWith aim dataLen) := by
  intro before after data later _ still buf _ settled
  refine Settled.later settled still.serial still.buffers
    (still.log.mono fun event inside => ?_) buf rfl id
  exact ⟨inside.1, fun _ => Event.not_isAnswer inside.2⟩

theorem ready_lasts : Lasts (Ready aim) := by
  intro before after data later rely still buf dataLen ready
  unfold Ready
  rw [dataLen]
  exact settledWith_lasts data.dataLen before after data later rely still buf
    dataLen ready

theorem afterRecv_lasts (size : Nat) (whole : Prop) :
    Lasts (AfterRecv aim size whole) := by
  intro before after data later rely still buf dataLen received
  exact ⟨fun success => settledWith_lasts _ before after data later rely
      still buf dataLen (received.onSuccess success),
    fun failure => ready_lasts before after data later rely still buf dataLen
      (received.onFailure failure)⟩

theorem Lasts.conj
    {first second : SReqData → State → Prop}
    (firstLasts : Lasts first)
    (secondLasts : Lasts second) :
    Lasts fun data state => first data state ∧ second data state :=
  fun before after data later rely still buf dataLen holds =>
    ⟨firstLasts before after data later rely still buf dataLen holds.1,
      secondLasts before after data later rely still buf dataLen holds.2⟩

end Stability

/-! ## The object the receiver holds is the only one -/

section Filling

variable {fill : SReqData → State → Prop}

theorem Filling.imp
    {later : SReqData → State → Prop}
    (filling : Filling pointer fill state)
    (implies : ∀ data, fill data state → later data state) :
    Filling pointer later state := by
  obtain ⟨held, data, found, owner, filled⟩ := filling
  exact ⟨held, data, found, owner, implies data filled⟩

/-- The receiver holds every object. -/
theorem Filling.owner
    (filling : Filling pointer fill state)
    (inv : ObjectsInv state)
    {addr : Nat}
    {data : SReqData}
    (found : state.requests.lookup addr = some data) :
    data.owner ∈ state.held := by
  obtain ⟨held, data', found', owner, -⟩ := filling
  rw [(inv.same found found').2, owner, held]
  exact List.mem_singleton_self _

/-- While an object is filled, a call is in progress. -/
theorem Filling.sending_ne_nil
    (filling : Filling pointer fill state)
    (inv : ObjectsInv state) :
    state.sending ≠ [] := by
  intro none
  have nothing := inv.held_eq_nil none
  rw [filling.held] at nothing
  cases nothing

/-- A step of the receiver that fills its object. -/
theorem Filling.keeps
    {later : SReqData → State → Prop}
    (inv : ExchangeInv aim before)
    (filling : Filling pointer fill before)
    (fillingLater : Filling pointer later after)
    (objectsInv : ObjectsInv after)
    (serial : after.serial = before.serial)
    (mapReq : after.mapReq = before.mapReq)
    (sending : after.sending = before.sending)
    (held : after.held = before.held)
    (objects : after.objects = before.objects)
    (locked : ∀ addr data, after.requests.lookup addr = some data →
      ∃ addr' data', before.requests.lookup addr' = some data' ∧
        data'.owner = data.owner ∧ (data'.locked → data.locked))
    (filled : ∀ addr data, before.requests.lookup addr = some data →
      data.dataLen ≠ 0 → ∃ later, after.requests.lookup addr = some later ∧
        later.dataLen ≠ 0)
    (log : Grows Unmarked before.log after.log) :
    (exchangeProtocol aim).Keeps .receiver before after := by
  refine exchange_keeps_receiver
    ⟨objectsInv, fun entry member progress => ?_,
      fun addr data found free =>
        absurd (fillingLater.owner objectsInv found) free,
      fun completion addr data found isHeld => ?_,
      fun agreement => (inv.good agreement).grows log
        fun _ noMark => (Event.inner noMark).2⟩
    ⟨serial, sending, objects, fun _ linked => linked.congr mapReq held,
      fun addr data found free =>
        absurd (.inr (filling.owner inv.objects found)) free,
      filled, log, fun _ idle =>
        absurd idle (filling.sending_ne_nil inv.objects)⟩
  · rw [mapReq] at member
    unfold InProgress at progress
    rw [sending] at progress
    exact (current_unmarked log).mem (inv.numbered entry member progress)
  · obtain ⟨addr', data', found', owner, stays⟩ := locked addr data found
    rw [held, ← owner] at isHeld
    exact stays (inv.guarded completion addr' data' found' isHeld)

/-- A change of the object the receiver holds. -/
theorem Filling.update
    {later : SReqData → State → Prop}
    (inv : ExchangeInv aim state)
    (filling : Filling pointer fill state)
    (change : SReqData → SReqData)
    (owner : ∀ data, (change data).owner = data.owner)
    (locked : ∀ data, (change data).locked = data.locked)
    (filled : ∀ data, state.request pointer = some data → fill data state →
      data.dataLen ≠ 0 → (change data).dataLen ≠ 0)
    (fills : ∀ data, fill data state →
      later (change data) (state.updateRequest pointer change)) :
    (exchangeProtocol aim).Keeps .receiver state
        (state.updateRequest pointer change) ∧
      Filling pointer later (state.updateRequest pointer change) := by
  have objectsInv : ObjectsInv (state.updateRequest pointer change) := by
    refine inv.objects.update pointer change owner (List.Sublist.refl _) ?_
    intro data found registered
    exact absurd registered
      (inv.objects.not_registered (filling.owner inv.objects found))
  have lookup (addr : Nat) :=
    state.lookup_updateRequest pointer change addr
  obtain ⟨data, found, same, isFilled⟩ := filling.object
  have here : (state.updateRequest pointer change).requests.lookup
      pointer.addr = some (change data) := by
    rw [lookup, if_pos rfl, show state.requests.lookup pointer.addr = _ from
      found]
    rfl
  have fillingLater : Filling pointer later
      (state.updateRequest pointer change) :=
    ⟨filling.held, change data, here, (owner data).trans same,
      fills data isFilled⟩
  refine ⟨filling.keeps inv fillingLater objectsInv rfl rfl rfl rfl
    (objects_updateRequest owner) (fun addr changed after => ?_)
    (fun addr before foundBefore nonzero => ?_) (.refl _ _), fillingLater⟩
  · obtain ⟨-, rfl⟩ := objectsInv.same after here
    exact ⟨pointer.addr, data, found, (owner data).symm,
      fun isLocked => (locked data).trans isLocked⟩
  · obtain ⟨rfl, rfl⟩ := inv.objects.same foundBefore found
    exact ⟨change before, here, filled before found isFilled nonzero⟩

end Filling

/-! ## The header -/

/-- A whole header is seen, or nothing is learned. -/
theorem watched_peek
    (inv : ExchangeInv aim state)
    (nothing : HoldsNothing state)
    (choice : Choice) :
    let outcome := watched .receiver (.peek headerLength) choice state
    (exchangeProtocol aim).Keeps .receiver state outcome.2 ∧
      HoldsNothing outcome.2 ∧
      (equalsUnsigned outcome.1.1 headerLength →
        Seen outcome.1.2 outcome.2) := by
  dsimp only
  rcases watched_peek_cases .receiver choice state headerLength with
    ⟨serial, count, current, inSize, inStream, seen⟩ | ⟨ret, none, unseen⟩
  · rw [seen]
    have mild : Mild (Quiet aim) state
        ((state.useSocket .receiver serial).note
          (.peeked serial ((state.inbound serial).take count))) :=
      ⟨rfl, rfl, rfl, rfl, rfl, rfl, rfl,
        grows_note ⟨rfl, fun _ => rfl⟩ (state.useSocket .receiver serial)⟩
    refine ⟨exchange_keeps_receiver (mild.inv inv) mild.senderRely, nothing,
      fun whole => ?_⟩
    have bound : count < 2 ^ 32 := by
      unfold headerLength at inSize
      omega
    rw [equalsUnsigned_natCast bound] at whole
    obtain rfl : count = headerLength := of_decide_eq_true whole
    exact ⟨List.length_take_of_le inStream, serial, rfl,
      List.take_prefix _ _⟩
  · rw [unseen]
    have mild : Mild (Quiet aim) state state := .refl _ _
    refine ⟨exchange_keeps_receiver (mild.inv inv) mild.senderRely, nothing,
      fun whole => ?_⟩
    rcases none with rfl | rfl <;> cases whole

/-! ## A response -/

/-- What the receiver knows once it has looked the number up. -/
def TakenOut (aim : Aim) (header : Octets) (found : Option ReqPtr)
    (state : State) : Prop :=
  match found with
  | some pointer => Filling pointer (Blank aim header) state
  | none => HoldsNothing state

theorem takenOut_stable (found : Option ReqPtr) :
    (exchangeProtocol aim).Stable .receiver (TakenOut aim header found) := by
  cases found with
  | none => exact holdsNothing_stable
  | some pointer => exact filling_stable blank_lasts

/-- The request of the current call is taken out of the store. -/
theorem watched_reqStorGetAndRem
    (inv : ExchangeInv aim state)
    (nothing : HoldsNothing state)
    (seen : Seen header state)
    (choice : Choice)
    (inProgress : ∀ pointer ∈ (reqStorGetAndRem state.mapReq
      (SPDUHdr.ofOctets header).sequenceNumber).1,
        InProgress state pointer.owner) :
    let outcome := watched .receiver
      (.reqStorGetAndRem (SPDUHdr.ofOctets header).sequenceNumber) choice
      state
    (exchangeProtocol aim).Keeps .receiver state outcome.2 ∧
      TakenOut aim header outcome.1 outcome.2 := by
  dsimp only [watched, exec]
  unfold State.storGetAndRem
  rcases reqStorGetAndRem_cases state.mapReq
    (SPDUHdr.ofOctets header).sequenceNumber with
    missing | ⟨pointer, member, found⟩
  · rw [missing]
    have mild : Mild (Quiet aim) state state := .refl _ _
    exact ⟨exchange_keeps_receiver (mild.inv inv) mild.senderRely, nothing⟩
  · rw [found] at inProgress ⊢
    have progress := inProgress pointer rfl
    have objectsInv :=
      inv.objects.reqStorGetAndRem nothing member progress
    obtain ⟨data, live, owner, empty⟩ :=
      inv.objects.waiting _ member progress
    have free : data.owner ∉ state.held := by
      rw [show state.held = [] from nothing]
      exact List.not_mem_nil
    -- the object is registered, so nothing was received into it
    have vacant : Vacant aim data state := by
      rcases inv.settled _ data live free with
        vacant | ⟨_, _, _, delivered, -⟩
      · exact vacant
      · exact absurd empty delivered.nonzero
    refine ⟨exchange_keeps_receiver
      ⟨objectsInv, fun entry inside => inv.numbered entry
          (List.mem_of_mem_filter inside),
        fun addr data found unheld => (inv.settled addr data found
          fun held => unheld (.tail _ held)).later rfl rfl (.refl _ _) rfl
            rfl id,
        fun completion addr data' found' _ => ?_, inv.good⟩
      ⟨rfl, rfl, rfl, fun owner linked => ?_, fun _ _ live _ => live,
        fun _ data live nonzero => ⟨data, live, nonzero⟩, .refl _ _,
        fun _ _ => .refl _ _⟩,
      by rw [show state.held = [] from nothing], data, live, owner, empty,
      vacant.silent, seen, inv.numbered _ member progress⟩
    · rw [(inv.objects.same found' live).2]
      exact vacant.locked completion
    · rcases linked with registered | held
      · exact .inl (mem_erase_of_mem_owners registered)
      · rw [show state.held = [] from nothing, List.mem_singleton] at held
        rw [held]
        exact .inl (List.mem_map_of_mem member)

/-- Memory for the response. -/
theorem watched_malloc
    (inv : ExchangeInv aim state)
    (filling : Filling pointer (Blank aim header) state)
    (size : Nat)
    (choice : Choice) :
    let outcome := watched .receiver (.malloc size) choice state
    (exchangeProtocol aim).Keeps .receiver state outcome.2 ∧
      Filling pointer (fun data state => Blank aim header data state ∧
        Allocated outcome.1 state) outcome.2 := by
  dsimp only [watched, exec]
  obtain ⟨held, data, found, owner, empty, silent, seen, number⟩ := filling
  split
  · have mild : Mild (Quiet aim) state state := .refl _ _
    exact ⟨exchange_keeps_receiver (mild.inv inv) mild.senderRely, held,
      data, found, owner, ⟨empty, silent, seen, number⟩, nofun⟩
  · let address := (state.mallocate (fit size choice.data)).1
    let later := (state.mallocate (fit size choice.data)).2
    have block : Allocated (some address) later := by
      rintro _ ⟨⟩
      unfold address later State.mallocate
      simp
    have fillingLater : Filling pointer (fun data state =>
        Blank aim header data state ∧ Allocated (some address) state)
        later :=
      ⟨held, data, found, owner, ⟨empty, silent, seen, number⟩, block⟩
    have filling : Filling pointer (Blank aim header) state :=
      ⟨held, data, found, owner, empty, silent, seen, number⟩
    exact ⟨filling.keeps inv fillingLater
      (inv.objects.congr rfl rfl rfl rfl rfl) rfl rfl rfl rfl rfl
      (fun addr data found => ⟨addr, data, found, rfl, id⟩)
      (fun _ data found nonzero => ⟨data, found, nonzero⟩) (.refl _ _),
      fillingLater⟩

/-- What is known of the object when the response is received. -/
structure Pointing (aim : Aim) (header : Octets) (buf : Option Nat)
    (data : SReqData) (state : State) : Prop where
  blank : Blank aim header data state
  allocated : Allocated buf state
  points : data.buf = buf

theorem pointing_lasts (buf : Option Nat) :
    Lasts (Pointing aim header buf) :=
  fun before after data later rely still same dataLen holds =>
    ⟨blank_lasts before after data later rely still same dataLen holds.blank,
      allocated_lasts buf before after data later rely still same dataLen
        holds.allocated,
      buf_lasts buf before after data later rely still same dataLen
        holds.points⟩

/-- What is received behind a header is no response unless it is the whole
PDU. -/
theorem not_isAnswer_of_short
    {response : Octets}
    (size : header.length = headerLength)
    (begins : response.take headerLength = header.take response.length)
    (short : response.length < (SPDUHdr.ofOctets header).commandLength) :
    ¬IsResponse response := by
  rintro ⟨long, whole, -⟩
  rw [ofOctets_of_begins size begins long] at whole
  omega

/-- What is received behind the header of a request is no response. -/
theorem not_isAnswer_of_request
    {response : Octets}
    (size : header.length = headerLength)
    (begins : response.take headerLength = header.take response.length)
    (request : (SPDUHdr.ofOctets header).isResponse = false) :
    ¬IsResponse response := by
  rintro ⟨long, -, isResponse⟩
  rw [ofOctets_of_begins size begins long, request] at isResponse
  cases isResponse

/-- The front of a stream that begins with a header. -/
theorem begins_of_front
    {stream : Octets}
    (front : header <+: stream)
    (size : header.length = headerLength)
    {count : Nat}
    (inStream : count ≤ stream.length) :
    (stream.take count).take headerLength =
      header.take (stream.take count).length := by
  obtain ⟨rest, rfl⟩ := front
  rw [List.length_take_of_le inStream, List.take_take, ← size,
    Nat.min_comm, ← List.take_take, List.take_left]

/-- The header is at the front of the stream in `g_iSock` if it was seen
there. -/
theorem Seen.front
    (seen : Seen header state)
    (same : ∀ seen ∈ lastPeek state.log, state.serial = some seen.1)
    {serial : Nat}
    (current : state.serial = some serial) :
    header <+: state.inbound serial := by
  obtain ⟨-, other, peeked, front⟩ := seen
  have equal := (same _ peeked).symm.trans current
  exact Option.some.inj equal ▸ front

/-- A request of the server is received. -/
theorem watched_recv
    (inv : ExchangeInv aim state)
    (nothing : HoldsNothing state)
    (seen : Seen header state)
    (request : (SPDUHdr.ofOctets header).isResponse = false)
    (size : Nat)
    (choice : Choice)
    (inTurn : InTurn aim .receiver (.recv size none) choice state) :
    let later := (watched .receiver (.recv size none) choice state).2
    (exchangeProtocol aim).Keeps .receiver state later ∧
      HoldsNothing later := by
  dsimp only [watched, exec]
  rcases state.recv_cases .receiver choice size none with
    ⟨serial, count, current, -, -, -, -, inStream, received⟩ |
      ⟨_, _, _, unread⟩
  · rw [received]
    have noAnswer (agreement : aim = .agreement) :
        ¬IsResponse ((state.inbound serial).take count) :=
      not_isAnswer_of_request seen.1
        (begins_of_front (seen.front (inTurn.1 agreement) current) seen.1
          inStream) request
    have mild : Mild (Quiet aim) state
        (state.takeOctets .receiver serial count none) :=
      ⟨rfl, rfl, rfl, rfl, rfl, rfl, rfl, grows_takeOctets
        ⟨rfl, fun agreement => decide_eq_false (noAnswer agreement)⟩ _ _⟩
    exact ⟨exchange_keeps_receiver (mild.inv inv) mild.senderRely, nothing⟩
  · rw [unread]
    have mild : Mild (Quiet aim) state state := .refl _ _
    exact ⟨exchange_keeps_receiver (mild.inv inv) mild.senderRely, nothing⟩

/-- The object is vacant as long as nothing but the front of a response was
received. -/
theorem settledWith_zero
    {data : SReqData}
    (incomplete : aim = .agreement)
    (silent : Silent state.log) :
    SettledWith aim 0 data state := by
  refine .inl ⟨rfl, fun _ => silent, fun completion => ?_⟩
  rw [incomplete] at completion
  cases completion

/-- A response that was received whole settles its object. -/
theorem settledWith_whole
    {data : SReqData}
    {serial address : Nat}
    (blank : Blank aim header data state)
    (allocated : (state.buffers.lookup address).isSome)
    (points : data.buf = some address)
    (response : (SPDUHdr.ofOctets header).isResponse)
    (small : (SPDUHdr.ofOctets header).commandLength < 2 ^ 31)
    (positive : 0 < (SPDUHdr.ofOctets header).commandLength)
    (inStream : (SPDUHdr.ofOctets header).commandLength ≤
      (state.inbound serial).length)
    (current : state.serial = some serial)
    (front : aim = .agreement → header <+: state.inbound serial) :
    SettledWith aim (int32 (SPDUHdr.ofOctets header).commandLength) data
      (state.takeOctets .receiver serial
        (SPDUHdr.ofOctets header).commandLength (some (some address))) := by
  obtain ⟨-, silent, ⟨size, seen, peeked, -⟩, number⟩ := blank
  have length := List.length_take_of_le inStream
  have dataLen := int32_of_lt small
  unfold SettledWith
  rw [dataLen]
  refine .inr ⟨serial, header, (state.inbound serial).take _,
    ⟨⟨state.log, .refl _ _, seen, peeked⟩, length,
      positive.trans_eq length.symm, congrArg Nat.cast length.symm, address,
      points, ?_⟩,
    fun agreement => ⟨current, size, response,
      begins_of_front (front agreement) size inStream, ?_,
      fun event member answer => ?_⟩⟩
  · obtain ⟨contents, block⟩ := Option.isSome_iff_exists.mp allocated
    unfold State.buffer
    rw [state.lookup_takeOctets, block, Option.map_some, Option.getD_some]
    exact List.take_left
  · change _ ∈ calls.current (_ :: _)
    rw [current_cons rfl]
    exact .tail _ number
  · change event ∈ calls.current (_ :: _) at member
    rw [current_cons rfl] at member
    rcases List.mem_cons.mp member with isNew | old
    · exact isNew
    · rw [silent agreement event old] at answer
      cases answer

/-- The response is received into the buffer of the object. -/
theorem watched_recvInto
    (inv : ExchangeInv aim state)
    {buf : Option Nat}
    (filling : Filling pointer (Pointing aim header buf) state)
    (response : (SPDUHdr.ofOctets header).isResponse)
    (choice : Choice)
    (inTurn : InTurn aim .receiver
      (.recv (SPDUHdr.ofOctets header).commandLength (some buf)) choice
      state) :
    let size := (SPDUHdr.ofOctets header).commandLength
    let outcome := watched .receiver (.recv size (some buf)) choice state
    (exchangeProtocol aim).Keeps .receiver state outcome.2 ∧
      Filling pointer (fun data state => data.dataLen = 0 ∧
        AfterRecv aim size (equalsUnsigned outcome.1.1 size) data state)
        outcome.2 := by
  obtain ⟨same, bounds⟩ := inTurn
  obtain ⟨small, completed⟩ := bounds buf rfl
  obtain ⟨held, data, found, owner, blank, allocated, points⟩ := filling
  have filling : Filling pointer (Pointing aim header buf) state :=
    ⟨held, data, found, owner, blank, allocated, points⟩
  obtain ⟨size, -⟩ := blank.seen
  have ready {later : State} (incomplete : aim = .agreement)
      (silent : Silent later.log) :
      Ready aim data later := by
    unfold Ready
    rw [blank.empty]
    exact settledWith_zero incomplete silent
  dsimp only [watched, exec] at completed ⊢
  rcases state.recv_cases .receiver choice
    (SPDUHdr.ofOctets header).commandLength (some buf) with
    ⟨serial, count, current, null, -, positive, inSize, inStream, received⟩ |
      ⟨ret, failed, -, unread⟩
  · rw [received] at completed ⊢
    have front (agreement : aim = .agreement) :
        header <+: state.inbound serial :=
      blank.seen.front (same agreement) current
    have silent (agreement : aim = .agreement)
        (short : count < (SPDUHdr.ofOctets header).commandLength) :
        Silent (state.takeOctets .receiver serial count (some buf)).log := by
      have noAnswer : ¬IsResponse ((state.inbound serial).take count) := by
        refine not_isAnswer_of_short size
          (begins_of_front (front agreement) size inStream) ?_
        rwa [List.length_take_of_le inStream]
      have log : Grows (Quiet .agreement) state.log
          (state.takeOctets .receiver serial count (some buf)).log :=
        grows_takeOctets ⟨rfl, fun _ => decide_eq_false noAnswer⟩ _ _
      exact (blank.silent agreement).grows log
        (fun _ quiet => quiet.settling.1) fun _ quiet => quiet.2 rfl
    have fillingLater : Filling pointer (fun data state =>
        data.dataLen = 0 ∧ AfterRecv aim
          (SPDUHdr.ofOctets header).commandLength
          (equalsUnsigned (count : Int)
            (SPDUHdr.ofOctets header).commandLength) data state)
        (state.takeOctets .receiver serial count (some buf)) := by
      refine ⟨held, data, found, owner, blank.empty, fun whole => ?_,
        fun short => ?_⟩
      · rw [equalsUnsigned_natCast (by omega)] at whole
        obtain rfl := of_decide_eq_true whole
        cases buf with
        | none => exact absurd (null rfl) (by omega)
        | some address =>
            exact settledWith_whole blank (allocated address rfl) points
              response small positive inStream current front
      · rw [equalsUnsigned_natCast (by omega)] at short
        have different := of_decide_eq_false (Bool.eq_false_iff.mpr short)
        have incomplete : aim = .agreement := by
          cases aim with
          | agreement => rfl
          | completion =>
              have whole := (completed rfl).2.2
              exact absurd (Int.ofNat.inj whole) different
        exact ready incomplete (silent incomplete (by omega))
    exact ⟨filling.keeps inv fillingLater
      (inv.objects.congr rfl rfl rfl rfl rfl) rfl rfl rfl rfl rfl
      (fun addr data found => ⟨addr, data, found, rfl, id⟩)
      (fun _ data found nonzero => ⟨data, found, nonzero⟩)
      (grows_takeOctets (by rfl) _ _), fillingLater⟩
  · rw [unread] at completed ⊢
    have mild : Mild (Quiet aim) state state := .refl _ _
    have incomplete : aim = .agreement := by
      cases aim with
      | agreement => rfl
      | completion =>
          obtain ⟨-, positive, whole⟩ := completed rfl
          have nothing : ret = (SPDUHdr.ofOctets header).commandLength :=
            whole
          omega
    refine ⟨exchange_keeps_receiver (mild.inv inv) mild.senderRely, held,
      data, found, owner, blank.empty, fun whole => ?_,
      fun _ => ready incomplete (blank.silent incomplete)⟩
    have converted : ret % 2 ^ 32 = (SPDUHdr.ofOctets header).commandLength :=
      of_decide_eq_true whole
    have zero : (SPDUHdr.ofOctets header).commandLength = 0 := by omega
    rw [zero]
    exact settledWith_zero incomplete (blank.silent incomplete)

/-- The object is given up with what was received into it. -/
theorem watched_unlockReq
    (inv : ExchangeInv aim state)
    (filling : Filling pointer (Ready aim) state)
    (choice : Choice) :
    let later := (watched .receiver (.unlockReq pointer) choice state).2
    (exchangeProtocol aim).Keeps .receiver state later ∧
      HoldsNothing later := by
  obtain ⟨data, found, -, ready⟩ := filling.object
  have none : (state.unlockReq pointer).held = [] := by
    unfold State.unlockReq
    simp [filling.held]
  have lookup (addr : Nat) := state.lookup_updateRequest pointer
    (fun data => { data with locked := false }) addr
  have here : (state.unlockReq pointer).requests.lookup pointer.addr =
      some { data with locked := false } := by
    refine (lookup pointer.addr).trans ?_
    rw [if_pos rfl, show state.requests.lookup pointer.addr = _ from found]
    rfl
  have objectsInv : ObjectsInv (state.unlockReq pointer) :=
    inv.objects.unlockReq
  have objects : (state.updateRequest pointer
      fun data => { data with locked := false }).objects = state.objects :=
    objects_updateRequest fun _ => rfl
  refine ⟨exchange_keeps_receiver
    ⟨objectsInv, inv.numbered, fun addr later after _ => ?_,
      fun _ addr later after isHeld => ?_, inv.good⟩
    ⟨rfl, rfl, objects,
      fun owner linked => linked.imp id List.mem_of_mem_erase,
      fun addr data found free =>
        absurd (.inr (filling.owner inv.objects found)) free,
      fun addr before foundBefore nonzero => ?_, .refl _ _,
      fun _ _ => .refl _ _⟩, none⟩
  · rw [(objectsInv.same after here).2]
    exact Settled.later ready rfl rfl (.refl _ _) rfl rfl id
  · have impossible : later.owner ∈ (state.unlockReq pointer).held := isHeld
    rw [none] at impossible
    cases impossible
  · obtain ⟨rfl, rfl⟩ := inv.objects.same foundBefore found
    exact ⟨_, here, nonzero⟩

end Exchange

end Sms112
