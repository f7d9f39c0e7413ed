import Sms112.Connection.BindSteps

/-!
# What the receiver does to the binding

The receiver takes a request out of the store, fills its object and wakes the
controller, which stands still meanwhile; it reads what the server sends; and
it handles an unbinding.
-/

namespace Sms112

open Resumption

variable {before after state : State} {pointer : ReqPtr}

/-! ## What the receiver knows -/

/-- The receiver holds nothing and handles no unbinding. -/
structure Resting (state : State) : Prop where
  held : state.held = []
  idle : state.busy .smppUnbindOper = false

/-- The receiver holds the request and no other, it handles no unbinding, and
something is known of the object. -/
structure HoldsWith (pointer : ReqPtr) (fill : SReqData → State → Prop)
    (state : State) : Prop where
  held : state.held = [pointer.owner]
  idle : state.busy .smppUnbindOper = false
  object : ∃ data, state.request pointer = some data ∧
    data.owner = pointer.owner ∧ fill data state

theorem HoldsWith.imp
    {fill later : SReqData → State → Prop}
    (holds : HoldsWith pointer fill state)
    (implies : ∀ data state, fill data state → later data state) :
    HoldsWith pointer later state := by
  obtain ⟨data, found, owner, filled⟩ := holds.object
  exact ⟨holds.held, holds.idle, data, found, owner,
    implies data state filled⟩

/-- Nothing was received into the object. -/
def Empty (data : SReqData) (_ : State) : Prop :=
  data.dataLen = 0

/-- Nothing was received into the object, and its buffer is known. -/
def Pointing (buf : Option Nat) (data : SReqData) (_ : State) : Prop :=
  data.dataLen = 0 ∧ data.buf = buf

/-- If the object is given the length, a positive response in it has put a
bind in force. -/
def Loaded (dataLen : Int) (data : SReqData) (state : State) : Prop :=
  state.busy .smppConnect →
    isBindOk (state.contents { data with dataLen := dataLen }) →
      InForce state

/-- A positive response in the object has put a bind in force. -/
def Complete (data : SReqData) (state : State) : Prop :=
  Loaded data.dataLen data state

/-- What is known of an object and holds as long as the controller stands
still. -/
def KeptStill (fill : SReqData → State → Prop) : Prop :=
  ∀ before after data later, StandsStill before after →
    later.buf = data.buf → later.dataLen = data.dataLen →
      fill data before → fill later after

theorem empty_still : KeptStill Empty :=
  fun _ _ _ _ _ _ dataLen empty => dataLen.trans empty

theorem pointing_still (buf : Option Nat) : KeptStill (Pointing buf) :=
  fun _ _ _ _ _ sameBuf dataLen ⟨empty, points⟩ =>
    ⟨dataLen.trans empty, sameBuf.trans points⟩

theorem contents_congr
    {data later : SReqData}
    (buffers : after.buffers = before.buffers)
    (buf : later.buf = data.buf)
    (dataLen : later.dataLen = data.dataLen) :
    after.contents later = before.contents data := by
  unfold State.contents State.buffer
  rw [buffers, buf, dataLen]

theorem loaded_still (dataLen : Int) : KeptStill (Loaded dataLen) := by
  intro before after data later still buf _ loaded connecting positive
  have same : after.contents { later with dataLen := dataLen } =
      before.contents { data with dataLen := dataLen } :=
    contents_congr still.buffers buf rfl
  rw [same] at positive
  exact still.inForce (still.binding.symm.trans connecting)
    (loaded (still.binding.symm.trans connecting) positive)

theorem complete_still : KeptStill Complete := by
  intro before after data later still buf dataLen complete
  unfold Complete
  rw [dataLen]
  exact loaded_still data.dataLen before after data later still buf dataLen
    complete

theorem KeptStill.conj
    {first second : SReqData → State → Prop}
    (firstStill : KeptStill first)
    (secondStill : KeptStill second) :
    KeptStill fun data state => first data state ∧ second data state :=
  fun before after data later still buf dataLen holds =>
    ⟨firstStill before after data later still buf dataLen holds.1,
      secondStill before after data later still buf dataLen holds.2⟩

theorem KeptStill.imp
    {fill : SReqData → State → Prop}
    (condition : Prop)
    (keptStill : KeptStill fill) :
    KeptStill fun data state => condition → fill data state :=
  fun before after data later still buf dataLen holds assumed =>
    keptStill before after data later still buf dataLen (holds assumed)

theorem resting_stable : bindProtocol.Stable .receiver Resting := by
  rintro before after - resting rely -
  have rely : ReceiverRely before after := rely
  exact ⟨rely.held.trans resting.held, rely.unbinding.trans resting.idle⟩

theorem holdsWith_stable
    {fill : SReqData → State → Prop}
    (keptStill : KeptStill fill) :
    bindProtocol.Stable .receiver (HoldsWith pointer fill) := by
  rintro before after - ⟨held, idle, data, found, owner, filled⟩ rely -
  have rely : ReceiverRely before after := rely
  have still := rely.still (by rw [held]; exact List.cons_ne_nil _ _)
  obtain ⟨later, foundLater, ownerLater, buf, dataLen⟩ :=
    still.object pointer.addr data found
  exact ⟨rely.held.trans held, rely.unbinding.trans idle, later, foundLater,
    ownerLater.trans owner,
    keptStill before after data later still buf dataLen filled⟩

/-! ## The object the receiver holds is the only one -/

theorem HoldsWith.mem_held
    {fill : SReqData → State → Prop}
    (holds : HoldsWith pointer fill state) :
    pointer.owner ∈ state.held := by
  rw [holds.held]
  exact List.mem_singleton_self _

/-- The receiver holds every object. -/
theorem HoldsWith.owner
    {fill : SReqData → State → Prop}
    (holds : HoldsWith pointer fill state)
    (inv : ObjectsInv state)
    {addr : Nat}
    {data : SReqData}
    (found : state.requests.lookup addr = some data) :
    data.owner ∈ state.held := by
  obtain ⟨data', found', owner, -⟩ := holds.object
  rw [(inv.same found found').2, owner]
  exact holds.mem_held

/-- While the receiver holds the object, no other is filled. -/
theorem HoldsWith.filled
    {fill : SReqData → State → Prop}
    (holds : HoldsWith pointer fill state)
    (inv : ObjectsInv state) :
    Filled state :=
  fun _ _ found free => absurd (holds.owner inv found) free

/-- The object the receiver holds is not registered. -/
theorem HoldsWith.not_registered
    {fill : SReqData → State → Prop}
    (holds : HoldsWith pointer fill state)
    (inv : ObjectsInv state) :
    pointer.owner ∉ state.mapReq.owners :=
  inv.not_registered holds.mem_held

/-- A change of the object the receiver holds. -/
theorem HoldsWith.update
    {fill later : SReqData → State → Prop}
    (inv : BindInv state)
    (holds : HoldsWith pointer fill state)
    (change : SReqData → SReqData)
    (owner : ∀ data, (change data).owner = data.owner)
    (fills : ∀ data, state.request pointer = some data → fill data state →
      later (change data) (state.updateRequest pointer change)) :
    bindProtocol.Keeps .receiver state (state.updateRequest pointer change) ∧
      HoldsWith pointer later (state.updateRequest pointer change) := by
  have objects : ObjectsInv (state.updateRequest pointer change) := by
    refine inv.objects.update pointer change owner (List.Sublist.refl _) ?_
    intro data found registered
    obtain ⟨data', found', owner', -⟩ := holds.object
    rw [(inv.objects.same found found').2, owner'] at registered
    exact absurd registered (holds.not_registered inv.objects)
  have holdsLater : HoldsWith pointer later
      (state.updateRequest pointer change) := by
    obtain ⟨data, found, owner', filled⟩ := holds.object
    refine ⟨holds.held, holds.idle, change data, ?_, (owner data).trans owner',
      fills data found filled⟩
    have changed := state.lookup_updateRequest pointer change pointer.addr
    rw [if_pos rfl, show state.requests.lookup pointer.addr = some data from
      found] at changed
    exact changed
  refine ⟨bind_keeps_receiver ⟨⟨inv.session.flag, inv.session.unbinding,
      inv.session.newest, inv.session.fresh, inv.session.known⟩, objects,
      holdsLater.filled objects⟩ ⟨rfl, rfl, rfl, id, fun _ => id,
        fun _ => id, objects_updateRequest owner, fun addr data found free =>
          absurd (.inr (holds.owner inv.objects found)) free,
        List.suffix_refl _⟩, holdsLater⟩

/-! ## A response -/

/-- What the receiver knows once it has looked a number up. -/
def TakenOut (found : Option ReqPtr) (state : State) : Prop :=
  match found with
  | some pointer => HoldsWith pointer Empty state
  | none => Resting state

theorem takenOut_stable (found : Option ReqPtr) :
    bindProtocol.Stable .receiver (TakenOut found) := by
  cases found with
  | none => exact resting_stable
  | some pointer => exact holdsWith_stable empty_still

/-- A request in progress is taken out of the store. -/
theorem exec_reqStorGetAndRem_bind
    (inv : BindInv state)
    (resting : Resting state)
    {seqNum : Nat}
    (choice : Choice)
    (inProgress : ∀ pointer ∈ (reqStorGetAndRem state.mapReq seqNum).1,
      InProgress state pointer.owner) :
    let outcome := exec .receiver (.reqStorGetAndRem seqNum) choice state
    bindProtocol.Keeps .receiver state outcome.2 ∧
      TakenOut outcome.1 outcome.2 := by
  dsimp only [exec]
  unfold State.storGetAndRem
  rcases reqStorGetAndRem_cases state.mapReq seqNum with
    missing | ⟨pointer, member, found⟩
  · rw [missing]
    have calm := Calm.refl state
    exact ⟨bind_keeps_receiver (calm.inv inv) calm.controllerRely, resting⟩
  · rw [found] at inProgress ⊢
    have progress := inProgress pointer rfl
    have linkedBefore (owner : Nat)
        (linked : owner ∈ (state.mapReq.erase seqNum).owners ∨
          owner ∈ pointer.owner :: state.held) :
        Linked state owner := by
      rcases linked with registered | held
      · exact .inl (mem_erase_of_mem_owners registered)
      · rw [resting.held, List.mem_singleton] at held
        rw [held]
        exact .inl (List.mem_map_of_mem member)
    refine ⟨bind_keeps_receiver ⟨⟨inv.session.flag, inv.session.unbinding,
        inv.session.newest, inv.session.fresh, inv.session.known⟩,
        inv.objects.reqStorGetAndRem resting.held member progress,
        fun addr data live free => inv.filled addr data live fun held =>
          free (.tail _ held)⟩
        ⟨rfl, rfl, rfl, id, fun _ => id, linkedBefore, rfl,
          fun _ _ live _ => live, List.suffix_refl _⟩, ?_⟩
    obtain ⟨data, live, owner, empty⟩ :=
      inv.objects.waiting _ member progress
    exact ⟨by rw [resting.held], resting.idle, data, live, owner, empty⟩

/-- Memory for the response. -/
theorem exec_malloc_bind
    (inv : BindInv state)
    (holds : HoldsWith pointer Empty state)
    (size : Nat)
    (choice : Choice) :
    let later := (exec .receiver (.malloc size) choice state).2
    bindProtocol.Keeps .receiver state later ∧
      HoldsWith pointer Empty later := by
  dsimp only [exec]
  split
  · have calm := Calm.refl state
    exact ⟨bind_keeps_receiver (calm.inv inv) calm.controllerRely, holds⟩
  · have objects : ObjectsInv (state.mallocate (fit size choice.data)).2 :=
      inv.objects.congr rfl rfl rfl rfl rfl
    have later : HoldsWith pointer Empty
        (state.mallocate (fit size choice.data)).2 :=
      ⟨holds.held, holds.idle, holds.object⟩
    exact ⟨bind_keeps_receiver ⟨⟨inv.session.flag, inv.session.unbinding,
        inv.session.newest, inv.session.fresh, inv.session.known⟩, objects,
        later.filled objects⟩ ⟨rfl, rfl, rfl, id, fun _ => id, fun _ => id,
          rfl, fun _ _ live _ => live, List.suffix_refl _⟩, later⟩

/-! ## What the receiver reads -/

section Receive

variable {serial : Nat} {thread : Thread} {into : Option (Option Nat)}

/-- Octets read on the socket end no bind. -/
theorem boundOn_takeOctets
    {count other : Nat}
    (bound : boundOn other state.log) :
    boundOn other (state.takeOctets thread serial count into).log := by
  change boundOn other (.received serial _ :: state.log)
  rw [boundOn_cons, bound, Event.effect]
  split <;> rfl

theorem inForce_takeOctets
    {count : Nat}
    (inForce : InForce state) :
    InForce (state.takeOctets thread serial count into) := by
  obtain ⟨current, isCurrent, bound⟩ := inForce
  exact ⟨current, isCurrent, boundOn_takeOctets bound⟩

/-- A positive response read on the socket puts a bind in force. -/
theorem inForce_of_isBindOk
    {count : Nat}
    (current : state.serial = some serial)
    (positive : isBindOk ((state.inbound serial).take count)) :
    InForce (state.takeOctets thread serial count into) := by
  refine ⟨serial, current, ?_⟩
  change boundOn serial (.received serial _ :: state.log)
  rw [boundOn_cons]
  simp [Event.effect, positive]

theorem SessionInv.takeOctets
    {count : Nat}
    (inv : SessionInv state)
    (idle : state.busy .smppUnbindOper = false)
    (current : state.serial = some serial) :
    SessionInv (state.takeOctets thread serial count into) where
  flag connected idle := by
    obtain ⟨other, isCurrent, ⟨sender, data, accepted, sent, bind⟩, bound⟩ :=
      inv.flag connected idle
    exact ⟨other, isCurrent, ⟨sender, data, accepted, .tail _ sent, bind⟩,
      boundOn_takeOctets bound⟩
  unbinding unbinding := by
    have busy : state.busy .smppUnbindOper := unbinding
    rw [idle] at busy
    cases busy
  newest _ := current.symm
  fresh other old := by
    have young := (inv.known _ (mem_of_lookup current)).2
    have old : state.nextSerial ≤ other := old
    change boundOn other (.received serial _ :: state.log) = false
    rw [boundOn_cons, Event.effect, if_neg (by omega), Option.getD_none]
    exact inv.fresh other old
  known := inv.known

/-- What the controller tolerates of a `recv`. -/
theorem controllerRely_takeOctets (count : Nat) :
    ControllerRely state (state.takeOctets thread serial count into) :=
  ⟨rfl, rfl, rfl, id, fun _ => inForce_takeOctets, fun _ => id, rfl,
    fun _ _ live _ => live, List.suffix_cons _ _⟩

/-- A request of the server is read. -/
theorem exec_recv_bind
    (inv : BindInv state)
    (resting : Resting state)
    (size : Nat)
    (choice : Choice) :
    let later := (exec .receiver (.recv size none) choice state).2
    bindProtocol.Keeps .receiver state later ∧ Resting later := by
  dsimp only [exec]
  rcases state.recv_cases .receiver choice size none with
    ⟨serial, count, current, -, -, -, -, -, received⟩ | ⟨_, _, _, nothing⟩
  · rw [received]
    have rely : ControllerRely state
        (state.takeOctets .receiver serial count none) :=
      controllerRely_takeOctets count
    have session : SessionInv
        (state.takeOctets .receiver serial count none) :=
      inv.session.takeOctets resting.idle current
    exact ⟨bind_keeps_receiver ⟨session,
        inv.objects.congr rfl rfl rfl rfl rfl,
        inv.filled.congr rfl rfl rfl rfl rely.inForce⟩ rely,
      resting.held, resting.idle⟩
  · rw [nothing]
    have calm := Calm.refl state
    exact ⟨bind_keeps_receiver (calm.inv inv) calm.controllerRely, resting⟩

end Receive

/-- The lengths that hold nothing are not positive responses. -/
theorem loaded_of_nothing
    {dataLen : Int}
    (nothing : dataLen.toNat = 0)
    (data : SReqData)
    (state : State) :
    Loaded dataLen data state := by
  intro _ positive
  rw [isBindOk_empty (by exact nothing)] at positive
  cases positive

/-- If `recv` does not take octets, its result is taken for the whole PDU only
if the length holds nothing. -/
theorem int32_of_nothing
    {ret : Int}
    {size : Nat}
    (nothing : ret = -1 ∨ ret = 0)
    (whole : equalsUnsigned ret size) :
    (int32 size).toNat = 0 := by
  have converted : ret % 2 ^ 32 = size := of_decide_eq_true whole
  have bounds : size = 4294967295 ∨ size = 0 := by omega
  rcases bounds with rfl | rfl <;> rfl

/-- What a buffer holds behind a `recv` that filled it. -/
theorem contents_takeOctets
    {serial size address : Nat}
    {data : SReqData}
    (small : size < 2 ^ 32)
    (arrived : size ≤ (state.inbound serial).length)
    (points : data.buf = some address)
    (answer : isBindOk ((state.takeOctets .receiver serial size
      (some (some address))).contents { data with dataLen := int32 size })) :
    isBindOk ((state.inbound serial).take size) := by
  have filled := state.lookup_takeOctets .receiver serial size address
  unfold State.contents State.buffer at answer
  simp only [points, filled] at answer
  by_cases positive : size < 2 ^ 31
  · rw [int32_of_lt positive, Int.toNat_natCast] at answer
    cases allocated : state.buffers.lookup address with
    | none =>
        rw [allocated] at answer
        exact absurd answer (by simp [isBindOk, headerLength])
    | some contents =>
        rw [allocated] at answer
        simpa [List.take_append_of_le_length, arrived] using answer
  · have negative := int32_toNat_of_le small (by omega)
    rw [negative, List.take_zero] at answer
    exact absurd answer (by simp [isBindOk, headerLength])

/-- A response is read into the buffer of the object. -/
theorem exec_recvInto_bind
    (inv : BindInv state)
    {buf : Option Nat}
    (holds : HoldsWith pointer (Pointing buf) state)
    {size : Nat}
    (small : size < 2 ^ 32)
    (choice : Choice) :
    let outcome := exec .receiver (.recv size (some buf)) choice state
    bindProtocol.Keeps .receiver state outcome.2 ∧
      HoldsWith pointer (fun data state => Empty data state ∧
        (equalsUnsigned outcome.1.1 size → Loaded (int32 size) data state))
        outcome.2 := by
  dsimp only [exec]
  rcases state.recv_cases .receiver choice size (some buf) with
    ⟨serial, count, current, null, -, positive, inSize, arrived, received⟩ |
      ⟨ret, failed, -, nothing⟩
  · rw [received]
    have rely : ControllerRely state
        (state.takeOctets .receiver serial count (some buf)) :=
      controllerRely_takeOctets count
    have objects : ObjectsInv
        (state.takeOctets .receiver serial count (some buf)) :=
      inv.objects.congr rfl rfl rfl rfl rfl
    have later : HoldsWith pointer (fun data state => Empty data state ∧
        (equalsUnsigned (count : Int) size →
          Loaded (int32 size) data state))
        (state.takeOctets .receiver serial count (some buf)) := by
      obtain ⟨held, idle, data, found, owner, empty, points⟩ := holds
      refine ⟨held, idle, data, found, owner, empty, fun whole _ answer => ?_⟩
      rw [equalsUnsigned_natCast (by omega)] at whole
      obtain rfl : count = size := of_decide_eq_true whole
      cases buf with
      | none => exact absurd (null rfl) (by omega)
      | some address =>
          exact inForce_of_isBindOk current
            (contents_takeOctets small arrived points answer)
    have session : SessionInv
        (state.takeOctets .receiver serial count (some buf)) :=
      inv.session.takeOctets holds.idle current
    exact ⟨bind_keeps_receiver ⟨session, objects, later.filled objects⟩ rely,
      later⟩
  · rw [nothing]
    have calm := Calm.refl state
    obtain ⟨held, idle, data, found, owner, empty, -⟩ := holds
    exact ⟨bind_keeps_receiver (calm.inv inv) calm.controllerRely, held, idle,
      data, found, owner, empty, fun whole =>
        loaded_of_nothing (int32_of_nothing failed whole) data state⟩

theorem Empty.complete
    {data : SReqData}
    (empty : Empty data state) :
    Complete data state :=
  loaded_of_nothing (by rw [show data.dataLen = 0 from empty]; rfl) data state

/-- The object is given up: the receiver holds nothing, and what it has filled
in is complete. -/
theorem exec_unlockReq_bind
    (inv : BindInv state)
    (holds : HoldsWith pointer Complete state)
    (choice : Choice) :
    let later := (exec .receiver (.unlockReq pointer) choice state).2
    bindProtocol.Keeps .receiver state later ∧ Resting later := by
  have none : state.held.erase pointer.owner = [] := by simp [holds.held]
  have objects : ObjectsInv (state.unlockReq pointer) :=
    inv.objects.unlockReq
  have linkedBefore (owner : Nat)
      (linked : Linked (state.unlockReq pointer) owner) :
      Linked state owner :=
    linked.imp id fun member => List.mem_of_mem_erase member
  have filled : Filled (state.unlockReq pointer) := by
    intro addr later after _ connecting positive
    obtain ⟨data, found, -, complete⟩ := holds.object
    have origin := state.lookup_updateRequest pointer
      (fun data => { data with locked := false }) addr
    rw [show (state.updateRequest pointer fun data =>
      { data with locked := false }).requests.lookup addr = some later from
        after] at origin
    split at origin
    next here =>
      rw [here, show state.requests.lookup pointer.addr = some data from
        found] at origin
      cases origin
      exact complete connecting positive
    next elsewhere =>
      have same := inv.objects.same origin.symm found
      exact absurd same.1 elsewhere
  have sameObjects : (state.updateRequest pointer
      fun data => { data with locked := false }).objects = state.objects :=
    objects_updateRequest fun _ => rfl
  exact ⟨bind_keeps_receiver ⟨⟨inv.session.flag, inv.session.unbinding,
      inv.session.newest, inv.session.fresh, inv.session.known⟩, objects,
      filled⟩ ⟨rfl, rfl, rfl, id, fun _ => id, linkedBefore, sameObjects,
        fun addr data found free =>
          absurd (.inr (holds.owner inv.objects found)) free,
        List.suffix_refl _⟩, none, holds.idle⟩

/-! ## An unbinding -/

/-- The receiver handles an unbinding. -/
structure Unbinding (down : Prop) (state : State) : Prop where
  held : state.held = []
  unbinding : state.busy .smppUnbindOper
  down : down → state.smppIsConnected = false

theorem unbinding_stable (down : Prop) :
    bindProtocol.Stable .receiver (Unbinding down) := by
  rintro before after - unbinding rely -
  have rely : ReceiverRely before after := rely
  exact ⟨rely.held.trans unbinding.held,
    rely.unbinding.trans unbinding.unbinding, fun holds =>
      Bool.eq_false_iff.mpr fun connected => Bool.eq_false_iff.mp
        (unbinding.down holds) (rely.flag unbinding.unbinding connected)⟩

theorem unbindReceived_noAnswer (other : Option Nat) (serial : Nat) :
    (Event.unbindReceived other).effect serial ≠ some true := by
  simp only [Event.effect]
  split <;> simp

/-- No bind is in force once an unbinding is taken up. -/
theorem not_inForce_unbindReceived
    (inv : SessionInv state) :
    ¬InForce (state.enter .smppUnbindOper) := by
  rintro ⟨serial, current, bound⟩
  have before : boundOn serial state.log :=
    boundOn_of_cons (unbindReceived_noAnswer _ _) bound
  have newest : state.lastRecv = some serial :=
    (inv.newest ⟨serial, current, before⟩).trans current
  change boundOn serial (.unbindReceived state.lastRecv :: state.log) at bound
  rw [boundOn_cons, Event.effect, if_pos newest] at bound
  cases bound

theorem exec_enterUnbind_bind
    (inv : BindInv state)
    (resting : Resting state)
    (choice : Choice)
    (settled : state.busy .smppConnect → ¬InForce state) :
    let later := (exec .receiver (.enter .smppUnbindOper) choice state).2
    bindProtocol.Keeps .receiver state later ∧ Unbinding False later := by
  have ended := not_inForce_unbindReceived inv.session
  have fresh (serial : Nat) (old : state.nextSerial ≤ serial) :
      boundOn serial (state.enter .smppUnbindOper).log = false := by
    refine Bool.eq_false_iff.mpr fun bound => ?_
    have before : boundOn serial state.log :=
      boundOn_of_cons (unbindReceived_noAnswer _ _) bound
    rw [inv.session.fresh serial old] at before
    cases before
  refine ⟨bind_keeps_receiver ⟨⟨fun _ idle => ?_, fun _ => ended,
      fun inForce => absurd inForce ended, fresh, inv.session.known⟩,
      inv.objects.congr rfl rfl rfl rfl rfl,
      inv.filled.congr rfl rfl rfl rfl fun connecting inForce =>
        absurd inForce (settled connecting)⟩
    ⟨rfl, rfl, rfl, id, fun connecting inForce =>
      absurd inForce (settled connecting), fun _ => id, rfl,
      fun _ _ live _ => live, List.suffix_cons _ _⟩,
    resting.held, rfl, False.elim⟩
  cases idle

theorem exec_clearUnbinding_bind
    (inv : BindInv state)
    (unbinding : Unbinding False state)
    (choice : Choice) :
    let later := (exec .receiver (.setSmppConnected false) choice state).2
    bindProtocol.Keeps .receiver state later ∧ Unbinding True later :=
  ⟨bind_keeps_receiver ⟨⟨nofun, inv.session.unbinding, inv.session.newest,
      inv.session.fresh, inv.session.known⟩,
      inv.objects.congr rfl rfl rfl rfl rfl,
      inv.filled.congr rfl rfl rfl rfl fun _ => id⟩
    ⟨rfl, rfl, rfl, nofun, fun _ => id, fun _ => id, rfl,
      fun _ _ live _ => live, List.suffix_refl _⟩,
    unbinding.held, unbinding.unbinding, fun _ => rfl⟩

theorem exec_leaveUnbind_bind
    (inv : BindInv state)
    (unbinding : Unbinding True state)
    (choice : Choice) :
    let later := (exec .receiver (.leave .smppUnbindOper) choice state).2
    bindProtocol.Keeps .receiver state later ∧ Resting later := by
  have cleared := unbinding.down trivial
  refine ⟨bind_keeps_receiver ⟨⟨fun connected => ?_, nofun,
      inv.session.newest, inv.session.fresh, inv.session.known⟩,
      inv.objects.congr rfl rfl rfl rfl rfl,
      inv.filled.congr rfl rfl rfl rfl fun _ => id⟩
    ⟨rfl, rfl, rfl, id, fun _ => id, fun _ => id, rfl,
      fun _ _ live _ => live, List.suffix_refl _⟩, unbinding.held, rfl⟩
  have impossible : state.smppIsConnected := connected
  rw [cleared] at impossible
  cases impossible

end Sms112
