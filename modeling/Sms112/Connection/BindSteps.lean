import Sms112.Connection.Bind

/-!
# What the operations do to the binding

Each operation that is a matter to the binding has a lemma: it re-establishes
the invariant, the other threads tolerate it, and the acting thread learns
what its next step needs. The controller's operations come first, then the
receiver's.
-/

namespace Sms112

open Resumption

variable {before after state : State} {pointer : ReqPtr}

/-- The runs in which the flag is sound: a socket is only opened with the flag
cleared, no unbinding is taken up between a positive bind response and the
return of `sms112_smpp_connect`, no response is taken up for a request whose
call has returned, and no call returns while its response is filled in. -/
def BindsInOrder : Machine.Condition Op Thread Choice State
  | _, .socket, _, state => state.smppIsConnected = false
  | _, .enter .smppUnbindOper, _, state =>
      state.busy .smppConnect → ¬InForce state
  | _, .reqStorGetAndRem seqNum, _, state =>
      ∀ pointer ∈ (reqStorGetAndRem state.mapReq seqNum).1,
        InProgress state pointer.owner
  | _, .leaveSend pointer, _, state => pointer.owner ∉ state.held
  | _, _, _, _ => True

instance (thread : Thread) (operation : Op) (choice : Choice)
    (state : State) :
    Decidable (BindsInOrder thread operation choice state) := by
  unfold BindsInOrder
  split <;> infer_instance

theorem bind_keeps_controller
    (inv : BindInv after)
    (rely : ReceiverRely before after) :
    bindProtocol.Keeps controller before after := by
  refine ⟨inv, fun other different => ?_⟩
  match other with
  | .requester 0 => exact absurd rfl different
  | .requester (number + 1) => trivial
  | .receiver => exact rely
  | .environment => trivial

theorem bind_keeps_receiver
    (inv : BindInv after)
    (rely : ControllerRely before after) :
    bindProtocol.Keeps .receiver before after := by
  refine ⟨inv, fun other different => ?_⟩
  match other with
  | .requester 0 => exact rely
  | .requester (number + 1) => trivial
  | .receiver => exact absurd rfl different
  | .environment => trivial

/-! ## What the controller knows -/

/-- The controller's calls and objects, whether `sms112_smpp_connect` runs,
and, if that is known, that the flag is cleared. -/
structure Stage (sending : List (Thread × Nat)) (objects : List (Nat × Nat))
    (binding : Bool) (down : Prop) (state : State) : Prop where
  sending : state.sending = sending
  objects : state.objects = objects
  binding : state.busy .smppConnect = binding
  down : down → state.smppIsConnected = false

/-- The octets were sent on the socket in `g_iSock`. -/
def Transmitted (data : Octets) (state : State) : Prop :=
  ∃ serial ∈ state.serial, ∃ thread accepted,
    .sent thread serial data accepted ∈ state.log

section Stability

variable {sending : List (Thread × Nat)} {objects : List (Nat × Nat)}
variable {binding : Bool} {down : Prop}

theorem stage_stable :
    bindProtocol.Stable controller (Stage sending objects binding down) := by
  rintro before after - stage rely -
  have rely : ControllerRely before after := rely
  exact ⟨rely.sending.trans stage.sending, rely.objects.trans stage.objects,
    rely.binding.trans stage.binding, fun holds =>
      Bool.eq_false_iff.mpr fun connected =>
        Bool.eq_false_iff.mp (stage.down holds) (rely.flag connected)⟩

theorem transmitted_stable (data : Octets) :
    bindProtocol.Stable controller (Transmitted data) := by
  rintro before after - ⟨serial, current, thread, accepted, sent⟩ rely -
  have rely : ControllerRely before after := rely
  exact ⟨serial, rely.serial ▸ current, thread, accepted,
    rely.log.subset sent⟩

theorem fresh_stable :
    bindProtocol.Stable controller (Fresh pointer) := by
  rintro before after - ⟨unlinked, data, found, owner, empty⟩ rely -
  have rely : ControllerRely before after := rely
  refine ⟨fun linked => unlinked (rely.linked _ linked), data,
    rely.unlinked _ data found ?_, owner, empty⟩
  rw [owner]
  exact unlinked

end Stability

/-! ## The steps of the controller -/

/-- A step of the controller while the receiver holds nothing. -/
theorem receiverRely_of_nothing
    (nothing : before.held = [])
    (held : after.held = before.held)
    (unbinding : after.busy .smppUnbindOper = before.busy .smppUnbindOper)
    (flag : before.busy .smppUnbindOper → after.smppIsConnected →
      before.smppIsConnected) :
    ReceiverRely before after :=
  ⟨held, unbinding, flag, fun holding => absurd nothing holding⟩

/-- Without objects nothing is filled. -/
theorem filled_of_nil (none : state.objects = []) :
    Filled state := by
  intro addr data found
  rw [requests_eq_nil none] at found
  cases found

section Controller

variable {sending : List (Thread × Nat)} {objects : List (Nat × Nat)}
variable {binding : Bool} {down : Prop}

/-- The object of the controller. -/
theorem Stage.found
    (stage : Stage sending [(pointer.addr, pointer.owner)] binding down
      state) :
    ∃ data, state.requests = [(pointer.addr, data)] ∧
      data.owner = pointer.owner := by
  obtain ⟨⟨addr, data⟩, one, same⟩ := List.map_eq_singleton_iff.mp stage.objects
  obtain ⟨rfl, owner⟩ := Prod.mk.inj same
  exact ⟨data, one, owner⟩

theorem SessionInv.cleared
    (flag : state.smppIsConnected = false)
    (noBind : ¬InForce state)
    (fresh : ∀ serial, state.nextSerial ≤ serial →
      boundOn serial state.log = false)
    (known : ∀ entry ∈ state.sockets,
      0 ≤ entry.1 ∧ entry.2 < state.nextSerial) :
    SessionInv state where
  flag connected := by
    rw [flag] at connected
    cases connected
  unbinding _ := noBind
  newest inForce := absurd inForce noBind
  fresh := fresh
  known := known

/-- A step that changes the connection and no request. -/
theorem keeps_connection
    (inv : BindInv before)
    (stage : Stage [] [] binding down before)
    (session : SessionInv after)
    (same : SameRequests before after)
    (busy : after.busy = before.busy)
    (flag : before.busy .smppUnbindOper → after.smppIsConnected →
      before.smppIsConnected) :
    bindProtocol.Keeps controller before after := by
  refine bind_keeps_controller ⟨session, inv.objects.of_same same,
    filled_of_nil ?_⟩ (receiverRely_of_nothing
      (inv.objects.held_eq_nil stage.sending) same.held (congrFun busy _) flag)
  unfold State.objects
  rw [same.requests]
  exact stage.objects

/-- The stage after such a step. -/
theorem Stage.of_same
    (stage : Stage sending objects binding down before)
    (same : SameRequests before after)
    (busy : after.busy = before.busy)
    {later : Prop}
    (flag : later → after.smppIsConnected = false) :
    Stage sending objects binding later after where
  sending := same.sending.trans stage.sending
  objects := by
    unfold State.objects
    rw [same.requests]
    exact stage.objects
  binding := (congrFun busy _).trans stage.binding
  down := flag

/-- No socket is designated by -1. -/
theorem SessionInv.noSocket
    (inv : SessionInv state) :
    State.serial { state with iSock := -1 } = none :=
  state.serial_unset fun entry member => (inv.known entry member).1

theorem not_inForce_of_noSocket
    (none : state.serial = none) :
    ¬InForce state := by
  rintro ⟨serial, current, -⟩
  rw [none] at current
  cases current

/-- A new socket is not bound. -/
theorem exec_socket_bind
    (inv : BindInv state)
    (stage : Stage [] [] binding down state)
    {choice : Choice}
    (cleared : state.smppIsConnected = false) :
    let later := (exec controller .socket choice state).2
    bindProtocol.Keeps controller state later ∧
      Stage [] [] binding True later := by
  have frame := exec_frame controller .socket choice state
  have same : SameRequests state (exec controller .socket choice
      state).2 :=
    exec_plain controller rfl choice state
  have flag := (frame .smppIsConnected rfl).trans cleared
  refine ⟨keeps_connection inv stage ?_ same (frame .busy rfl) ?_,
    stage.of_same same (frame .busy rfl) fun _ => flag⟩
  · dsimp only [exec] at flag ⊢
    rcases state.socket_cases choice with
      ⟨descriptor, errno, nonnegative, -, created⟩ | refused
    · rw [created] at flag ⊢
      refine .cleared flag ?_ (fun serial old => inv.session.fresh serial
        (Nat.le_of_succ_le old)) fun entry member => ?_
      · rintro ⟨serial, current, bound⟩
        have newest : serial = state.nextSerial := by
          simpa [State.serial, eq_comm] using current
        have unbound := inv.session.fresh serial newest.ge
        rw [unbound] at bound
        cases bound
      · rcases List.mem_cons.mp member with rfl | earlier
        · exact ⟨nonnegative, Nat.lt_succ_self _⟩
        · obtain ⟨descriptor, old⟩ := inv.session.known entry earlier
          exact ⟨descriptor, Nat.lt_succ_of_lt old⟩
    · rw [refused] at flag ⊢
      exact .cleared flag (not_inForce_of_noSocket inv.session.noSocket)
        inv.session.fresh inv.session.known
  · intro _ connected
    rw [flag] at connected
    cases connected

/-- On a closed socket no bind is in force. -/
theorem exec_close_bind
    (inv : BindInv state)
    (stage : Stage [] [] binding True state)
    (choice : Choice) :
    let later := (exec controller .close choice state).2
    bindProtocol.Keeps controller state later ∧
      Stage [] [] binding True later := by
  have frame := exec_frame controller .close choice state
  have same : SameRequests state (exec controller .close choice
      state).2 :=
    exec_plain controller rfl choice state
  have flag := (frame .smppIsConnected rfl).trans (stage.down trivial)
  refine ⟨keeps_connection inv stage ?_ same (frame .busy rfl)
    fun _ connected => ?_, stage.of_same same (frame .busy rfl) fun _ => flag⟩
  · dsimp only [exec] at flag ⊢
    rcases state.close_cases choice with ⟨serial, -, -, closed⟩ | failed
    · rw [closed] at flag ⊢
      exact .cleared flag (not_inForce_of_noSocket state.serial_closed)
        inv.session.fresh fun entry member =>
          inv.session.known entry (List.mem_of_mem_filter member)
    · rw [failed]
      exact inv.session
  · rw [flag] at connected
    cases connected

theorem exec_setSock_bind
    (inv : BindInv state)
    (stage : Stage [] [] binding True state)
    (choice : Choice) :
    let later := (exec controller (.setSock (-1)) choice state).2
    bindProtocol.Keeps controller state later ∧
      Stage [] [] binding True later := by
  have frame := exec_frame controller (.setSock (-1)) choice state
  have same : SameRequests state (exec controller (.setSock (-1)) choice
      state).2 :=
    exec_plain controller rfl choice state
  have flag := stage.down trivial
  exact ⟨keeps_connection inv stage
    (.cleared flag (not_inForce_of_noSocket inv.session.noSocket)
      inv.session.fresh inv.session.known) same (frame .busy rfl)
    fun _ => id, stage.of_same same (frame .busy rfl) fun _ => flag⟩

/-- The flag is cleared. -/
theorem exec_clearFlag_bind
    (inv : BindInv state)
    (stage : Stage [] [] binding down state)
    (choice : Choice) :
    let later := (exec controller (.setSmppConnected false) choice state).2
    bindProtocol.Keeps controller state later ∧
      Stage [] [] binding True later := by
  have frame := exec_frame controller (.setSmppConnected false) choice state
  have same : SameRequests state (exec controller (.setSmppConnected false) choice
      state).2 :=
    exec_plain controller rfl choice state
  exact ⟨keeps_connection inv stage ⟨nofun, inv.session.unbinding,
      inv.session.newest, inv.session.fresh, inv.session.known⟩ same
      (frame .busy rfl) fun _ => nofun,
    stage.of_same same (frame .busy rfl) fun _ => rfl⟩

/-- The flag is set while a bind is in force. -/
theorem exec_setFlag_bind
    (inv : BindInv state)
    (stage : Stage [] [] true down state)
    (bound : Bound state)
    (choice : Choice) :
    let later := (exec controller (.setSmppConnected true) choice state).2
    bindProtocol.Keeps controller state later ∧
      Stage [] [] true False later := by
  have frame := exec_frame controller (.setSmppConnected true) choice state
  have same : SameRequests state (exec controller (.setSmppConnected true) choice
      state).2 :=
    exec_plain controller rfl choice state
  exact ⟨keeps_connection inv stage ⟨fun _ _ => bound,
      inv.session.unbinding, inv.session.newest, inv.session.fresh,
      inv.session.known⟩ same (frame .busy rfl) fun unbinding =>
        absurd bound.inForce (inv.session.unbinding unbinding),
    stage.of_same same (frame .busy rfl) False.elim⟩

theorem exec_enterConnect_bind
    (inv : BindInv state)
    (stage : Stage [] [] false down state)
    (choice : Choice) :
    let later := (exec controller (.enter .smppConnect) choice state).2
    bindProtocol.Keeps controller state later ∧
      Stage [] [] true down later :=
  ⟨bind_keeps_controller ⟨⟨inv.session.flag, inv.session.unbinding,
      inv.session.newest, inv.session.fresh, inv.session.known⟩,
      inv.objects.congr rfl rfl rfl rfl rfl, filled_of_nil stage.objects⟩
      (receiverRely_of_nothing (inv.objects.held_eq_nil stage.sending) rfl rfl
        fun _ => id),
    stage.sending, stage.objects, rfl, stage.down⟩

theorem exec_leaveConnect_bind
    (inv : BindInv state)
    (stage : Stage [] [] true down state)
    (choice : Choice) :
    let later := (exec controller (.leave .smppConnect) choice state).2
    bindProtocol.Keeps controller state later ∧
      Stage [] [] false down later :=
  ⟨bind_keeps_controller ⟨⟨inv.session.flag, inv.session.unbinding,
      inv.session.newest, inv.session.fresh, inv.session.known⟩,
      inv.objects.congr rfl rfl rfl rfl rfl, filled_of_nil stage.objects⟩
      (receiverRely_of_nothing (inv.objects.held_eq_nil stage.sending) rfl rfl
        fun _ => id),
    stage.sending, stage.objects, rfl, stage.down⟩

/-! ### Creating and deleting an object -/

/-- Nothing was received into an object of length zero. -/
theorem isBindOk_empty
    {data : SReqData}
    (empty : data.dataLen.toNat = 0) :
    isBindOk (state.contents data) = false := by
  rw [State.contents_eq_nil empty]
  decide

/-- A new object is neither linked nor filled. -/
theorem exec_newReqData_bind
    (inv : BindInv state)
    (stage : Stage [] [] binding down state)
    (choice : Choice) :
    let pointer := (exec controller .newReqData choice state).1
    let later := (exec controller .newReqData choice state).2
    bindProtocol.Keeps controller state later ∧
      Stage [] [(pointer.addr, pointer.owner)] binding down later ∧
        Fresh pointer later := by
  dsimp only [exec]
  obtain ⟨addr, -, created⟩ := state.newReqData_cases controller choice
  rw [created]
  have none := requests_eq_nil stage.objects
  have free : ¬Linked state state.nextOwner := fun linked =>
    Nat.lt_irrefl _ (inv.objects.older _ linked)
  have here : (withObject controller addr state).requests.lookup addr =
      some { owner := state.nextOwner, creator := controller } := by
    rw [lookup_withObject, if_pos rfl]
  refine ⟨bind_keeps_controller ⟨⟨inv.session.flag, inv.session.unbinding,
      inv.session.newest, inv.session.fresh, inv.session.known⟩,
      inv.objects.newReqData stage.sending none controller addr,
      fun address data found _ _ positive => ?_⟩
      (receiverRely_of_nothing (inv.objects.held_eq_nil stage.sending) rfl rfl
        fun _ => id),
    ⟨stage.sending, by simp [State.objects, none], stage.binding,
      stage.down⟩, free, _, here, rfl, rfl⟩
  change (withObject controller addr state).requests.lookup address = _
    at found
  rw [lookup_withObject, none] at found
  split at found
  · cases found
    rw [isBindOk_empty rfl] at positive
    cases positive
  · cases found

theorem exec_deleteReqData_bind
    (inv : BindInv state)
    (stage : Stage [] [(pointer.addr, pointer.owner)] binding down state)
    (choice : Choice) :
    let later := (exec controller (.deleteReqData pointer) choice state).2
    bindProtocol.Keeps controller state later ∧
      Stage [] [] binding down later := by
  obtain ⟨data, one, -⟩ := stage.found
  have none : (exec controller (.deleteReqData pointer) choice
      state).2.objects = [] := by
    simp [exec, State.deleteReqData, State.objects, one]
  exact ⟨bind_keeps_controller ⟨⟨inv.session.flag, inv.session.unbinding,
      inv.session.newest, inv.session.fresh, inv.session.known⟩,
      inv.objects.deleteReqData stage.sending (requests_eq_nil none),
      filled_of_nil none⟩
      (receiverRely_of_nothing (inv.objects.held_eq_nil stage.sending) rfl rfl
        fun _ => id), stage.sending, none, stage.binding, stage.down⟩

/-! ### A call in progress -/

theorem exec_enterSend_bind
    (inv : BindInv state)
    (stage : Stage [] objects binding down state)
    (fresh : Fresh pointer state)
    (choice : Choice) :
    let later := (exec controller (.enterSend pointer) choice state).2
    bindProtocol.Keeps controller state later ∧
      Stage [(controller, pointer.owner)] objects binding down later ∧
        Fresh pointer later := by
  have nothing := inv.objects.held_eq_nil stage.sending
  exact ⟨bind_keeps_controller ⟨⟨inv.session.flag, inv.session.unbinding,
      inv.session.newest, inv.session.fresh, inv.session.known⟩,
      inv.objects.enterSend stage.sending fresh.1 controller, inv.filled⟩
      (receiverRely_of_nothing nothing rfl rfl fun _ => id),
    ⟨by simp [exec, stage.sending], stage.objects, stage.binding,
      stage.down⟩, fresh⟩

/-- A call returns while the receiver does not hold its object. -/
theorem exec_leaveSend_bind
    (inv : BindInv state)
    (stage : Stage [(controller, pointer.owner)] objects binding down state)
    (free : pointer.owner ∉ state.held)
    (choice : Choice) :
    let later := (exec controller (.leaveSend pointer) choice state).2
    bindProtocol.Keeps controller state later ∧
      Stage [] objects binding down later := by
  have nothing := inv.objects.held_eq_nil_of_free stage.sending free
  have ended : (exec controller (.leaveSend pointer) choice
      state).2.sending = [] := by
    simp [exec, stage.sending]
  exact ⟨bind_keeps_controller ⟨⟨inv.session.flag, inv.session.unbinding,
      inv.session.newest, inv.session.fresh, inv.session.known⟩,
      inv.objects.leaveSend stage.sending free, inv.filled⟩
      (receiverRely_of_nothing nothing rfl rfl fun _ => id),
    ended, stage.objects, stage.binding, stage.down⟩

/-- A request that is not linked is registered, or its number is taken. -/
theorem exec_reqStorAdd_bind
    (inv : BindInv state)
    (stage : Stage [(controller, pointer.owner)] objects binding down state)
    (fresh : Fresh pointer state)
    (seqNum : Nat)
    (choice : Choice) :
    let later :=
      (exec controller (.reqStorAdd seqNum pointer) choice state).2
    bindProtocol.Keeps controller state later ∧
      Stage [(controller, pointer.owner)] objects binding down later := by
  have nothing := inv.objects.held_eq_nil_of_free stage.sending
    fun held => fresh.1 (.inr held)
  dsimp only [exec]
  rcases state.storAdd_cases seqNum pointer with
    added | ⟨other, -, refused⟩
  · rw [added]
    exact ⟨bind_keeps_controller ⟨⟨inv.session.flag,
        inv.session.unbinding, inv.session.newest, inv.session.fresh,
        inv.session.known⟩, inv.objects.reqStorAdd fresh seqNum,
        inv.filled⟩ (receiverRely_of_nothing nothing rfl rfl fun _ => id),
      stage.sending, stage.objects, stage.binding, stage.down⟩
  · rw [refused]
    have calm : Calm state (state.note (.storRefused seqNum
        (state.sending.length - 1))) :=
      .note (fun _ => rfl) state
    exact ⟨bind_keeps_controller (calm.inv inv) calm.receiverRely,
      stage.sending, stage.objects, stage.binding, stage.down⟩

/-- The response an object holds when its call has returned. -/
theorem readReqData_positive
    (inv : BindInv state)
    (stage : Stage [] [(pointer.addr, pointer.owner)] true down state)
    (positive : isBindOk (state.readReqData pointer)) :
    InForce state := by
  obtain ⟨data, one, owner⟩ := stage.found
  have found : state.requests.lookup pointer.addr = some data := by
    simp [one]
  have free : data.owner ∉ state.held := by
    rw [inv.objects.held_eq_nil stage.sending]
    exact List.not_mem_nil
  rw [State.readReqData_eq found] at positive
  exact inv.filled _ data found free stage.binding positive

/-- What may be sent: no `UNBIND`, or one outside `sms112_smpp_connect` with
the flag cleared. -/
def Sendable (binding : Bool) (down : Prop) (data : Octets) : Prop :=
  word data 4 ≠ UNBIND ∨ binding = false ∧ down

theorem Stage.of_calm
    (stage : Stage sending objects binding down before)
    (calm : Calm before after) :
    Stage sending objects binding down after where
  sending := calm.sending.trans stage.sending
  objects := by
    unfold State.objects
    rw [calm.requests]
    exact stage.objects
  binding := calm.binding.trans stage.binding
  down holds := calm.flag.trans (stage.down holds)

/-- What was sent was sent on the socket in `g_iSock`. -/
theorem exec_send_transmitted
    {data : Octets}
    (short : data.length ≤ localBufferSize)
    (choice : Choice)
    (sent : equalsUnsigned (exec controller (.send data) choice state).1.1
        data.length ∨ (exec controller (.send data) choice state).1.2 = 0) :
    Transmitted data (exec controller (.send data) choice state).2 := by
  dsimp only [exec] at sent ⊢
  rcases state.send_cases controller choice data with
    ⟨serial, current, -, equal⟩ | failed
  · rw [equal]
    exact ⟨serial, current, controller, _, List.mem_cons_self⟩
  · rw [failed] at sent
    rcases sent with whole | noError
    · have size : ((-1 : Int) % 2 ^ 32) = data.length :=
        of_decide_eq_true whole
      unfold localBufferSize at short
      omega
    · exact absurd noError choice.failure_ne_zero

theorem exec_send_bind
    (inv : BindInv state)
    (stage : Stage sending objects binding down state)
    {data : Octets}
    (sendable : Sendable binding down data)
    (choice : Choice) :
    let later := (exec controller (.send data) choice state).2
    bindProtocol.Keeps controller state later ∧
      Stage sending objects binding down later := by
  rcases sendable with harmless | ⟨rfl, holds⟩
  · have calmSend : (Op.send data).isCalm := decide_eq_true harmless
    have calm := exec_calm controller calmSend choice state
    exact ⟨bind_keeps_controller (calm.inv inv) calm.receiverRely,
      stage.of_calm calm⟩
  · -- an `UNBIND`: no bind is being made, and the flag is cleared
    have same : SameRequests state
        (exec controller (.send data) choice state).2 :=
      exec_plain controller rfl choice state
    have frame := exec_frame controller (.send data) choice state
    have busy := frame .busy rfl
    have flag := (frame .smppIsConnected rfl).trans (stage.down holds)
    have serial : (exec controller (.send data) choice state).2.serial =
        state.serial := by
      unfold State.serial
      rw [frame .sockets rfl, frame .iSock rfl]
    have fewer (current : Nat) (bound : boundOn current
        (exec controller (.send data) choice state).2.log) :
        boundOn current state.log := by
      rcases exec_notes controller (.send data) choice state with
        unchanged | ⟨event, noted, appended⟩
      · rwa [unchanged] at bound
      · rw [appended] at bound
        refine boundOn_of_cons ?_ bound
        cases event <;> simp [Op.notes] at noted
        simp only [Event.effect]
        split <;> simp
    have notBinding : state.busy .smppConnect = false := stage.binding
    have notBindingLater := (congrFun busy .smppConnect).trans notBinding
    refine ⟨bind_keeps_controller ⟨inv.session.of_fewer flag ?_ serial
        (frame .lastRecv rfl) (frame .sockets rfl) (frame .nextSerial rfl)
        fewer, inv.objects.of_same same, fun _ _ _ _ connecting => ?_⟩
      ⟨same.held, congrFun busy _, fun _ connected => ?_, fun _ => ?_⟩,
      stage.of_same same busy fun _ => flag⟩
    · rintro unbinding ⟨current, isCurrent, bound⟩
      exact inv.session.unbinding ((congrFun busy _).symm.trans unbinding)
        ⟨current, serial ▸ isCurrent, fewer current bound⟩
    · rw [notBindingLater] at connecting
      cases connecting
    · rw [flag] at connected
      cases connected
    · refine ⟨frame .buffers rfl, serial, congrFun busy _,
        fun connecting => ?_, fun addr data' found =>
          ⟨data', by rwa [same.requests], rfl, rfl, rfl⟩⟩
      rw [notBinding] at connecting
      cases connecting

/-- The wait for the response ends, with it or without. -/
theorem exec_timedLockReq_bind
    (inv : BindInv state)
    (stage : Stage sending objects binding down state)
    (deadline : Timespec)
    (choice : Choice) :
    let later :=
      (exec controller (.timedLockReq pointer deadline) choice state).2
    bindProtocol.Keeps controller state later ∧
      Stage sending objects binding down later := by
  dsimp only [exec]
  rcases state.timedLockReq_cases pointer with
    ⟨_, -, -, woken⟩ | ⟨ret, -, timedOut⟩
  · rw [woken]
    have objects : (state.updateRequest pointer
        fun data => { data with locked := true }).objects = state.objects :=
      objects_updateRequest fun _ => rfl
    have objectsInv : ObjectsInv (state.updateRequest pointer
        fun data => { data with locked := true }) :=
      inv.objects.update pointer (fun data => { data with locked := true })
        (fun _ => rfl) (List.Sublist.refl _) fun _ _ _ none => none
    refine ⟨bind_keeps_controller ⟨⟨inv.session.flag,
        inv.session.unbinding, inv.session.newest, inv.session.fresh,
        inv.session.known⟩, objectsInv, fun addr later after free connecting positive => ?_⟩
      ⟨rfl, rfl, fun _ => id, fun _ => ⟨rfl, rfl, rfl, fun _ => id,
        fun addr data found => ?_⟩⟩,
      stage.sending, objects.trans stage.objects, stage.binding, stage.down⟩
    · rw [state.lookup_updateRequest] at after
      split at after
      next here =>
        obtain ⟨data, found, rfl⟩ := Option.map_eq_some_iff.mp after
        exact inv.filled addr data found free connecting positive
      next elsewhere =>
        exact inv.filled addr later after free connecting positive
    · have later := state.lookup_updateRequest pointer
        (fun data => { data with locked := true }) addr
      rw [found] at later
      split at later
      next here => exact ⟨_, later, rfl, rfl, rfl⟩
      next elsewhere => exact ⟨_, later, rfl, rfl, rfl⟩
  · rw [timedOut]
    have calm := Calm.refl state
    exact ⟨bind_keeps_controller (calm.inv inv) calm.receiverRely, stage⟩

end Controller

end Sms112
