import Sms112.Connection.BindResponse
import Sms112.Connection.Sockets
import Sms112.Handler.Outcome

/-!
# The SMPP flag

`sms112_smpp_is_connected()` is true only on a connection on which a bind is in
force, in every run in which a socket is opened only with the flag cleared and
in which the receiver takes nothing up out of order. A TCP flag that a failing
response has cleared sends the ping loop to a new socket without touching the
SMPP flag.
-/

namespace Sms112

open Resumption

variable {α : Type}

/-- Outside the three routines that change it, the flag is true only if a
`BIND_TRANSCEIVER` was answered with `ESME_ROK` on the socket in `g_iSock` and
no `UNBIND` has been sent or received since. -/
def SmppFlagSound (state : State) : Prop :=
  state.busy .smppConnect = false → state.busy .smppDisconn = false →
    state.busy .smppUnbindOper = false → state.smppIsConnected →
      Bound state

/-- The invariant of the binding says what the flag promises. -/
theorem BindInv.smppFlagSound
    {state : State}
    (inv : BindInv state) :
    SmppFlagSound state :=
  fun _ _ idle connected => inv.session.flag connected idle

/-- A triple of the protocol of the binding. -/
abbrev BindTriple (thread : Thread) (pre : State → Prop)
    (program : Prog α) (post : α → State → Prop) : Prop :=
  bindProtocol.Triple exec BindsInOrder thread pre program post

/-! ## Calm programs -/

section CalmPrograms

variable {thread : Thread} {assertion : State → Prop}

/-- A program of calm operations keeps what the thread knows of the bind. -/
theorem calm_triple
    {program : Prog α}
    (uses : program.Uses fun operation => operation.isCalm)
    (stable : bindProtocol.Stable thread assertion) :
    BindTriple thread assertion program fun _ => assertion := by
  refine Protocol.Triple.unobtrusive uses stable ?_
  intro operation state choice calm inv _
  have step := exec_calm thread calm choice state
  exact ⟨step.inv inv, step.rely⟩

theorem calm_call
    {operation : Op}
    (calm : operation.isCalm)
    (stable : bindProtocol.Stable thread assertion) :
    BindTriple thread assertion (call operation) fun _ => assertion :=
  calm_triple ⟨calm, fun _ => trivial⟩ stable

theorem Op.isDelivery.calm
    (operation : Op)
    (delivery : operation.isDelivery) :
    operation.isCalm := by
  cases operation
  case note event => cases event <;> first | rfl | cases delivery
  all_goals first | rfl | cases delivery

end CalmPrograms

/-! ## The controller's calls -/

section Controller

variable {sending : List (Thread × Nat)} {objects : List (Nat × Nat)}
variable {binding : Bool} {down : Prop} {pointer : ReqPtr}

/-- What was transmitted on the socket in `g_iSock` stays so while the socket
does. -/
theorem Transmitted.exec
    {data : Octets}
    {state : State}
    (transmitted : Transmitted data state)
    (operation : Op)
    (choice : Choice)
    (iSock : operation.writes .iSock = false)
    (sockets : operation.writes .sockets = false) :
    Transmitted data (exec controller operation choice state).2 := by
  have frame := exec_frame controller operation choice state
  obtain ⟨serial, current, thread, accepted, sent⟩ := transmitted
  refine ⟨serial, ?_, thread, accepted, ?_⟩
  · unfold State.serial at current ⊢
    rwa [frame .sockets sockets, frame .iSock iSock]
  · rcases exec_notes controller operation choice state with
      same | ⟨event, -, appended⟩
    · rwa [same]
    · rw [appended]
      exact .tail _ sent

/-- A step of the controller that leaves the connection alone. -/
theorem stage_call
    {operation : Op}
    {later : List (Thread × Nat)}
    {data : Octets}
    (condition : Prop)
    (iSock : operation.writes .iSock = false)
    (sockets : operation.writes .sockets = false)
    (outcome : ∀ state choice, BindInv state →
      Stage sending objects binding down state →
      BindsInOrder controller operation choice state →
        bindProtocol.Keeps controller state
            (exec controller operation choice state).2 ∧
          Stage later objects binding down
            (exec controller operation choice state).2) :
    BindTriple controller
      (fun state => Stage sending objects binding down state ∧
        (condition → Transmitted data state))
      (call operation) fun _ state =>
        Stage later objects binding down state ∧
          (condition → Transmitted data state) := by
  have transmittedIf : bindProtocol.Stable controller
      fun state => condition → Transmitted data state :=
    fun before after inv holds rely invAfter assumed =>
      transmitted_stable data before after inv (holds assumed) rely invAfter
  refine .call (stage_stable.conj transmittedIf)
    (fun _ => stage_stable.conj transmittedIf) ?_
  intro state choice inv ⟨stage, transmitted⟩ admissible
  obtain ⟨keeps, reached⟩ := outcome state choice inv stage admissible
  exact ⟨keeps, reached, fun assumed =>
    (transmitted assumed).exec operation choice iSock sockets⟩

theorem stageTransmitted_stable
    (data : Octets)
    (condition : Prop) :
    bindProtocol.Stable controller fun state =>
      Stage sending objects binding down state ∧
        (condition → Transmitted data state) :=
  stage_stable.conj fun before after inv holds rely invAfter assumed =>
    transmitted_stable data before after inv (holds assumed) rely invAfter

/-- Sending keeps to the protocol where the PDU may be sent, and what was sent
with success was transmitted. -/
theorem tcpSend_bind
    {data : Octets}
    (sendable : Sendable binding down data)
    (short : data.length ≤ localBufferSize) :
    BindTriple controller (Stage sending objects binding down)
      (tcpSend data) fun iFnRes state =>
        Stage sending objects binding down state ∧
          (iFnRes = 0 → Transmitted data state) := by
  have sends : BindTriple controller (Stage sending objects binding down)
      (call (.send data)) fun outcome state =>
        Stage sending objects binding down state ∧
          (equalsUnsigned outcome.1 data.length ∨ outcome.2 = 0 →
            Transmitted data state) := by
    refine .call stage_stable
      (fun _ => stageTransmitted_stable data _) ?_
    intro state choice inv stage _
    obtain ⟨keeps, reached⟩ := exec_send_bind inv stage sendable choice
    exact ⟨keeps, reached, exec_send_transmitted short choice⟩
  refine sends.bind fun outcome => .ite (fun whole => ?_) fun _ => ?_
  · exact .returns (stageTransmitted_stable data _) fun _ _ holds =>
      ⟨holds.1, fun _ => holds.2 (.inl whole)⟩
  · refine (calm_call rfl (stageTransmitted_stable data _)).bind fun _ => ?_
    exact .returns (stageTransmitted_stable data _) fun _ _ holds =>
      ⟨holds.1, fun success => holds.2 (.inr (by simpa using success))⟩

/-- `sms112_smpp_send` returns 0 only if the request was sent. -/
theorem smppSendBody_bind
    {data : Octets}
    (sendable : Sendable binding down data)
    (short : data.length ≤ localBufferSize)
    (seqNum : Nat) :
    BindTriple controller
      (fun state => Stage [(controller, pointer.owner)] objects binding down
        state ∧ Fresh pointer state)
      (smppSendBody data seqNum pointer) fun iRetVal state =>
        Stage [(controller, pointer.owner)] objects binding down state ∧
          (iRetVal = 0 → Transmitted data state) := by
  have failed {pre : State → Prop} {iFnRes : Int} (nonzero : iFnRes ≠ 0)
      (entails : ∀ state, pre state →
        Stage [(controller, pointer.owner)] objects binding down state) :
      BindTriple controller pre (.ret iFnRes) fun iRetVal state =>
        Stage [(controller, pointer.owner)] objects binding down state ∧
          (iRetVal = 0 → Transmitted data state) :=
    .returns (stageTransmitted_stable data _) fun state _ holds =>
      ⟨entails state holds, fun success => absurd success nonzero⟩
  have adds : BindTriple controller
      (fun state => Stage [(controller, pointer.owner)] objects binding down
        state ∧ Fresh pointer state)
      (call (.reqStorAdd seqNum pointer)) fun _ =>
        Stage [(controller, pointer.owner)] objects binding down :=
    .call (stage_stable.conj fresh_stable) (fun _ => stage_stable)
      fun _ choice inv holds _ =>
        exec_reqStorAdd_bind inv holds.1 holds.2 seqNum choice
  refine adds.bind fun iFnRes =>
    .ite (fun refused => failed refused fun _ stage => stage) fun _ => ?_
  refine (tcpSend_bind sendable short).bind fun iFnRes =>
    .ite (fun unsent => failed unsent fun _ holds => holds.1) fun sent => ?_
  have around (iFnRes : Int) := @stageTransmitted_stable
    [(controller, pointer.owner)] objects binding down data (iFnRes = 0)
  refine (calm_call rfl (around _)).bind fun garbage =>
    (calm_triple (makeTimespecTimeout_uses (by rfl) _ _ _) (around _)).bind
      fun timeSpec => ?_
  refine (stage_call _ rfl rfl fun _ choice inv stage _ =>
    exec_timedLockReq_bind inv stage timeSpec.2 choice).bind fun woken =>
      (calm_call rfl (around _)).bind fun dataLen => ?_
  refine .ite (fun _ => ?_) fun _ => ?_ <;>
    exact .returns (around _) fun _ _ holds =>
      ⟨holds.1, fun _ => holds.2 (not_not.mp sent)⟩

/-- If `sms112_smpp_send` succeeds, its PDU went out on the socket in
`g_iSock`. -/
theorem smppSend_bind
    {data : Octets}
    (sendable : Sendable binding down data)
    (short : data.length ≤ localBufferSize)
    (seqNum : Nat) :
    BindTriple controller
      (fun state => Stage [] objects binding down state ∧
        Fresh pointer state)
      (smppSend data seqNum pointer) fun iRetVal state =>
        Stage [] objects binding down state ∧
          (iRetVal = 0 → Transmitted data state) := by
  have enters : BindTriple controller
      (fun state => Stage [] objects binding down state ∧
        Fresh pointer state)
      (call (.enterSend pointer)) fun _ state =>
        Stage [(controller, pointer.owner)] objects binding down state ∧
          Fresh pointer state :=
    .call (stage_stable.conj fresh_stable)
      (fun _ => stage_stable.conj fresh_stable) fun _ choice inv holds _ =>
        exec_enterSend_bind inv holds.1 holds.2 choice
  have leaves (iRetVal : Int) : BindTriple controller
      (fun state => Stage [(controller, pointer.owner)] objects binding down
        state ∧ (iRetVal = 0 → Transmitted data state))
      (call (.leaveSend pointer)) fun _ state =>
        Stage [] objects binding down state ∧
          (iRetVal = 0 → Transmitted data state) :=
    stage_call _ rfl rfl fun _ choice inv stage free =>
      exec_leaveSend_bind inv stage free choice
  refine enters.bind fun _ =>
    (smppSendBody_bind sendable short seqNum).bind fun iRetVal =>
      (leaves iRetVal).bind fun _ => ?_
  exact .returns (stageTransmitted_stable data _) fun _ _ holds => holds

/-! ### The response -/

/-- A bind in force whose request went out is requested and answered. -/
theorem Bound.of_transmitted
    {data : Octets}
    {state : State}
    (inForce : InForce state)
    (transmitted : Transmitted data state)
    (bind : word data 4 = BIND_TRANSCEIVER) :
    Bound state := by
  obtain ⟨serial, current, answered⟩ := inForce
  obtain ⟨other, isCurrent, thread, accepted, sent⟩ := transmitted
  obtain rfl : serial = other :=
    Option.some.inj (Eq.symm current |>.trans isCurrent)
  exact ⟨serial, current, ⟨thread, data, accepted, sent, bind⟩, answered⟩

/-- The controller's stage, and the bind if the call was answered. -/
def BoundIf (objects : List (Nat × Nat)) (binding : Bool) (down : Prop)
    (answered : Prop) (state : State) : Prop :=
  Stage [] objects binding down state ∧
    (binding = true → answered → Bound state)

theorem boundIf_stable (answered : Prop) :
    bindProtocol.Stable controller
      (BoundIf objects binding down answered) := by
  rintro before after invBefore ⟨stage, bound⟩ rely invAfter
  refine ⟨stage_stable before after invBefore stage rely invAfter,
    fun connecting holds => ?_⟩
  have rely : ControllerRely before after := rely
  obtain ⟨serial, current, ⟨thread, data, accepted, sent, bind⟩, response⟩ :=
    bound connecting holds
  obtain ⟨other, isCurrent, kept⟩ := rely.inForce
    (stage.binding.trans connecting) ⟨serial, current, response⟩
  have same : serial = other :=
    Option.some.inj (Eq.symm (rely.serial ▸ current) |>.trans isCurrent)
  exact ⟨other, isCurrent,
    ⟨thread, data, accepted, same ▸ rely.log.subset sent, bind⟩, kept⟩

variable {lib : Smpp34} (faithful : lib.Faithful)

include faithful

/-- A response that is decoded as a positive bind response is one. -/
theorem isBindOk_of_unpack2
    {buffer : Octets}
    (decoded : (lib.unpack2 buffer).1 = 0)
    (response : (lib.unpack2 buffer).2.commandId = BIND_TRANSCEIVER_RESP)
    (positive : (lib.unpack2 buffer).2.commandStatus = ESME_ROK) :
    isBindOk buffer := by
  rw [faithful.unpack_commandId buffer decoded] at response
  rw [faithful.unpack_commandStatus buffer decoded] at positive
  simp [isBindOk, faithful.unpack_length buffer decoded, response, positive]

/-- The call was answered by a positive bind response. -/
theorem readResponse_bind
    {data : Octets}
    (request : Pdu)
    (respId : Nat)
    (freesTlv : Bool)
    (bind : binding = true → respId = BIND_TRANSCEIVER_RESP ∧
      word data 4 = BIND_TRANSCEIVER) :
    BindTriple controller
      (fun state => Stage [] [(pointer.addr, pointer.owner)] binding down
        state ∧ Transmitted data state)
      (readResponse lib request respId freesTlv pointer) fun iRetVal =>
        BoundIf [(pointer.addr, pointer.owner)] binding down
          (iRetVal = 0) := by
  have reads : BindTriple controller
      (fun state => Stage [] [(pointer.addr, pointer.owner)] binding down
        state ∧ Transmitted data state)
      (call (.readReqData pointer)) fun buffer =>
        BoundIf [(pointer.addr, pointer.owner)] binding down
          (isBindOk buffer) := by
    refine .call (stage_stable.conj (transmitted_stable data))
      (fun buffer => boundIf_stable (isBindOk buffer)) ?_
    intro state choice inv ⟨stage, transmitted⟩ _
    have calm := exec_calm controller
      (show Op.isCalm (.readReqData pointer) from rfl) choice state
    refine ⟨⟨calm.inv inv, fun other _ => calm.rely other⟩,
      stage.of_calm calm, fun connecting positive => ?_⟩
    subst connecting
    exact .of_transmitted (readReqData_positive inv stage positive)
      transmitted (bind rfl).2
  have failed {answered : Prop} {error : Int} (nonzero : error ≠ 0) :
      BindTriple controller
        (BoundIf [(pointer.addr, pointer.owner)] binding down answered)
        (.ret error) fun iRetVal =>
          BoundIf [(pointer.addr, pointer.owner)] binding down
            (iRetVal = 0) :=
    .returns (boundIf_stable _) fun _ _ holds =>
      ⟨holds.1, fun _ success => absurd success nonzero⟩
  refine reads.bind fun buffer => ?_
  have around := @boundIf_stable [(pointer.addr, pointer.owner)] binding
    down (isBindOk buffer)
  refine (calm_call rfl around).bind fun _ =>
    (calm_call rfl around).bind fun nodes =>
      .ite (fun undecoded => failed undecoded) fun decoded => ?_
  have checks : BindTriple controller
      (BoundIf [(pointer.addr, pointer.owner)] binding down
        (isBindOk buffer))
      (if (lib.unpack2 buffer).2.commandId = respId ∧
          (lib.unpack2 buffer).2.commandStatus = ESME_ROK then .ret 0
        else .ret EINVAL) fun iRetVal =>
          BoundIf [(pointer.addr, pointer.owner)] binding down
            (iRetVal = 0) := by
    refine .ite (fun matches_ => ?_) fun _ => failed (by decide)
    refine .returns (boundIf_stable _) fun _ _ holds =>
      ⟨holds.1, fun connecting _ => holds.2 connecting ?_⟩
    exact isBindOk_of_unpack2 faithful (not_not.mp decoded)
      (matches_.1.trans (bind connecting).1) matches_.2
  cases freesTlv with
  | false => exact checks
  | true => exact (calm_call rfl around).bind fun _ => checks

/-- The exchange ends without its object; a bind that it reports as made is in
force. -/
theorem exchange_bind
    (request : Pdu)
    (respId : Nat)
    (freesTlv : Bool)
    (sendable : request.commandId % 2 ^ 32 ≠ UNBIND ∨
      binding = false ∧ down)
    (bind : binding = true → respId = BIND_TRANSCEIVER_RESP ∧
      request.commandId % 2 ^ 32 = BIND_TRANSCEIVER) :
    BindTriple controller (Stage [] [] binding down)
      (exchange lib request respId freesTlv) fun iRetVal =>
        BoundIf [] binding down (iRetVal = 0) := by
  have creates : BindTriple controller (Stage [] [] binding down)
      (call .newReqData) fun pointer state =>
        Stage [] [(pointer.addr, pointer.owner)] binding down state ∧
          Fresh pointer state :=
    .call stage_stable (fun _ => stage_stable.conj fresh_stable)
      fun _ choice inv stage _ => exec_newReqData_bind inv stage choice
  have deletes (pointer : ReqPtr) (iRetVal : Int) : BindTriple controller
      (BoundIf [(pointer.addr, pointer.owner)] binding down (iRetVal = 0))
      (do call (.deleteReqData pointer); return iRetVal) fun iRetVal =>
        BoundIf [] binding down (iRetVal = 0) := by
    have delete : BindTriple controller
        (BoundIf [(pointer.addr, pointer.owner)] binding down (iRetVal = 0))
        (call (.deleteReqData pointer)) fun _ =>
          BoundIf [] binding down (iRetVal = 0) := by
      refine .call (boundIf_stable _) (fun _ => boundIf_stable _) ?_
      intro state choice inv ⟨stage, bound⟩ _
      obtain ⟨keeps, reached⟩ := exec_deleteReqData_bind inv stage choice
      exact ⟨keeps, reached, bound⟩
    exact delete.bind fun _ =>
      .returns (boundIf_stable _) fun _ _ holds => holds
  unfold exchange
  dsimp only
  refine .ite (fun failed => ?_) fun packed => ?_
  · exact .returns (boundIf_stable _) fun _ _ stage =>
      ⟨stage, fun _ success => absurd success failed⟩
  · have commandId := faithful.pack_commandId request localBufferSize
      (not_not.mp packed)
    have short := (faithful.pack_length request localBufferSize
      (not_not.mp packed)).2
    rw [← commandId] at sendable bind
    refine creates.bind fun pointer =>
      (smppSend_bind sendable short _).bind fun iFnRes =>
        .ite (fun failed => ?_) fun sent => ?_
    · exact (deletes pointer iFnRes).consequence
        (fun _ _ holds => ⟨holds.1, fun _ success => absurd success failed⟩)
        fun _ _ _ holds => holds
    · refine .consequence (.bind
        (readResponse_bind faithful request respId freesTlv bind)
        fun iRetVal => deletes pointer iRetVal)
        (fun _ _ holds => ⟨holds.1, holds.2 (not_not.mp sent)⟩)
        fun _ _ _ holds => holds

variable (conf : SConf)

/-- The flag is set only for a bind that is in force. -/
theorem smppConnect_bind :
    BindTriple controller (Stage [] [] false down) (smppConnect conf lib)
      fun iRetVal => Stage [] [] false (iRetVal ≠ 0 ∧ down) := by
  have enters : BindTriple controller (Stage [] [] false down)
      (call (.enter .smppConnect)) fun _ => Stage [] [] true down :=
    .call stage_stable (fun _ => stage_stable)
      fun _ choice inv stage _ => exec_enterConnect_bind inv stage choice
  have leaves (down : Prop) : BindTriple controller
      (Stage [] [] true down) (call (.leave .smppConnect))
        fun _ => Stage [] [] false down :=
    .call stage_stable (fun _ => stage_stable)
      fun _ choice inv stage _ => exec_leaveConnect_bind inv stage choice
  have sets {iRetVal : Int} (success : iRetVal = 0) : BindTriple controller
      (BoundIf [] true down (iRetVal = 0)) (call (.setSmppConnected true))
        fun _ => Stage [] [] true (iRetVal ≠ 0 ∧ down) := by
    refine .call (boundIf_stable _) (fun _ => stage_stable) ?_
    intro state choice inv ⟨stage, bound⟩ _
    obtain ⟨keeps, reached⟩ :=
      exec_setFlag_bind inv stage (bound rfl success) choice
    exact ⟨keeps, reached.sending, reached.objects, reached.binding,
      fun failed => absurd success failed.1⟩
  refine enters.bind fun _ => .bind ?_ fun iRetVal =>
    (leaves (iRetVal ≠ 0 ∧ down)).bind fun _ =>
      .returns stage_stable fun _ _ stage => stage
  refine (calm_call rfl stage_stable).bind fun seqNum =>
    (exchange_bind faithful (bindTransceiver conf seqNum)
      BIND_TRANSCEIVER_RESP true
      (.inl (show BIND_TRANSCEIVER % 2 ^ 32 ≠ UNBIND by decide))
        fun _ => ⟨rfl, rfl⟩).bind fun iRetVal =>
          .ite (fun success => ?_) fun failed => ?_
  · exact (sets success).bind fun _ =>
      .returns stage_stable fun _ _ stage => stage
  · exact .returns stage_stable fun _ _ ⟨stage, _⟩ =>
      ⟨stage.sending, stage.objects, stage.binding,
        fun holds => stage.down holds.2⟩

/-- What the exchanges leave that make no bind. -/
theorem unanswered_bind
    (request : Pdu)
    (respId : Nat)
    (sendable : request.commandId % 2 ^ 32 ≠ UNBIND ∨ down) :
    BindTriple controller (Stage [] [] false down)
      (exchange lib request respId false) fun _ => Stage [] [] false down :=
  (exchange_bind faithful request respId false
    (sendable.imp id fun holds => ⟨rfl, holds⟩) nofun).consequence
      (fun _ _ stage => stage) fun _ _ _ holds => holds.1

/-- After `sms112_smpp_disconn` the flag is cleared. -/
theorem smppDisconn_bind :
    BindTriple controller (Stage [] [] false down) (smppDisconn lib)
      fun _ => Stage [] [] false True := by
  have clears : BindTriple controller (Stage [] [] false down)
      (call (.setSmppConnected false)) fun _ => Stage [] [] false True :=
    .call stage_stable (fun _ => stage_stable)
      fun _ choice inv stage _ => exec_clearFlag_bind inv stage choice
  refine (calm_call rfl stage_stable).bind fun _ => .bind
    (clears.bind fun _ => (calm_call rfl stage_stable).bind fun seqNum =>
      unanswered_bind faithful (headerPdu UNBIND seqNum) UNBIND_RESP
        (.inr trivial)) fun _ => ?_
  exact (calm_call rfl stage_stable).bind fun _ =>
    .returns stage_stable fun _ _ stage => stage

theorem smppEnqLink_bind :
    BindTriple controller (Stage [] [] false down) (smppEnqLink lib)
      fun _ => Stage [] [] false down :=
  (calm_call rfl stage_stable).bind fun seqNum =>
    unanswered_bind faithful (headerPdu ENQUIRE_LINK seqNum)
      ENQUIRE_LINK_RESP
      (.inl (show ENQUIRE_LINK % 2 ^ 32 ≠ UNBIND by decide))

omit faithful

/-! ### The socket -/

/-- A socket is opened with the flag cleared. -/
theorem tcpConnect_bind :
    BindTriple controller (Stage [] [] false down) tcpConnect
      fun _ => Stage [] [] false True := by
  have opens : BindTriple controller (Stage [] [] false down)
      (call .socket) fun _ => Stage [] [] false True :=
    .call stage_stable (fun _ => stage_stable)
      fun _ _ inv stage cleared => exec_socket_bind inv stage cleared
  have done {iRetVal : Int} : BindTriple controller
      (Stage [] [] false True) (.ret iRetVal)
        fun _ => Stage [] [] false True :=
    .returns stage_stable fun _ _ stage => stage
  refine (calm_call rfl stage_stable).bind fun _ => .bind ?_ fun iRetVal =>
    (calm_call rfl stage_stable).bind fun _ => done
  refine opens.bind fun opened => .ite (fun _ => done) fun _ => ?_
  refine (calm_call rfl stage_stable).bind fun _ =>
    (calm_call rfl stage_stable).bind fun controlled =>
      .ite (fun _ => done) fun _ => ?_
  exact (calm_call rfl stage_stable).bind fun _ => done

theorem tcpDisconn_bind :
    BindTriple controller (Stage [] [] false True) tcpDisconn
      fun _ => Stage [] [] false True := by
  have closes : BindTriple controller (Stage [] [] false True)
      (call .close) fun _ => Stage [] [] false True :=
    .call stage_stable (fun _ => stage_stable)
      fun _ choice inv stage _ => exec_close_bind inv stage choice
  have forgets : BindTriple controller (Stage [] [] false True)
      (call (.setSock (-1))) fun _ => Stage [] [] false True :=
    .call stage_stable (fun _ => stage_stable)
      fun _ choice inv stage _ => exec_setSock_bind inv stage choice
  have done : BindTriple controller (Stage [] [] false True)
      (.ret PUnit.unit) fun _ => Stage [] [] false True :=
    .returns stage_stable fun _ _ stage => stage
  refine (calm_call rfl stage_stable).bind fun _ => .bind ?_ fun _ =>
    (calm_call rfl stage_stable).bind fun _ => done
  refine (calm_call rfl stage_stable).bind fun iSock =>
    .ite (fun _ => ?_) fun _ => done
  refine (calm_call rfl stage_stable).bind fun _ => closes.bind fun closed =>
    .ite (fun _ => ?_) fun _ => done
  exact (calm_call rfl stage_stable).bind fun _ => forgets

/-! ### The controller's programs -/

/-- The controller is between two calls. -/
abbrev BetweenCalls : State → Prop :=
  Stage [] [] false False

theorem Stage.betweenCalls
    {state : State}
    (stage : Stage [] [] false down state) :
    BetweenCalls state :=
  ⟨stage.sending, stage.objects, stage.binding, False.elim⟩

theorem continues_bind {label : Label} :
    BindTriple controller (Stage [] [] false down) (.ret label)
      fun _ => BetweenCalls :=
  .returns stage_stable fun _ _ stage => stage.betweenCalls

include faithful

/-- `main` ends between two calls, as it began. -/
theorem main_bind :
    BindTriple controller BetweenCalls (main conf lib)
      fun _ => BetweenCalls := by
  have stops : BindTriple controller (Stage [] [] false True)
      (do tcpDisconn; return Label.stopped) fun _ => BetweenCalls :=
    tcpDisconn_bind.bind fun _ => continues_bind
  refine tcpConnect_bind.bind fun iFnRes =>
    .ite (fun _ => continues_bind) fun _ => ?_
  refine (calm_call rfl stage_stable).bind fun created =>
    .ite (fun _ => stops) fun _ => ?_
  refine (smppConnect_bind faithful conf).bind fun iRetVal =>
    .ite (fun failed => ?_) fun _ => ?_
  · exact stops.consequence (fun _ _ stage => ⟨stage.sending, stage.objects,
      stage.binding, fun _ => stage.down ⟨failed, trivial⟩⟩)
      fun _ _ _ stage => stage
  · exact (calm_call rfl stage_stable).bind fun created =>
      .ite (fun _ => continues_bind) fun _ => continues_bind

omit faithful

theorem startPing_bind :
    BindTriple controller BetweenCalls (startPing conf)
      fun _ => BetweenCalls := by
  refine (calm_call rfl stage_stable).bind fun _ =>
    (calm_call rfl stage_stable).bind fun created =>
      .ite (fun _ => continues_bind) fun _ => ?_
  exact (calm_call rfl stage_stable).bind fun garbage =>
    (calm_triple (makeTimespecTimeout_uses (by rfl) _ _ _)
      stage_stable).bind fun timeSpec => continues_bind

include faithful

theorem doSmppConnection_bind (soTS : Timespec) :
    BindTriple controller (Stage [] [] false down)
      (doSmppConnection conf lib soTS) fun _ => BetweenCalls :=
  (smppConnect_bind faithful conf).bind fun _ => continues_bind

theorem doTcpConnection_bind (soTS : Timespec) :
    BindTriple controller (Stage [] [] false down)
      (doTcpConnection conf lib soTS) fun _ => BetweenCalls :=
  tcpConnect_bind.bind fun _ => .ite (fun _ => continues_bind)
    fun _ => doSmppConnection_bind faithful conf soTS

theorem recoverConnection_bind (soTS : Timespec) :
    BindTriple controller BetweenCalls (recoverConnection conf lib soTS)
      fun _ => BetweenCalls :=
  (smppDisconn_bind faithful).bind fun _ => tcpDisconn_bind.bind
    fun _ => doTcpConnection_bind faithful conf soTS

/-- So does a turn of the ping loop. -/
theorem doSmppPing_bind (soTS : Timespec) :
    BindTriple controller BetweenCalls (doSmppPing conf lib soTS)
      fun _ => BetweenCalls := by
  refine (calm_call rfl stage_stable).bind fun iStop =>
    .ite (fun _ => continues_bind) fun _ => ?_
  refine (calm_call rfl stage_stable).bind fun iFnRes =>
    .ite (fun _ => continues_bind) fun _ => ?_
  refine (calm_call rfl stage_stable).bind fun tcpIsConnected =>
    .ite (fun _ => doTcpConnection_bind faithful conf soTS) fun _ => ?_
  refine (calm_call rfl stage_stable).bind fun smppIsConnected =>
    .ite (fun _ => doSmppConnection_bind faithful conf soTS) fun _ => ?_
  exact (smppEnqLink_bind faithful).bind fun iFnRes =>
    .ite (fun _ => continues_bind)
      fun _ => recoverConnection_bind faithful conf soTS

theorem finish_bind :
    BindTriple controller BetweenCalls (finish lib)
      fun _ => BetweenCalls :=
  (calm_call rfl stage_stable).bind fun _ =>
    (smppDisconn_bind faithful).bind fun _ => tcpDisconn_bind.bind
      fun _ => continues_bind

end Controller

/-! ## The receiver -/

section Receiver

variable {pointer : ReqPtr}

/-- A change of the object the receiver holds. -/
theorem update_bind
    {operation : Op}
    {fill later : SReqData → State → Prop}
    (change : SReqData → SReqData)
    (still : KeptStill fill)
    (laterStill : KeptStill later)
    (owner : ∀ data, (change data).owner = data.owner)
    (meaning : ∀ choice state, (exec .receiver operation choice state).2 =
      state.updateRequest pointer change)
    (fills : ∀ data state, fill data state →
      later (change data) (state.updateRequest pointer change)) :
    BindTriple .receiver (HoldsWith pointer fill) (call operation)
      fun _ => HoldsWith pointer later := by
  refine .call (holdsWith_stable still)
    (fun _ => holdsWith_stable laterStill) ?_
  intro state choice inv holds _
  rw [meaning]
  exact holds.update inv change owner fun data _ => fills data state

/-- Setting the length completes the object. -/
theorem Loaded.complete
    {data : SReqData}
    {state : State}
    {dataLen : Int}
    (loaded : Loaded dataLen data state)
    (pointer : ReqPtr)
    (change : SReqData → SReqData) :
    Complete { data with dataLen := dataLen }
      (state.updateRequest pointer change) := by
  intro connecting positive
  have inForce : InForce state := loaded connecting positive
  exact inForce

theorem unlockReq_bind :
    BindTriple .receiver (HoldsWith pointer Complete)
      (call (.unlockReq pointer)) fun _ => Resting :=
  .call (holdsWith_stable complete_still) (fun _ => resting_stable)
    fun _ choice inv holds _ => exec_unlockReq_bind inv holds choice

/-- A response is read into the buffer of its request. -/
theorem tcpRecvInto_bind
    {buf : Option Nat}
    {size : Nat}
    (small : size < 2 ^ 32) :
    BindTriple .receiver (HoldsWith pointer (Pointing buf))
      (tcpRecv size (some buf)) fun received =>
        HoldsWith pointer fun data state => Empty data state ∧
          (received.1 = 0 → Loaded (int32 size) data state) := by
  have still (condition : Prop) : KeptStill fun data state =>
      Empty data state ∧ (condition → Loaded (int32 size) data state) :=
    empty_still.conj ((loaded_still (int32 size)).imp condition)
  have reads : BindTriple .receiver (HoldsWith pointer (Pointing buf))
      (call (.recv size (some buf))) fun outcome =>
        HoldsWith pointer fun data state => Empty data state ∧
          (equalsUnsigned outcome.1 size →
            Loaded (int32 size) data state) :=
    .call (holdsWith_stable (pointing_still buf))
      (fun _ => holdsWith_stable (still _)) fun _ choice inv holds _ =>
        exec_recvInto_bind inv holds small choice
  refine reads.bind fun outcome =>
    .returns (holdsWith_stable (still _)) fun state _ holds => ?_
  obtain ⟨held, idle, data, found, owner, empty, loaded⟩ := holds
  refine ⟨held, idle, data, found, owner, empty, fun success => loaded ?_⟩
  by_contra short
  rw [if_neg short] at success
  cases success

/-- A response, which may put a bind in force, is read before its request is
unlocked. -/
theorem operResp_bind
    (header : SPDUHdr)
    (small : header.commandLength < 2 ^ 32) :
    BindTriple .receiver Resting (operResp header) fun _ => Resting := by
  have takesOut : BindTriple .receiver Resting
      (call (.reqStorGetAndRem header.sequenceNumber)) TakenOut :=
    .call resting_stable takenOut_stable
      fun _ choice inv resting inProgress =>
        exec_reqStorGetAndRem_bind inv resting choice inProgress
  refine takesOut.bind fun found => ?_
  match found with
  | none => exact .returns resting_stable fun _ _ resting => resting
  | some pointer =>
      have allocates : BindTriple .receiver (HoldsWith pointer Empty)
          (call (.malloc header.commandLength))
            fun _ => HoldsWith pointer Empty :=
        .call (holdsWith_stable empty_still)
          (fun _ => holdsWith_stable empty_still)
          fun _ choice inv holds _ =>
            exec_malloc_bind inv holds header.commandLength choice
      have points (buf : Option Nat) : BindTriple .receiver
          (HoldsWith pointer Empty) (call (.setReqBuf pointer buf))
            fun _ => HoldsWith pointer (Pointing buf) :=
        update_bind (fun data => { data with buf := buf }) empty_still
          (pointing_still buf) (fun _ => rfl) (fun _ _ => rfl)
          fun _ _ empty => ⟨empty, rfl⟩
      have pointed (buf : Option Nat) : BindTriple .receiver
          (HoldsWith pointer (Pointing buf)) (call (.getReqBuf pointer))
            fun found state =>
              found = buf ∧ HoldsWith pointer (Pointing buf) state := by
        refine .call (holdsWith_stable (pointing_still buf)) (fun _ =>
          (Protocol.Stable.const _).conj
            (holdsWith_stable (pointing_still buf))) ?_
        intro state choice inv holds _
        have calm := Calm.refl state
        refine ⟨bind_keeps_receiver (calm.inv inv) calm.controllerRely, ?_,
          holds⟩
        obtain ⟨-, -, data, found, -, -, points⟩ := holds
        dsimp only [exec]
        rw [found]
        exact points
      have fills : BindTriple .receiver
          (HoldsWith pointer (Loaded (int32 header.commandLength)))
          (call (.setReqDataLen pointer (int32 header.commandLength)))
            fun _ => HoldsWith pointer Complete :=
        update_bind
          (fun data => { data with dataLen := int32 header.commandLength })
          (loaded_still _) complete_still (fun _ => rfl) (fun _ _ => rfl)
          fun _ _ loaded => loaded.complete _ _
      have gives (iFnRes : Int) : BindTriple .receiver
          (HoldsWith pointer Complete)
          (do call (.unlockReq pointer); return iFnRes)
            fun _ => Resting :=
        unlockReq_bind.bind fun _ =>
          .returns resting_stable fun _ _ resting => resting
      refine allocates.bind fun buf => (points buf).bind fun _ =>
        (pointed buf).bind fun found => ?_
      refine .consequence (.bind (tcpRecvInto_bind small)
        fun received => .ite (fun success => ?_) fun _ => ?_)
        (fun _ _ ⟨same, holds⟩ => same ▸ holds) fun _ _ _ resting => resting
      · refine .consequence (.bind fills fun _ =>
          (calm_call rfl (holdsWith_stable complete_still)).bind
            fun _ => gives _) (fun _ _ holds => ?_) fun _ _ _ resting => resting
        exact holds.imp fun _ _ filled => filled.2 success
      · exact (gives _).consequence
          (fun _ _ holds => holds.imp fun _ _ filled => filled.1.complete)
          fun _ _ _ resting => resting

variable (conf : SConf) {lib : Smpp34} (faithful : lib.Faithful)

include faithful

/-- A response that is no unbinding is no matter to the binding. -/
theorem respond_calm
    (response : Pdu)
    (bufSize : Nat)
    (harmless : response.commandId % 2 ^ 32 ≠ UNBIND) :
    (respond lib response bufSize).Uses fun operation => operation.isCalm := by
  refine respond_uses (fun packed => decide_eq_true ?_) rfl
  rwa [faithful.pack_commandId response bufSize packed]

theorem smppDeliverSmOper_calm (buf : Octets) (dataLen : Int)
    (bufSize seqNum : Nat) :
    (smppDeliverSmOper conf lib buf dataLen bufSize seqNum).Uses
      fun operation => operation.isCalm :=
  smppDeliverSmOper_uses conf Op.isDelivery.calm
    (fun _ _ => respond_calm faithful _ bufSize
      (show DELIVER_SM_RESP % 2 ^ 32 ≠ UNBIND by decide)) buf dataLen seqNum

/-- The flag is cleared before the unbinding is answered. -/
theorem smppUnbindOper_bind (buf : Octets) (dataLen : Int)
    (bufSize seqNum : Nat) :
    BindTriple .receiver Resting
      (smppUnbindOper lib buf dataLen bufSize seqNum) fun _ => Resting := by
  have enters : BindTriple .receiver Resting
      (call (.enter .smppUnbindOper)) fun _ => Unbinding False :=
    .call resting_stable (fun _ => unbinding_stable False)
      fun _ choice inv resting settled =>
        exec_enterUnbind_bind inv resting choice settled
  have clears : BindTriple .receiver (Unbinding False)
      (call (.setSmppConnected false)) fun _ => Unbinding True :=
    .call (unbinding_stable False) (fun _ => unbinding_stable True)
      fun _ choice inv unbinding _ =>
        exec_clearUnbinding_bind inv unbinding choice
  have leaves : BindTriple .receiver (Unbinding True)
      (call (.leave .smppUnbindOper)) fun _ => Resting :=
    .call (unbinding_stable True) (fun _ => resting_stable)
      fun _ choice inv unbinding _ =>
        exec_leaveUnbind_bind inv unbinding choice
  refine enters.bind fun _ => .bind ?_ fun iRetVal => leaves.bind fun _ =>
    .returns resting_stable fun _ _ resting => resting
  refine clears.bind fun _ => .ite (fun _ => ?_) fun _ => ?_
  · exact .returns (unbinding_stable True) fun _ _ unbinding => unbinding
  · exact calm_triple (respond_calm faithful (headerPdu UNBIND_RESP _) bufSize
      (show UNBIND_RESP % 2 ^ 32 ≠ UNBIND by decide)) (unbinding_stable True)

theorem smppOperReq_bind (header : SPDUHdr) :
    BindTriple .receiver Resting (smppOperReq conf lib header)
      fun _ => Resting := by
  have done (iRetVal : Int) : BindTriple .receiver Resting (.ret iRetVal)
      fun _ => Resting :=
    .returns resting_stable fun _ _ resting => resting
  have reads : BindTriple .receiver Resting
      (call (.recv header.commandLength none)) fun _ => Resting :=
    .call resting_stable (fun _ => resting_stable)
      fun _ choice inv resting _ => exec_recv_bind inv resting _ choice
  refine .ite (fun _ => done _) fun _ => .bind
    (reads.bind fun outcome => .returns resting_stable fun _ _ resting =>
      resting) fun received => .ite (fun _ => done _) fun _ => ?_
  refine (calm_call rfl resting_stable).bind fun _ => .bind ?_ fun _ => done _
  refine .ite (fun _ => ?_) fun _ => .ite (fun _ => ?_) fun _ => done _
  · exact calm_triple (smppDeliverSmOper_calm conf faithful _ _ _ _)
      resting_stable
  · exact smppUnbindOper_bind faithful _ _ _ _

/-- The receiver rests between two PDUs, behind an unbinding too. -/
theorem smppHandler_bind :
    BindTriple .receiver Resting (smppHandler conf lib)
      fun _ => Resting := by
  have peeks : BindTriple .receiver Resting (tcpPeek headerLength)
      fun _ => Resting :=
    (calm_call rfl resting_stable).bind fun _ =>
      .returns resting_stable fun _ _ resting => resting
  refine (calm_call rfl resting_stable).bind fun _ => .bind ?_ fun _ =>
    (calm_call rfl resting_stable).bind fun _ =>
      .returns resting_stable fun _ _ resting => resting
  refine peeks.bind fun peeked => .ite (fun _ => ?_) fun _ =>
    .ite (fun _ => ?_) fun _ => smppOperReq_bind conf faithful _
  · exact .returns resting_stable fun _ _ resting => resting
  · exact operResp_bind _ (word_lt _ 0)

theorem msgReceiver_bind :
    BindTriple .receiver Resting (msgReceiver conf lib)
      fun _ => Resting := by
  have done (label : Label) : BindTriple .receiver Resting (.ret label)
      fun _ => Resting :=
    .returns resting_stable fun _ _ resting => resting
  refine (calm_call rfl resting_stable).bind fun created =>
    .ite (fun _ => done _) fun _ => ?_
  refine (calm_call rfl resting_stable).bind fun iStop =>
    .ite (fun _ => done _) fun _ => ?_
  refine (calm_call rfl resting_stable).bind fun fd =>
    (calm_call rfl resting_stable).bind fun pollIn =>
      .ite (fun _ => ?_) fun _ => done _
  exact (smppHandler_bind conf faithful).bind fun _ => done _

end Receiver

/-! ## The gateway -/

theorem environment_calm :
    environment.Uses fun operation => operation.isCalm :=
  environment_uses rfl rfl rfl

/-- What holds where a thread starts over. -/
def BindEntry : Thread → State → Prop
  | .requester 0 => BetweenCalls
  | .receiver => Resting
  | _ => fun _ => True

theorem bindEntry_stable (thread : Thread) :
    bindProtocol.Stable thread (BindEntry thread) := by
  unfold BindEntry
  split
  · exact stage_stable
  · exact resting_stable
  · exact .const True

/-- Every program of every thread keeps to the protocol. -/
theorem bindCode_triple
    {lib : Smpp34}
    (faithful : lib.Faithful)
    (conf : SConf)
    (thread : Thread)
    (label : Label) :
    BindTriple thread (BindEntry thread) (code conf lib thread label)
      fun _ => BindEntry thread := by
  unfold code
  split
  · exact main_bind faithful conf
  · exact startPing_bind conf
  · exact doSmppPing_bind faithful conf _
  · exact finish_bind faithful
  · exact msgReceiver_bind conf faithful
  · exact calm_triple environment_calm (.const True)
  · exact .returns (bindEntry_stable thread) fun _ _ entry => entry

theorem bindStart_inv : BindInv gatewayStart.state where
  session := ⟨nofun, nofun, nofun, fun _ _ => rfl, nofun⟩
  objects := ⟨nofun, List.nodup_nil, nofun, nofun, Nat.zero_le _, nofun⟩
  filled := nofun

/-- In every run in which a socket is opened only with the flag cleared, in
which no unbinding is taken up between a positive bind response and the return
of `sms112_smpp_connect`, and in which the receiver takes up and fills in
responses only for calls in progress, the flag is sound. -/
theorem gateway_smppFlagSound
    (conf : SConf)
    (lib : Smpp34)
    (faithful : lib.Faithful)
    {config : Config Res Thread State Label}
    (reach : (gateway conf lib).Reach BindsInOrder gatewayStart config) :
    SmppFlagSound config.state := by
  have safe (thread : Thread) : bindProtocol.Safe exec BindsInOrder thread
      (fun _ => BindEntry thread) (gatewayStart.control thread)
        gatewayStart.state := by
    have starts (label : Label)
        (holds : BindEntry thread gatewayStart.state) :
        bindProtocol.Safe exec BindsInOrder thread
          (fun _ => BindEntry thread) (.ret label) gatewayStart.state :=
      Protocol.Triple.ret (fun _ => BindEntry thread) label
        (bindEntry_stable thread) _ bindStart_inv holds
    match thread with
    | .requester 0 => exact starts .main ⟨rfl, rfl, rfl, nofun⟩
    | .requester (number + 1) => exact starts .stopped trivial
    | .receiver => exact starts .receive ⟨rfl, rfl⟩
    | .environment => exact starts .environment trivial
  have inv : BindInv config.state :=
    (Protocol.sound (bindCode_triple faithful conf) bindStart_inv safe
      reach).1
  exact inv.smppFlagSound

/-! ## A link that times out and a response that cannot be sent -/

/-- The link check times out, and the ping thread unbinds and reconnects. -/
theorem linkTimedOut_smppFlagSound :
    SmppFlagSound ((gateway {} referenceCodec).run
      (started ++ steps (.requester 0) 43) gatewayStart).state :=
  gateway_smppFlagSound {} referenceCodec referenceCodec_faithful
    (.run .start _ (by decide +kernel))

/-- A message arrives, and its response cannot be sent. -/
def deliverSmRespFailed : List (Thread × (Op → Choice)) :=
  started ++ arrival 0 plainDeliverSm ++
    List.replicate 25 (.receiver, sendFails)

/-- The ping thread then opens another socket, on which nothing has been bound,
with the flag still set. -/
theorem deliverSmRespFailed_unsound :
    ∃ config, (gateway {} referenceCodec).Reach Machine.unconditional
        gatewayStart config ∧
      ¬SmppFlagSound config.state := by
  let schedule := deliverSmRespFailed ++ steps (.requester 0) 5 ++
    stepWith (.requester 0) { ret := 1 }
  refine ⟨(gateway {} referenceCodec).run schedule gatewayStart,
    .run .start schedule (Machine.admits_unconditional schedule _), ?_⟩
  have outside : ((gateway {} referenceCodec).run schedule
      gatewayStart).state.busy .smppConnect = false ∧
      ((gateway {} referenceCodec).run schedule
        gatewayStart).state.busy .smppDisconn = false ∧
      ((gateway {} referenceCodec).run schedule
        gatewayStart).state.busy .smppUnbindOper = false := by
    decide +kernel
  have connected : ((gateway {} referenceCodec).run schedule
      gatewayStart).state.smppIsConnected = true := by
    decide +kernel
  have unbound : ¬InForce ((gateway {} referenceCodec).run schedule
      gatewayStart).state := by
    decide +kernel
  intro sound
  exact unbound
    (sound outside.1 outside.2.1 outside.2.2 connected).inForce

end Sms112
