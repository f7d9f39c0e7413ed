import Sms112.Requests.Steps
import Sms112.Model.Threads

/-!
# The calls that send requests and the receiver

Triples of the protocol for the functions that make and answer requests. A
request is unlinked when `sms112_smpp_send` begins and when it returns, and
between two calls the receiver holds nothing.
-/

namespace Sms112

open Resumption

variable {α : Type}

/-- A triple of the protocol in the runs in which requests are answered. -/
abbrev RequestTriple (thread : Thread) (pre : State → Prop)
    (program : Prog α) (post : α → State → Prop) : Prop :=
  requestProtocol.Triple exec Answering thread pre program post

/-! ## Programs that touch no request -/

/-- A program of operations that touch no request keeps what the thread knows
of its own request. -/
theorem plain_triple
    {thread : Thread}
    {program : Prog α}
    {assertion : State → Prop}
    (uses : program.Uses fun operation => operation.isPlain)
    (stable : requestProtocol.Stable thread assertion) :
    RequestTriple thread assertion program fun _ => assertion := by
  refine Protocol.Triple.unobtrusive uses stable ?_
  intro operation state choice plain inv _
  have same := exec_plain thread plain choice state
  exact ⟨same.inv inv, same.tolerates⟩

theorem plain_call
    {thread : Thread}
    {operation : Op}
    {assertion : State → Prop}
    (plain : operation.isPlain)
    (stable : requestProtocol.Stable thread assertion) :
    RequestTriple thread assertion (call operation) fun _ => assertion :=
  plain_triple ⟨plain, fun _ => trivial⟩ stable

theorem Op.isHandling.plain
    (operation : Op)
    (handling : operation.isHandling) :
    operation.isPlain := by
  cases operation
  case note event => cases event <;> first | rfl | cases handling
  all_goals first | rfl | cases handling

theorem tcpRecv_plain (size : Nat) (into : Option (Option Nat)) :
    (tcpRecv size into).Uses fun operation => operation.isPlain :=
  .step rfl fun _ => trivial

theorem tcpPeek_plain (size : Nat) :
    (tcpPeek size).Uses fun operation => operation.isPlain :=
  .step rfl fun _ => trivial

theorem makeTimespecTimeout_uses
    {allowed : Op → Prop}
    (clock : allowed .gettimeofday)
    (timeSpec : Timespec)
    (sec addUSec : Nat) :
    (makeTimespecTimeout timeSpec sec addUSec).Uses allowed := by
  refine .step clock fun timeVal => ?_
  split
  · split <;> trivial
  · trivial

theorem within_plain
    {routine : Routine}
    {body : Prog α}
    (uses : body.Uses fun operation => operation.isPlain) :
    (within routine body).Uses fun operation => operation.isPlain :=
  .step rfl fun _ => uses.bind fun _ => .step rfl fun _ => trivial

/-- Connecting touches no request, whatever becomes of the socket. -/
theorem tcpConnect_plain :
    tcpConnect.Uses fun operation => operation.isPlain := by
  refine within_plain (.step rfl fun socket => ?_)
  dsimp only
  split
  · trivial
  · refine .step rfl fun _ => .step rfl fun outcome => ?_
    split
    · trivial
    · exact .step rfl fun _ => trivial

/-- Neither does disconnecting. -/
theorem tcpDisconn_plain :
    tcpDisconn.Uses fun operation => operation.isPlain := by
  refine within_plain (.step rfl fun iSock => ?_)
  split
  · refine .step rfl fun _ => .step rfl fun closed => ?_
    split
    · exact .step rfl fun _ => .step rfl fun _ => trivial
    · trivial
  · trivial

/-- What `readResponse` does: it reads the buffer of the request, notes what it
decoded, and links and destroys the optional parameters. Nothing else. -/
theorem readResponse_uses
    {allowed : Op → Prop}
    (read : ∀ pointer, allowed (.readReqData pointer))
    (note : ∀ requestId buffer, allowed (.note (.decoded requestId buffer)))
    (link : ∀ tlv, allowed (.linkTlv tlv))
    (destroy : ∀ nodes, allowed (.destroyTlv nodes))
    (lib : Smpp34)
    (request : Pdu)
    (respId : Nat)
    (freesTlv : Bool)
    (reqData : ReqPtr) :
    (readResponse lib request respId freesTlv reqData).Uses allowed := by
  refine .step (read _) fun buffer => .step (note _ _) fun _ =>
    .step (link _) fun nodes => ?_
  dsimp only
  split
  · trivial
  · cases freesTlv
    · simp only [Bool.false_eq_true, if_false]
      split <;> trivial
    · simp only [if_true]
      refine .step (destroy _) fun _ => ?_
      split <;> trivial

/-! ## The calls -/

section Sender

variable {thread : Thread} {pointer : ReqPtr}

/-- A `send` by which `sms112_smpp_send` gives up leaves the request
unlinked. -/
theorem send_triple (data : Octets) :
    RequestTriple thread
      (fun state => Own thread pointer state ∧ Sending thread pointer state)
      (call (.send data))
      fun outcome state =>
        (Own thread pointer state ∧
          (¬equalsUnsigned outcome.1 data.length ∧ outcome.2 ≠ 0 →
            Unlinked pointer state)) ∧
          Sending thread pointer state := by
  refine Protocol.Triple.call (own_stable.conj sending_stable)
    (fun _ => (ownUnlinkedIf_stable _).conj sending_stable) ?_
  intro state choice inv ⟨own, sending⟩ answering
  have same : SameRequests state
      (exec thread (.send data) choice state).2 :=
    exec_plain thread rfl choice state
  have rely := same.tolerates
  refine ⟨⟨same.inv inv, fun other _ => rely other⟩,
    ⟨own_stable _ _ inv own (rely thread) (same.inv inv), ?_⟩,
    sending_stable _ _ inv sending (rely thread) (same.inv inv)⟩
  rintro ⟨short, failed⟩ linked
  rcases answering with whole | noError | free
  · exact short whole
  · exact failed noError
  · exact free _ sending rfl ((same.linked_iff _).mp linked)

/-- A `tcp_send` that fails leaves its request unlinked: no `send` fails behind
the registration in the runs considered. -/
theorem tcpSend_triple (data : Octets) :
    RequestTriple thread
      (fun state => Own thread pointer state ∧ Sending thread pointer state)
      (tcpSend data)
      fun iFnRes state =>
        (Own thread pointer state ∧
          (iFnRes ≠ 0 → Unlinked pointer state)) ∧
          Sending thread pointer state := by
  refine (send_triple data).bind fun outcome => ?_
  obtain ⟨iFnRes, errno⟩ := outcome
  dsimp only
  split
  next whole =>
    exact .returns ((ownUnlinkedIf_stable _).conj sending_stable)
      fun _ _ ⟨⟨own, _⟩, sending⟩ =>
        ⟨⟨own, fun failed => absurd rfl failed⟩, sending⟩
  next short =>
    refine (plain_call rfl
      ((ownUnlinkedIf_stable _).conj sending_stable)).bind fun _ => ?_
    exact .returns ((ownUnlinkedIf_stable _).conj sending_stable)
      fun _ _ ⟨⟨own, free⟩, sending⟩ =>
        ⟨⟨own, fun failed => free ⟨short, by simpa using failed⟩⟩, sending⟩

/-- The request is linked in the store, or the call fails and the request stays
outside. -/
theorem reqStorAdd_triple (seqNum : Nat) :
    RequestTriple thread
      (fun state => ((Own thread pointer state ∧ Unlinked pointer state) ∧
        LockedAt pointer state) ∧ Sending thread pointer state)
      (call (.reqStorAdd seqNum pointer))
      fun iFnRes state => (Own thread pointer state ∧
        (iFnRes ≠ 0 → Unlinked pointer state)) ∧
          Sending thread pointer state := by
  refine Protocol.Triple.call (ready_stable.conj sending_stable)
    (fun _ => (ownUnlinkedIf_stable _).conj sending_stable) ?_
  intro state choice inv ⟨⟨⟨own, unlinked⟩, locked⟩, sending⟩ _
  obtain ⟨keeps, owned, inProgress, refused⟩ :=
    exec_reqStorAdd inv own sending unlinked locked seqNum choice
  exact ⟨keeps, ⟨owned, refused⟩, inProgress⟩

/-- The wait ends with the response in the runs considered, and the receiver
has taken the request out of the store before it unlocks it. -/
theorem timedLockReq_triple (deadline : Timespec) :
    RequestTriple thread
      (fun state => Own thread pointer state ∧ Sending thread pointer state)
      (call (.timedLockReq pointer deadline))
      fun _ state => (Own thread pointer state ∧ Unlinked pointer state) ∧
        Sending thread pointer state :=
  Protocol.Triple.call (own_stable.conj sending_stable)
    (fun _ => ownUnlinked_stable.conj sending_stable)
    fun _ _ inv ⟨own, sending⟩ answering =>
      exec_timedLockReq inv own sending answering

/-- On every path through the body of `sms112_smpp_send`, the request is the
thread's own and out of the store at the end. -/
theorem smppSendBody_triple (data : Octets) (seqNum : Nat) :
    RequestTriple thread
      (fun state => ((Own thread pointer state ∧ Unlinked pointer state) ∧
        LockedAt pointer state) ∧ Sending thread pointer state)
      (smppSendBody data seqNum pointer)
      fun _ state => (Own thread pointer state ∧ Unlinked pointer state) ∧
        Sending thread pointer state := by
  have stable := (@ownUnlinked_stable thread pointer).conj
    (@sending_stable thread pointer)
  have waiting := (@own_stable thread pointer).conj
    (@sending_stable thread pointer)
  refine (reqStorAdd_triple seqNum).bind fun iFnRes => .ite ?_ ?_
  · intro refused
    exact .returns stable fun _ _ ⟨⟨own, free⟩, sending⟩ =>
      ⟨⟨own, free refused⟩, sending⟩
  · intro added
    refine .consequence (.bind (tcpSend_triple data) fun iFnRes =>
      .ite (fun failed => ?_) fun sent => ?_)
      (fun _ _ pre => ⟨pre.1.1, pre.2⟩) fun _ _ _ post => post
    · exact .returns stable fun _ _ ⟨⟨own, free⟩, sending⟩ =>
        ⟨⟨own, free failed⟩, sending⟩
    · refine .consequence (.bind (plain_call rfl waiting)
          fun garbage => .bind (plain_triple
            (makeTimespecTimeout_uses (by rfl) _ _ _) waiting) fun timeSpec => ?_)
        (fun _ _ pre => ⟨pre.1.1, pre.2⟩) fun _ _ _ post => post
      refine (timedLockReq_triple _).bind fun iFnRes =>
        .bind (plain_call rfl stable) fun dataLen => ?_
      exact .ite (fun _ => .returns stable fun _ _ holds => holds)
        fun _ => .returns stable fun _ _ holds => holds

/-- The same of the whole of `sms112_smpp_send`, so that the caller's object
may go out of scope on every exit. -/
theorem smppSend_triple (data : Octets) (seqNum : Nat) :
    RequestTriple thread
      (fun state => (Own thread pointer state ∧ Unlinked pointer state) ∧
        LockedAt pointer state)
      (smppSend data seqNum pointer)
      fun _ state => Own thread pointer state ∧ Unlinked pointer state := by
  have enters : RequestTriple thread
      (fun state => (Own thread pointer state ∧ Unlinked pointer state) ∧
        LockedAt pointer state)
      (call (.enterSend pointer))
      fun _ state => ((Own thread pointer state ∧ Unlinked pointer state) ∧
        LockedAt pointer state) ∧ Sending thread pointer state := by
    refine Protocol.Triple.call ready_stable
      (fun _ => ready_stable.conj sending_stable) ?_
    intro state choice inv ready _
    obtain ⟨keeps, sending⟩ := exec_enterSend inv ready.1.1 choice
    exact ⟨keeps, ready, sending⟩
  have leaves : RequestTriple thread
      (fun state => (Own thread pointer state ∧ Unlinked pointer state) ∧
        Sending thread pointer state)
      (call (.leaveSend pointer))
      fun _ state => Own thread pointer state ∧ Unlinked pointer state :=
    Protocol.Triple.call (ownUnlinked_stable.conj sending_stable)
      (fun _ => ownUnlinked_stable) fun _ choice inv holds _ =>
        ⟨exec_leaveSend inv holds.1.2 choice, holds.1⟩
  refine enters.bind fun _ => (smppSendBody_triple data seqNum).bind
    fun iRetVal => leaves.bind fun _ => ?_
  exact .returns ownUnlinked_stable fun _ _ holds => holds

/-- What holds of a thread between its calls. -/
theorem idle_stable : requestProtocol.Stable thread fun _ => True :=
  .const True

/-- An object that nothing links may go out of scope. -/
theorem deleteReqData_triple :
    RequestTriple thread
      (fun state => Own thread pointer state ∧ Unlinked pointer state)
      (call (.deleteReqData pointer)) fun _ _ => True :=
  Protocol.Triple.call ownUnlinked_stable (fun _ => idle_stable)
    fun _ choice inv holds _ =>
      ⟨exec_deleteReqData inv holds.1 holds.2 choice, trivial⟩

variable (lib : Smpp34)

/-- An exchange, from the object it makes to the object it gives up, keeps to
the protocol. -/
theorem exchange_triple (request : Pdu) (respId : Nat) (freesTlv : Bool) :
    RequestTriple thread (fun _ => True)
      (exchange lib request respId freesTlv) fun _ _ => True := by
  have creates : RequestTriple thread (fun _ => True) (call .newReqData)
      fun pointer state =>
        (Own thread pointer state ∧ Unlinked pointer state) ∧
          LockedAt pointer state :=
    Protocol.Triple.call idle_stable (fun _ => ready_stable)
      fun _ choice inv _ _ => exec_newReqData inv choice
  unfold exchange
  dsimp only
  refine .ite (fun _ => .returns idle_stable fun _ _ holds => holds)
    fun _ => creates.bind fun reqData => (smppSend_triple _ _).bind
      fun iFnRes => .ite (fun _ => ?_) fun _ => ?_
  · exact deleteReqData_triple.bind fun _ =>
      .returns idle_stable fun _ _ holds => holds
  · exact (plain_triple (readResponse_uses (fun _ => rfl) (fun _ _ => rfl)
      (fun _ => rfl) (fun _ => rfl) lib _ _ _ _)
      ownUnlinked_stable).bind fun iRetVal => deleteReqData_triple.bind
        fun _ => .returns idle_stable fun _ _ holds => holds

variable (conf : SConf)

theorem smppConnect_triple :
    RequestTriple thread (fun _ => True) (smppConnect conf lib)
      fun _ _ => True := by
  refine (plain_call rfl idle_stable).bind fun _ => ?_
  refine .bind ?_ fun _ => (plain_call rfl idle_stable).bind
    fun _ => .returns idle_stable fun _ _ holds => holds
  refine (plain_call rfl idle_stable).bind fun seqNum =>
    (exchange_triple lib _ _ _).bind fun iRetVal => ?_
  dsimp only
  refine .ite (fun _ => ?_) fun _ =>
    .returns idle_stable fun _ _ holds => holds
  exact (plain_call rfl idle_stable).bind
    fun _ => .returns idle_stable fun _ _ holds => holds

theorem smppDisconn_triple :
    RequestTriple thread (fun _ => True) (smppDisconn lib)
      fun _ _ => True := by
  refine (plain_call rfl idle_stable).bind fun _ => ?_
  refine .bind ?_ fun _ => (plain_call rfl idle_stable).bind
    fun _ => .returns idle_stable fun _ _ holds => holds
  exact (plain_call rfl idle_stable).bind fun _ =>
    (plain_call rfl idle_stable).bind fun seqNum => exchange_triple lib _ _ _

theorem smppEnqLink_triple :
    RequestTriple thread (fun _ => True) (smppEnqLink lib)
      fun _ _ => True :=
  (plain_call rfl idle_stable).bind fun _ => exchange_triple lib _ _ _

end Sender

/-! ## The receiver -/

section Receiver

variable (conf : SConf) (lib : Smpp34)

/-- The receiver unlocks the request it holds and holds none from then on. -/
theorem unlockReq_triple (pointer : ReqPtr) :
    RequestTriple .receiver (Holds pointer) (call (.unlockReq pointer))
      fun _ state => state.held = [] :=
  Protocol.Triple.call holds_stable (fun _ => nothingHeld_stable)
    fun _ choice inv holds _ => exec_unlockReq inv holds choice

/-- A change of the buffer or the length of the object the receiver holds. -/
theorem update_triple
    {operation : Op}
    {pointer : ReqPtr}
    (change : SReqData → SReqData)
    (keeps : KeepsIdentity change)
    (locked : ∀ data, (change data).locked = data.locked)
    (meaning : ∀ choice state, (exec .receiver operation choice state).2 =
      state.updateRequest pointer change) :
    RequestTriple .receiver (Holds pointer) (call operation)
      fun _ => Holds pointer := by
  refine Protocol.Triple.call holds_stable (fun _ => holds_stable) ?_
  intro state choice inv holds _
  rw [meaning]
  exact ⟨keeps_updateRequest inv keeps locked, holds.update keeps⟩

/-- A response is handed over and its request released: the receiver holds no
request before and none after. -/
theorem operResp_triple (header : SPDUHdr) :
    RequestTriple .receiver (fun state => state.held = [])
      (operResp header) fun _ state => state.held = [] := by
  have takesOut : RequestTriple .receiver (fun state => state.held = [])
      (call (.reqStorGetAndRem header.sequenceNumber)) HoldsFound :=
    Protocol.Triple.call nothingHeld_stable holdsFound_stable
      fun _ choice inv nothing _ => exec_reqStorGetAndRem inv nothing _ choice
  refine takesOut.bind fun found => ?_
  match found with
  | none => exact .returns nothingHeld_stable fun _ _ holds => holds
  | some reqData =>
      refine (plain_call rfl holds_stable).bind fun buf =>
        (update_triple (fun data => { data with buf := buf })
          ⟨fun _ => rfl, fun _ => rfl⟩ (fun _ => rfl)
            fun _ _ => rfl).bind fun _ => ?_
      refine (plain_call rfl holds_stable).bind fun buf =>
        (plain_triple (tcpRecv_plain _ _) holds_stable).bind
          fun received => ?_
      obtain ⟨iFnRes, data⟩ := received
      dsimp only
      refine .ite (fun _ => ?_) fun _ => ?_
      · refine (update_triple (fun data =>
            { data with dataLen := int32 header.commandLength })
          ⟨fun _ => rfl, fun _ => rfl⟩ (fun _ => rfl)
            fun _ _ => rfl).bind fun _ => ?_
        exact (plain_call rfl holds_stable).bind
          fun _ => (unlockReq_triple reqData).bind fun _ =>
            .returns nothingHeld_stable fun _ _ holds => holds
      · exact (unlockReq_triple reqData).bind fun _ =>
          .returns nothingHeld_stable fun _ _ holds => holds

/-- Serving a request of the server touches no request of ours. -/
theorem smppOperReq_plain (header : SPDUHdr) :
    (smppOperReq conf lib header).Uses fun operation => operation.isPlain := by
  unfold smppOperReq
  split
  · trivial
  · refine (tcpRecv_plain _ _).bind fun received => ?_
    dsimp only
    split
    · trivial
    · exact .step rfl fun _ => ((operReqSwitch_handling conf lib header
        _).mono Op.isHandling.plain).bind fun _ => trivial

/-- One PDU, of whatever kind, leaves the receiver without a request in its
hands. -/
theorem smppHandler_triple :
    RequestTriple .receiver (fun state => state.held = [])
      (smppHandler conf lib) fun _ state => state.held = [] := by
  refine (plain_call rfl nothingHeld_stable).bind fun _ => ?_
  refine .bind ?_ fun _ => (plain_call rfl nothingHeld_stable).bind
    fun _ => .returns nothingHeld_stable fun _ _ holds => holds
  refine (plain_triple (tcpPeek_plain _) nothingHeld_stable).bind fun peeked => ?_
  dsimp only
  refine .ite (fun _ => .returns nothingHeld_stable fun _ _ holds => holds)
    fun _ => .ite (fun _ => operResp_triple _) fun _ =>
      plain_triple (smppOperReq_plain conf lib _) nothingHeld_stable

/-- So does one turn of the receiver's loop. -/
theorem msgReceiver_triple :
    RequestTriple .receiver (fun state => state.held = [])
      (msgReceiver conf lib) fun _ state => state.held = [] := by
  have done (label : Label) : RequestTriple .receiver
      (fun state => state.held = []) (.ret label)
        fun _ state => state.held = [] :=
    .returns nothingHeld_stable fun _ _ holds => holds
  refine (plain_call rfl nothingHeld_stable).bind fun created =>
    .ite (fun _ => done _) fun _ => ?_
  refine (plain_call rfl nothingHeld_stable).bind fun iStop =>
    .ite (fun _ => done _) fun _ => ?_
  refine (plain_call rfl nothingHeld_stable).bind fun fd =>
    (plain_call rfl nothingHeld_stable).bind fun pollIn => ?_
  dsimp only
  exact .ite (fun _ => (smppHandler_triple conf lib).bind fun _ => done _)
    fun _ => done _

end Receiver

theorem environment_plain :
    environment.Uses fun operation => operation.isPlain :=
  environment_uses rfl rfl rfl

end Sms112
