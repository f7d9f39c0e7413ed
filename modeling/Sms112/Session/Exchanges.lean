import Sms112.Session.Order

/-!
# Exchanges and the session

What a request does to the session on its connection. After the exchange the
session is where the request leads, or where it was if nothing was sent; and
while the TCP flag is still set, the request was sent as a whole.
-/

namespace Sms112

open Resumption History

variable {α : Type} {state : State}

/-- After a request: the phase it may have led to, and the one it has led to
while the TCP flag is set. -/
def Sent (later linked : SessionPhase → Prop) (state : State) : Prop :=
  CurrentPhase later state ∧
    (state.tcpIsConnected → CurrentPhase linked state)

theorem Sent.about (later linked : SessionPhase → Prop) :
    AboutWire (Sent later linked) :=
  (CurrentPhase.about later).conj (CurrentPhase.about linked).ifTcpConnected

/-- What a request of the given type does to a session: from the first phases
it leads to the later ones, and if the socket takes all of it, to those of a
linked session. -/
structure Leads (commandId : Nat) (earlier later linked : SessionPhase → Prop) :
    Prop where
  keeps : ∀ phase, earlier phase → later phase
  sends : ∀ phase, earlier phase → ∀ request : SentRequest,
    request.commandId = commandId → ∃ next,
      session.next phase request = some next ∧ later next ∧
        (request.whole → linked next)

section Exchange

variable {earlier later linked : SessionPhase → Prop} {commandId : Nat}
variable {frame : State → Prop}

/-- The session after a request was sent on its connection. -/
theorem OrderInv.sent
    (inv : OrderInv state)
    (leads : Leads commandId earlier later linked)
    (current : CurrentPhase earlier state)
    {serial : Nat}
    (designated : state.serial = some serial)
    (request : SentRequest)
    (onSocket : request.serial = serial)
    (isKind : request.commandId = commandId)
    (after : State)
    (sockets : after.sockets = state.sockets)
    (iSock : after.iSock = state.iSock)
    (nextSerial : after.nextSerial = state.nextSerial)
    (requests :
      sentRequests after.log = request :: sentRequests state.log) :
    OrderInv after ∧ CurrentPhase later after ∧
      (request.whole → CurrentPhase linked after) := by
  have here : requestsOn serial after.log =
      request :: requestsOn serial state.log := by
    unfold requestsOn
    rw [requests, List.filter_cons_of_pos (by simpa using onSocket)]
  have elsewhere (other : Nat) (different : other ≠ serial) :
      requestsOn other after.log = requestsOn other state.log := by
    unfold requestsOn
    rw [requests, List.filter_cons_of_neg]
    rw [onSocket]
    simpa using Ne.symm different
  have same : after.serial = state.serial := by
    unfold State.serial
    rw [sockets, iSock]
  obtain ⟨phase, reached, holds⟩ := current serial designated
  obtain ⟨next, step, isLater, isLinked⟩ :=
    leads.sends phase holds request isKind
  have arrived : session.phase (requestsOn serial after.log) = some next := by
    rw [here, Automaton.phase_cons_of_eq reached]
    exact step
  have young := (inv.known _ (mem_of_lookup designated)).2
  refine ⟨⟨?_, fun other old => ?_, fun other => ?_⟩, ?_, ?_⟩
  · rw [sockets, nextSerial]
    exact inv.known
  · rw [nextSerial] at old
    have young : serial < state.nextSerial := young
    rw [elsewhere other (by omega)]
    exact inv.fresh other old
  · by_cases isHere : other = serial
    · subst isHere
      exact Option.isSome_iff_exists.mpr ⟨next, arrived⟩
    · rw [elsewhere other isHere]
      exact inv.ordered other
  · intro other designated'
    obtain rfl : serial = other :=
      Option.some.inj ((designated.symm.trans same.symm).trans designated')
    exact ⟨next, arrived, isLater⟩
  · intro whole other designated'
    obtain rfl : serial = other :=
      Option.some.inj ((designated.symm.trans same.symm).trans designated')
    exact ⟨next, arrived, isLinked whole⟩

/-- `sms112_tcp_send` of a request: where it was not sent as a whole the TCP
flag is cleared. -/
theorem tcpSend_order
    (leads : Leads commandId earlier later linked)
    (about : AboutSmpp frame)
    {data : Octets}
    (isKind : word data 4 = commandId)
    (short : data.length < 2 ^ 31) :
    OrderTriple (fun state => CurrentPhase earlier state ∧ frame state)
      (tcpSend data) fun _ state => Sent later linked state ∧ frame state := by
  let middle (outcome : Int × Nat) (state : State) : Prop :=
    (CurrentPhase later state ∧
      (equalsUnsigned outcome.1 data.length → CurrentPhase linked state)) ∧
        frame state
  have middleAbout (outcome : Int × Nat) : AboutWire (middle outcome) :=
    ((CurrentPhase.about later).conj
      (.imp _ (CurrentPhase.about linked))).conj about.wire
  have sends : OrderTriple
      (fun state => CurrentPhase earlier state ∧ frame state)
      (call (.send data)) middle := by
    refine .call ((CurrentPhase.about earlier).conj about.wire).stable
      (fun outcome => (middleAbout outcome).stable) ?_
    rintro state choice inv ⟨current, holds⟩ -
    dsimp only [exec]
    rcases state.send_cases controller choice data with
      ⟨serial, designated, -, accepted⟩ | failed
    · rw [accepted]
      have bound : min choice.ret.toNat data.length ≤ data.length :=
        Nat.min_le_right _ _
      generalize min choice.ret.toNat data.length = count at bound ⊢
      obtain ⟨laterInv, isLater, isLinked⟩ := inv.sent leads current designated
        ⟨serial, word data 4, word data 12, count = data.length⟩ rfl isKind
        ((state.useSocket controller serial).note
          (.sent controller serial data count)) rfl rfl rfl rfl
      refine ⟨order_keeps laterInv, ⟨isLater, fun whole => isLinked ?_⟩,
        about _ _ holds id⟩
      rwa [equalsUnsigned_natCast (by omega)] at whole
    · rw [failed]
      refine ⟨order_keeps inv, ⟨current.mono leads.keeps, fun whole => ?_⟩,
        holds⟩
      have small : data.length < 2 ^ 31 := short
      simp only [equalsUnsigned, decide_eq_true_eq] at whole
      omega
  refine sends.bind fun outcome => .ite (fun whole => ?_) fun cut => ?_
  · exact order_returns ((Sent.about later linked).conj about.wire)
      fun state ⟨⟨isLater, isLinked⟩, holds⟩ =>
        ⟨⟨isLater, fun _ => isLinked whole⟩, holds⟩
  · have clears : OrderTriple (middle outcome)
        (call (.setTcpConnected false))
        fun _ state => Sent later linked state ∧ frame state := by
      refine .call (middleAbout outcome).stable
        (fun _ => ((Sent.about later linked).conj about.wire).stable) ?_
      rintro state choice inv ⟨⟨isLater, -⟩, holds⟩ -
      exact ⟨order_keeps (inv.same ⟨rfl, rfl, rfl, nofun, id, rfl⟩),
        ⟨isLater, nofun⟩, about _ _ holds id⟩
    exact clears.bind fun _ =>
      order_returns ((Sent.about later linked).conj about.wire)
        fun _ holds => holds

/-- The rest of `sms112_smpp_send`, once the request was sent. -/
theorem sent_wire
    {program : Prog α}
    (about : AboutSmpp frame)
    (uses : program.Uses fun operation => operation.leavesRequests) :
    OrderTriple (fun state => Sent later linked state ∧ frame state) program
      fun _ state => Sent later linked state ∧ frame state :=
  wire_triple uses ((Sent.about later linked).conj about.wire)

theorem smppSend_order
    (leads : Leads commandId earlier later linked)
    (about : AboutSmpp frame)
    {data : Octets}
    (isKind : word data 4 = commandId)
    (short : data.length < 2 ^ 31)
    (seqNum : Nat)
    (reqData : ReqPtr) :
    OrderTriple (fun state => CurrentPhase earlier state ∧ frame state)
      (smppSend data seqNum reqData)
      fun _ state => Sent later linked state ∧ frame state := by
  have atFirst : AboutWire fun state =>
      CurrentPhase earlier state ∧ frame state :=
    (CurrentPhase.about earlier).conj about.wire
  have registers : OrderTriple
      (fun state => CurrentPhase earlier state ∧ frame state)
      (call (.reqStorAdd seqNum reqData)) fun added state =>
        added = 0 ∧ CurrentPhase earlier state ∧ frame state := by
    refine .call atFirst.stable
      (fun added => (Protocol.Stable.const (added = 0)).conj
        atFirst.stable) ?_
    intro state choice inv holds free
    have leaves : (Op.reqStorAdd seqNum reqData).leavesRequests := rfl
    have same := exec_sameWire controller leaves choice state
    have added : (exec controller (.reqStorAdd seqNum reqData) choice
        state).1 = 0 := by
      have free : state.mapReq.lookup seqNum = none := free
      simp [exec, State.storAdd, Sms112.reqStorAdd, free]
    exact ⟨order_keeps (inv.same same), added, atFirst _ _ holds same⟩
  refine (wire_call rfl atFirst).bind fun _ => .bind
    (registers.bind fun added => .ite (fun refused => ?_) fun _ => ?_)
      fun _ => sent_wire about (.step rfl fun _ => trivial)
  · exact order_returns ((Sent.about later linked).conj about.wire)
      fun state holds => absurd holds.1 refused
  · refine .consequence (.bind (tcpSend_order leads about isKind short)
      fun sent => sent_wire about ?_) (fun _ _ holds => holds.2)
        fun _ _ _ holds => holds
    split
    · trivial
    · refine .step rfl fun garbage =>
        (makeTimespecTimeout_uses (by rfl) _ _ _).bind fun _ =>
          .step rfl fun _ => .step rfl fun dataLen => ?_
      split <;> trivial

variable {lib : Smpp34}

/-- An exchange takes the session as far as its request leads. -/
theorem exchange_order
    (faithful : lib.Faithful)
    (request : Pdu)
    (leads : Leads (request.commandId % 2 ^ 32) earlier later linked)
    (unpacked : (lib.pack2 request localBufferSize).1 ≠ 0 →
      ∀ phase, earlier phase → linked phase)
    (about : AboutSmpp frame)
    (respId : Nat)
    (freesTlv : Bool) :
    OrderTriple (fun state => CurrentPhase earlier state ∧ frame state)
      (exchange lib request respId freesTlv)
      fun _ state => Sent later linked state ∧ frame state := by
  have sentAbout := (Sent.about later linked).conj about.wire
  unfold exchange
  dsimp only
  split
  next failed =>
    exact order_returns sentAbout fun state ⟨current, holds⟩ =>
      ⟨⟨current.mono leads.keeps,
        fun _ => current.mono (unpacked failed)⟩, holds⟩
  next packed =>
    have packed : (lib.pack2 request localBufferSize).1 = 0 :=
      not_not.mp packed
    have short := (faithful.pack_length _ _ packed).2
    refine (wire_call rfl ((CurrentPhase.about earlier).conj
      about.wire)).bind fun reqData => .bind (smppSend_order leads about
        (faithful.pack_commandId _ _ packed)
        (short.trans_lt (by decide)) _ _) fun iFnRes => sent_wire about ?_
    split
    · exact .step rfl fun _ => trivial
    · exact (readResponse_uses (fun _ => rfl) (fun _ _ => rfl)
        (fun _ => rfl) (fun _ => rfl) lib _ _ _ _).bind fun _ =>
          .step rfl fun _ => trivial

end Exchange

end Sms112
