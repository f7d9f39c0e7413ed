import Sms112.History.Automaton
import Sms112.Session.Requests

/-!
# The order of the requests on a connection

What a client may send on a connection is a session: it binds, checks the link
while it is bound, and unbinds last. On every socket the gateway keeps to this
order, whatever the receiver, the server and the network do, in every run in
which the numbers of its requests are free when they are registered. A request
that was cut short is followed by an `UNBIND` at most.
-/

namespace Sms112

open Resumption History

variable {α : Type}

/-! ## Sessions -/

/-- How far a session has come: nothing was sent, a `BIND_TRANSCEIVER` was
sent, a request was cut short, an `UNBIND` was sent. -/
inductive SessionPhase
  | opened
  | bound
  | cut
  | unbound
  deriving DecidableEq

/-- The requests a client may send on one connection. -/
def session : Automaton SessionPhase SentRequest where
  start := .opened
  next phase request :=
    if request.commandId = UNBIND then
      if phase = .unbound then none else some .unbound
    else if request.commandId = BIND_TRANSCEIVER ∧
          (phase = .opened ∨ phase = .bound) ∨
        request.commandId = ENQUIRE_LINK ∧ phase = .bound then
      some (if request.whole then .bound else .cut)
    else none

/-- On every connection the requests were sent in the order of a session. -/
def SessionsOrdered (state : State) : Prop :=
  ∀ serial, session.Accepts (requestsOn serial state.log)

/-- A request finds its number free when it is registered. -/
def RegistersRequests : Machine.Condition Op Thread Choice State
  | _, .reqStorAdd seqNum _, _, state => state.mapReq.lookup seqNum = none
  | _, _, _, _ => True

instance (thread : Thread) (operation : Op) (choice : Choice)
    (state : State) :
    Decidable (RegistersRequests thread operation choice state) := by
  unfold RegistersRequests
  split <;> infer_instance

/-! ## The invariant -/

/-- The descriptors designate sockets that were created, on a socket that will
be created nothing was sent, and the requests on every socket are ordered. -/
structure OrderInv (state : State) : Prop where
  known : ∀ entry ∈ state.sockets,
    0 ≤ entry.1 ∧ entry.2 < state.nextSerial
  fresh : ∀ serial, state.nextSerial ≤ serial →
    requestsOn serial state.log = []
  ordered : SessionsOrdered state

/-- The session on the socket in `g_iSock` is in one of the phases. -/
def CurrentPhase (allowed : SessionPhase → Prop) (state : State) : Prop :=
  ∀ serial ∈ state.serial, ∃ phase,
    session.phase (requestsOn serial state.log) = some phase ∧ allowed phase

variable {before after state : State}
variable {allowed weaker : SessionPhase → Prop}

theorem CurrentPhase.mono
    (current : CurrentPhase allowed state)
    (implies : ∀ phase, allowed phase → weaker phase) :
    CurrentPhase weaker state := by
  intro serial designated
  obtain ⟨phase, reached, holds⟩ := current serial designated
  exact ⟨phase, reached, implies phase holds⟩

/-- The sockets may have changed. -/
theorem OrderInv.of_requests_eq
    (inv : OrderInv before)
    (requests : sentRequests after.log = sentRequests before.log)
    (known : ∀ entry ∈ after.sockets,
      0 ≤ entry.1 ∧ entry.2 < after.nextSerial)
    (newer : before.nextSerial ≤ after.nextSerial) :
    OrderInv after where
  known := known
  fresh serial old := by
    unfold requestsOn
    rw [requests]
    exact inv.fresh serial (newer.trans old)
  ordered serial := by
    unfold requestsOn
    rw [requests]
    exact inv.ordered serial

theorem OrderInv.same
    (inv : OrderInv before)
    (same : SameWire before after) :
    OrderInv after := by
  refine inv.of_requests_eq same.requests ?_ same.nextSerial.ge
  rw [same.sockets, same.nextSerial]
  exact inv.known

/-- Some of the sockets may have been closed. -/
theorem OrderInv.closed
    (inv : OrderInv before)
    (log : after.log = before.log)
    (nextSerial : after.nextSerial = before.nextSerial)
    (sockets : after.sockets ⊆ before.sockets) :
    OrderInv after := by
  refine inv.of_requests_eq (by rw [log]) (fun entry member => ?_)
    nextSerial.ge
  rw [nextSerial]
  exact inv.known entry (sockets member)

/-- An assertion that lasts as long as no request is sent and the connection
stays. -/
def AboutWire (assertion : State → Prop) : Prop :=
  ∀ before after, assertion before → SameWire before after → assertion after

theorem CurrentPhase.about (allowed : SessionPhase → Prop) :
    AboutWire (CurrentPhase allowed) := by
  intro before after current same serial designated
  rw [same.serial] at designated
  rw [same.requestsOn]
  exact current serial designated

/-- An assertion that lasts as long as `g_bIsConnected` of `sms112_smpp.cpp` is
not set. -/
def AboutSmpp (assertion : State → Prop) : Prop :=
  ∀ before after, assertion before →
    (after.smppIsConnected → before.smppIsConnected) → assertion after

theorem AboutSmpp.always : AboutSmpp fun _ => True :=
  fun _ _ _ _ => trivial

theorem AboutSmpp.wire
    {assertion : State → Prop}
    (about : AboutSmpp assertion) :
    AboutWire assertion :=
  fun before after holds same =>
    about before after holds same.smppIsConnected

namespace AboutWire

theorem always : AboutWire fun _ => True :=
  fun _ _ holds _ => holds

theorem conj
    {first second : State → Prop}
    (firstAbout : AboutWire first)
    (secondAbout : AboutWire second) :
    AboutWire fun state => first state ∧ second state :=
  fun before after holds same =>
    ⟨firstAbout before after holds.1 same,
      secondAbout before after holds.2 same⟩

theorem imp
    (proposition : Prop)
    {assertion : State → Prop}
    (about : AboutWire assertion) :
    AboutWire fun state => proposition → assertion state :=
  fun before after holds same premise =>
    about before after (holds premise) same

/-- What is only asserted while the TCP flag is set. -/
theorem ifTcpConnected
    {assertion : State → Prop}
    (about : AboutWire assertion) :
    AboutWire fun state => state.tcpIsConnected → assertion state :=
  fun before after holds same connected =>
    about before after (holds (same.tcpIsConnected connected)) same

/-- What is only asserted while the SMPP flag is set. -/
theorem ifSmppConnected
    {assertion : State → Prop}
    (about : AboutWire assertion) :
    AboutWire fun state => state.smppIsConnected → assertion state :=
  fun before after holds same connected =>
    about before after (holds (same.smppIsConnected connected)) same

end AboutWire

/-! ## The protocol -/

/-- Only the controller relies on the others: they send no requests and leave
the connection alone. -/
def orderProtocol : Protocol Thread State where
  inv := OrderInv
  rely thread before after := thread = controller → SameWire before after
  rely_refl _ state _ := .refl state
  rely_trans _ _ _ _ before after same := (before same).trans (after same)

/-- A triple of the controller in this protocol. -/
abbrev OrderTriple (pre : State → Prop) (program : Prog α)
    (post : α → State → Prop) : Prop :=
  orderProtocol.Triple exec RegistersRequests controller pre program post

theorem AboutWire.stable
    {assertion : State → Prop}
    (about : AboutWire assertion) :
    orderProtocol.Stable controller assertion :=
  fun before after _ holds rely _ => about before after holds (rely rfl)

theorem order_keeps (inv : OrderInv after) :
    orderProtocol.Keeps controller before after :=
  ⟨inv, fun _ different same => absurd same different⟩

theorem order_returns
    {pre : State → Prop}
    {post : α → State → Prop}
    {value : α}
    (about : AboutWire (post value))
    (entails : ∀ state, pre state → post value state) :
    OrderTriple pre (.ret value) post :=
  .returns about.stable fun state _ holds => entails state holds

/-- Programs of the controller that send no request and leave the connection
alone. -/
theorem wire_triple
    {program : Prog α}
    {assertion : State → Prop}
    (uses : program.Uses fun operation => operation.leavesRequests)
    (about : AboutWire assertion) :
    OrderTriple assertion program fun _ => assertion := by
  refine Protocol.Triple.uses uses about.stable ?_
  intro operation state choice leaves inv holds _
  have same := exec_sameWire controller leaves choice state
  exact ⟨order_keeps (inv.same same), about _ _ holds same⟩

theorem wire_call
    {operation : Op}
    {assertion : State → Prop}
    (leaves : operation.leavesRequests)
    (about : AboutWire assertion) :
    OrderTriple assertion (call operation) fun _ => assertion :=
  wire_triple ⟨leaves, fun _ => trivial⟩ about

/-- The programs of the other threads. -/
theorem others_order
    {thread : Thread}
    {program : Prog α}
    {kind : Op → Prop}
    (uses : program.Uses kind)
    (same : ∀ operation choice state, kind operation →
      SameWire state (exec thread operation choice state).2) :
    orderProtocol.Triple exec RegistersRequests thread (fun _ => True)
      program fun _ _ => True := by
  refine Protocol.Triple.uses uses (.const True) ?_
  intro operation state choice member inv _ _
  have step := same operation choice state member
  exact ⟨⟨inv.same step, fun _ _ _ => step⟩, trivial⟩

end Sms112
