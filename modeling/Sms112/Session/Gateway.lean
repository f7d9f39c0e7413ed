import Sms112.Session.Exchanges

/-!
# The sessions of the gateway

The controller's programs in the protocol of the sessions. Where the ping loop
starts over, no `UNBIND` was sent; with the TCP flag set no request was cut
short, and with both flags set a whole `BIND_TRANSCEIVER` was sent.
-/

namespace Sms112

open Resumption History

/-! ## Assertions of the controller -/

/-- The session is not over. -/
abbrev SessionPhase.IsOpen (phase : SessionPhase) : Prop :=
  phase ≠ .unbound

/-- Nothing but whole requests was sent, and no `UNBIND`. -/
abbrev SessionPhase.IsWhole (phase : SessionPhase) : Prop :=
  phase = .opened ∨ phase = .bound

/-- A `BIND_TRANSCEIVER` was sent, and every request as a whole. -/
abbrev SessionPhase.IsBound (phase : SessionPhase) : Prop :=
  phase = .bound

/-- The two flags are not both set. -/
def NotLinked (state : State) : Prop :=
  ¬(state.tcpIsConnected ∧ state.smppIsConnected)

theorem notLinked_about : AboutWire NotLinked :=
  fun _ _ notLinked same linked => notLinked
    ⟨same.tcpIsConnected linked.1, same.smppIsConnected linked.2⟩

/-- The SMPP flag is cleared. -/
def SmppCleared (state : State) : Prop :=
  state.smppIsConnected = false

theorem smppCleared_about : AboutSmpp SmppCleared :=
  fun _ _ cleared onlyCleared => Bool.eq_false_iff.mpr fun connected =>
    Bool.eq_false_iff.mp cleared (onlyCleared connected)

theorem SmppCleared.notLinked
    {state : State}
    (cleared : SmppCleared state) :
    NotLinked state := by
  rintro ⟨-, connected⟩
  exact Bool.eq_false_iff.mp cleared connected

/-- What holds where the ping loop starts over. -/
def AtPing (state : State) : Prop :=
  CurrentPhase SessionPhase.IsOpen state ∧
    (state.tcpIsConnected → CurrentPhase SessionPhase.IsWhole state ∧
      (state.smppIsConnected → CurrentPhase SessionPhase.IsBound state))

theorem atPing_about : AboutWire AtPing :=
  (CurrentPhase.about _).conj
    ((CurrentPhase.about _).conj
      (CurrentPhase.about _).ifSmppConnected).ifTcpConnected

/-- After a `BIND_TRANSCEIVER` the loop may start over. -/
theorem Sent.atPing
    {state : State}
    (sent : Sent SessionPhase.IsOpen SessionPhase.IsBound state) :
    AtPing state :=
  ⟨sent.1, fun connected => ⟨(sent.2 connected).mono fun _ => .inr,
    fun _ => sent.2 connected⟩⟩

/-! ## Opening and closing the connection -/

/-- The session on a socket just created has begun. -/
theorem socket_order :
    OrderTriple NotLinked (call .socket) fun _ state =>
      CurrentPhase (· = .opened) state ∧ NotLinked state := by
  refine .call notLinked_about.stable
    (fun _ => ((CurrentPhase.about _).conj notLinked_about).stable) ?_
  intro state choice inv notLinked _
  dsimp only [exec]
  rcases state.socket_cases choice with
    ⟨descriptor, errno, nonnegative, -, created⟩ | refused
  · rw [created]
    refine ⟨order_keeps (inv.of_requests_eq rfl ?_ (Nat.le_succ _)),
      fun serial designated => ?_, notLinked⟩
    · refine List.forall_mem_cons.mpr
        ⟨⟨nonnegative, Nat.lt_succ_self _⟩, fun entry member => ?_⟩
      obtain ⟨nonnegative, old⟩ := inv.known entry member
      exact ⟨nonnegative, Nat.lt_succ_of_lt old⟩
    · simp only [State.serial, List.lookup_cons_self,
        Option.mem_some_iff] at designated
      exact ⟨.opened, by rw [inv.fresh serial designated.le]; rfl, rfl⟩
  · rw [refused]
    have unset : State.serial { state with iSock := -1 } = none :=
      state.serial_unset fun entry member => (inv.known entry member).1
    refine ⟨order_keeps (inv.of_requests_eq rfl inv.known le_rfl),
      fun serial designated => ?_, notLinked⟩
    rw [unset] at designated
    cases designated

/-- `sms112_tcp_connect` begins a session, whether it succeeds or not. -/
theorem tcpConnect_order :
    OrderTriple NotLinked tcpConnect fun iRetVal state =>
      CurrentPhase (· = .opened) state ∧
        (iRetVal ≠ 0 → NotLinked state) := by
  have begun := (CurrentPhase.about (· = .opened)).conj notLinked_about
  have done (iRetVal : Int) := (CurrentPhase.about (· = .opened)).conj
    (notLinked_about.imp (iRetVal ≠ 0))
  have sets : OrderTriple
      (fun state => CurrentPhase (· = .opened) state ∧ NotLinked state)
      (call (.setTcpConnected true))
      fun _ => CurrentPhase (· = .opened) := by
    refine .call begun.stable (fun _ => (CurrentPhase.about _).stable) ?_
    rintro state choice inv ⟨opened, -⟩ -
    exact ⟨order_keeps (inv.of_requests_eq rfl inv.known le_rfl), opened⟩
  have fails (errno : Int) : OrderTriple
      (fun state => CurrentPhase (· = .opened) state ∧ NotLinked state)
      (.ret errno) fun iRetVal state =>
        CurrentPhase (· = .opened) state ∧
          (iRetVal ≠ 0 → NotLinked state) :=
    order_returns (done errno) fun _ holds => ⟨holds.1, fun _ => holds.2⟩
  refine (wire_call rfl notLinked_about).bind fun _ => .bind ?_ fun iRetVal =>
    (wire_call rfl (done iRetVal)).bind fun _ =>
      order_returns (done iRetVal) fun _ holds => holds
  refine socket_order.bind fun opened => .ite (fun _ => fails _) fun _ => ?_
  refine (wire_call rfl begun).bind fun _ => (wire_call rfl begun).bind
    fun outcome => .ite (fun _ => fails _) fun success => ?_
  exact sets.bind fun _ => order_returns (done outcome.1)
    fun _ opened => ⟨opened, fun failed => absurd failed success⟩

/-- `sms112_tcp_disconn` sends nothing. -/
theorem tcpDisconn_order
    {assertion : State → Prop}
    (about : AboutSmpp assertion) :
    OrderTriple assertion tcpDisconn fun _ => assertion := by
  have closes : OrderTriple assertion (call .close)
      fun _ => assertion := by
    refine .call about.wire.stable (fun _ => about.wire.stable) ?_
    intro state choice inv holds _
    dsimp only [exec]
    rcases state.close_cases choice with ⟨serial, -, -, closed⟩ | failed
    · rw [closed]
      exact ⟨order_keeps (inv.closed rfl rfl List.filter_sublist.subset),
        about _ _ holds id⟩
    · rw [failed]
      exact ⟨order_keeps inv, holds⟩
  have forgets : OrderTriple assertion (call (.setSock (-1)))
      fun _ => assertion := by
    refine .call about.wire.stable (fun _ => about.wire.stable) ?_
    intro state choice inv holds _
    exact ⟨order_keeps (inv.closed rfl rfl (List.Subset.refl _)),
      about _ _ holds id⟩
  have done : OrderTriple assertion (.ret PUnit.unit) fun _ => assertion :=
    order_returns about.wire fun _ holds => holds
  have quiet {operation : Op} (leaves : operation.leavesRequests) :
      OrderTriple assertion (call operation) fun _ => assertion :=
    wire_call leaves about.wire
  refine (quiet rfl).bind fun _ => .bind ?_ fun _ =>
    (quiet rfl).bind fun _ => order_returns about.wire fun _ holds => holds
  refine (quiet rfl).bind fun iSock => .ite (fun _ => ?_) fun _ => done
  refine (quiet rfl).bind fun _ => closes.bind fun closed =>
    .ite (fun _ => ?_) fun _ => done
  exact (quiet rfl).bind fun _ => forgets

/-! ## Binding, checking and unbinding -/

theorem bindTransceiver_leads :
    Leads BIND_TRANSCEIVER SessionPhase.IsWhole SessionPhase.IsOpen
      SessionPhase.IsBound where
  keeps phase whole := by
    rcases whole with rfl | rfl <;> decide
  sends phase whole request isBind := by
    have other : BIND_TRANSCEIVER ≠ UNBIND := by decide
    refine ⟨if request.whole then .bound else .cut, ?_, ?_, fun all => ?_⟩
    · simp only [session, isBind, if_neg other, true_and]
      rw [if_pos (.inl whole)]
    · split <;> decide
    · exact if_pos all

theorem enquireLink_leads :
    Leads ENQUIRE_LINK SessionPhase.IsBound SessionPhase.IsOpen
      SessionPhase.IsBound where
  keeps phase bound := by
    subst bound
    decide
  sends phase bound request isCheck := by
    have other : ENQUIRE_LINK ≠ UNBIND := by decide
    refine ⟨if request.whole then .bound else .cut, ?_, ?_, fun all => ?_⟩
    · simp only [session, isCheck, if_neg other, true_and]
      rw [if_pos (.inr bound)]
    · split <;> decide
    · exact if_pos all

theorem unbind_leads :
    Leads UNBIND SessionPhase.IsOpen (fun _ => True) fun _ => True where
  keeps _ _ := trivial
  sends phase isOpen request isUnbind := by
    refine ⟨.unbound, ?_, trivial, fun _ => trivial⟩
    simp only [session, isUnbind, if_true, if_neg isOpen]

section Exchanges

variable (conf : SConf) {lib : Smpp34} (faithful : lib.Faithful)

include faithful

/-- `sms112_smpp_connect` on a socket on which nothing was cut short. -/
theorem smppConnect_order
    (packs : ∀ seqNum,
      (lib.pack2 (bindTransceiver conf seqNum) localBufferSize).1 = 0) :
    OrderTriple (CurrentPhase SessionPhase.IsWhole) (smppConnect conf lib)
      fun _ => Sent SessionPhase.IsOpen SessionPhase.IsBound := by
  have sent := Sent.about SessionPhase.IsOpen SessionPhase.IsBound
  have binds (seqNum : Nat) : OrderTriple (CurrentPhase SessionPhase.IsWhole)
      (exchange lib (bindTransceiver conf seqNum) BIND_TRANSCEIVER_RESP true)
      fun _ => Sent SessionPhase.IsOpen SessionPhase.IsBound :=
    (exchange_order faithful (bindTransceiver conf seqNum)
      bindTransceiver_leads (fun failed => absurd (packs seqNum) failed)
      .always BIND_TRANSCEIVER_RESP true).consequence
        (fun _ _ current => ⟨current, trivial⟩) fun _ _ _ holds => holds.1
  have sets : OrderTriple (Sent SessionPhase.IsOpen SessionPhase.IsBound)
      (call (.setSmppConnected true))
      fun _ => Sent SessionPhase.IsOpen SessionPhase.IsBound := by
    refine .call sent.stable (fun _ => sent.stable) ?_
    intro state choice inv holds _
    exact ⟨order_keeps (inv.of_requests_eq rfl inv.known le_rfl), holds⟩
  refine (wire_call rfl (.about _)).bind fun _ => .bind
    ((wire_call rfl (.about _)).bind fun seqNum =>
      (binds seqNum).bind fun iRetVal => .ite (fun _ => ?_) fun _ => ?_)
    fun _ => (wire_call rfl sent).bind fun _ =>
      order_returns sent fun _ holds => holds
  · exact sets.bind fun _ => order_returns sent fun _ holds => holds
  · exact order_returns sent fun _ holds => holds

/-- `sms112_smpp_enq_link` on a bound session. -/
theorem smppEnqLink_order :
    OrderTriple (CurrentPhase SessionPhase.IsBound) (smppEnqLink lib)
      fun _ => Sent SessionPhase.IsOpen SessionPhase.IsBound :=
  (wire_call rfl (.about _)).bind fun seqNum =>
    (exchange_order faithful (headerPdu ENQUIRE_LINK seqNum)
      enquireLink_leads (fun _ _ bound => bound) .always
      ENQUIRE_LINK_RESP false).consequence
        (fun _ _ current => ⟨current, trivial⟩) fun _ _ _ holds => holds.1

/-- `sms112_smpp_disconn` ends the session with the SMPP flag cleared. -/
theorem smppDisconn_order :
    OrderTriple (CurrentPhase SessionPhase.IsOpen) (smppDisconn lib)
      fun _ => SmppCleared := by
  have clears : OrderTriple (CurrentPhase SessionPhase.IsOpen)
      (call (.setSmppConnected false)) fun _ state =>
        CurrentPhase SessionPhase.IsOpen state ∧ SmppCleared state := by
    refine .call (CurrentPhase.about _).stable (fun _ =>
      ((CurrentPhase.about _).conj smppCleared_about.wire).stable) ?_
    intro state choice inv current _
    exact ⟨order_keeps (inv.of_requests_eq rfl inv.known le_rfl), current,
      rfl⟩
  have unbinds (seqNum : Nat) : OrderTriple
      (fun state => CurrentPhase SessionPhase.IsOpen state ∧
        SmppCleared state)
      (exchange lib (headerPdu UNBIND seqNum) UNBIND_RESP false)
      fun _ => SmppCleared :=
    (exchange_order faithful (headerPdu UNBIND seqNum) unbind_leads
      (fun _ _ _ => trivial) smppCleared_about UNBIND_RESP
      false).consequence (fun _ _ holds => holds) fun _ _ _ holds => holds.2
  refine (wire_call rfl (.about _)).bind fun _ => .bind
    (clears.bind fun _ => (wire_call rfl ((CurrentPhase.about _).conj
      smppCleared_about.wire)).bind unbinds) fun _ => ?_
  exact (wire_call rfl smppCleared_about.wire).bind fun _ =>
    order_returns smppCleared_about.wire fun _ cleared => cleared

end Exchanges

/-! ## The controller's programs -/

/-- What holds where the controller starts a program. -/
def OrderEntry : Label → State → Prop
  | .main => NotLinked
  | .startPing | .ping _ => AtPing
  | .finish => CurrentPhase SessionPhase.IsOpen
  | _ => fun _ => True

theorem orderEntry_about (label : Label) : AboutWire (OrderEntry label) := by
  unfold OrderEntry
  split
  · exact notLinked_about
  · exact atPing_about
  · exact atPing_about
  · exact CurrentPhase.about _
  · exact .always

/-- A program ends at a label whose assertion holds. -/
theorem continues_order
    {pre : State → Prop}
    {label : Label}
    (entails : ∀ state, pre state → OrderEntry label state) :
    OrderTriple pre (.ret label) OrderEntry :=
  order_returns (orderEntry_about label) entails

section Controller

variable (conf : SConf) {lib : Smpp34} (faithful : lib.Faithful)
variable (packs : ∀ seqNum,
  (lib.pack2 (bindTransceiver conf seqNum) localBufferSize).1 = 0)

theorem startPing_order :
    OrderTriple AtPing (startPing conf) OrderEntry := by
  refine (wire_call rfl atPing_about).bind fun _ =>
    (wire_call rfl atPing_about).bind fun iFnRes =>
      .ite (fun _ => continues_order fun _ atPing => atPing.1) fun _ => ?_
  exact (wire_call rfl atPing_about).bind fun garbage =>
    (wire_triple (makeTimespecTimeout_uses (by rfl) _ _ _)
      atPing_about).bind fun timeSpec =>
        continues_order fun _ atPing => atPing

include faithful

theorem finish_order :
    OrderTriple (CurrentPhase SessionPhase.IsOpen) (finish lib)
      OrderEntry :=
  (wire_call rfl (.about _)).bind fun _ =>
    (smppDisconn_order faithful).bind fun _ =>
      (tcpDisconn_order smppCleared_about).bind fun _ =>
        continues_order fun _ _ => trivial

include packs

theorem main_order :
    OrderTriple NotLinked (main conf lib) OrderEntry := by
  have closes : OrderTriple (fun _ => True)
      (do tcpDisconn; return Label.stopped) OrderEntry :=
    (tcpDisconn_order .always).bind fun _ => continues_order fun _ _ => trivial
  have opened (allowed : SessionPhase → Prop) : OrderTriple
      (CurrentPhase allowed) (do tcpDisconn; return Label.stopped)
      OrderEntry :=
    closes.consequence (fun _ _ _ => trivial) fun _ _ _ holds => holds
  have sent := Sent.about SessionPhase.IsOpen SessionPhase.IsBound
  refine tcpConnect_order.bind fun iFnRes => .ite
    (fun _ => continues_order fun _ _ => trivial) fun _ => ?_
  refine .consequence (.bind (wire_call rfl (.about (· = .opened)))
    fun created => .ite (fun _ => opened _) fun _ => ?_)
      (fun _ _ holds => holds.1) fun _ _ _ holds => holds
  refine .consequence (.bind (smppConnect_order conf faithful packs)
    fun iFnRes => .ite (fun _ => ?_) fun _ => ?_)
      (fun _ _ opened => opened.mono fun _ => .inl)
      fun _ _ _ holds => holds
  · exact (opened _).consequence (fun _ _ sent => sent.1)
      fun _ _ _ holds => holds
  · refine (wire_call rfl sent).bind fun created =>
      .ite (fun _ => ?_) fun _ => ?_
    · exact continues_order fun _ sent => sent.1
    · exact continues_order fun _ sent => sent.atPing

theorem doSmppConnection_order (soTS : Timespec) :
    OrderTriple (CurrentPhase SessionPhase.IsWhole)
      (doSmppConnection conf lib soTS) OrderEntry :=
  (smppConnect_order conf faithful packs).bind fun _ =>
    continues_order fun _ sent => sent.atPing

/-- A socket is opened where the two flags are not both set: if that fails,
the loop does not take the socket for a linked one. -/
theorem doTcpConnection_order (soTS : Timespec) :
    OrderTriple NotLinked (doTcpConnection conf lib soTS) OrderEntry := by
  refine tcpConnect_order.bind fun iFnRes => .ite (fun failed => ?_)
    fun _ => ?_
  · refine continues_order fun state ⟨opened, notLinked⟩ => ?_
    refine ⟨opened.mono ?_, fun tcp => ⟨opened.mono fun _ => .inl,
      fun smpp => absurd ⟨tcp, smpp⟩ (notLinked failed)⟩⟩
    rintro _ rfl
    decide
  · exact (doSmppConnection_order conf faithful packs soTS).consequence
      (fun _ _ holds => holds.1.mono fun _ => .inl) fun _ _ _ holds => holds

theorem recoverConnection_order (soTS : Timespec) :
    OrderTriple (CurrentPhase SessionPhase.IsOpen)
      (recoverConnection conf lib soTS) OrderEntry :=
  (smppDisconn_order faithful).bind fun _ =>
    (tcpDisconn_order smppCleared_about).bind fun _ =>
      (doTcpConnection_order conf faithful packs soTS).consequence
        (fun _ _ cleared => cleared.notLinked) fun _ _ _ holds => holds

theorem doSmppPing_order (soTS : Timespec) :
    OrderTriple AtPing (doSmppPing conf lib soTS) OrderEntry := by
  -- what reading a flag tells lasts, since the others only clear the flags
  have readsTcp : OrderTriple AtPing (call .isTcpConnected)
      fun connected state => if connected then
        CurrentPhase SessionPhase.IsWhole state ∧
          (state.smppIsConnected → CurrentPhase SessionPhase.IsBound state)
        else NotLinked state := by
    refine .call atPing_about.stable (fun connected => ?_) ?_
    · cases connected
      · exact notLinked_about.stable
      · exact ((CurrentPhase.about _).conj
          (CurrentPhase.about _).ifSmppConnected).stable
    · intro state choice inv atPing _
      refine ⟨order_keeps inv, ?_⟩
      cases tcp : state.tcpIsConnected
      · simp only [exec, tcp, Bool.false_eq_true, if_false]
        exact fun linked => Bool.eq_false_iff.mp tcp linked.1
      · simp only [exec, tcp, if_true]
        exact atPing.2 tcp
  have readsSmpp : OrderTriple (fun state =>
      CurrentPhase SessionPhase.IsWhole state ∧
        (state.smppIsConnected → CurrentPhase SessionPhase.IsBound state))
      (call .isSmppConnected) fun connected state =>
        CurrentPhase (if connected then SessionPhase.IsBound
          else SessionPhase.IsWhole) state := by
    refine .call ((CurrentPhase.about _).conj
      (CurrentPhase.about _).ifSmppConnected).stable
        (fun _ => (CurrentPhase.about _).stable) ?_
    intro state choice inv holds _
    refine ⟨order_keeps inv, ?_⟩
    cases smpp : state.smppIsConnected
    · simpa only [exec, smpp, Bool.false_eq_true, if_false] using holds.1
    · simpa only [exec, smpp, if_true] using holds.2 smpp
  refine (wire_call rfl atPing_about).bind fun iStop =>
    .ite (fun _ => continues_order fun _ atPing => atPing.1) fun _ => ?_
  refine (wire_call rfl atPing_about).bind fun iFnRes =>
    .ite (fun _ => continues_order fun _ atPing => atPing.1) fun _ => ?_
  refine readsTcp.bind fun tcpIsConnected => ?_
  cases tcpIsConnected
  · exact doTcpConnection_order conf faithful packs soTS
  refine readsSmpp.bind fun smppIsConnected => ?_
  cases smppIsConnected
  · exact doSmppConnection_order conf faithful packs soTS
  refine (smppEnqLink_order faithful).bind fun iFnRes =>
    .ite (fun _ => continues_order fun _ sent => sent.atPing) fun _ => ?_
  exact (recoverConnection_order conf faithful packs soTS).consequence
    (fun _ _ sent => sent.1) fun _ _ _ holds => holds

end Controller

/-! ## The gateway -/

theorem environment_leavesRequests :
    environment.Uses fun operation => operation.leavesRequests :=
  environment_uses rfl rfl rfl

theorem orderStart_inv : OrderInv gatewayStart.state where
  known := List.forall_mem_nil _
  fresh _ _ := rfl
  ordered _ := rfl

section Soundness

variable (conf : SConf) (lib : Smpp34) (faithful : lib.Faithful)
variable (packs : ∀ seqNum,
  (lib.pack2 (bindTransceiver conf seqNum) localBufferSize).1 = 0)

include faithful packs

theorem gateway_orderInv
    {config : Config Res Thread State Label}
    (reach : (gateway conf lib).Reach RegistersRequests gatewayStart config) :
    OrderInv config.state := by
  let entry (thread : Thread) (label : Label) (state : State) : Prop :=
    thread = controller → OrderEntry label state
  have own {pre : State → Prop} {program : Prog Label}
      (triple : OrderTriple pre program OrderEntry) :
      OrderTriple (fun state => controller = controller → pre state) program
        (entry controller) :=
    triple.consequence (fun _ _ holds => holds rfl)
      fun _ _ _ holds _ => holds
  have others (thread : Thread) (different : thread ≠ controller)
      {label : Label} {program : Prog Label} {kind : Op → Prop}
      (uses : program.Uses kind)
      (same : ∀ operation choice state, kind operation →
        SameWire state (exec thread operation choice state).2) :
      orderProtocol.Triple exec RegistersRequests thread (entry thread label)
        program (entry thread) :=
    (others_order uses same).consequence (fun _ _ _ => trivial)
      fun _ _ _ _ isController => absurd isController different
  exact (gateway_safe conf lib orderProtocol entry
    (fun thread label before after _ holds rely _ isController =>
      orderEntry_about label before after (holds isController)
        (rely isController))
    (fun _ _ _ _ _ _ => trivial)
    (own (main_order conf faithful packs)) (own (startPing_order conf))
    (fun soTS => own (doSmppPing_order conf faithful packs soTS))
    (own (finish_order faithful))
    (others .receiver (by decide) (msgReceiver_traffic conf lib)
      fun _ choice state traffic => exec_receiver_sameWire traffic choice state)
    (others .environment (by decide) environment_leavesRequests
      fun _ choice state leaves =>
        exec_sameWire .environment leaves choice state)
    orderStart_inv (fun _ => nofun) nofun nofun (fun _ => nofun) reach).1

/-- In every run in which the numbers of the requests are free when they are
registered, the requests on every socket were sent in the order of a
session. -/
theorem gateway_sessionsOrdered
    {config : Config Res Thread State Label}
    (reach : (gateway conf lib).Reach RegistersRequests gatewayStart config) :
    SessionsOrdered config.state :=
  (gateway_orderInv conf lib faithful packs reach).ordered

end Soundness

/-- The packed `BIND_TRANSCEIVER` fits into the buffer. -/
theorem referenceCodec_packsBind (conf : SConf) (seqNum : Nat) :
    (referenceCodec.pack2 (bindTransceiver conf seqNum)
      localBufferSize).1 = 0 := by
  have fits : (ReferenceCodec.packed (bindTransceiver conf seqNum)).length ≤
      localBufferSize := by
    simp only [ReferenceCodec.packed, ReferenceCodec.packBody,
      bindTransceiver, localBufferSize, List.length_append, List.length_take,
      length_wordOctets, List.length_cons, List.length_nil]
    omega
  exact congrArg Prod.fst (if_pos fits)

/-- The gateway binds, finds the link dead, unbinds and binds again. -/
theorem linkTimedOut_sessionsOrdered :
    SessionsOrdered ((gateway {} referenceCodec).run
      (started ++ steps (.requester 0) 83) gatewayStart).state :=
  gateway_sessionsOrdered {} referenceCodec referenceCodec_faithful
    (referenceCodec_packsBind {}) (.run .start _ (by decide +kernel))

end Sms112
