import Sms112.Session.Gateway

/-!
# The numbers of the requests

As long as `g_uiSecNum` does not start over, the number of a request is above
all that are taken and all that were sent: no request is refused for its
number, and on the wire, over all sockets, the numbers rise.
-/

namespace Sms112

open Resumption

variable {α : Type} {before after state : State} {number : Nat}

/-- `g_uiSecNum` does not start over. -/
def NumbersRise : Machine.Condition Op Thread Choice State
  | _, .incSecNum, _, state => state.uiSecNum + 1 < 2 ^ 32
  | _, _, _, _ => True

instance (thread : Thread) (operation : Op) (choice : Choice)
    (state : State) :
    Decidable (NumbersRise thread operation choice state) := by
  unfold NumbersRise
  split <;> infer_instance

/-! ## The invariant -/

/-- The numbers taken and sent are up to `g_uiSecNum`, they were sent in
increasing order, and none was refused. -/
structure NumberInv (state : State) : Prop where
  current : state.uiSecNum < 2 ^ 32
  taken : ∀ entry ∈ state.mapReq, entry.1 ≤ state.uiSecNum
  sent : ∀ request ∈ sentRequests state.log,
    request.sequenceNumber ≤ state.uiSecNum
  rising : (sentRequests state.log).Pairwise
    fun later earlier => earlier.sequenceNumber < later.sequenceNumber
  accepted : ∀ seqNum others, .storRefused seqNum others ∉ state.log

/-- A number was given out and not sent yet. -/
structure Unsent (number : Nat) (state : State) : Prop where
  current : state.uiSecNum = number
  sent : ∀ request ∈ sentRequests state.log,
    request.sequenceNumber < number

/-- A number was given out and not registered yet. -/
structure FreshNumber (number : Nat) (state : State) : Prop
    extends Unsent number state where
  taken : ∀ entry ∈ state.mapReq, entry.1 < number

/-- No number was given out, taken or sent. -/
structure SameNumbers (before after : State) : Prop where
  uiSecNum : after.uiSecNum = before.uiSecNum
  mapReq : after.mapReq ⊆ before.mapReq
  requests : sentRequests after.log = sentRequests before.log
  refused : ∀ seqNum others, .storRefused seqNum others ∈ after.log →
    .storRefused seqNum others ∈ before.log

namespace SameNumbers

theorem refl (state : State) : SameNumbers state state :=
  ⟨rfl, List.Subset.refl _, rfl, fun _ _ => id⟩

theorem trans
    {first second third : State}
    (before : SameNumbers first second)
    (after : SameNumbers second third) :
    SameNumbers first third where
  uiSecNum := after.uiSecNum.trans before.uiSecNum
  mapReq _ member := before.mapReq (after.mapReq member)
  requests := after.requests.trans before.requests
  refused seqNum others member :=
    before.refused seqNum others (after.refused seqNum others member)

theorem inv
    (same : SameNumbers before after)
    (inv : NumberInv before) :
    NumberInv after where
  current := same.uiSecNum ▸ inv.current
  taken entry member := same.uiSecNum ▸ inv.taken entry (same.mapReq member)
  sent := by
    rw [same.uiSecNum, same.requests]
    exact inv.sent
  rising := same.requests ▸ inv.rising
  accepted seqNum others member :=
    inv.accepted seqNum others (same.refused seqNum others member)

theorem unsent
    (same : SameNumbers before after)
    (unsent : Unsent number before) :
    Unsent number after where
  current := same.uiSecNum.trans unsent.current
  sent := same.requests ▸ unsent.sent

theorem freshNumber
    (same : SameNumbers before after)
    (fresh : FreshNumber number before) :
    FreshNumber number after where
  toUnsent := same.unsent fresh.toUnsent
  taken entry member := fresh.taken entry (same.mapReq member)

end SameNumbers

/-! ## Steps that leave the numbers alone -/

/-- The operations that neither give out a number nor take or send one. -/
def Op.leavesNumbers : Op → Bool
  | .incSecNum | .reqStorAdd .. | .send _ => false
  | .note (.sent ..) | .note (.storRefused ..) => false
  | _ => true

theorem exec_sameNumbers
    (thread : Thread)
    {operation : Op}
    (leaves : operation.leavesNumbers)
    (choice : Choice)
    (state : State) :
    SameNumbers state (exec thread operation choice state).2 := by
  have frame := exec_frame thread operation choice state
  have noSend : operation.isSend = false := by
    cases operation <;> first | rfl | cases leaves
  have requests : sentRequests (exec thread operation choice state).2.log =
      sentRequests state.log := by
    refine sentRequests_exec thread noSend ?_ choice state
    rintro event rfl
    cases event <;> first | rfl | cases leaves
  have refused (seqNum others : Nat)
      (member : .storRefused seqNum others ∈
        (exec thread operation choice state).2.log) :
      .storRefused seqNum others ∈ state.log := by
    have silent : operation.notes (.storRefused seqNum others) = false := by
      cases operation
      case note event =>
        exact decide_eq_false (by rintro rfl; cases leaves)
      case enter routine => cases routine <;> rfl
      all_goals first | rfl | cases leaves
    rcases exec_notes thread operation choice state with
      unchanged | ⟨event, noted, appended⟩
    · rwa [unchanged] at member
    · rw [appended] at member
      rcases List.mem_cons.mp member with rfl | earlier
      · exact absurd noted (Bool.eq_false_iff.mp silent)
      · exact earlier
  cases operation
  case reqStorGetAndRem seqNum =>
    refine ⟨frame .uiSecNum rfl, ?_, requests, refused⟩
    dsimp only [exec]
    rcases state.storGetAndRem_cases seqNum with
      missing | ⟨pointer, -, found⟩
    · rw [missing]
      exact List.Subset.refl _
    · rw [found]
      exact List.filter_sublist.subset
  all_goals
    first
      | exact ⟨frame .uiSecNum rfl, (frame .mapReq rfl) ▸ List.Subset.refl _,
          requests, refused⟩
      | cases leaves

theorem Op.isConnecting.leavesNumbers
    (operation : Op)
    (connecting : operation.isConnecting) :
    operation.leavesNumbers := by
  cases operation <;> first | rfl | cases connecting

theorem Op.isReceiving.leavesNumbers
    (operation : Op)
    (receiving : operation.isReceiving)
    (noSend : operation.isSend = false) :
    operation.leavesNumbers := by
  cases operation
  case send data => exact nomatch noSend
  case note event => cases event <;> first | rfl | cases receiving
  all_goals first | rfl | cases receiving

/-- What the receiver sends is no request. -/
theorem exec_receiver_sameNumbers
    {operation : Op}
    (receiving : operation.isReceiving)
    (choice : Choice)
    (state : State) :
    SameNumbers state (exec .receiver operation choice state).2 := by
  by_cases sends : operation.isSend
  · cases operation
    case send data =>
      dsimp only [exec]
      rcases state.send_cases .receiver choice data with
        ⟨serial, -, -, accepted⟩ | failed
      · rw [accepted]
        refine ⟨rfl, List.Subset.refl _, rfl, fun _ _ member => ?_⟩
        exact (List.mem_cons.mp member).resolve_left nofun
      · rw [failed]
        exact .refl state
    all_goals cases sends
  · exact exec_sameNumbers .receiver (Op.isReceiving.leavesNumbers operation
      receiving (Bool.eq_false_iff.mpr sends)) choice state

/-! ## The protocol -/

/-- Only the controller relies on the others: they leave the numbers alone. -/
def numberProtocol : Protocol Thread State where
  inv := NumberInv
  rely thread before after := thread = controller → SameNumbers before after
  rely_refl _ state _ := .refl state
  rely_trans _ _ _ _ before after same := (before same).trans (after same)

/-- A triple of the controller in this protocol. -/
abbrev NumberTriple (pre : State → Prop) (program : Prog α)
    (post : α → State → Prop) : Prop :=
  numberProtocol.Triple exec NumbersRise controller pre program post

theorem number_keeps (inv : NumberInv after) :
    numberProtocol.Keeps controller before after :=
  ⟨inv, fun _ different same => absurd same different⟩

theorem unsent_stable :
    numberProtocol.Stable controller (Unsent number) :=
  fun _ _ _ unsent rely _ => (rely rfl).unsent unsent

theorem freshNumber_stable :
    numberProtocol.Stable controller (FreshNumber number) :=
  fun _ _ _ fresh rely _ => (rely rfl).freshNumber fresh

/-- Programs that leave the numbers alone. -/
theorem idle_numbers
    {thread : Thread}
    {program : Prog α}
    (uses : program.Uses fun operation => operation.leavesNumbers) :
    numberProtocol.Triple exec NumbersRise thread (fun _ => True) program
      fun _ _ => True := by
  refine Protocol.Triple.unobtrusive uses (.const True) ?_
  intro operation state choice leaves inv _
  have same := exec_sameNumbers thread leaves choice state
  exact ⟨same.inv inv, fun _ _ => same⟩

theorem idle_call
    {operation : Op}
    (leaves : operation.leavesNumbers) :
    NumberTriple (fun _ => True) (call operation) fun _ _ => True :=
  idle_numbers ⟨leaves, fun _ => trivial⟩

/-- A new number is above all that were given out before. -/
theorem incSecNum_numbers :
    NumberTriple (fun _ => True) (call .incSecNum) FreshNumber := by
  refine .call (.const True) (fun _ => freshNumber_stable) ?_
  intro state choice inv _ bounded
  have bounded : state.uiSecNum + 1 < 2 ^ 32 := bounded
  simp only [exec, Nat.mod_eq_of_lt bounded]
  refine ⟨number_keeps ⟨bounded, fun entry member => ?_, fun request member =>
    ?_, inv.rising, inv.accepted⟩, ⟨rfl, fun request member => ?_⟩,
    fun entry member => ?_⟩
  · exact (inv.taken entry member).trans (Nat.le_succ _)
  · exact (inv.sent request member).trans (Nat.le_succ _)
  · exact Nat.lt_succ_of_le (inv.sent request member)
  · exact Nat.lt_succ_of_le (inv.taken entry member)

/-- A new number is not refused. -/
theorem reqStorAdd_numbers (pointer : ReqPtr) :
    NumberTriple (FreshNumber number) (call (.reqStorAdd number pointer))
      fun _ => Unsent number := by
  refine .call freshNumber_stable (fun _ => unsent_stable) ?_
  intro state choice inv fresh _
  have free : state.mapReq.lookup number = none := by
    refine List.lookup_eq_none_iff.mpr fun entry member => ?_
    have below := fresh.taken entry member
    simp only [bne_iff_ne, ne_eq]
    omega
  simp only [exec, State.storAdd, Sms112.reqStorAdd, free, if_true]
  refine ⟨number_keeps ⟨inv.current, ?_, inv.sent, inv.rising,
    inv.accepted⟩, fresh.current, fresh.sent⟩
  exact List.forall_mem_cons.mpr ⟨fresh.current.ge, inv.taken⟩

/-- The request goes out with its number. -/
theorem send_numbers
    {data : Octets}
    (isNumber : word data 12 = number % 2 ^ 32) :
    NumberTriple (Unsent number) (call (.send data)) fun _ _ => True := by
  refine .call unsent_stable (fun _ => .const True) ?_
  intro state choice inv unsent _
  refine ⟨number_keeps ?_, trivial⟩
  have current := inv.current
  rw [unsent.current] at current
  rw [Nat.mod_eq_of_lt current] at isNumber
  dsimp only [exec]
  rcases state.send_cases controller choice data with
    ⟨serial, -, -, accepted⟩ | failed
  · rw [accepted]
    refine ⟨inv.current, inv.taken, ?_, ?_, fun seqNum others member => ?_⟩
    · exact List.forall_mem_cons.mpr
        ⟨(isNumber.trans unsent.current.symm).le, inv.sent⟩
    · exact List.pairwise_cons.mpr
        ⟨fun request member => isNumber.symm ▸ unsent.sent request member,
          inv.rising⟩
    · exact inv.accepted seqNum others
        ((List.mem_cons.mp member).resolve_left nofun)
  · rw [failed]
    exact inv

/-! ## The functions of the controller -/

theorem smppSend_numbers
    {data : Octets}
    (isNumber : word data 12 = number % 2 ^ 32)
    (reqData : ReqPtr) :
    NumberTriple (FreshNumber number) (smppSend data number reqData)
      fun _ _ => True := by
  have enters : NumberTriple (FreshNumber number)
      (call (.enterSend reqData)) fun _ => FreshNumber number := by
    refine .call freshNumber_stable (fun _ => freshNumber_stable) ?_
    intro state choice inv fresh _
    have leaves : (Op.enterSend reqData).leavesNumbers := rfl
    have same := exec_sameNumbers controller leaves choice state
    exact ⟨number_keeps (same.inv inv), same.freshNumber fresh⟩
  have refuses {iFnRes : Int} : NumberTriple (Unsent number) (.ret iFnRes)
      fun _ _ => True :=
    .returns (.const True) fun _ _ _ => trivial
  refine enters.bind fun _ => .bind ((reqStorAdd_numbers reqData).bind
    fun added => .ite (fun _ => refuses) fun _ => ?_)
      fun _ => idle_numbers (.step rfl fun _ => trivial)
  refine .bind ((send_numbers isNumber).bind fun outcome =>
    .ite (fun _ => idle_numbers trivial) fun _ => idle_numbers (.step rfl fun _ => trivial))
      fun sent => .ite (fun _ => idle_numbers trivial) fun _ => idle_numbers ?_
  refine .step rfl fun garbage =>
    (makeTimespecTimeout_uses (by rfl) _ _ _).bind fun _ =>
      .step rfl fun _ => .step rfl fun dataLen => ?_
  split <;> trivial

section Exchanges

variable {lib : Smpp34} (faithful : lib.Faithful)

include faithful

theorem exchange_numbers (request : Pdu) (respId : Nat) (freesTlv : Bool) :
    NumberTriple (FreshNumber request.sequenceNumber)
      (exchange lib request respId freesTlv) fun _ _ => True := by
  unfold exchange
  dsimp only
  split
  next failed => exact .returns (.const True) fun _ _ _ => trivial
  next packed =>
    have packed : (lib.pack2 request localBufferSize).1 = 0 :=
      not_not.mp packed
    have creates : NumberTriple (FreshNumber request.sequenceNumber)
        (call .newReqData) fun _ => FreshNumber request.sequenceNumber := by
      refine .call freshNumber_stable (fun _ => freshNumber_stable) ?_
      intro state choice inv fresh _
      have leaves : Op.newReqData.leavesNumbers := rfl
      have same := exec_sameNumbers controller leaves choice state
      exact ⟨number_keeps (same.inv inv), same.freshNumber fresh⟩
    refine creates.bind fun reqData => (smppSend_numbers
      (faithful.pack_sequenceNumber _ _ packed) reqData).bind fun iFnRes =>
        idle_numbers ?_
    split
    · exact .step rfl fun _ => trivial
    · exact (readResponse_uses (fun _ => rfl) (fun _ _ => rfl)
        (fun _ => rfl) (fun _ => rfl) lib _ _ _ _).bind fun _ =>
          .step rfl fun _ => trivial

/-- Nothing but its exchanges gives out a number. -/
theorem calls_numbers (conf : SConf) :
    CallsKeep conf lib NumbersRise numberProtocol where
  control operation isControl := by
    refine idle_numbers ⟨?_, fun _ => trivial⟩
    cases operation <;> first | rfl | cases isControl
  tcpConnect :=
    idle_numbers (tcpConnect_connecting.mono Op.isConnecting.leavesNumbers)
  tcpDisconn :=
    idle_numbers (tcpDisconn_connecting.mono Op.isConnecting.leavesNumbers)
  smppConnect := by
    refine (idle_call rfl).bind fun _ => .bind
      (incSecNum_numbers.bind fun seqNum =>
        (exchange_numbers faithful (bindTransceiver conf seqNum) _ _).bind
          fun iRetVal => idle_numbers ?_) fun _ => (idle_call rfl).bind
            fun _ => CallsKeep.done _
    dsimp only
    split
    · exact .step rfl fun _ => trivial
    · trivial
  smppDisconn :=
    (idle_call rfl).bind fun _ => .bind
      ((idle_call rfl).bind fun _ => incSecNum_numbers.bind fun seqNum =>
        exchange_numbers faithful (headerPdu UNBIND seqNum) _ _)
      fun _ => (idle_call rfl).bind fun _ => CallsKeep.done _
  smppEnqLink := incSecNum_numbers.bind fun seqNum =>
    exchange_numbers faithful (headerPdu ENQUIRE_LINK seqNum) _ _

end Exchanges

theorem msgReceiver_numbers (conf : SConf) (lib : Smpp34) :
    numberProtocol.Triple exec NumbersRise .receiver (fun _ => True)
      (msgReceiver conf lib) fun _ _ => True := by
  refine Protocol.Triple.unobtrusive (msgReceiver_receiving conf lib)
    (.const True) ?_
  intro operation state choice receiving inv _
  have same := exec_receiver_sameNumbers receiving choice state
  exact ⟨same.inv inv, fun _ _ => same⟩

/-! ## The gateway -/

theorem numberStart_inv : NumberInv gatewayStart.state where
  current := by decide
  taken := List.forall_mem_nil _
  sent := List.forall_mem_nil _
  rising := .nil
  accepted _ _ := List.not_mem_nil

/-- A request whose number is taken would be refused. -/
theorem registersRequests_of_accepted
    {thread : Thread}
    {operation : Op}
    {choice : Choice}
    (accepted : ∀ seqNum others, .storRefused seqNum others ∉
      (exec thread operation choice state).2.log) :
    RegistersRequests thread operation choice state := by
  unfold RegistersRequests
  split
  next seqNum pointer =>
    cases free : state.mapReq.lookup seqNum with
    | none => rfl
    | some other =>
        refine absurd ?_ (accepted seqNum (state.sending.length - 1))
        simp [exec, State.storAdd, Sms112.reqStorAdd, free, State.note,
          EEXIST]
  next => trivial

section Runs

variable (conf : SConf) (lib : Smpp34) (faithful : lib.Faithful)

include faithful

theorem gateway_numberInv
    {config : Config Res Thread State Label}
    (reach : (gateway conf lib).Reach NumbersRise gatewayStart config) :
    NumberInv config.state :=
  (calls_numbers faithful conf).sound (.const True)
    (msgReceiver_numbers conf lib)
    (idle_numbers (environment_uses rfl rfl rfl)) numberStart_inv trivial
    reach

/-- In every run in which `g_uiSecNum` does not start over, the numbers of the
requests rise in the order in which they were sent, whatever sockets they
were sent on, and none of them was refused. -/
theorem gateway_numbersRise
    {config : Config Res Thread State Label}
    (reach : (gateway conf lib).Reach NumbersRise gatewayStart config) :
    ((sentRequests config.state.log).Pairwise
        fun later earlier => earlier.sequenceNumber < later.sequenceNumber) ∧
      ∀ seqNum others, .storRefused seqNum others ∉ config.state.log :=
  have inv := gateway_numberInv conf lib faithful reach
  ⟨inv.rising, inv.accepted⟩

/-- In such a run every number is free when it is registered. -/
theorem gateway_registersRequests
    {config : Config Res Thread State Label}
    (reach : (gateway conf lib).Reach NumbersRise gatewayStart config) :
    (gateway conf lib).Reach RegistersRequests gatewayStart config := by
  induction reach with
  | start => exact .start
  | jump _ returned inductionHypothesis =>
      exact inductionHypothesis.jump returned
  | perform reach pending choice holds inductionHypothesis =>
      refine inductionHypothesis.perform pending choice ?_
      exact registersRequests_of_accepted
        (gateway_numberInv conf lib faithful
          (reach.perform pending choice holds)).accepted

/-- In such a run the requests are ordered on every socket. -/
theorem gateway_sessionsOrdered_of_numbersRise
    (packs : ∀ seqNum,
      (lib.pack2 (bindTransceiver conf seqNum) localBufferSize).1 = 0)
    {config : Config Res Thread State Label}
    (reach : (gateway conf lib).Reach NumbersRise gatewayStart config) :
    SessionsOrdered config.state :=
  (gateway_orderInv conf lib faithful packs
    (gateway_registersRequests conf lib faithful reach)).ordered

end Runs

/-- The gateway binds, finds the link dead, unbinds and binds again. -/
theorem linkTimedOut_numbersRise :
    ((sentRequests ((gateway {} referenceCodec).run
        (started ++ steps (.requester 0) 83) gatewayStart).state.log).Pairwise
        fun later earlier => earlier.sequenceNumber < later.sequenceNumber) ∧
      ∀ seqNum others, .storRefused seqNum others ∉
        ((gateway {} referenceCodec).run
          (started ++ steps (.requester 0) 83) gatewayStart).state.log :=
  gateway_numbersRise {} referenceCodec referenceCodec_faithful
    (.run .start _ (by decide +kernel))

end Sms112
