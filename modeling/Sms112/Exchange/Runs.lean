import Sms112.Exchange.Calls

/-!
# The runs of the client

What the threads know where they start over, and that every run of the client
in which requests take their turns keeps to the protocol of an exchange.
-/

namespace Sms112

open Resumption History

namespace Exchange

variable {aim : Aim}

/-- What is known behind a call of `sms112_smpp_send`. -/
structure Sent (aim : Aim) (data : Octets) (reqData : ReqPtr) (result : Int)
    (state : State) : Prop where
  isInt : data.length < 2 ^ 31
  calling : Calling [] [(reqData.addr, reqData.owner)] state
  outcome : ∃ seqNum, Outcome aim data seqNum reqData result state

/-- What holds where a thread starts over. -/
def Entry (aim : Aim) : Thread → ClientLabel → State → Prop
  | .requester 0, .returned data reqData result _ =>
      Sent aim data reqData result
  | .requester 0, _ => Calling [] []
  | .receiver, _ => HoldsNothing
  | _, _ => fun _ => True

theorem sent_stable (data : Octets) (reqData : ReqPtr) (result : Int) :
    (exchangeProtocol aim).Stable controller
      (Sent aim data reqData result) := by
  rintro before after inv ⟨isInt, calling, seqNum, outcome⟩ rely invAfter
  exact ⟨isInt, calling_stable before after inv calling rely invAfter,
    seqNum, outcome_stable data seqNum result before after inv outcome rely
      invAfter⟩

theorem entry_stable (thread : Thread) (label : ClientLabel) :
    (exchangeProtocol aim).Stable thread (Entry aim thread label) := by
  unfold Entry
  split
  · exact sent_stable _ _ _
  · exact calling_stable
  · exact holdsNothing_stable
  · exact .const True

/-- A call of `sms112_smpp_send` by the client. -/
theorem perform_smppSend_triple
    {data : Octets}
    (seqNum : Nat)
    (isInt : data.length < 2 ^ 31)
    (requests : List Request) :
    ExchangeTriple aim controller (Calling [] [])
      (do
        call (.note .called)
        let reqData ← call .newReqData
        let result ← smppSend data seqNum reqData
        return ClientLabel.returned data reqData result requests)
      (Entry aim controller) := by
  refine called_triple.bind fun _ => newReqData_triple.bind fun reqData =>
    (smppSend_triple data seqNum).bind fun result => ?_
  exact .returns (entry_stable controller
    (.returned data reqData result requests))
    fun _ _ ⟨⟨calling, _⟩, outcome⟩ => ⟨isInt, calling, seqNum, outcome⟩

/-- One call of the client. -/
theorem perform_triple
    {lib : Smpp34}
    (faithful : aim = .agreement → lib.Faithful)
    (conf : SConf)
    (request : Request)
    (requests : List Request) :
    ExchangeTriple aim controller (Calling [] [])
      (request.perform conf lib requests) (Entry aim controller) := by
  have next : ExchangeTriple aim controller (Calling [] [])
      (.ret (.next requests)) (Entry aim controller) :=
    .returns (entry_stable controller (.next requests))
      fun _ _ calling => calling
  cases request with
  | tcpConnect => exact tcpConnect_triple.bind fun _ => next
  | tcpDisconn => exact tcpDisconn_triple.bind fun _ => next
  | smppConnect =>
      exact (noted_triple (smppConnect_triple faithful conf)).bind
        fun _ => next
  | smppDisconn =>
      exact (noted_triple (smppDisconn_triple faithful)).bind fun _ => next
  | smppEnqLink =>
      exact (noted_triple (smppEnqLink_triple faithful)).bind fun _ => next
  | smppSend data seqNum isInt =>
      exact perform_smppSend_triple seqNum isInt requests

/-- The object of `sms112_smpp_send` is deleted. -/
theorem deleteSent_triple
    (data : Octets)
    (reqData : ReqPtr)
    (result : Int) :
    ExchangeTriple aim controller (Sent aim data reqData result)
      (call (.deleteReqData reqData)) fun _ => Calling [] [] := by
  refine .call (sent_stable data reqData result)
    (fun _ => calling_stable) ?_
  intro state choice inv sent _
  obtain ⟨keeps, later, -⟩ := watched_deleteReqData inv sent.calling choice
  exact ⟨keeps, later⟩

theorem clientCode_triple
    {lib : Smpp34}
    (faithful : aim = .agreement → lib.Faithful)
    (conf : SConf)
    (thread : Thread)
    (label : ClientLabel) :
    ExchangeTriple aim thread (Entry aim thread label)
      (clientCode conf lib thread label) (Entry aim thread) := by
  unfold clientCode
  split
  · exact .returns (entry_stable controller (.next []))
      fun _ _ calling => calling
  · exact perform_triple faithful conf _ _
  · exact (deleteSent_triple _ _ _).bind fun _ =>
      .returns (entry_stable controller (.next _)) fun _ _ calling => calling
  · exact (msgReceiver_triple conf lib).bind fun label =>
      .returns (entry_stable .receiver (.thread label))
        fun _ _ nothing => nothing
  · exact (mild_triple environment_mild (.const True)).bind fun label =>
      .returns (entry_stable .environment (.thread label))
        fun _ _ _ => trivial
  next unfinished unrequested unreturned _ _ =>
    refine .returns (entry_stable thread (.thread .stopped))
      fun state _ entry => ?_
    match thread, label with
    | .requester 0, .next [] => exact (unfinished rfl rfl).elim
    | .requester 0, .next (_ :: _) => exact (unrequested _ _ rfl rfl).elim
    | .requester 0, .returned .. => exact (unreturned _ _ _ _ rfl rfl).elim
    | .requester 0, .thread _ => exact entry
    | .requester (_ + 1), _ => trivial
    | .receiver, _ => exact entry
    | .environment, _ => trivial

/-! ## Every run -/

theorem clientStart_inv (requests : List Request) :
    ExchangeInv aim (clientStart requests).state where
  objects := ⟨nofun, List.nodup_nil, nofun, nofun, Nat.zero_le _, nofun⟩
  numbered := nofun
  settled := nofun
  guarded := nofun
  good _ := .nil GoodCall

/-- Every run in which requests take their turns keeps the invariant, and
every thread is where its program is safe. -/
theorem client_sound
    {lib : Smpp34}
    (faithful : aim = .agreement → lib.Faithful)
    (conf : SConf)
    (requests : List Request)
    {config : Config Res Thread State ClientLabel}
    (reach : (client conf lib).Reach (InTurn aim) (clientStart requests)
      config) :
    ExchangeInv aim config.state ∧ ∀ thread,
      (exchangeProtocol aim).Safe watched (InTurn aim) thread (Entry aim thread)
        (config.control thread) config.state := by
  refine Protocol.sound (clientCode_triple faithful conf)
    (clientStart_inv requests) (fun thread => ?_) reach
  have starts (label : ClientLabel)
      (holds : Entry aim thread label (clientStart requests).state) :
      (exchangeProtocol aim).Safe watched (InTurn aim) thread
        (Entry aim thread) (.ret label) (clientStart requests).state :=
    Protocol.Triple.ret (Entry aim thread) label (entry_stable thread label)
      _ (clientStart_inv requests) holds
  match thread with
  | .requester 0 => exact starts (.next requests) ⟨rfl, rfl⟩
  | .requester (number + 1) => exact starts (.thread .stopped) trivial
  | .receiver => exact starts (.thread .receive) rfl
  | .environment => exact starts (.thread .environment) trivial

end Exchange

end Sms112
