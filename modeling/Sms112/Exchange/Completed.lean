import Sms112.Exchange.Runs

/-!
# Completed exchanges

`sms112_smpp_send` returns 0 although the response could not be received: the
receiver wakes the request all the same, and a request that is woken with
nothing in its object has not failed. In the runs in which every response taken
up is received whole, a call that returns 0 was completed.
-/

namespace Sms112

open Resumption History

/-- In the current call the request was sent to its end, and a response was
received whole into the object. -/
structure Completed (data : Octets) (reqData : ReqPtr) (state : State) :
    Prop where
  sent : ∃ serial,
    .sent controller serial data data.length ∈ calls.current state.log
  response : ∃ object serial header response,
    state.request reqData = some object ∧
      ReceivedInto object serial header response state

/-- The request and the object of a call that has returned 0. -/
def ClientLabel.succeeded : ClientLabel → Option (Octets × ReqPtr)
  | .returned data reqData 0 _ => some (data, reqData)
  | _ => none

/-- The call of `sms112_smpp_send` that has just returned 0. -/
def sendSucceeded (config : Config Res Thread State ClientLabel) :
    Option (Octets × ReqPtr) :=
  match config.control controller with
  | .ret label => label.succeeded
  | .perform .. => none

/-- A call of `sms112_smpp_send` that returns 0 was completed. -/
def SendCompleted (config : Config Res Thread State ClientLabel) : Prop :=
  ∀ data reqData, sendSucceeded config = some (data, reqData) →
    Completed data reqData config.state

theorem ClientLabel.of_succeeded
    {label : ClientLabel}
    {data : Octets}
    {reqData : ReqPtr}
    (success : label.succeeded = some (data, reqData)) :
    ∃ requests, label = .returned data reqData 0 requests := by
  unfold ClientLabel.succeeded at success
  split at success
  next requests =>
    obtain ⟨rfl, rfl⟩ := Prod.mk.inj (Option.some.inj success)
    exact ⟨requests, rfl⟩
  next => cases success

theorem control_of_sendSucceeded
    {config : Config Res Thread State ClientLabel}
    {data : Octets}
    {reqData : ReqPtr}
    (success : sendSucceeded config = some (data, reqData)) :
    ∃ requests,
      config.control controller = .ret (.returned data reqData 0 requests) := by
  unfold sendSucceeded at success
  split at success
  next label returned =>
    obtain ⟨requests, rfl⟩ := ClientLabel.of_succeeded success
    exact ⟨requests, returned⟩
  next => cases success

/-- Nothing is filled in any more when a call has returned, and the object is
settled. -/
theorem Exchange.Sent.completed
    {data : Octets}
    {reqData : ReqPtr}
    {state : State}
    (sent : Sent .completion data reqData 0 state)
    (inv : ExchangeInv .completion state) :
    Completed data reqData state := by
  obtain ⟨isInt, calling, seqNum, outcome⟩ := sent
  obtain ⟨serial, accepted, -, isSent, whole⟩ := (outcome.sent rfl).1 isInt
  obtain rfl := whole rfl
  obtain ⟨object, found, nonzero⟩ := outcome.filled rfl rfl
  have released : object.owner ∉ state.held := by
    rw [inv.objects.held_eq_nil calling.sending]
    exact List.not_mem_nil
  refine ⟨⟨serial, isSent⟩, ?_⟩
  rcases inv.settled reqData.addr object found released with
    vacant | ⟨socket, header, response, delivered, -⟩
  · exact absurd vacant.empty nonzero
  · exact ⟨object, socket, header, response, found, delivered⟩

/-- In every run in which no response is taken up for a request that has
returned, no request returns while its response is filled in, every response is
received whole into a buffer, and a `send` that does not take all octets leaves
an error, a call of `sms112_smpp_send` that returns 0 was completed. -/
theorem client_sendCompleted
    (conf : SConf)
    (lib : Smpp34)
    (requests : List Request)
    {config : Config Res Thread State ClientLabel}
    (reach : (client conf lib).Reach (InTurn .completion)
      (clientStart requests) config) :
    SendCompleted config := by
  intro data reqData success
  have faithful : Aim.completion = .agreement → lib.Faithful := nofun
  obtain ⟨inv, safe⟩ := Exchange.client_sound faithful conf requests reach
  obtain ⟨rest, returned⟩ := control_of_sendSucceeded success
  have atReturn := safe controller
  rw [returned] at atReturn
  have sent : Exchange.Sent .completion data reqData 0 config.state :=
    atReturn _ ((exchangeProtocol .completion).rely_refl _ _) inv
  exact sent.completed inv

/-! ## A response that cannot be received -/

/-- An `ENQUIRE_LINK` of the client. -/
def linkRequest : Octets :=
  ReferenceCodec.packed (headerPdu ENQUIRE_LINK 1)

/-- The response to it. -/
def linkResponse : Octets :=
  ReferenceCodec.packed (headerPdu ENQUIRE_LINK_RESP 1)

/-- The client connects and calls `sms112_smpp_send`. -/
def linkChecked : Config Res Thread State ClientLabel :=
  clientStart [.tcpConnect, .smppSend linkRequest 1 (by decide)]

/-- The request is sent, its response arrives, and the receiver takes it up. -/
def linkAnswered : List (Thread × (Op → Choice)) :=
  steps controller 15 ++ arrival 0 linkResponse ++ steps .receiver 11

/-- The response is received, and the call returns 0. -/
theorem linkAnswered_sendCompleted :
    let config := (client {} referenceCodec).run
      (linkAnswered ++ steps .receiver 4 ++ steps controller 3) linkChecked
    sendSucceeded config = some (linkRequest, ⟨0, 0⟩) ∧
      SendCompleted config :=
  ⟨by decide +kernel,
    client_sendCompleted {} referenceCodec _
      (.run .start _ (by decide +kernel))⟩

/-- The response cannot be received, and the call returns 0 as well. -/
theorem linkAnswered_notCompleted :
    ∃ requests config,
      (client {} referenceCodec).Reach Machine.unconditional
        (clientStart requests) config ∧
      ¬SendCompleted config := by
  let schedule := linkAnswered ++ stepWith .receiver { ret := -1 } ++
    steps .receiver 2 ++ steps controller 3
  refine ⟨_, (client {} referenceCodec).run schedule linkChecked,
    .run .start schedule (Machine.admits_unconditional schedule _), ?_⟩
  have success : sendSucceeded ((client {} referenceCodec).run schedule
      linkChecked) = some (linkRequest, ⟨0, 0⟩) := by
    decide +kernel
  have empty : (((client {} referenceCodec).run schedule
      linkChecked).state.request ⟨0, 0⟩).map SReqData.dataLen = some 0 := by
    decide +kernel
  intro completed
  obtain ⟨-, object, serial, header, response, found, delivered⟩ :=
    completed linkRequest ⟨0, 0⟩ success
  rw [found] at empty
  exact delivered.nonzero (Option.some.inj empty)

end Sms112
