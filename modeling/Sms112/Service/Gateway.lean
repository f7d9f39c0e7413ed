import Sms112.Handler.Outcome
import Sms112.Service.Handling

/-!
# The services of the gateway

In every run of the gateway, whatever the server, the network and the ping
thread do, what is done for the PDUs follows the order of a service. So every
response that is sent answers the PDU taken up last, once.
-/

namespace Sms112

open Resumption History

/-! ## Runs -/

theorem exec_requesting_service
    {operation : Op}
    (requesting : operation.isRequesting)
    (choice : Choice)
    (state : State) :
    serviceEvents (exec controller operation choice state).2.log =
      serviceEvents state.log := by
  by_cases sends : operation.isSend
  · cases operation
    case send data =>
      dsimp only [exec]
      rcases state.send_cases controller choice data with
        ⟨serial, -, -, accepted⟩ | failed
      · rw [accepted]
        rfl
      · rw [failed]
    all_goals cases sends
  · refine serviceEvents_exec controller ?_ choice state
    cases operation
    case send data => exact absurd rfl sends
    case note event => cases event <;> first | rfl | cases requesting
    all_goals first | rfl | cases requesting

theorem gateway_serviceInv
    (conf : SConf)
    (lib : Smpp34)
    (faithful : lib.Faithful)
    {config : Config Res Thread State Label}
    (reach : (gateway conf lib).Reach Machine.unconditional gatewayStart
      config) :
    (service conf lib).Accepts (serviceEvents config.state.log) := by
  have apart {thread : Thread} {before after : State}
      (inv : (serviceProtocol conf lib).inv before)
      (same : serviceEvents after.log = serviceEvents before.log) :
      (serviceProtocol conf lib).Keeps thread before after := by
    refine ⟨?_, fun _ _ _ => same⟩
    show (service conf lib).Accepts (serviceEvents after.log)
    rw [same]
    exact inv
  have calls : CallsKeep conf lib Machine.unconditional
      (serviceProtocol conf lib) :=
    .of_steps fun operation choice state requesting inv _ =>
      apart inv (exec_requesting_service requesting choice state)
  have arrives : (serviceProtocol conf lib).Triple exec Machine.unconditional
      .environment (fun _ => True) environment fun _ _ => True := by
    have silent : environment.Uses fun operation => operation.isSilent :=
      environment_uses rfl rfl rfl
    refine Protocol.Triple.uses silent (.const True) ?_
    intro operation state choice silent inv _ _
    exact ⟨apart inv (serviceEvents_exec .environment silent choice state),
      trivial⟩
  have initially : AtService conf lib (Concluded lib) gatewayStart.state :=
    ⟨.done, rfl, trivial⟩
  exact calls.sound atService_stable (msgReceiver_service conf faithful)
    arrives rfl initially reach

/-- Every step succeeds, and the geodata server knows the caller. -/
def geodataKnown (operation : Op) : Choice :=
  { allSucceeds operation with chunks := [ascii "<presence></presence>"] }

/-- The gateway has bound, and a message is delivered, reported and answered. -/
def messageServed : List (Thread × (Op → Choice)) :=
  started ++ arrival 0 plainDeliverSm ++
    List.replicate 45 (.receiver, geodataKnown)

/-- What is done for a PDU between its being taken up and its response. -/
def ServiceEvent.isBetween : ServiceEvent → Bool
  | .taken .. | .answered _ => false
  | _ => true

/-- The command and the PDU that a phase is about. -/
def ServicePhase.request : ServicePhase → Option (Nat × Octets)
  | .done => none
  | .taken pdu | .located pdu _ | .requested pdu _ _ | .reported pdu ..
  | .posted pdu => some (DELIVER_SM, pdu)
  | .unbinding pdu => some (UNBIND, pdu)

theorem taking_request
    {commandId : Nat}
    {pdu : Octets}
    {request : Nat × Octets}
    (isAbout : (taking commandId pdu).request = some request) :
    request = (commandId, pdu) := by
  unfold taking at isAbout
  split at isAbout
  next deliverSm => exact deliverSm ▸ (Option.some.inj isAbout).symm
  next =>
    split at isAbout
    next unbind => exact unbind ▸ (Option.some.inj isAbout).symm
    next => exact nomatch isAbout

/-- The response is that of the command, with the number of the PDU. -/
def IsResponseTo (request : Nat × Octets) (data : Octets) : Prop :=
  request.1 = DELIVER_SM ∧ Replies DELIVER_SM_RESP request.2 data ∨
    request.1 = UNBIND ∧ Replies UNBIND_RESP request.2 data

/-- A PDU is taken up, or something is done for the one that was, or that one
is answered. -/
theorem service_next_cases
    {conf : SConf}
    {lib : Smpp34}
    {phase after : ServicePhase}
    {event : ServiceEvent}
    (step : (service conf lib).next phase event = some after) :
    (∃ commandId pdu, event = .taken commandId pdu ∧
        after = taking commandId pdu) ∨
      (event.isBetween ∧ after.request = phase.request) ∨
      ∃ request data, event = .answered data ∧
        phase.request = some request ∧ after = .done ∧
          IsResponseTo request data := by
  cases event with
  | taken commandId pdu =>
      rw [service_next_taken, Option.ite_none_right_eq_some,
        Option.some.injEq] at step
      exact .inl ⟨commandId, pdu, rfl, step.2.symm⟩
  | transferred url body result answer =>
      refine .inr (.inl ⟨rfl, ?_⟩)
      cases phase <;> cases body <;>
        simp only [service, Option.ite_none_right_eq_some,
          Option.some.injEq, reduceCtorEq] at step <;>
        exact step.2 ▸ rfl
  | requested caller geodata result =>
      refine .inr (.inl ⟨rfl, ?_⟩)
      cases phase <;>
        simp only [service, Option.ite_none_right_eq_some,
          Option.some.injEq, reduceCtorEq] at step
      exact step.2 ▸ rfl
  | reported phoneNumber message resultString resultXML =>
      refine .inr (.inl ⟨rfl, ?_⟩)
      cases phase <;>
        simp only [service, Option.ite_none_right_eq_some,
          Option.some.injEq, reduceCtorEq] at step <;>
        exact step.2 ▸ rfl
  | answered data =>
      right; right
      cases phase <;>
        simp only [service, Option.ite_none_right_eq_some,
          Option.some.injEq, reduceCtorEq] at step <;>
        obtain ⟨answers, rfl⟩ := step
      · exact ⟨_, data, rfl, rfl, rfl, .inl ⟨rfl, answers⟩⟩
      · exact ⟨_, data, rfl, rfl, rfl, .inl ⟨rfl, answers⟩⟩
      · exact ⟨_, data, rfl, rfl, rfl, .inr ⟨rfl, answers.2⟩⟩

/-- The phase is about the PDU taken up last, which was not answered since. -/
theorem service_phase_request
    {conf : SConf}
    {lib : Smpp34}
    {history : List ServiceEvent}
    {current : ServicePhase}
    (reached : (service conf lib).phase history = some current) :
    ∀ request, current.request = some request → ∃ since before,
      history = since ++ .taken request.1 request.2 :: before ∧
        ∀ event ∈ since, event.isBetween := by
  let about (phase : ServicePhase) (history : List ServiceEvent) : Prop :=
    ∀ request, phase.request = some request → ∃ since before,
      history = since ++ .taken request.1 request.2 :: before ∧
        ∀ event ∈ since, event.isBetween
  have initially : about (service conf lib).start [] := nofun
  refine Automaton.phase_invariant initially ?_ reached
  intro phase event earlier after inv step request isAbout
  rcases service_next_cases step with
    ⟨commandId, pdu, rfl, rfl⟩ | ⟨between, same⟩ | ⟨-, -, -, -, rfl, -⟩
  · obtain rfl := taking_request isAbout
    exact ⟨[], earlier, rfl, List.forall_mem_nil _⟩
  · obtain ⟨since, before, rfl, steps⟩ := inv request (same ▸ isAbout)
    exact ⟨event :: since, before, rfl,
      List.forall_mem_cons.mpr ⟨between, steps⟩⟩
  · exact nomatch isAbout

/-- In every history of services, a response is that of the PDU taken up last
before it, and between the two nothing was answered. -/
theorem service_answers
    {conf : SConf}
    {lib : Smpp34}
    {newer earlier : List ServiceEvent}
    {data : Octets}
    (accepts : (service conf lib).Accepts
      (newer ++ .answered data :: earlier)) :
    ∃ request since before,
      earlier = since ++ .taken request.1 request.2 :: before ∧
        (∀ event ∈ since, event.isBetween) ∧ IsResponseTo request data := by
  obtain ⟨phase, reached, allowed⟩ := accepts.older.of_cons
  obtain ⟨after, step⟩ := Option.isSome_iff_exists.mp allowed
  rcases service_next_cases step with
    ⟨-, -, ⟨⟩, -⟩ | ⟨⟨⟩, -⟩ | ⟨request, _, ⟨⟩, isAbout, -, answers⟩
  obtain ⟨since, before, split, between⟩ :=
    service_phase_request reached request isAbout
  exact ⟨request, since, before, split, between, answers⟩

/-- In every run of the gateway, a response answers the PDU taken up last, and
it is the only one that does. -/
theorem gateway_answers
    (conf : SConf)
    (lib : Smpp34)
    (faithful : lib.Faithful)
    {config : Config Res Thread State Label}
    (reach : (gateway conf lib).Reach Machine.unconditional gatewayStart
      config)
    {newer earlier : List ServiceEvent}
    {data : Octets}
    (sent : serviceEvents config.state.log =
      newer ++ .answered data :: earlier) :
    ∃ request since before,
      earlier = since ++ .taken request.1 request.2 :: before ∧
        (∀ event ∈ since, event.isBetween) ∧ IsResponseTo request data := by
  have accepts := gateway_serviceInv conf lib faithful reach
  rw [sent] at accepts
  exact service_answers accepts

end Sms112
