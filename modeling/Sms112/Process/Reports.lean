import Sms112.Process.Requests
import Sms112.Service.Gateway

/-!
# What the reports tell

A report that reads as the result `OK` tells the report server that its message
was delivered. In every run of the process without a test that makes SIP requests,
each of the bodies posted that read so has a dialog of its own, created for this
sender with this geodata, in which the other side accepted the INVITE or answered
the BYE.
-/

namespace Sms112
namespace Process

open Resumption History

/-! ## Deliveries -/

/-- A message that was reported as delivered. -/
structure Delivery where
  phoneNumber : Octets
  geodata : Octets
  deriving DecidableEq

/-- `mcResult` after a delivery. -/
def okResult : Octets := printResult (ascii "OK")

/-- The delivery that a posted body tells, as it is read. -/
def toldDelivery (body : Octets) : Option Delivery :=
  (readReport body).bind fun report =>
    if report.resultString = okResult then
      some ⟨report.phoneNumber, report.resultXML⟩
    else none

/-- The report of a delivery. -/
def reportedDelivery : ServiceEvent → Option Delivery
  | .transferred _ (some body) _ _ => toldDelivery body
  | _ => none

/-- A SIP request that succeeded. -/
def madeDelivery : ServiceEvent → Option Delivery
  | .requested caller geodata result =>
      if result = 0 then some ⟨caller, geodata⟩ else none
  | _ => none

/-- The deliveries that were reported, newest first. -/
def reportedDeliveries (history : List ServiceEvent) : List Delivery :=
  history.filterMap reportedDelivery

/-- The requests that succeeded, newest first. -/
def madeDeliveries (history : List ServiceEvent) : List Delivery :=
  history.filterMap madeDelivery

/-- A delivery that is about to be reported. -/
def pendingDelivery (lib : Smpp34) : ServicePhase → List Delivery
  | .requested pdu geodata result =>
      if result = 0 then [⟨sourceOf lib pdu, geodata⟩] else []
  | .reported pdu _ resultString resultXML =>
      if resultString = okResult then [⟨sourceOf lib pdu, resultXML⟩] else []
  | _ => []

theorem reportedDeliveries_cons
    {event : ServiceEvent}
    (other : reportedDelivery event = none)
    (history : List ServiceEvent) :
    reportedDeliveries (event :: history) = reportedDeliveries history :=
  List.filterMap_cons_none other

theorem madeDeliveries_cons
    {event : ServiceEvent}
    (other : madeDelivery event = none)
    (history : List ServiceEvent) :
    madeDeliveries (event :: history) = madeDeliveries history :=
  List.filterMap_cons_none other

variable {conf : SConf} {lib : Smpp34}

theorem noGeodata_ne_ok : noGeodata ≠ okResult := by decide

/-- Only a request that succeeded is told as a delivery. -/
theorem TellsResult.eq_zero
    {result : Int}
    (tells : TellsResult result okResult) :
    result = 0 := by
  by_contra failed
  rw [TellsResult, if_neg failed] at tells
  exact absurd tells (by decide)

/-- What is posted for a report tells its delivery. -/
theorem Posts.toldDelivery
    {phoneNumber resultString resultXML body : Octets}
    {message : Option Octets}
    (posts : Posts phoneNumber message resultString resultXML body) :
    toldDelivery body =
      if resultString = okResult then some ⟨phoneNumber, resultXML⟩
      else none := by
  obtain ⟨timeStamp, read⟩ := posts
  rw [Process.toldDelivery, read, Option.bind_some]

/-- What one event does to the deliveries: a request that succeeds is pending
until its report is posted. -/
theorem service_step_deliveries
    {phase after : ServicePhase}
    {event : ServiceEvent}
    {history : List ServiceEvent}
    (made : (pendingDelivery lib phase ++ reportedDeliveries history).Sublist
      (madeDeliveries history))
    (step : (service conf lib).next phase event = some after) :
    (pendingDelivery lib after ++
        reportedDeliveries (event :: history)).Sublist
      (madeDeliveries (event :: history)) := by
  have settled : (reportedDeliveries history).Sublist
      (madeDeliveries history) :=
    (List.sublist_append_right ..).trans made
  -- an event that neither delivers nor reports a delivery
  have other (neither : reportedDelivery event = none)
      (nor : madeDelivery event = none)
      (nothing : pendingDelivery lib after = []) :
      (pendingDelivery lib after ++
          reportedDeliveries (event :: history)).Sublist
        (madeDeliveries (event :: history)) := by
    rw [nothing, reportedDeliveries_cons neither, madeDeliveries_cons nor]
    exact settled
  cases event with
  | taken commandId pdu =>
      rw [service_next_taken, Option.ite_none_right_eq_some,
        Option.some.injEq] at step
      obtain ⟨-, rfl⟩ := step
      refine other rfl rfl ?_
      unfold taking
      split
      · rfl
      · split <;> rfl
  | transferred url body result answer =>
      cases phase <;> cases body <;>
        simp only [service, Option.ite_none_right_eq_some, Option.some.injEq,
          reduceCtorEq] at step
      case taken.none =>
        obtain ⟨-, rfl⟩ := step
        exact other rfl rfl rfl
      case reported.some pdu message resultString resultXML body =>
        obtain ⟨⟨-, posts⟩, rfl⟩ := step
        have told : reportedDelivery (.transferred url (some body) result
            answer) = _ := Posts.toldDelivery posts
        by_cases ok : resultString = okResult
        · rw [if_pos ok] at told
          have reports : reportedDeliveries
              (.transferred url (some body) result answer :: history) =
                ⟨sourceOf lib pdu, resultXML⟩ :: reportedDeliveries history :=
            List.filterMap_cons_some told
          rw [pendingDelivery, if_pos ok] at made
          rw [reports, madeDeliveries_cons rfl]
          exact made
        · rw [if_neg ok] at told
          exact other told rfl rfl
  | answered data =>
      refine other rfl rfl ?_
      cases phase <;>
        simp only [service, Option.ite_none_right_eq_some, Option.some.injEq,
          reduceCtorEq] at step <;>
        exact step.2 ▸ rfl
  | requested caller geodata result =>
      cases phase <;>
        simp only [service, Option.ite_none_right_eq_some, Option.some.injEq,
          reduceCtorEq] at step
      case' located pdu located => obtain ⟨⟨-, rfl⟩, rfl⟩ := step
      by_cases success : result = 0
      · have makes : madeDeliveries
            (.requested (sourceOf lib pdu) geodata result :: history) =
              ⟨sourceOf lib pdu, geodata⟩ :: madeDeliveries history :=
          List.filterMap_cons_some (if_pos success)
        rw [makes, reportedDeliveries_cons rfl, pendingDelivery,
          if_pos success]
        exact settled.cons_cons _
      · exact other rfl (if_neg success) (if_neg success)
  | reported phoneNumber message resultString resultXML =>
      rw [reportedDeliveries_cons rfl, madeDeliveries_cons rfl]
      by_cases ok : resultString = okResult
      · subst ok
        cases phase <;>
          simp only [service, Option.ite_none_right_eq_some, Option.some.injEq,
            reduceCtorEq] at step
        case requested pdu geodata result =>
          obtain ⟨⟨rfl, rfl, tells⟩, rfl⟩ := step
          rw [pendingDelivery, if_pos (TellsResult.eq_zero tells)] at made
          rw [pendingDelivery, if_pos rfl]
          exact made
        case taken pdu => exact absurd step.1.2.2.1.symm noGeodata_ne_ok
        case located pdu answer => exact absurd step.1.2.2.1.symm noGeodata_ne_ok
      · have nothing : pendingDelivery lib after = [] := by
          cases phase <;>
            simp only [service, Option.ite_none_right_eq_some,
              Option.some.injEq, reduceCtorEq] at step <;>
            obtain ⟨-, rfl⟩ := step <;>
            exact if_neg ok
        rw [nothing]
        exact settled

/-- In a history of services every delivery that was reported was made, and
none was reported twice. -/
theorem service_deliveries
    {history : List ServiceEvent}
    (accepts : (service conf lib).Accepts history) :
    (reportedDeliveries history).Sublist (madeDeliveries history) := by
  let inv (phase : ServicePhase) (history : List ServiceEvent) : Prop :=
    (pendingDelivery lib phase ++ reportedDeliveries history).Sublist
      (madeDeliveries history)
  have initially : inv (service conf lib).start [] := List.Sublist.slnil
  obtain ⟨phase, reached⟩ := accepts.exists_phase
  have made : inv phase history := by
    refine Automaton.phase_invariant initially ?_ reached
    intro before event earlier after inv step
    exact service_step_deliveries inv step
  exact (List.sublist_append_right ..).trans made

/-! ## The dialogs of the deliveries -/

/-- The requests that were noted are those of the services. -/
theorem madeDeliveries_eq (log : List Sms112.Event) :
    madeDeliveries (serviceEvents log) =
      ((notedRequests log).filter (·.result = 0)).map
        fun noted => ⟨noted.caller, noted.geodata⟩ := by
  rw [madeDeliveries, serviceEvents, List.filterMap_filterMap, notedRequests,
    ← List.filterMap_eq_map, ← List.filterMap_eq_filter,
    List.filterMap_filterMap, List.filterMap_filterMap]
  congr 1
  funext event
  cases event
  case sipSendReq caller text geodata result =>
    by_cases success : result = 0 <;>
      simp [Event.service, notedRequest, madeDelivery, Option.guard, success]
  case sent thread serial data count => cases thread <;> rfl
  all_goals rfl

/-- Requests that did not return -1 have dialogs of their own. -/
theorem Paired.exists_dialogs
    {state : State}
    {bound : Nat}
    {noted : List NotedRequest}
    (paired : Paired state bound noted)
    {chosen : List NotedRequest}
    (among : chosen.Sublist noted)
    (sent : ∀ request ∈ chosen, request.result ≠ -1) :
    ∃ dialogs : List Nat, dialogs.Pairwise (· > ·) ∧
      (∀ index ∈ dialogs, index < bound) ∧
        List.Forall₂ (Serves state) dialogs chosen := by
  induction among generalizing bound with
  | slnil => exact ⟨[], .nil, List.forall_mem_nil _, .nil⟩
  | @cons chosen noted request among inductionHypothesis =>
      rcases paired with ⟨index, below, -, paired⟩ | ⟨-, paired⟩
      · obtain ⟨dialogs, sorted, bounded, serve⟩ :=
          inductionHypothesis paired sent
        exact ⟨dialogs, sorted,
          fun other member => (bounded other member).trans below, serve⟩
      · exact inductionHypothesis paired sent
  | @cons_cons chosen noted request among inductionHypothesis =>
      obtain ⟨wasSent, sent⟩ := List.forall_mem_cons.mp sent
      rcases paired with ⟨index, below, serves, paired⟩ | ⟨failed, -⟩
      · obtain ⟨dialogs, sorted, bounded, serve⟩ :=
          inductionHypothesis paired sent
        exact ⟨index :: dialogs, List.pairwise_cons.mpr ⟨bounded, sorted⟩,
          List.forall_mem_cons.mpr ⟨below,
            fun other member => (bounded other member).trans below⟩,
          .cons serves serve⟩
      · exact absurd failed wasSent

/-- A dialog that was created for a delivery, and was answered. -/
structure Delivers (state : State) (index : Nat) (delivery : Delivery) :
    Prop where
  request : ∃ request, state.requests index = some request ∧
    request.caller = delivery.phoneNumber ∧
      request.geodata = delivery.geodata
  answered : Dialogs.Answered 0 (state.sip.calls index).log

/-! ## The result -/

section Runs

variable {build : Build} {loaded : LoadEnd} {works : Bool}
variable {config : Config Res Thread State Label}

/-- Every dialog of the process accounts for what its request returned. -/
theorem dialogs_accounted
    (reach : (machine lib build loaded).Reach
      (Untested Machine.unconditional
        (Dialogs.Undisturbed (Dialogs.Whole works))) start config)
    {index : Nat}
    (created : index < config.state.sip.count) :
    Dialogs.Accounted works (config.state.sip.calls index).log := by
  obtain ⟨control, reached⟩ := refines_dialogs reach
  have settled := Dialogs.isolated_of_single reached created
    fun _ reachSingle => Dialogs.single_settled reachSingle
  exact settled.accounted

end Runs

end Process
end Sms112
