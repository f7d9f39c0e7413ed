import Sms112.Connection.Runs
import Sms112.Geodata.Extraction
import Sms112.History.Automaton
import Sms112.Report.Posted

/-!
# What is done for a PDU

The receiver takes up one PDU after the other. For a message it looks up the
geodata of its source, sends a SIP request if that found any, reports the result
and answers; an unbinding it only answers. An automaton says in which order and
with which data this may come, and when the next PDU may be taken up; every step
of the receiver keeps to it.
-/

namespace Sms112

open Resumption History
open Search (Encloses)

variable {α : Type}

/-! ## Services -/

/-- What the receiver does with the PDUs it takes up. -/
inductive ServiceEvent
  | taken (commandId : Nat) (pdu : Octets)
  | transferred (url : Octets) (body : Option Octets) (result : Int)
      (answer : Octets)
  | requested (caller geodata : Octets) (result : Int)
  | reported (phoneNumber : Octets) (message : Option Octets)
      (resultString resultXML : Octets)
  | answered (data : Octets)
  deriving DecidableEq

/-- What an event tells about the service of a PDU. Nobody but the receiver
makes HTTP requests. -/
def Event.service : Event → Option ServiceEvent
  | .handed commandId pdu => some (.taken commandId pdu)
  | .curl url body result answer =>
      some (.transferred url body result answer)
  | .sipSendReq caller _ geodata result =>
      some (.requested caller geodata result)
  | .sendReport phoneNumber message resultString resultXML =>
      some (.reported phoneNumber message resultString resultXML)
  | .sent .receiver _ data _ => some (.answered data)
  | _ => none

/-- What was done for the PDUs, newest first. -/
def serviceEvents (log : List Event) : List ServiceEvent :=
  log.filterMap Event.service

/-- How far the service of the PDU taken last has come. -/
inductive ServicePhase
  | done
  /-- a message was taken up -/
  | taken (pdu : Octets)
  /-- its look-up ended, with an answer if it succeeded -/
  | located (pdu : Octets) (answer : Option Octets)
  | requested (pdu geodata : Octets) (result : Int)
  | reported (pdu : Octets) (message : Option Octets)
      (resultString resultXML : Octets)
  | posted (pdu : Octets)
  /-- an unbinding was taken up -/
  | unbinding (pdu : Octets)
  deriving DecidableEq

/-- The phase that a PDU's command leads to: responses are only passed on, and
other requests are left alone. -/
def taking (commandId : Nat) (pdu : Octets) : ServicePhase :=
  if commandId = DELIVER_SM then .taken pdu
  else if commandId = UNBIND then .unbinding pdu
  else .done

/-- `mcResult` when the geodata was not found. -/
def noGeodata : Octets :=
  printResult (ascii "Error: can not to retrieve geodata")

/-- A result text says how the SIP request ended. -/
def TellsResult (result : Int) (resultString : Octets) : Prop :=
  if result = 0 then resultString = printResult (ascii "OK")
  else ascii "Error: sip request failed: " <+: resultString

instance (result : Int) (resultString : Octets) :
    Decidable (TellsResult result resultString) :=
  inferInstanceAs (Decidable (if result = 0 then _ else _))

/-- The geodata, as a C string, that the marks of an answer enclose. -/
def Finds (answer : Option Octets) (geodata : Octets) : Prop :=
  ∃ received ∈ answer, ∃ found,
    Encloses openingTag closingTag received found ∧ geodata = cString found

/-- The geodata found are those that `geodata_get` copies out of the answer, as
a C string. -/
theorem finds_iff (answer : Option Octets) (geodata : Octets) :
    Finds answer geodata ↔
      (answer.bind extractGeodata).map cString = some geodata := by
  simp only [Finds, ← extractGeodata_eq_some_iff, Option.map_eq_some_iff,
    Option.bind_eq_some_iff, Option.mem_def]
  constructor
  · rintro ⟨received, answered, found, extracted, rfl⟩
    exact ⟨found, ⟨received, answered, extracted⟩, rfl⟩
  · rintro ⟨found, ⟨received, answered, extracted⟩, rfl⟩
    exact ⟨received, answered, found, extracted, rfl⟩

instance (answer : Option Octets) (geodata : Octets) :
    Decidable (Finds answer geodata) :=
  decidable_of_iff' _ (finds_iff answer geodata)

/-- An answer holds no geodata. -/
def FindsNothing (answer : Option Octets) : Prop :=
  ¬∃ geodata, Finds answer geodata

/-- Nothing is found exactly where it copies nothing. -/
theorem findsNothing_iff (answer : Option Octets) :
    FindsNothing answer ↔ answer.bind extractGeodata = none := by
  simp only [FindsNothing, finds_iff]
  cases answer.bind extractGeodata <;> simp

instance (answer : Option Octets) : Decidable (FindsNothing answer) :=
  decidable_of_iff' _ (findsNothing_iff answer)

section Service

variable (conf : SConf) (lib : Smpp34)

/-- A PDU can be unpacked. -/
abbrev Unpackable (pdu : Octets) : Prop :=
  (lib.unpack2 pdu).1 = 0

/-- The source address of a message. -/
abbrev sourceOf (pdu : Octets) : Octets :=
  (lib.unpack2 pdu).2.sourceAddr

/-- A response of a type carries the number of the PDU. -/
abbrev Replies (respId : Nat) (pdu data : Octets) : Prop :=
  word data 4 = respId ∧ word data 12 = word pdu 12

/-- The URL of a look-up is the configured template for the source address,
where the language says what the template prints. -/
def LooksUp (pdu url : Octets) : Prop :=
  ∀ text, Printf.Expands (sourceOf lib pdu) conf.geolocationURLTemplate text →
    url = text

/-- The URL of the look-up is the template expanded with the source address,
where the language says what that is. -/
theorem looksUp_iff (pdu url : Octets) :
    LooksUp conf lib pdu url ↔
      (Printf.expand conf.geolocationURLTemplate (sourceOf lib pdu)).all
        fun text => url = text := by
  simp only [LooksUp, ← Printf.expand_eq_some_iff, Option.all_eq_true,
    decide_eq_true_eq]

instance (pdu url : Octets) : Decidable (LooksUp conf lib pdu url) :=
  decidable_of_iff' _ (looksUp_iff conf lib pdu url)

/-- Nothing more need be done for a PDU: a message is given up only if it
cannot be unpacked or its coding is not supported, and a response that cannot
be packed or sent is given up. -/
def Concluded : ServicePhase → Prop
  | .taken pdu => ¬Accepted lib pdu
  | .located .. | .requested .. => False
  | .done | .reported .. | .posted _ | .unbinding _ => True

instance (phase : ServicePhase) : Decidable (Concluded lib phase) := by
  cases phase <;> unfold Concluded <;> infer_instance

/-- What may be done for a PDU. -/
def service : Automaton ServicePhase ServiceEvent where
  start := .done
  next
    | phase, .taken commandId pdu =>
        if Concluded lib phase then some (taking commandId pdu) else none
    | .taken pdu, .transferred url none result answer =>
        if Accepted lib pdu ∧ LooksUp conf lib pdu url then
          some (.located pdu (if result = 0 then some answer else none))
        else none
    | .located pdu answer, .requested caller geodata result =>
        if Finds answer geodata ∧ caller = sourceOf lib pdu then
          some (.requested pdu geodata result)
        else none
    -- no URL could be printed
    | .taken pdu, .reported phoneNumber message resultString resultXML =>
        if Accepted lib pdu ∧ phoneNumber = sourceOf lib pdu ∧
            resultString = noGeodata ∧ resultXML = [] then
          some (.reported pdu message resultString resultXML)
        else none
    | .located pdu answer,
        .reported phoneNumber message resultString resultXML =>
        if FindsNothing answer ∧ phoneNumber = sourceOf lib pdu ∧
            resultString = noGeodata ∧ resultXML = [] then
          some (.reported pdu message resultString resultXML)
        else none
    | .requested pdu geodata result,
        .reported phoneNumber message resultString resultXML =>
        if phoneNumber = sourceOf lib pdu ∧ resultXML = geodata ∧
            TellsResult result resultString then
          some (.reported pdu message resultString resultXML)
        else none
    | .reported pdu message resultString resultXML,
        .transferred url (some body) _ _ =>
        if url = conf.reportURL ∧ Posts (sourceOf lib pdu) message
            resultString resultXML body then
          some (.posted pdu)
        else none
    | .reported pdu .., .answered data | .posted pdu, .answered data =>
        if Replies DELIVER_SM_RESP pdu data then some .done else none
    | .unbinding pdu, .answered data =>
        if Unpackable lib pdu ∧ Replies UNBIND_RESP pdu data then some .done
        else none
    | _, _ => none

/-- A new PDU is taken up in a phase in which the one before is concluded, and
in no other. -/
theorem service_next_taken (phase : ServicePhase) (commandId : Nat)
    (pdu : Octets) :
    (service conf lib).next phase (.taken commandId pdu) =
      if Concluded lib phase then some (taking commandId pdu) else none := by
  cases phase <;> rfl

/-- The service of the PDU taken last is in one of the phases. -/
def AtService (allowed : ServicePhase → Prop) (state : State) : Prop :=
  ∃ phase, (service conf lib).phase (serviceEvents state.log) = some phase ∧
    allowed phase

/-! ## The protocol -/

/-- Only the receiver relies on the others: they do nothing for a PDU. -/
def serviceProtocol : Protocol Thread State where
  inv state := (service conf lib).Accepts (serviceEvents state.log)
  rely thread before after := thread = .receiver →
    serviceEvents after.log = serviceEvents before.log
  rely_refl _ _ _ := rfl
  rely_trans _ _ _ _ before after same := (after same).trans (before same)

/-- A triple of the receiver in this protocol. -/
abbrev ServiceTriple (pre : State → Prop) (program : Prog α)
    (post : α → State → Prop) : Prop :=
  (serviceProtocol conf lib).Triple exec Machine.unconditional .receiver pre
    program post

variable {conf lib}
variable {allowed later : ServicePhase → Prop}
variable {before after state : State}

theorem AtService.mono
    (current : AtService conf lib allowed state)
    (implies : ∀ phase, allowed phase → later phase) :
    AtService conf lib later state := by
  obtain ⟨phase, reached, holds⟩ := current
  exact ⟨phase, reached, implies phase holds⟩

/-- The phase is read off the events of the service. -/
theorem AtService.of_events_eq
    (current : AtService conf lib allowed before)
    (same : serviceEvents after.log = serviceEvents before.log) :
    AtService conf lib allowed after := by
  unfold AtService
  rw [same]
  exact current

/-- The event is allowed where it comes, and leads on. -/
theorem AtService.next
    (current : AtService conf lib allowed before)
    {event : ServiceEvent}
    (happened : serviceEvents after.log =
      event :: serviceEvents before.log)
    (leads : ∀ phase, allowed phase → ∃ next,
      (service conf lib).next phase event = some next ∧ later next) :
    AtService conf lib later after := by
  obtain ⟨phase, reached, holds⟩ := current
  obtain ⟨next, step, isLater⟩ := leads phase holds
  refine ⟨next, ?_, isLater⟩
  rw [happened, Automaton.phase_cons_of_eq reached]
  exact step

theorem AtService.accepts (current : AtService conf lib allowed state) :
    (service conf lib).Accepts (serviceEvents state.log) :=
  Option.isSome_iff_exists.mpr ⟨_, current.choose_spec.1⟩

/-- Only the receiver serves, so what it knows of the phase is stable for
it. -/
theorem atService_stable :
    (serviceProtocol conf lib).Stable .receiver
      (AtService conf lib allowed) :=
  fun _ _ _ current rely _ => current.of_events_eq (rely rfl)

/-- The receiver keeps to the protocol while the automaton accepts its
events. -/
theorem service_keeps
    (accepts : (service conf lib).Accepts (serviceEvents after.log)) :
    (serviceProtocol conf lib).Keeps .receiver before after :=
  ⟨accepts, fun _ different same => absurd same different⟩

/-! ## Steps of a service -/

theorem serviceEvents_cons (event : Event) (log : List Event) :
    serviceEvents (event :: log) =
      event.service.toList ++ serviceEvents log := by
  unfold serviceEvents
  cases shown : event.service <;> simp [shown]

/-- The operations by which nothing is done for a PDU. -/
def Op.isSilent : Op → Bool
  | .send _ | .curl .. => false
  | .note event => event.service.isNone
  | _ => true

theorem Op.isSilent.quiet
    {operation : Op}
    (silent : operation.isSilent) :
    operation.Quiet Event.service := by
  intro event noted
  cases operation
  case note other =>
    obtain rfl := of_decide_eq_true noted
    exact Option.isNone_iff_eq_none.mp silent
  case enter routine =>
    cases routine <;> cases event <;> first | rfl | cases noted
  all_goals
    cases event <;> first | rfl | cases noted | cases silent

/-- A silent operation adds no event of the service. -/
theorem serviceEvents_exec
    (thread : Thread)
    {operation : Op}
    (silent : operation.isSilent)
    (choice : Choice)
    (state : State) :
    serviceEvents (exec thread operation choice state).2.log =
      serviceEvents state.log := by
  rcases exec_notes thread operation choice state with
    unchanged | ⟨event, noted, appended⟩
  · rw [unchanged]
  · rw [appended, serviceEvents_cons, Op.isSilent.quiet silent event noted]
    rfl

/-- A program of silent operations leaves the phase as it is. -/
theorem silent_triple
    {program : Prog α}
    (uses : program.Uses fun operation => operation.isSilent) :
    ServiceTriple conf lib (AtService conf lib allowed) program
      fun _ => AtService conf lib allowed := by
  refine Protocol.Triple.uses uses atService_stable ?_
  intro operation state choice silent _ current _
  have unseen := current.of_events_eq
    (serviceEvents_exec .receiver silent choice state)
  exact ⟨service_keeps unseen.accepts, unseen⟩

theorem silent_call
    {operation : Op}
    (silent : operation.isSilent) :
    ServiceTriple conf lib (AtService conf lib allowed) (call operation)
      fun _ => AtService conf lib allowed :=
  silent_triple ⟨silent, fun _ => trivial⟩

/-- At a return the phases allowed before have to be allowed after. -/
theorem service_returns
    {value : α}
    {later : α → ServicePhase → Prop}
    (implies : ∀ phase, allowed phase → later value phase) :
    ServiceTriple conf lib (AtService conf lib allowed) (.ret value)
      fun value => AtService conf lib (later value) :=
  .returns atService_stable fun _ _ current => current.mono implies

/-- An event that is allowed is noted. -/
theorem note_triple
    {event : Event}
    {shown : ServiceEvent}
    (shows : event.service = some shown)
    (leads : ∀ phase, allowed phase → ∃ next,
      (service conf lib).next phase shown = some next ∧ later next) :
    ServiceTriple conf lib (AtService conf lib allowed)
      (call (.note event)) fun _ => AtService conf lib later := by
  refine .call atService_stable (fun _ => atService_stable) ?_
  intro state choice _ current _
  have reached : AtService conf lib later
      (exec .receiver (.note event) choice state).2 := by
    refine current.next ?_ leads
    simp only [exec, State.note, serviceEvents_cons, shows, Option.toList_some,
      List.singleton_append]
  exact ⟨service_keeps reached.accepts, reached⟩

/-- An HTTP request that is allowed is made. -/
theorem curl_triple
    {url : Octets}
    {body contentType : Option Octets}
    {later : Int × Octets → ServicePhase → Prop}
    (leads : ∀ outcome phase, allowed phase → ∃ next,
      (service conf lib).next phase
        (.transferred url body outcome.1 outcome.2) = some next ∧
          later outcome next) :
    ServiceTriple conf lib (AtService conf lib allowed)
      (curlPerfRequest url body contentType)
      fun outcome => AtService conf lib (later outcome) := by
  have transfers : ServiceTriple conf lib (AtService conf lib allowed)
      (call (.curl url body contentType))
      fun outcome => AtService conf lib
        (later (outcome.1, curlWriteResult [] outcome.2)) := by
    refine .call atService_stable (fun _ => atService_stable) ?_
    intro state choice _ current _
    have reached : AtService conf lib
        (later (choice.ret, curlWriteResult [] choice.chunks))
        (exec .receiver (.curl url body contentType) choice state).2 :=
      current.next (by rw [curlWriteResult_eq]; rfl)
        (leads (choice.ret, curlWriteResult [] choice.chunks))
    exact ⟨service_keeps reached.accepts, reached⟩
  exact transfers.bind fun outcome =>
    service_returns fun _ holds => holds

/-- A response that is allowed is sent; if the socket fails nothing is. -/
theorem tcpSend_service
    {data : Octets}
    (unsent : ∀ phase, allowed phase → later phase)
    (leads : ∀ phase, allowed phase → ∃ next,
      (service conf lib).next phase (.answered data) = some next ∧
        later next) :
    ServiceTriple conf lib (AtService conf lib allowed) (tcpSend data)
      fun _ => AtService conf lib later := by
  have sends : ServiceTriple conf lib (AtService conf lib allowed)
      (call (.send data)) fun _ => AtService conf lib later := by
    refine .call atService_stable (fun _ => atService_stable) ?_
    intro state choice _ current _
    dsimp only [exec]
    rcases state.send_cases .receiver choice data with
      ⟨serial, -, -, accepted⟩ | failed
    · rw [accepted]
      have reached : AtService conf lib later
          ((state.useSocket .receiver serial).note (.sent .receiver serial
            data (min choice.ret.toNat data.length))) :=
        current.next rfl leads
      exact ⟨service_keeps reached.accepts, reached⟩
    · rw [failed]
      have same := current.mono unsent
      exact ⟨service_keeps same.accepts, same⟩
  exact sends.bind fun outcome => .ite
    (fun _ => service_returns fun _ holds => holds)
    fun _ => (silent_call rfl).bind fun _ =>
      service_returns fun _ holds => holds

end Service

end Sms112
