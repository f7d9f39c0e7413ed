import Sms112.History.Calls
import Sms112.Connection.Controller
import Sms112.Model.Client

/-!
# The history of an exchange

A call that sends a request is open from its note to its return. The events of
the current call tell what became of it: the number it registered, whether its
wait is over, and the responses that were received meanwhile.
-/

namespace Sms112

open Resumption History

/-! ## Events -/

/-- A client's calls in the log. -/
def calls : Brackets Event where
  opens
    | .called => true
    | _ => false
  closes
    | .returned .. => true
    | _ => false
  different event opens := by
    cases event <;> first | rfl | cases opens

/-- What the client notes of its requests. -/
def Event.isMark : Event → Bool
  | .called | .registered _ | .waited | .returned .. => true
  | _ => false

/-- What the receiver notes of the connection. -/
def Event.isReading : Event → Bool
  | .received .. | .peeked .. => true
  | _ => false

/-- A complete response PDU. -/
def IsResponse (data : Octets) : Prop :=
  headerLength ≤ data.length ∧
    (SPDUHdr.ofOctets data).commandLength = data.length ∧
    (SPDUHdr.ofOctets data).isResponse

instance (data : Octets) : Decidable (IsResponse data) := by
  unfold IsResponse
  infer_instance

/-- A complete response PDU was received. -/
def Event.isAnswer : Event → Bool
  | .received _ data => IsResponse data
  | _ => false

/-- The header seen on a socket. -/
def Event.peek : Event → Option (Nat × Octets)
  | .peeked serial data => some (serial, data)
  | _ => none

theorem Event.peek_of_not_isReading
    {event : Event}
    (silent : event.isReading = false) :
    event.peek = none := by
  cases event <;> first | rfl | cases silent

theorem Event.not_isAnswer
    {event : Event}
    (silent : event.isReading = false) :
    event.isAnswer = false := by
  cases event <;> first | rfl | cases silent

/-- Only marks bracket calls. -/
theorem Event.inner
    {event : Event}
    (noMark : event.isMark = false) :
    calls.Inner event := by
  cases event <;> first | exact ⟨rfl, rfl⟩ | cases noMark

/-- The event is none of the client's and none of the receiver's. -/
def Event.IsPlain (event : Event) : Prop :=
  event.isMark = false ∧ event.isReading = false

/-! ## The current call -/

/-- The marks of the current call. -/
def marks (log : List Event) : List Event :=
  (calls.current log).filter Event.isMark

/-- In the current call no complete response was received. -/
def Silent (log : List Event) : Prop :=
  ∀ event ∈ calls.current log, event.isAnswer = false

/-- The events before the end of the wait. -/
def beforeWaited (events : List Event) : List Event :=
  events.dropWhile (· ≠ .waited)

/-- In the current call a complete response was received before the wait was
over. -/
def Early (log : List Event) : Prop :=
  ∃ event ∈ beforeWaited (calls.current log), event.isAnswer

/-- The octets last seen of a next PDU, with their socket. -/
def lastPeek (log : List Event) : Option (Nat × Octets) :=
  log.findSome? Event.peek

variable {before after log : List Event}

theorem grows_note
    {kind : Event → Prop}
    {event : Event}
    (isKind : kind event)
    (state : State) :
    Grows kind state.log (state.note event).log :=
  .cons isKind state.log

theorem grows_takeOctets
    {kind : Event → Prop}
    {state : State}
    {serial count : Nat}
    (isKind : kind (.received serial ((state.inbound serial).take count)))
    (thread : Thread)
    (into : Option (Option Nat)) :
    Grows kind state.log (state.takeOctets thread serial count into).log :=
  .cons isKind state.log

/-- The event is none of the client's. -/
abbrev Unmarked (event : Event) : Prop :=
  event.isMark = false

/-- The event is none of the receiver's. -/
abbrev Unread (event : Event) : Prop :=
  event.isReading = false

theorem current_unmarked
    (grows : Grows Unmarked before after) :
    Grows Unmarked (calls.current before) (calls.current after) :=
  Brackets.current_grows grows fun _ noMark => (Event.inner noMark).1

theorem marks_unmarked
    (grows : Grows Unmarked before after) :
    marks after = marks before :=
  (current_unmarked grows).filter fun _ noMark => noMark

theorem current_called (log : List Event) :
    calls.current (.called :: log) = [] :=
  Brackets.current_cons_of_opens rfl log

theorem marks_called (log : List Event) :
    marks (.called :: log) = [] := by
  unfold marks
  rw [current_called]
  rfl

/-- The current call goes on with an event that does not open another. -/
theorem current_cons
    {event : Event}
    (inside : calls.opens event = false)
    (log : List Event) :
    calls.current (event :: log) = event :: calls.current log := by
  unfold Brackets.current
  rw [List.takeWhile_cons_of_pos]
  rw [inside]
  rfl

theorem marks_cons
    {event : Event}
    (mark : event.isMark)
    (inside : calls.opens event = false)
    (log : List Event) :
    marks (event :: log) = event :: marks log := by
  unfold marks
  rw [current_cons inside, List.filter_cons_of_pos mark]

theorem mem_of_mem_marks
    {event : Event}
    (member : event ∈ marks log) :
    event ∈ calls.current log :=
  List.mem_of_mem_filter member

theorem mem_marks
    {event : Event}
    (mark : event.isMark)
    (member : event ∈ calls.current log) :
    event ∈ marks log :=
  List.mem_filter.mpr ⟨member, mark⟩

theorem silent_called (log : List Event) : Silent (.called :: log) := by
  unfold Silent
  rw [current_called]
  exact List.forall_mem_nil _

theorem Silent.grows
    {kind : Event → Prop}
    (silent : Silent before)
    (grows : Grows kind before after)
    (inside : ∀ event, kind event → calls.opens event = false)
    (noAnswer : ∀ event, kind event → event.isAnswer = false) :
    Silent after := by
  intro event member
  rcases (Brackets.current_grows grows inside).mem_or member with
    isNew | old
  · exact noAnswer event isNew
  · exact silent event old

theorem beforeWaited_unmarked
    (grows : Grows Unmarked before after) :
    beforeWaited after = beforeWaited before := by
  refine grows.dropWhile fun event noMark => ?_
  refine decide_eq_true fun waited => ?_
  rw [waited] at noMark
  cases noMark

theorem early_unmarked
    (grows : Grows Unmarked before after) :
    Early after ↔ Early before := by
  unfold Early
  rw [beforeWaited_unmarked (current_unmarked grows)]

/-- When the wait ends, all responses of the call are early. -/
theorem early_waited (log : List Event) :
    Early (.waited :: log) ↔ ¬Silent log := by
  unfold Early Silent beforeWaited
  rw [current_cons rfl, List.dropWhile_cons_of_neg (by decide)]
  simp [Event.isAnswer]

/-- Without a wait nothing is early. -/
theorem not_early
    (unwaited : .waited ∉ marks log) :
    ¬Early log := by
  have none : beforeWaited (calls.current log) = [] := by
    refine List.dropWhile_eq_nil_iff.mpr fun event member => ?_
    refine decide_eq_true fun waited => ?_
    exact unwaited (mem_marks rfl (waited ▸ member))
  rintro ⟨event, member, -⟩
  rw [none] at member
  cases member

theorem lastPeek_grows
    (grows : Grows Unread before after) :
    lastPeek after = lastPeek before :=
  grows.findSome fun _ => Event.peek_of_not_isReading

/-- In the current call a response was received, and before that a header was
seen. -/
def ReceivedBehind (serial : Nat) (header response : Octets)
    (log : List Event) : Prop :=
  ∃ earlier, Grows (fun event => calls.opens event = false)
      (.received serial response :: earlier) log ∧
    ∃ seen, lastPeek earlier = some (seen, header)

/-! ## Agreement -/

/-- The command identifier of the response to a request. -/
def responseId (requestId : Nat) : Nat :=
  0x80000000 + requestId

/-- On one socket the request was sent, and a complete response to it was
received, with the number of the request and `ESME_ROK`. -/
def Agreed (requestId : Nat) (during : List Event) : Prop :=
  ∃ serial data accepted response,
    .sent controller serial data accepted ∈ during ∧
    word data 4 = requestId ∧
    .received serial response ∈ during ∧ IsResponse response ∧
    word response 12 = word data 12 ∧
    word response 4 = responseId requestId ∧
    word response 8 = ESME_ROK

/-- Every complete response that was received before the wait was over was
decoded. -/
def NothingLost (requestId : Nat) (during : List Event) : Prop :=
  ∀ serial answer, .received serial answer ∈ beforeWaited during →
    IsResponse answer → .decoded requestId answer ∈ during

/-- A call that returns 0 agrees with its response, and no response is
lost. -/
def GoodCall (last : Event) (during : List Event) : Prop :=
  match last with
  | .returned requestId result =>
      (result = 0 → Agreed requestId during) ∧
        NothingLost requestId during
  | _ => True

/-- Every return belongs to a call, which agrees with its response and loses
none, and no two calls overlap. -/
structure Agreement (log : List Event) : Prop where
  each : calls.Each GoodCall log
  apart : ∀ call other, calls.Records log call → calls.Records log other →
    call.history = other.history ∨ call.history <:+ other.before ∨
      other.history <:+ call.before

/-- What is added to a call beside its marks leaves it good. -/
theorem GoodCall.grows
    {last : Event}
    (good : GoodCall last (calls.current before))
    (grows : Grows Unmarked before after) :
    GoodCall last (calls.current after) := by
  have during := current_unmarked grows
  unfold GoodCall at good ⊢
  split
  next requestId result =>
    refine ⟨fun success => ?_, fun serial answer member isAnswer => ?_⟩
    · obtain ⟨serial, data, accepted, response, sent, isRequest, received,
        answer⟩ := good.1 success
      exact ⟨serial, data, accepted, response, during.mem sent, isRequest,
        during.mem received, answer⟩
    · rw [beforeWaited_unmarked during] at member
      exact during.mem (good.2 serial answer member isAnswer)
  · trivial

/-- A call that failed before a response came is good. -/
theorem goodCall_of_failed
    {requestId : Nat}
    {result : Int}
    (failed : result ≠ 0)
    (late : ¬Early log) :
    GoodCall (.returned requestId result) (calls.current log) := by
  refine ⟨fun success => absurd success failed,
    fun serial answer member isAnswer => ?_⟩
  exact absurd ⟨_, member, decide_eq_true isAnswer⟩ late

end Sms112
