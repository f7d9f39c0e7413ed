import Sms112.Dialog.Messages
import Sms112.Resumption.RelyGuarantee

/-!
# Waiting for the outcome of a request

The waiter and the worker thread share the entry of the Call-ID. The worker
stores a result and then unlocks the mutex; as long as the waiter has not come
out of its wait, the unlocked mutex stands for a result that is the outcome of
the first final response. The protocol below states this, and what each of the
two threads leaves alone.
-/

namespace Sms112
namespace Dialog

open Resumption

/-! ## The outcome that is asked for -/

/-- What a final response to the INVITE decides: success, or its status. -/
def RxMessage.outcome : RxMessage → Option Int
  | .response rxData =>
      if (RxMessage.response rxData).isSuccess then some 0
      else if (RxMessage.response rxData).isFailure then some rxData.status
      else none
  | .request _ => none

/-- The message that is dispatched by an event. -/
def Event.dispatchedMessage : Event → Option RxMessage
  | .dispatched message => some message
  | _ => none

/-- The message whose handling ends with an event. -/
def Event.handledMessage : Event → Option RxMessage
  | .handled message => some message
  | _ => none

/-- The outcome of the first final response among the messages that a log,
newest first, shows. -/
def firstOutcome (select : Event → Option RxMessage) :
    List Event → Option Int
  | [] => none
  | event :: earlier =>
      (firstOutcome select earlier).or
        ((select event).bind RxMessage.outcome)

/-- The first final response that was dispatched. -/
def firstDispatched : List Event → Option Int :=
  firstOutcome Event.dispatchedMessage

/-- The first final response that was handled completely. -/
def firstHandled : List Event → Option Int :=
  firstOutcome Event.handledMessage

/-- A value is decided by what had happened when the wait ended. A response
whose handling was not over by then may count or not. -/
def Decided (value : Int) (before : List Event) : Prop :=
  firstDispatched before = some value ∨
    firstHandled before = none ∧ value = ETIMEDOUT

instance (value : Int) (before : List Event) :
    Decidable (Decided value before) := by
  unfold Decided
  infer_instance

/-- The wait is over, and a value was decided when it ended. -/
def DecidedAtEnd (value : Int) : List Event → Prop
  | [] => False
  | .waited _ :: before => Decided value before
  | _ :: earlier => DecidedAtEnd value earlier

/-- Every value that was returned was decided when the wait ended. -/
def OutcomesDecided : List Event → Prop
  | [] => True
  | .returned value :: earlier =>
      DecidedAtEnd value earlier ∧ OutcomesDecided earlier
  | _ :: earlier => OutcomesDecided earlier

instance DecidedAtEnd.decidable (value : Int) :
    (log : List Event) → Decidable (DecidedAtEnd value log)
  | [] => inferInstanceAs (Decidable False)
  | event :: earlier => by
      have := DecidedAtEnd.decidable value earlier
      cases event <;> unfold DecidedAtEnd <;> infer_instance

instance OutcomesDecided.decidable :
    (log : List Event) → Decidable (OutcomesDecided log)
  | [] => inferInstanceAs (Decidable True)
  | event :: earlier => by
      have := OutcomesDecided.decidable earlier
      cases event <;> unfold OutcomesDecided <;> infer_instance

/-! ## The condition on a run -/

/-- The wait has ended. -/
def hasWaited (log : List Event) : Bool :=
  log.any fun event => event matches .waited _

/-- The result was read, or will not be because the wait failed. -/
def isSettled (log : List Event) : Bool :=
  log.any fun
    | .resultRead _ => true
    | .waited code => code ≠ 0
    | _ => false

/-- The Call-ID reads as one C string, the clock works, and until the result
is settled nothing is stored but the outcome of the first final response. -/
def KeepsFirst (key : Octets) : Machine.Condition Op Thread Choice State
  | _, .callId, choice, state =>
      pjAnsiStr (some (state.callId ++ choice.memory)) = key
  | _, .makeTimespecTimeout _, choice, _ => choice.ret = 0
  | _, .setResult _ _ result, _, state =>
      isSettled state.log ∨ firstDispatched state.log = some result
  | _, _, _, _ => True

instance (key : Octets) (thread : Thread) (operation : Op) (choice : Choice)
    (state : State) : Decidable (KeepsFirst key thread operation choice state) := by
  cases operation <;> unfold KeepsFirst <;> infer_instance

/-! ## Logs that grow -/

section Logs

variable {select : Event → Option RxMessage}
variable {event : Event} {later log : List Event} {value : Int}

/-- An event without a message changes no outcome. -/
theorem firstOutcome_cons_of_none
    (unselected : select event = none) :
    firstOutcome select (event :: log) = firstOutcome select log := by
  rw [firstOutcome, unselected, Option.bind_none, Option.or_none]

/-- The first outcome stays the first, whatever comes later. -/
theorem firstOutcome_append
    (found : firstOutcome select log = some value) :
    firstOutcome select (later ++ log) = some value := by
  induction later with
  | nil => exact found
  | cons event later inductionHypothesis =>
      rw [List.cons_append, firstOutcome, inductionHypothesis,
        Option.some_or]

/-- Events without messages change no outcome. -/
theorem firstOutcome_append_of_none
    (unselected : ∀ event ∈ later, select event = none) :
    firstOutcome select (later ++ log) = firstOutcome select log := by
  induction later with
  | nil => rfl
  | cons event later inductionHypothesis =>
      rw [List.forall_mem_cons] at unselected
      rw [List.cons_append, firstOutcome_cons_of_none unselected.1,
        inductionHypothesis unselected.2]

theorem firstOutcome_eq_none
    (unselected : ∀ event ∈ log, select event = none) :
    firstOutcome select log = none := by
  rw [← List.append_nil log, firstOutcome_append_of_none unselected]
  rfl

theorem hasWaited_append :
    hasWaited (later ++ log) = (hasWaited later || hasWaited log) :=
  List.any_append

theorem isSettled_append :
    isSettled (later ++ log) = (isSettled later || isSettled log) :=
  List.any_append

/-- The events of the waiting thread after its wait, and those of its
result. -/
def Event.isWaiters : Event → Bool
  | .waited _ | .resultRead _ | .returned _ => true
  | _ => false

/-- The events of the worker's dispatching. -/
def Event.isWorkers : Event → Bool
  | .dispatched _ | .handled _ => true
  | _ => false

/-- Where the waiting thread has left no event, its wait has not ended. -/
theorem hasWaited_eq_false
    (others : ∀ event ∈ log, event.isWaiters = false) :
    hasWaited log = false := by
  rw [hasWaited, List.any_eq_false]
  intro event member
  have other := others event member
  cases event <;> first | rfl | exact Bool.false_ne_true | cases other

/-- Where the waiting thread has left no event, no result is settled. -/
theorem isSettled_eq_false
    (others : ∀ event ∈ log, event.isWaiters = false) :
    isSettled log = false := by
  rw [isSettled, List.any_eq_false]
  intro event member
  have other := others event member
  cases event <;> first | exact Bool.false_ne_true | cases other

/-- What was decided when the wait ended stays so while the waiting thread adds
nothing. -/
theorem DecidedAtEnd.append
    (decided : DecidedAtEnd value log)
    (others : ∀ event ∈ later, event.isWaiters = false) :
    DecidedAtEnd value (later ++ log) := by
  induction later with
  | nil => exact decided
  | cons event later inductionHypothesis =>
      rw [List.forall_mem_cons] at others
      have earlier := inductionHypothesis others.2
      cases event <;> first | exact earlier | cases others.1

/-- Only an event that returns a value has to be decided. -/
theorem outcomesDecided_cons
    (different : ∀ value, event ≠ .returned value) :
    OutcomesDecided (event :: log) ↔ OutcomesDecided log := by
  cases event <;> first | rfl | exact absurd rfl (different _)

end Logs

/-! ## The protocol -/

/-- What holds throughout a run. -/
structure WaitInv (key : Octets) (state : State) : Prop where
  given : state.callId ≠ []
  unsent : state.inviteSent = false →
    ∀ event ∈ state.log, event.isWorkers = false
  present : state.inviteSent → hasWaited state.log = false →
    key ∈ state.reqLock
  settled : isSettled state.log → hasWaited state.log
  free : ∀ entry, state.reqLock.find key = some entry →
    hasWaited state.log = false → entry.locked = false →
      firstDispatched state.log = some entry.result
  woken : ∀ entry, state.reqLock.find key = some entry →
    hasWaited state.log = false → firstHandled state.log ≠ none →
      entry.locked = false
  decided : OutcomesDecided state.log

/-- What the steps of the worker thread leave alone. -/
structure WorkerSteps (key : Octets) (before after : State) : Prop where
  callId : after.callId = before.callId
  inviteSent : after.inviteSent = before.inviteSent
  log : ∃ later, after.log = later ++ before.log ∧
    ∀ event ∈ later, event.isWaiters = false
  present : key ∈ after.reqLock ↔ key ∈ before.reqLock
  stores : ∀ entry, after.reqLock.find key = some entry →
    isSettled after.log ∨
      (∃ earlier, before.reqLock.find key = some earlier ∧
        earlier.result = entry.result) ∨
      firstDispatched after.log = some entry.result

/-- What the steps of the waiting thread leave alone. -/
structure WaiterSteps (key : Octets) (before after : State) : Prop where
  callId : after.callId = before.callId
  inviteSent : before.inviteSent → after.inviteSent
  log : ∃ later, after.log = later ++ before.log ∧
    ∀ event ∈ later, event.isWorkers = false
  entry : before.inviteSent → hasWaited after.log = false →
    after.reqLock.find key = before.reqLock.find key
  nodes : before.inviteSent → ∀ entry,
    after.reqLock.find key = some entry →
      ∃ earlier, before.reqLock.find key = some earlier ∧
        earlier.node = entry.node

/-- The worker's steps add up: what it stored last was stored by the earlier
steps or the later ones. -/
theorem WorkerSteps.trans
    {key : Octets}
    {first second third : State}
    (before : WorkerSteps key first second)
    (after : WorkerSteps key second third) :
    WorkerSteps key first third := by
  obtain ⟨later, appended, others⟩ := before.log
  obtain ⟨last, appendedLast, othersLast⟩ := after.log
  refine
    { callId := after.callId.trans before.callId
      inviteSent := after.inviteSent.trans before.inviteSent
      log := ⟨last ++ later, ?_, ?_⟩
      present := after.present.trans before.present
      stores := ?_ }
  · rw [appendedLast, appended, List.append_assoc]
  · rw [List.forall_mem_append]
    exact ⟨othersLast, others⟩
  · intro entry found
    have settled (isSettledBefore : isSettled second.log) :
        isSettled third.log := by
      rw [appendedLast, isSettled_append, isSettledBefore, Bool.or_true]
    rcases after.stores entry found with
      isOver | ⟨middle, foundMiddle, same⟩ | stored
    · exact .inl isOver
    · rcases before.stores middle foundMiddle with
        isOver | ⟨earlier, foundEarlier, sameEarlier⟩ | stored
      · exact .inl (settled isOver)
      · exact .inr (.inl ⟨earlier, foundEarlier, sameEarlier.trans same⟩)
      · refine .inr (.inr ?_)
        rw [appendedLast, ← same]
        exact firstOutcome_append stored
    · exact .inr (.inr stored)

/-- The waiting thread's steps add up. -/
theorem WaiterSteps.trans
    {key : Octets}
    {first second third : State}
    (before : WaiterSteps key first second)
    (after : WaiterSteps key second third) :
    WaiterSteps key first third := by
  obtain ⟨later, appended, others⟩ := before.log
  obtain ⟨last, appendedLast, othersLast⟩ := after.log
  refine
    { callId := after.callId.trans before.callId
      inviteSent := fun sent => after.inviteSent (before.inviteSent sent)
      log := ⟨last ++ later, ?_, ?_⟩
      entry := ?_
      nodes := ?_ }
  · rw [appendedLast, appended, List.append_assoc]
  · rw [List.forall_mem_append]
    exact ⟨othersLast, others⟩
  · intro sent waiting
    have waitingBefore : hasWaited second.log = false := by
      rw [appendedLast, hasWaited_append, Bool.or_eq_false_iff] at waiting
      exact waiting.2
    rw [after.entry (before.inviteSent sent) waiting,
      before.entry sent waitingBefore]
  · intro sent entry found
    obtain ⟨middle, foundMiddle, same⟩ :=
      after.nodes (before.inviteSent sent) entry found
    obtain ⟨earlier, foundEarlier, sameEarlier⟩ :=
      before.nodes sent middle foundMiddle
    exact ⟨earlier, foundEarlier, sameEarlier.trans same⟩

/-- What a thread tolerates. -/
def WaitRely (key : Octets) : Thread → State → State → Prop
  | .caller => WorkerSteps key
  | .worker => WaiterSteps key

/-- The protocol of a waiting request. -/
def waitProtocol (key : Octets) : Protocol Thread State where
  inv := WaitInv key
  rely := WaitRely key
  rely_refl thread state := by
    cases thread with
    | caller =>
        exact ⟨rfl, rfl, ⟨[], rfl, List.forall_mem_nil _⟩, Iff.rfl,
          fun entry found => .inr (.inl ⟨entry, found, rfl⟩)⟩
    | worker =>
        exact ⟨rfl, id, ⟨[], rfl, List.forall_mem_nil _⟩, fun _ _ => rfl,
          fun _ entry found => ⟨entry, found, rfl⟩⟩
  rely_trans thread _ _ _ := by
    cases thread with
    | caller => exact WorkerSteps.trans
    | worker => exact WaiterSteps.trans

end Dialog
end Sms112
