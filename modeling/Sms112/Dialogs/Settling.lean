import Sms112.Dialog.Messages
import Sms112.Dialogs.Entries

/-!
# What a request returns

A request returns the value that a message of its own dialog gave it, unless
its wait could not begin or was over before a message came. The protocol below
states this for a single dialog whose Call-ID reads as a C string of its own
characters, and what each of the two threads leaves alone.
-/

namespace Sms112
namespace Dialogs

open Resumption
open Dialog (Event RxMessage ReqLock Thread Label IsGiven lockKey ETIMEDOUT)

/-! ## What is to hold of a log -/

/-- The value that a message gives to the request of its dialog. -/
def answer (message : RxMessage) : Option Int :=
  if message.isSuccess ∨ message.answersBye then some 0
  else
    match message with
    | .response rxData =>
        if message.isFailure then some rxData.status else none
    | .request _ => none

/-- A message that was dispatched gave this value. -/
def Answered (value : Int) (log : List Event) : Prop :=
  ∃ message, .dispatched message ∈ log ∧ answer message = some value

/-- The request waited until the deadline, or for a message that gave this
value, or, where something does not work, did not wait. -/
def Explained (works : Bool) (value : Int) (log : List Event) : Prop :=
  value = ETIMEDOUT ∨ Answered value log ∨ works = false ∧ value = -1

/-- Every value that was returned had been explained by then. -/
def Accounted (works : Bool) (log : List Event) : Prop :=
  ∀ later value earlier, log = later ++ .returned value :: earlier →
    Explained works value earlier

/-- What was answered stays so while the log grows. -/
theorem Answered.mono
    {value : Int}
    {log later : List Event}
    (answered : Answered value log)
    (kept : ∀ event ∈ log, event ∈ later) :
    Answered value later := by
  obtain ⟨message, dispatched, gives⟩ := answered
  exact ⟨message, kept _ dispatched, gives⟩

variable {works : Bool}

/-- So does what explains a value. -/
theorem Explained.mono
    {value : Int}
    {log later : List Event}
    (explained : Explained works value log)
    (kept : ∀ event ∈ log, event ∈ later) :
    Explained works value later :=
  explained.imp_right (.imp_left fun answered => answered.mono kept)

/-- An event is no return, or returns a value that is explained. -/
theorem Accounted.cons
    {log : List Event}
    (accounted : Accounted works log)
    {event : Event}
    (explains : ∀ value, event = .returned value →
      Explained works value log) :
    Accounted works (event :: log) := by
  intro later value earlier split
  cases later with
  | nil =>
      obtain ⟨rfl, rfl⟩ := List.cons.inj split
      exact explains value rfl
  | cons last later =>
      exact accounted later value earlier (List.cons.inj split).2

/-! ## The protocol -/

/-- What holds throughout a run of a single dialog. -/
structure SettleInv (works : Bool) (key : Octets) (state : Dialog.State) :
    Prop where
  callId : state.callId = key
  free : ∀ entry, state.reqLock.find key = some entry →
    entry.locked = false → Answered entry.result state.log
  accounted : Accounted works state.log

/-- What the steps of the worker thread leave alone. -/
structure WorkerLeaves (key : Octets) (before after : Dialog.State) :
    Prop where
  inviteSent : after.inviteSent = before.inviteSent
  kept : ∀ event ∈ before.log, event ∈ after.log
  present : key ∈ after.reqLock ↔ key ∈ before.reqLock
  stores : ∀ entry, after.reqLock.find key = some entry →
    (∃ earlier, before.reqLock.find key = some earlier ∧
      earlier.result = entry.result) ∨
      Answered entry.result after.log

/-- What the steps of the caller leave alone once the INVITE was sent. -/
structure CallerLeaves (key : Octets) (before after : Dialog.State) :
    Prop where
  inviteSent : before.inviteSent → after.inviteSent
  kept : ∀ event ∈ before.log, event ∈ after.log
  results : before.inviteSent → ∀ entry,
    after.reqLock.find key = some entry →
      ∃ earlier, before.reqLock.find key = some earlier ∧
        earlier.result = entry.result ∧ earlier.node = entry.node

theorem WorkerLeaves.trans
    {key : Octets}
    {first second third : Dialog.State}
    (before : WorkerLeaves key first second)
    (after : WorkerLeaves key second third) :
    WorkerLeaves key first third where
  inviteSent := after.inviteSent.trans before.inviteSent
  kept event member := after.kept event (before.kept event member)
  present := after.present.trans before.present
  stores entry found := by
    rcases after.stores entry found with ⟨middle, foundMiddle, same⟩ | stored
    · rcases before.stores middle foundMiddle with
        ⟨earlier, foundEarlier, sameEarlier⟩ | stored
      · exact .inl ⟨earlier, foundEarlier, sameEarlier.trans same⟩
      · exact .inr (same ▸ stored.mono after.kept)
    · exact .inr stored

theorem CallerLeaves.trans
    {key : Octets}
    {first second third : Dialog.State}
    (before : CallerLeaves key first second)
    (after : CallerLeaves key second third) :
    CallerLeaves key first third where
  inviteSent sent := after.inviteSent (before.inviteSent sent)
  kept event member := after.kept event (before.kept event member)
  results sent entry found := by
    obtain ⟨middle, foundMiddle, same, sameNode⟩ :=
      after.results (before.inviteSent sent) entry found
    obtain ⟨earlier, foundEarlier, sameEarlier, sameNodeEarlier⟩ :=
      before.results sent middle foundMiddle
    exact ⟨earlier, foundEarlier, sameEarlier.trans same,
      sameNodeEarlier.trans sameNode⟩

/-- The map and the phase of the dialog stay as they are. -/
theorem WorkerLeaves.of_same
    {key : Octets}
    {before after : Dialog.State}
    (inviteSent : after.inviteSent = before.inviteSent)
    (reqLock : after.reqLock = before.reqLock)
    (kept : ∀ event ∈ before.log, event ∈ after.log) :
    WorkerLeaves key before after where
  inviteSent := inviteSent
  kept := kept
  present := by rw [reqLock]
  stores entry found := .inl ⟨entry, reqLock ▸ found, rfl⟩

theorem CallerLeaves.of_same
    {key : Octets}
    {before after : Dialog.State}
    (inviteSent : before.inviteSent → after.inviteSent)
    (reqLock : after.reqLock = before.reqLock)
    (kept : ∀ event ∈ before.log, event ∈ after.log) :
    CallerLeaves key before after where
  inviteSent := inviteSent
  kept := kept
  results _ entry found := ⟨entry, reqLock ▸ found, rfl, rfl⟩

/-- What a thread tolerates. -/
def SettleRely (key : Octets) : Thread → Dialog.State → Dialog.State → Prop
  | .caller => WorkerLeaves key
  | .worker => CallerLeaves key

/-- The protocol of a dialog that is settled. -/
def settleProtocol (works : Bool) (key : Octets) :
    Protocol Thread Dialog.State where
  inv := SettleInv works key
  rely := SettleRely key
  rely_refl thread state := by
    cases thread with
    | caller => exact .of_same rfl rfl fun _ member => member
    | worker => exact .of_same id rfl fun _ member => member
  rely_trans thread _ _ _ := by
    cases thread with
    | caller => exact WorkerLeaves.trans
    | worker => exact CallerLeaves.trans

/-- The clock gives a deadline. -/
def GivesDeadline (choice : Dialog.Choice) : Dialog.Op → Prop
  | .makeTimespecTimeout _ => choice.ret = 0
  | _ => True

instance GivesDeadline.decidable (choice : Dialog.Choice) :
    (operation : Dialog.Op) → Decidable (GivesDeadline choice operation)
  | .makeTimespecTimeout _ => inferInstanceAs (Decidable (choice.ret = 0))
  | .handleEvents | .incSession | .decSession | .sendInvite | .sendAck
  | .sendBye | .sendResp _ | .callId | .insertLock _ | .findLock _
  | .setResult _ _ _ | .getResult _ | .unlock _ _ | .timedLock _ | .eraseLock _
  | .note _ => .isTrue trivial

/-- Every Call-ID reads as a C string of its own characters. Where everything
works, none is empty and the clock gives a deadline. -/
def Whole (works : Bool) : DialogCondition :=
  fun key _ operation choice state =>
    ReadsWhole choice state operation ∧
      (works → key ≠ [] ∧ GivesDeadline choice operation)

instance (works : Bool) (key : Octets) (thread : Thread)
    (operation : Dialog.Op) (choice : Dialog.Choice) (state : Dialog.State) :
    Decidable (Whole works key thread operation choice state) :=
  inferInstanceAs (Decidable (_ ∧ (_ → _ ∧ _)))

/-- Triples of the protocol. -/
abbrev SettleTriple (works : Bool) (key : Octets) (thread : Thread) {α : Type}
    (pre : Dialog.State → Prop) (program : Dialog.Prog α)
    (post : α → Dialog.State → Prop) : Prop :=
  Protocol.Triple (fun _ => Dialog.exec) (Whole works key)
    (settleProtocol works key) thread pre program post

/-- Assertions that survive the steps of the other thread. -/
abbrev SettleStable (works : Bool) (key : Octets) (thread : Thread)
    (assertion : Dialog.State → Prop) : Prop :=
  (settleProtocol works key).Stable thread assertion

variable {key : Octets} {thread : Thread} {state : Dialog.State}

/-! ## Steps of both threads -/

/-- The caller keeps to the protocol if the invariant holds after its step and
the worker thread may rely on it. -/
theorem keeps_caller
    {before after : Dialog.State}
    (inv : SettleInv works key after)
    (leaves : CallerLeaves key before after) :
    (settleProtocol works key).Keeps .caller before after where
  inv := inv
  rely other different := by
    cases other with
    | caller => exact absurd rfl different
    | worker => exact leaves

/-- So does the worker thread, with what the caller may rely on. -/
theorem keeps_worker
    {before after : Dialog.State}
    (inv : SettleInv works key after)
    (leaves : WorkerLeaves key before after) :
    (settleProtocol works key).Keeps .worker before after where
  inv := inv
  rely other different := by
    cases other with
    | caller => exact leaves
    | worker => exact absurd rfl different

theorem kept_note (event : Event) :
    ∀ other ∈ state.log, other ∈ (state.note event).log :=
  fun _ member => List.mem_cons_of_mem _ member

/-- An event that is no return changes nothing about what is settled. -/
theorem SettleInv.note
    {event : Event}
    (inv : SettleInv works key state)
    (noReturn : isReturn event = false) :
    SettleInv works key (state.note event) where
  callId := inv.callId
  free entry found unlocked :=
    (inv.free entry found unlocked).mono (kept_note event)
  accounted := inv.accounted.cons fun value same => by
    subst same
    cases noReturn

/-- It keeps to the protocol. -/
theorem keeps_note
    {event : Event}
    (inv : SettleInv works key state)
    (noReturn : isReturn event = false) :
    (settleProtocol works key).Keeps thread state (state.note event) := by
  cases thread with
  | caller =>
      exact keeps_caller (inv.note noReturn)
        (.of_same id rfl (kept_note event))
  | worker =>
      exact keeps_worker (inv.note noReturn)
        (.of_same rfl rfl (kept_note event))

theorem keeps_nothing
    (inv : SettleInv works key state) :
    (settleProtocol works key).Keeps thread state state :=
  ⟨inv, fun other _ => (settleProtocol works key).rely_refl other state⟩

/-- An operation that only looks. -/
theorem look_triple
    {operation : Dialog.Op}
    {pre : Dialog.State → Prop}
    {post : Dialog.Res operation → Prop}
    (stable : SettleStable works key thread pre)
    (unchanged : ∀ choice state,
      (Dialog.exec operation choice state).2 = state)
    (shows : ∀ choice state, SettleInv works key state → pre state →
      Whole works key thread operation choice state →
        post (Dialog.exec operation choice state).1) :
    SettleTriple works key thread pre (Dialog.call operation)
      fun result state => post result ∧ pre state := by
  refine .call stable (fun _ => (Protocol.Stable.const _).conj stable) ?_
  intro state choice inv holds admissible
  refine ⟨?_, shows choice state inv holds admissible, ?_⟩
  · rw [unchanged]
    exact keeps_nothing inv
  · rw [unchanged]
    exact holds

/-- A fact about a value need not be carried through a program. -/
theorem triple_of_fact
    {α : Type}
    {fact : Prop}
    {pre : Dialog.State → Prop}
    {program : Dialog.Prog α}
    {post : α → Dialog.State → Prop}
    (triple : fact → SettleTriple works key thread pre program post) :
    SettleTriple works key thread (fun state => fact ∧ pre state) program post :=
  fun state inv holds => triple holds.1 state inv holds.2

/-- The Call-ID is read as the key of the dialog, and is given unless the key
is empty. -/
structure Reads (works : Bool) (key : Octets) (callId : PjStr) : Prop where
  same : lockKey callId = key
  given : IsGiven callId ↔ key ≠ []
  named : works → key ≠ []

/-- The Call-ID that is read is the one of the entry. -/
theorem callId_triple
    {pre : Dialog.State → Prop}
    (stable : SettleStable works key thread pre) :
    SettleTriple works key thread pre (Dialog.call .callId)
      fun callId state => Reads works key callId ∧ pre state := by
  refine look_triple stable (fun _ _ => rfl) ?_
  rintro choice state inv - ⟨reads, named⟩
  have reads : pjAnsiStr (some (state.callId ++ choice.memory)) =
      state.callId := reads
  refine ⟨reads.trans inv.callId, ?_, fun does => (named does).1⟩
  rw [← inv.callId]
  exact ⟨fun given => List.ne_nil_of_length_pos given.2,
    fun named => ⟨Option.some_ne_none _, List.length_pos_of_ne_nil named⟩⟩

/-- An event of the dialog. -/
theorem note_triple
    {operation : Dialog.Op}
    {event : Event}
    {pre : Dialog.State → Prop}
    (stable : SettleStable works key thread pre)
    (notes : ∀ choice state,
      (Dialog.exec operation choice state).2 = state.note event)
    (noReturn : isReturn event = false)
    (holds : ∀ state, pre state → pre (state.note event)) :
    SettleTriple works key thread pre (Dialog.call operation) fun _ => pre := by
  refine .call stable (fun _ => stable) ?_
  intro state choice inv reached _
  rw [notes]
  exact ⟨keeps_note inv noReturn, holds state reached⟩

end Dialogs
end Sms112
