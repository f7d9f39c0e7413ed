import Sms112.Dialog.Worker

/-!
# The outcome of a request

The waiting thread keeps to the protocol as well, and takes from the entry
what the first final response has left there. In every run that keeps the
first outcome the value of `sms112_sip_send_req` is therefore the one that
this response decides, or a timeout if none was handled.
-/

namespace Sms112
namespace Dialog

open Resumption

variable {key : Octets} {state : State} {value : Int}

/-! ## What the waiting thread knows -/

/-- The request is not in the map yet. -/
structure Unregistered (key : Octets) (state : State) : Prop where
  unsent : state.inviteSent = false
  waiting : hasWaited state.log = false
  absent : key ∉ state.reqLock

/-- The request is in the map, and not sent. -/
structure Registered (key : Octets) (state : State) : Prop where
  unsent : state.inviteSent = false
  waiting : hasWaited state.log = false
  present : key ∈ state.reqLock

/-- The INVITE is sent, and the wait goes on. -/
structure Awaiting (state : State) : Prop where
  sent : state.inviteSent
  waiting : hasWaited state.log = false

/-- The wait has ended with the mutex locked, and the entry holds the value
that was decided then. -/
structure Woken (key : Octets) (value : Int) (state : State) : Prop where
  decided : DecidedAtEnd value state.log
  isOver : hasWaited state.log
  unsettled : isSettled state.log = false
  first : firstDispatched state.log = some value
  entry : ∀ entry, state.reqLock.find key = some entry → entry.result = value
  present : key ∈ state.reqLock

/-- The wait has ended, and a value was decided then. -/
structure Ended (value : Int) (state : State) : Prop where
  decided : DecidedAtEnd value state.log
  isOver : hasWaited state.log

section Stability

variable {before after : State}

theorem hasWaited_workerSteps
    (steps : WorkerSteps key before after) :
    hasWaited after.log = hasWaited before.log := by
  obtain ⟨later, appended, others⟩ := steps.log
  rw [appended, hasWaited_append, hasWaited_eq_false others, Bool.false_or]

theorem isSettled_workerSteps
    (steps : WorkerSteps key before after) :
    isSettled after.log = isSettled before.log := by
  obtain ⟨later, appended, others⟩ := steps.log
  rw [appended, isSettled_append, isSettled_eq_false others, Bool.false_or]

theorem DecidedAtEnd.workerSteps
    (decided : DecidedAtEnd value before.log)
    (steps : WorkerSteps key before after) :
    DecidedAtEnd value after.log := by
  obtain ⟨later, appended, others⟩ := steps.log
  rw [appended]
  exact decided.append others

end Stability

theorem unregistered_stable :
    WaitStable key .caller (Unregistered key) := by
  rintro before after - unregistered rely -
  have rely : WorkerSteps key before after := rely
  exact ⟨rely.inviteSent.trans unregistered.unsent,
    (hasWaited_workerSteps rely).trans unregistered.waiting,
    fun present => unregistered.absent (rely.present.mp present)⟩

theorem registered_stable :
    WaitStable key .caller (Registered key) := by
  rintro before after - registered rely -
  have rely : WorkerSteps key before after := rely
  exact ⟨rely.inviteSent.trans registered.unsent,
    (hasWaited_workerSteps rely).trans registered.waiting,
    rely.present.mpr registered.present⟩

theorem awaiting_stable :
    WaitStable key .caller Awaiting := by
  rintro before after - awaiting rely -
  have rely : WorkerSteps key before after := rely
  exact ⟨rely.inviteSent.trans awaiting.sent,
    (hasWaited_workerSteps rely).trans awaiting.waiting⟩

/-- Until the result is settled, only the value that was decided can be
stored. -/
theorem woken_stable (value : Int) :
    WaitStable key .caller (Woken key value) := by
  rintro before after - woken rely -
  have rely : WorkerSteps key before after := rely
  have unsettled := (isSettled_workerSteps rely).trans woken.unsettled
  have first : firstDispatched after.log = some value := by
    obtain ⟨later, appended, -⟩ := rely.log
    rw [appended]
    exact firstOutcome_append woken.first
  refine
    { decided := woken.decided.workerSteps rely
      isOver := (hasWaited_workerSteps rely).trans woken.isOver
      unsettled := unsettled
      first := first
      entry := ?_
      present := rely.present.mpr woken.present }
  intro entry found
  rcases rely.stores entry found with
    settled | ⟨earlier, foundEarlier, same⟩ | stored
  · rw [unsettled] at settled
    cases settled
  · exact same ▸ woken.entry earlier foundEarlier
  · exact Option.some.inj (stored.symm.trans first)

theorem ended_stable (value : Int) :
    WaitStable key .caller (Ended value) := by
  rintro before after - ended rely -
  have rely : WorkerSteps key before after := rely
  exact ⟨ended.decided.workerSteps rely,
    (hasWaited_workerSteps rely).trans ended.isOver⟩

/-! ## Its steps -/

theorem incSession_caller :
    WaitTriple key .caller (Unregistered key) (call .incSession)
      fun _ => Unregistered key := by
  refine .call unregistered_stable (fun _ => unregistered_stable) ?_
  intro state choice inv unregistered _
  refine ⟨keeps_caller (inv.note rfl nofun ?_) (waiterSteps_note rfl),
    unregistered.unsent, unregistered.waiting, unregistered.absent⟩
  intro entry found
  apply absurd (ReqLock.isSome_find.mp ?_) unregistered.absent
  rw [found]
  rfl

/-- No response has come before the INVITE is sent. -/
theorem WaitInv.noneHandled
    (inv : WaitInv key state)
    (unsent : state.inviteSent = false) :
    firstHandled state.log = none := by
  apply firstOutcome_eq_none
  intro event member
  have other := inv.unsent unsent event member
  cases event <;> first | rfl | cases other

/-- The request enters the map with its mutex locked. -/
theorem keeps_insertLock
    (inv : WaitInv key state)
    (unregistered : Unregistered key state)
    (node : Nat) :
    (waitProtocol key).Keeps .caller state
        { state with reqLock := state.reqLock.insert key { node } } ∧
      Registered key
        { state with reqLock := state.reqLock.insert key { node } } := by
  have present : key ∈ state.reqLock.insert key { node } := by
    rw [← ReqLock.isSome_find, ReqLock.find_insert, if_pos rfl]
    rfl
  refine ⟨keeps_caller
    { given := inv.given
      unsent := inv.unsent
      present := fun _ _ => present
      settled := inv.settled
      free := ?_
      woken := ?_
      decided := inv.decided }
    { callId := rfl
      inviteSent := id
      log := ⟨[], rfl, List.forall_mem_nil _⟩
      entry := ?_
      nodes := ?_ },
    ⟨unregistered.unsent, unregistered.waiting, present⟩⟩
  · rintro entry found - unlocked
    rw [ReqLock.find_insert, if_pos rfl] at found
    rw [← Option.some.inj found] at unlocked
    cases unlocked
  · rintro entry - - handled
    exact absurd (inv.noneHandled unregistered.unsent) handled
  · intro sent
    rw [unregistered.unsent] at sent
    cases sent
  · intro sent
    rw [unregistered.unsent] at sent
    cases sent

theorem insertLock_caller :
    WaitTriple key .caller (Unregistered key) (call (.insertLock key))
      fun _ => Registered key := by
  refine .call unregistered_stable (fun _ => registered_stable) ?_
  intro state choice inv unregistered _
  rw [exec, State.insertLock, if_neg unregistered.absent]
  exact keeps_insertLock inv unregistered choice.node

/-- `sync_init` -/
theorem syncInit_caller
    {callId : PjStr}
    (given : IsGiven callId ∧ lockKey callId = key) :
    WaitTriple key .caller (Unregistered key) (syncInit callId)
      fun _ => Registered key := by
  obtain ⟨isGiven, rfl⟩ := given
  rw [syncInit, if_pos isGiven]
  exact insertLock_caller

theorem sendInvite_caller :
    WaitTriple key .caller (Registered key) (call .sendInvite)
      fun _ => Awaiting := by
  refine .call registered_stable (fun _ => awaiting_stable) ?_
  intro state choice inv registered _
  have sentInv : WaitInv key { state with inviteSent := true } :=
    { given := inv.given
      unsent := nofun
      present := fun _ _ => registered.present
      settled := inv.settled
      free := inv.free
      woken := inv.woken
      decided := inv.decided }
  refine ⟨keeps_caller (sentInv.note (show Event.inviteSent.isWaiters = false
      from rfl) nofun ?_)
    { callId := rfl
      inviteSent := fun _ => rfl
      log := ⟨[.inviteSent], rfl, by decide⟩
      entry := fun _ _ => rfl
      nodes := fun _ entry found => ⟨entry, found, rfl⟩ },
    rfl, registered.waiting⟩
  rintro entry - - handled
  rw [firstHandled, firstOutcome_cons_of_none rfl] at handled
  exact absurd (inv.noneHandled registered.unsent) handled

/-- While it waits, the request is found. -/
theorem findLock_caller :
    WaitTriple key .caller Awaiting (call (.findLock key))
      fun found state => found.isSome ∧ Awaiting state := by
  refine look_triple awaiting_stable (fun _ _ => rfl) ?_
  intro choice state inv awaiting _
  exact isSome_findLock.mpr (inv.present awaiting.sent awaiting.waiting)

theorem makeTimespecTimeout_caller (sec : Nat) :
    WaitTriple key .caller Awaiting (call (.makeTimespecTimeout sec))
      fun made state => made = 0 ∧ Awaiting state := by
  refine look_triple awaiting_stable (fun _ _ => rfl) ?_
  intro choice state _ _ works
  exact if_pos works

/-- The wait ends: with a locked mutex no final response was handled, with a
free one the entry has the outcome of the first. -/
theorem timedLock_caller :
    WaitTriple key .caller Awaiting (call (.timedLock key))
      fun code state =>
        if code = 0 then ∃ value, Woken key value state
        else Ended code state := by
  have postStable (code : Int) : WaitStable key .caller fun state =>
      if code = 0 then ∃ value, Woken key value state
      else Ended code state := by
    by_cases success : code = 0
    · simp only [success, if_true]
      rintro before after inv ⟨value, woken⟩ rely afterInv
      exact ⟨value, woken_stable value before after inv woken rely afterInv⟩
    · simp only [success, if_false]
      exact ended_stable code
  refine .call awaiting_stable postStable ?_
  intro state choice inv awaiting _
  obtain ⟨entry, found⟩ := find_of_waiting inv awaiting.sent awaiting.waiting
  cases locked : entry.locked with
  | true =>
      have timeout : state.timedLock key =
          (ETIMEDOUT, state.note (.waited ETIMEDOUT)) := by
        simp [State.timedLock, found, locked]
      have unhandled : firstHandled state.log = none := by
        by_contra handled
        have free := inv.woken entry found awaiting.waiting handled
        rw [locked] at free
        cases free
      have decided : Decided ETIMEDOUT state.log := .inr ⟨unhandled, rfl⟩
      rw [exec, timeout]
      refine ⟨keeps_over inv rfl id
        (show _ = [.waited ETIMEDOUT] ++ state.log from rfl) (by decide) rfl
          (fun entry found => ⟨entry, found, rfl⟩) inv.decided, ?_⟩
      rw [if_neg (show ETIMEDOUT ≠ 0 by decide)]
      exact ⟨decided, rfl⟩
  | false =>
      have first := inv.free entry found awaiting.waiting locked
      have taken : state.timedLock key =
          (0, (state.updateLock key fun entry =>
            { entry with locked := true }).note (.waited 0)) := by
        simp [State.timedLock, found, locked]
      have log : ((state.updateLock key fun entry =>
          { entry with locked := true }).note (.waited 0)).log =
            [.waited 0] ++ state.log :=
        congrArg (Event.waited 0 :: ·) (updateLock_log _ _ _)
      rw [exec, taken]
      refine ⟨keeps_over inv (updateLock_callId _ _ _)
        (fun sent => (updateLock_inviteSent _ _ _).trans sent) log (by decide)
        (by rw [log]; rfl) ?_ (by rw [log]; exact inv.decided), ?_⟩
      · intro later foundLater
        have foundLater : (state.updateLock key fun entry =>
            { entry with locked := true }).reqLock.find key =
              some later := foundLater
        rw [find_updateLock, if_pos rfl, found, Option.map_some] at foundLater
        obtain rfl := Option.some.inj foundLater
        exact ⟨entry, found, rfl⟩
      rw [if_pos rfl]
      refine ⟨entry.result,
        { decided := ?_
          isOver := by rw [log]; rfl
          unsettled := ?_
          first := ?_
          entry := ?_
          present := (mem_updateLock _).mpr ?_ }⟩
      · rw [log]
        exact .inl first
      · have unsettled : isSettled state.log = false := by
          by_contra settled
          rw [Bool.not_eq_false] at settled
          have isOver := inv.settled settled
          rw [awaiting.waiting] at isOver
          cases isOver
        rw [log, isSettled_append, unsettled]
        rfl
      · rw [log]
        exact firstOutcome_append first
      · intro same foundSame
        have foundSame : (state.updateLock key fun entry =>
            { entry with locked := true }).reqLock.find key =
              some same := foundSame
        rw [find_updateLock, if_pos rfl, found] at foundSame
        rw [← Option.some.inj foundSame]
      · exact inv.present awaiting.sent awaiting.waiting

/-- The result is read as it was decided. -/
theorem getResult_caller (value : Int) :
    WaitTriple key .caller (Woken key value) (call (.getResult key))
      Ended := by
  refine .call (woken_stable value) ended_stable ?_
  intro state choice inv woken _
  obtain ⟨entry, found⟩ := Option.isSome_iff_exists.mp
    (ReqLock.isSome_find.mpr woken.present)
  have read : state.lockResult key = value := by
    rw [State.lockResult, found, Option.map_some, Option.getD_some,
      woken.entry entry found]
  rw [exec, read]
  exact ⟨keeps_over inv rfl id
    (show _ = [.resultRead value] ++ state.log from rfl)
      (by simp [Event.isWorkers]) woken.isOver
      (fun entry found => ⟨entry, found, rfl⟩) inv.decided,
    woken.decided, woken.isOver⟩

/-! ## The request -/

variable (conf : SConf)

/-- `sync_lock` returns what was decided when its wait ended. -/
theorem syncLock_caller
    {callId : PjStr}
    (given : IsGiven callId ∧ lockKey callId = key) :
    WaitTriple key .caller Awaiting (syncLock conf callId) Ended := by
  obtain ⟨isGiven, rfl⟩ := given
  rw [syncLock, if_pos isGiven]
  refine findLock_caller.bind fun found => triple_of_fact fun present => ?_
  rw [if_pos present]
  refine (makeTimespecTimeout_caller _).bind fun made =>
    triple_of_fact fun success => ?_
  rw [if_pos success]
  refine timedLock_caller.bind fun code => .ite (fun taken => ?_) fun failed => ?_
  · simp only [taken, if_true]
    rintro state inv ⟨value, woken⟩
    exact getResult_caller value state inv woken
  · simp only [failed, if_false]
    exact .returns (ended_stable code) fun _ _ ended => ended

theorem eraseLock_caller (value : Int) :
    WaitTriple key .caller (Ended value) (call (.eraseLock key))
      fun _ => Ended value := by
  refine .call (ended_stable value) (fun _ => ended_stable value) ?_
  intro state choice inv ended _
  refine ⟨keeps_over inv rfl id (List.nil_append _).symm
    (List.forall_mem_nil _) ended.isOver ?_ inv.decided, ended.decided,
    ended.isOver⟩
  intro entry found
  have found : ReqLock.find (state.reqLock.erase key) key = some entry := found
  rw [ReqLock.find_erase, if_pos rfl] at found
  cases found

/-- `sync_del` -/
theorem syncDel_caller
    {callId : PjStr}
    (given : IsGiven callId ∧ lockKey callId = key)
    (value : Int) :
    WaitTriple key .caller (Ended value) (syncDel callId)
      fun _ => Ended value := by
  obtain ⟨isGiven, rfl⟩ := given
  have looks : WaitTriple (lockKey callId) .caller (Ended value)
      (call (.findLock (lockKey callId))) fun _ => Ended value := by
    refine .call (ended_stable value) (fun _ => ended_stable value) ?_
    intro state choice inv ended _
    exact ⟨⟨inv, fun other _ => (waitProtocol _).rely_refl other state⟩, ended⟩
  rw [syncDel, if_pos isGiven]
  refine looks.bind fun found => .ite (fun _ => eraseLock_caller value)
    fun _ => ?_
  exact .returns (ended_stable value) fun _ _ ended => ended

/-- `sms112_sip_send_req` -/
theorem sendReq_caller :
    WaitTriple key .caller (Unregistered key) (sendReq conf) Ended := by
  refine incSession_caller.bind fun _ =>
    (callId_triple unregistered_stable).bind fun _ =>
      triple_of_fact fun initGiven => (syncInit_caller initGiven).bind
        fun _ => sendInvite_caller.bind fun _ => ?_
  refine (callId_triple awaiting_stable).bind fun _ =>
    triple_of_fact fun lockGiven => (syncLock_caller conf lockGiven).bind
      fun value => ?_
  refine (callId_triple (ended_stable value)).bind fun _ =>
    triple_of_fact fun delGiven => (syncDel_caller delGiven value).bind
      fun _ => ?_
  exact .returns (ended_stable value) fun _ _ ended => ended

theorem caller_triple :
    WaitTriple key .caller (Unregistered key) (caller conf)
      fun label _ => label = .finished := by
  have notes (value : Int) : WaitTriple key .caller (Ended value)
      (call (.note (.returned value))) fun _ _ => True := by
    refine .call (ended_stable value) (fun _ => Protocol.Stable.const True) ?_
    intro state choice inv ended _
    exact ⟨keeps_over inv rfl id
      (show _ = [.returned value] ++ state.log from rfl)
      (by simp [Event.isWorkers]) ended.isOver
      (fun entry found => ⟨entry, found, rfl⟩)
      ⟨ended.decided, inv.decided⟩, trivial⟩
  refine (sendReq_caller conf).bind fun value => (notes value).bind fun _ => ?_
  exact .returns (Protocol.Stable.const _) fun _ _ _ => rfl

/-- What holds where a thread starts over. -/
def entry (key : Octets) : Thread → Label → State → Prop
  | .caller, .request => Unregistered key
  | _, _ => fun _ => True

theorem code_triple (thread : Thread) (label : Label) :
    WaitTriple key thread (entry key thread label) (code conf thread label)
      (entry key thread) := by
  have stops (thread : Thread) : WaitTriple key thread (fun _ => True)
      (.ret .finished) (entry key thread) := by
    cases thread <;>
      exact .returns (Protocol.Stable.const True) fun _ _ _ => trivial
  cases thread with
  | caller =>
      cases label with
      | request =>
          refine (caller_triple conf).consequence (fun _ _ holds => holds) ?_
          rintro label state - rfl
          trivial
      | work => exact stops .caller
      | finished => exact stops .caller
  | worker =>
      cases label with
      | request => exact stops .worker
      | work =>
          exact workerThread_triple.consequence (fun _ _ _ => trivial)
            fun label _ _ _ => by cases label <;> trivial
      | finished => exact stops .worker

/-- A thread takes a number of steps, in which every call succeeds and the
given message is dispatched. -/
def steps (thread : Thread) (count : Nat) (message : Option RxMessage) :
    List (Thread × (Op → Choice)) :=
  List.replicate count (thread, fun _ => { message := message })

/-- A response to the INVITE. -/
def inviteResponse (statusCode : Int) : RxMessage :=
  .response { method := .invite, statusCode := statusCode }

/-- The INVITE is sent and answered with 486. -/
def busyHere : List (Thread × (Op → Choice)) :=
  steps .caller 5 none ++ steps .worker 8 (some (inviteResponse 486))

end Dialog
end Sms112
