import Sms112.Dialog.Waiting

/-!
# The worker thread and the waiting request

The steps of the worker thread keep to the protocol: it stores what the
condition admits, and has unlocked the mutex when the handling of a final
response ends.
-/

namespace Sms112
namespace Dialog

open Resumption

variable {key : Octets}

/-- Triples of the protocol. -/
abbrev WaitTriple (key : Octets) (thread : Thread) {α : Type}
    (pre : State → Prop) (program : Prog α) (post : α → State → Prop) : Prop :=
  Protocol.Triple (fun _ => exec) (KeepsFirst key) (waitProtocol key) thread
    pre program post

/-- Assertions that survive the steps of the other thread. -/
abbrev WaitStable (key : Octets) (thread : Thread)
    (assertion : State → Prop) : Prop :=
  (waitProtocol key).Stable thread assertion

variable {thread : Thread} {before after state : State}

/-! ## Single steps -/

theorem keeps_caller
    (inv : WaitInv key after)
    (steps : WaiterSteps key before after) :
    (waitProtocol key).Keeps .caller before after where
  inv := inv
  rely other different := by
    cases other with
    | caller => exact absurd rfl different
    | worker => exact steps

theorem keeps_worker
    (inv : WaitInv key after)
    (steps : WorkerSteps key before after) :
    (waitProtocol key).Keeps .worker before after where
  inv := inv
  rely other different := by
    cases other with
    | caller => exact steps
    | worker => exact absurd rfl different

/-- An operation that only looks keeps to the protocol. -/
theorem look_triple
    {operation : Op}
    {pre : State → Prop}
    {post : Res operation → Prop}
    (stable : WaitStable key thread pre)
    (unchanged : ∀ choice state, (exec operation choice state).2 = state)
    (shows : ∀ choice state, WaitInv key state → pre state →
      KeepsFirst key thread operation choice state →
      post (exec operation choice state).1) :
    WaitTriple key thread pre (call operation)
      fun result state => post result ∧ pre state := by
  refine .call stable (fun _ => (Protocol.Stable.const _).conj stable) ?_
  intro state choice inv holds admissible
  have same := unchanged choice state
  refine ⟨?_, shows choice state inv holds admissible, ?_⟩
  · rw [same]
    exact ⟨inv, fun other _ => (waitProtocol key).rely_refl other state⟩
  · rw [same]
    exact holds

/-- A fact about a value need not be carried through a program. -/
theorem triple_of_fact
    {α : Type}
    {fact : Prop}
    {pre : State → Prop}
    {program : Prog α}
    {post : α → State → Prop}
    (triple : fact → WaitTriple key thread pre program post) :
    WaitTriple key thread (fun state => fact ∧ pre state) program post :=
  fun state inv holds => triple holds.1 state inv holds.2

/-- The Call-ID is given, and read under the key. -/
theorem callId_triple
    {pre : State → Prop}
    (stable : WaitStable key thread pre) :
    WaitTriple key thread pre (call .callId) fun callId state =>
      (IsGiven callId ∧ lockKey callId = key) ∧ pre state := by
  refine look_triple stable (fun _ _ => rfl) ?_
  intro choice state inv _ reads
  exact ⟨⟨Option.some_ne_none _, List.length_pos_of_ne_nil inv.given⟩, reads⟩

/-! ## Events that are noted -/

/-- An event that is none of the waiting thread's. -/
theorem WaitInv.note
    {event : Event}
    (inv : WaitInv key state)
    (notWaiters : event.isWaiters = false)
    (sent : event.isWorkers → state.inviteSent)
    (woken : ∀ entry, state.reqLock.find key = some entry →
      hasWaited state.log = false →
        firstHandled (event :: state.log) ≠ none → entry.locked = false) :
    WaitInv key (state.note event) := by
  have others : ∀ other ∈ [event], other.isWaiters = false := by
    simpa using notWaiters
  have waits : hasWaited (event :: state.log) = hasWaited state.log := by
    rw [← List.singleton_append, hasWaited_append, hasWaited_eq_false others,
      Bool.false_or]
  have settles : isSettled (event :: state.log) = isSettled state.log := by
    rw [← List.singleton_append, isSettled_append, isSettled_eq_false others,
      Bool.false_or]
  refine
    { given := inv.given
      unsent := ?_
      present := fun isSent waiting => inv.present isSent (waits ▸ waiting)
      settled := fun settled => waits ▸ inv.settled (settles ▸ settled)
      free := ?_
      woken := fun entry found waiting =>
        woken entry found (waits ▸ waiting)
      decided := ?_ }
  · intro unsent
    have unsent : state.inviteSent = false := unsent
    have notWorkers : event.isWorkers = false := by
      by_contra isWorkers
      rw [Bool.not_eq_false] at isWorkers
      rw [sent isWorkers] at unsent
      cases unsent
    rw [State.note, List.forall_mem_cons]
    exact ⟨notWorkers, inv.unsent unsent⟩
  · intro entry found waiting unlocked
    rw [State.note, ← List.singleton_append]
    exact firstOutcome_append
      (inv.free entry found (waits ▸ waiting) unlocked)
  · refine (outcomesDecided_cons ?_).mpr inv.decided
    rintro value rfl
    cases notWaiters

/-- Once the wait is over, the protocol asks nothing of the entry. -/
theorem WaitInv.ofOver
    (inv : WaitInv key before)
    (callId : after.callId = before.callId)
    (inviteSent : before.inviteSent → after.inviteSent)
    {later : List Event}
    (log : after.log = later ++ before.log)
    (notWorkers : ∀ event ∈ later, event.isWorkers = false)
    (isOver : hasWaited after.log)
    (decided : OutcomesDecided after.log) :
    WaitInv key after where
  given := callId ▸ inv.given
  unsent unsent := by
    have unsentBefore : before.inviteSent = false := by
      by_contra sent
      rw [Bool.not_eq_false] at sent
      rw [inviteSent sent] at unsent
      cases unsent
    rw [log, List.forall_mem_append]
    exact ⟨notWorkers, inv.unsent unsentBefore⟩
  present _ waiting := by
    rw [isOver] at waiting
    cases waiting
  settled _ := isOver
  free _ _ waiting := by
    rw [isOver] at waiting
    cases waiting
  woken _ _ waiting := by
    rw [isOver] at waiting
    cases waiting
  decided := decided

/-- The waiting thread acts at or after the end of its wait. -/
theorem keeps_over
    (inv : WaitInv key before)
    (callId : after.callId = before.callId)
    (inviteSent : before.inviteSent → after.inviteSent)
    {later : List Event}
    (log : after.log = later ++ before.log)
    (notWorkers : ∀ event ∈ later, event.isWorkers = false)
    (isOver : hasWaited after.log)
    (nodes : ∀ entry, after.reqLock.find key = some entry →
      ∃ earlier, before.reqLock.find key = some earlier ∧
        earlier.node = entry.node)
    (decided : OutcomesDecided after.log) :
    (waitProtocol key).Keeps .caller before after := by
  apply keeps_caller
    (inv.ofOver callId inviteSent log notWorkers isOver decided)
  refine ⟨callId, inviteSent, ⟨later, log, notWorkers⟩, ?_, fun _ => nodes⟩
  intro _ waiting
  rw [isOver] at waiting
  cases waiting

/-- The worker notes an event. -/
theorem workerSteps_note
    {event : Event}
    (notWaiters : event.isWaiters = false) :
    WorkerSteps key state (state.note event) where
  callId := rfl
  inviteSent := rfl
  log := ⟨[event], rfl, by simpa using notWaiters⟩
  present := Iff.rfl
  stores entry found := .inr (.inl ⟨entry, found, rfl⟩)

/-- The waiting thread notes an event. -/
theorem waiterSteps_note
    {event : Event}
    (notWorkers : event.isWorkers = false) :
    WaiterSteps key state (state.note event) where
  callId := rfl
  inviteSent := id
  log := ⟨[event], rfl, by simpa using notWorkers⟩
  entry _ _ := rfl
  nodes _ entry found := ⟨entry, found, rfl⟩

/-- The worker acts on the dialog. -/
theorem worker_act_triple
    {operation : Op}
    {event : Event}
    {pre : State → Prop}
    {post : Res operation → State → Prop}
    (stable : WaitStable key .worker pre)
    (postStable : ∀ result, WaitStable key .worker (post result))
    (notes : ∀ choice state, (exec operation choice state).2 =
      state.note event)
    (notWaiters : event.isWaiters = false)
    (notWorkers : event.isWorkers = false)
    (holds : ∀ state, pre state → ∀ result, post result (state.note event)) :
    WaitTriple key .worker pre (call operation) post := by
  refine .call stable postStable ?_
  intro state choice inv reached _
  rw [notes]
  refine ⟨keeps_worker ?_ (workerSteps_note notWaiters),
    holds state reached _⟩
  refine inv.note notWaiters ?_ ?_
  · rw [notWorkers]
    exact fun impossible => absurd impossible Bool.false_ne_true
  · intro entry found waiting handled
    apply inv.woken entry found waiting
    have unselected : event.handledMessage = none := by
      cases event <;> first | rfl | cases notWorkers
    rwa [firstHandled, firstOutcome_cons_of_none unselected] at handled

/-! ## The worker thread -/

theorem Event.dispatchedMessage_eq_none
    {event : Event}
    (notWorkers : event.isWorkers = false) :
    event.dispatchedMessage = none := by
  cases event <;> first | rfl | cases notWorkers

/-- As long as the wait goes on, something is known of the entry and of the
first final response. -/
def WhileWaiting (key : Octets) (fact : SSync → Option Int → Prop)
    (state : State) : Prop :=
  state.inviteSent ∧ (hasWaited state.log = false →
    ∃ entry, state.reqLock.find key = some entry ∧
      fact entry (firstDispatched state.log))

theorem whileWaiting_stable (fact : SSync → Option Int → Prop) :
    WaitStable key .worker (WhileWaiting key fact) := by
  rintro before after - ⟨sent, known⟩ rely -
  have rely : WaiterSteps key before after := rely
  obtain ⟨later, appended, others⟩ := rely.log
  refine ⟨rely.inviteSent sent, fun waiting => ?_⟩
  have waitingBefore : hasWaited before.log = false := by
    rw [appended, hasWaited_append, Bool.or_eq_false_iff] at waiting
    exact waiting.2
  obtain ⟨entry, found, holds⟩ := known waitingBefore
  refine ⟨entry, (rely.entry sent waiting).trans found, ?_⟩
  rw [appended, firstDispatched, firstOutcome_append_of_none fun event member =>
    Event.dispatchedMessage_eq_none (others event member)]
  exact holds

/-- The INVITE was sent. -/
def SentOut (state : State) : Prop :=
  state.inviteSent

theorem sentOut_stable : WaitStable key .worker SentOut :=
  fun _ _ _ sent rely _ => WaiterSteps.inviteSent rely sent

/-- The entry has the outcome of the first final response. -/
def Stored (entry : SSync) (outcome : Option Int) : Prop :=
  outcome = some entry.result

/-- The mutex of the entry is free. -/
def Free (entry : SSync) (_ : Option Int) : Prop :=
  entry.locked = false

/-- The worker has an iterator: if the entry is still there, it is at this
node. -/
def PointsTo (key : Octets) (node : Nat) (state : State) : Prop :=
  SentOut state ∧
    ∀ entry, state.reqLock.find key = some entry → entry.node = node

theorem pointsTo_stable (node : Nat) :
    WaitStable key .worker (PointsTo key node) := by
  rintro before after inv ⟨sent, same⟩ rely afterInv
  refine ⟨sentOut_stable before after inv sent rely afterInv, ?_⟩
  intro entry found
  obtain ⟨earlier, foundEarlier, sameNode⟩ :=
    WaiterSteps.nodes rely sent entry found
  exact sameNode.symm.trans (same earlier foundEarlier)

/-- What the worker knows after it has looked for the entry. -/
def LookedUp (key : Octets) (state : State) : Option Nat → Prop
  | some node => PointsTo key node state
  | none => SentOut state ∧ hasWaited state.log

theorem findLock_worker :
    WaitTriple key .worker SentOut (call (.findLock key))
      fun found state => LookedUp key state found := by
  have stable (found : Option Nat) :
      WaitStable key .worker fun state => LookedUp key state found := by
    cases found with
    | some node => exact pointsTo_stable node
    | none =>
        refine sentOut_stable.conj ?_
        rintro before after - isOver rely -
        obtain ⟨later, appended, -⟩ := WaiterSteps.log rely
        rw [appended, hasWaited_append, isOver, Bool.or_true]
  refine .call sentOut_stable stable ?_
  intro state choice inv sent _
  refine ⟨⟨inv, fun other _ => (waitProtocol key).rely_refl other state⟩, ?_⟩
  cases found : state.findLock key with
  | some node =>
      have looked : LookedUp key state (some node) := by
        refine ⟨sent, fun entry foundEntry => ?_⟩
        rw [State.findLock, foundEntry] at found
        exact Option.some.inj found
      simpa only [exec, found] using looked
  | none =>
      have looked : LookedUp key state none := by
        refine ⟨sent, ?_⟩
        by_contra waiting
        rw [Bool.not_eq_true] at waiting
        exact findLock_eq_none.mp found (inv.present sent waiting)
      simpa only [exec, found] using looked

/-- The worker changes the entry of the request. -/
theorem keeps_updateLock
    {change : SSync → SSync}
    (inv : WaitInv key state)
    (free : ∀ entry, state.reqLock.find key = some entry →
      hasWaited state.log = false → (change entry).locked = false →
        firstDispatched state.log = some (change entry).result)
    (woken : ∀ entry, state.reqLock.find key = some entry →
      entry.locked = false → (change entry).locked = false)
    (stores : ∀ entry, state.reqLock.find key = some entry →
      isSettled state.log ∨ entry.result = (change entry).result ∨
        firstDispatched state.log = some (change entry).result) :
    (waitProtocol key).Keeps .worker state
      (state.updateLock key change) := by
  have changed {entry : SSync}
      (found : (state.updateLock key change).reqLock.find key = some entry) :
      ∃ earlier, state.reqLock.find key = some earlier ∧
        change earlier = entry := by
    rwa [find_updateLock, if_pos rfl, Option.map_eq_some_iff] at found
  refine keeps_worker
    { given := by simpa using inv.given
      unsent := by simpa using inv.unsent
      present := by simpa [mem_updateLock] using inv.present
      settled := by simpa using inv.settled
      free := ?_
      woken := ?_
      decided := by simpa using inv.decided }
    { callId := updateLock_callId _ _ _
      inviteSent := updateLock_inviteSent _ _ _
      log := ⟨[], updateLock_log _ _ _, List.forall_mem_nil _⟩
      present := mem_updateLock change
      stores := ?_ }
  · intro entry found waiting unlocked
    obtain ⟨earlier, foundEarlier, rfl⟩ := changed found
    rw [updateLock_log] at waiting ⊢
    exact free earlier foundEarlier waiting unlocked
  · intro entry found waiting handled
    obtain ⟨earlier, foundEarlier, rfl⟩ := changed found
    rw [updateLock_log] at waiting handled
    exact woken earlier foundEarlier
      (inv.woken earlier foundEarlier waiting handled)
  · intro entry found
    obtain ⟨earlier, foundEarlier, rfl⟩ := changed found
    rw [updateLock_log]
    rcases stores earlier foundEarlier with settled | same | first
    · exact .inl settled
    · exact .inr (.inl ⟨earlier, foundEarlier, same⟩)
    · exact .inr (.inr first)

theorem find_of_waiting
    (inv : WaitInv key state)
    (sent : state.inviteSent)
    (waiting : hasWaited state.log = false) :
    ∃ entry, state.reqLock.find key = some entry :=
  Option.isSome_iff_exists.mp
    (ReqLock.isSome_find.mpr (inv.present sent waiting))

/-- Once its entry was erased, what the worker changes through its iterator is
of no concern to the request. -/
theorem keeps_updateAt_erased
    (inv : WaitInv key state)
    (erased : key ∉ state.reqLock)
    (sent : state.inviteSent)
    (node : Nat)
    (reused : Option Octets)
    (change : SSync → SSync) :
    let later := state.updateAt key node reused change
    (waitProtocol key).Keeps .worker state later ∧
      PointsTo key node later ∧
        ∀ fact, WhileWaiting key fact later := by
  intro later
  have isOver : hasWaited state.log := by
    by_contra waiting
    rw [Bool.not_eq_true] at waiting
    exact erased (inv.present sent waiting)
  have isOverLater : hasWaited later.log := by
    rwa [updateAt_log]
  have absent (entry : SSync) : later.reqLock.find key ≠ some entry := by
    rw [find_updateAt_of_erased erased]
    exact nofun
  have sentLater : later.inviteSent := (updateAt_inviteSent ..).trans sent
  refine ⟨keeps_worker
    (inv.ofOver (updateAt_callId ..) (fun _ => sentLater)
      (show later.log = [] ++ state.log from updateAt_log ..)
      (List.forall_mem_nil _) isOverLater ?_)
    { callId := updateAt_callId ..
      inviteSent := updateAt_inviteSent ..
      log := ⟨[], updateAt_log .., List.forall_mem_nil _⟩
      present := mem_updateAt ..
      stores := fun entry found => absurd found (absent entry) },
    ⟨sentLater, fun entry found => absurd found (absent entry)⟩,
    fun fact => ⟨sentLater, fun waiting => ?_⟩⟩
  · rw [updateAt_log]
    exact inv.decided
  · rw [isOverLater] at waiting
    cases waiting

/-- A result is stored that the condition admits. -/
theorem setResult_worker (node : Nat) (result : Int) :
    WaitTriple key .worker (PointsTo key node)
      (call (.setResult key node result))
      fun _ state => PointsTo key node state ∧
        WhileWaiting key Stored state := by
  refine .call (pointsTo_stable node) (fun _ =>
    (pointsTo_stable node).conj (whileWaiting_stable Stored)) ?_
  rintro state choice inv ⟨sent, points⟩ admissible
  have admissible : isSettled state.log ∨
      firstDispatched state.log = some result := admissible
  rcases updateAt_of_node points choice.reused
    (fun entry => { entry with result := result }) with valid | erased
  case inr =>
    obtain ⟨keeps, pointsLater, known⟩ := keeps_updateAt_erased inv erased sent
      node choice.reused fun entry => { entry with result := result }
    exact ⟨keeps, pointsLater, known Stored⟩
  rw [exec, valid]
  have first (waiting : hasWaited state.log = false) :
      firstDispatched state.log = some result := by
    apply admissible.resolve_left
    intro settled
    rw [inv.settled settled] at waiting
    cases waiting
  refine ⟨keeps_updateLock inv ?_ ?_ ?_, ?_, ?_⟩
  · exact fun entry found waiting unlocked => first waiting
  · exact fun entry found unlocked => unlocked
  · exact fun entry found => admissible.imp_right .inr
  · refine ⟨(updateLock_inviteSent _ _ _).trans sent, fun entry found => ?_⟩
    rw [find_updateLock, if_pos rfl, Option.map_eq_some_iff] at found
    obtain ⟨earlier, foundEarlier, rfl⟩ := found
    exact points earlier foundEarlier
  · refine ⟨(updateLock_inviteSent _ _ _).trans sent, fun waiting => ?_⟩
    rw [updateLock_log] at waiting
    obtain ⟨entry, found⟩ := find_of_waiting inv sent waiting
    refine ⟨{ entry with result := result }, ?_, ?_⟩
    · simp [find_updateLock, found]
    · simp [Stored, first waiting]

/-- The mutex is unlocked once the result is there. -/
theorem unlock_worker (node : Nat) :
    WaitTriple key .worker
      (fun state => PointsTo key node state ∧ WhileWaiting key Stored state)
      (call (.unlock key node)) fun _ => WhileWaiting key Free := by
  refine .call ((pointsTo_stable node).conj (whileWaiting_stable Stored))
    (fun _ => whileWaiting_stable Free) ?_
  rintro state choice inv ⟨⟨sent, points⟩, -, stored⟩ -
  rcases updateAt_of_node points choice.reused
    (fun entry => { entry with locked := false }) with valid | erased
  case inr =>
    obtain ⟨keeps, -, known⟩ := keeps_updateAt_erased inv erased sent
      node choice.reused fun entry => { entry with locked := false }
    exact ⟨keeps, known Free⟩
  rw [exec, valid]
  refine ⟨keeps_updateLock inv ?_ ?_ ?_, ?_, ?_⟩
  · intro entry found waiting _
    obtain ⟨same, foundSame, holds⟩ := stored waiting
    obtain rfl := Option.some.inj (found.symm.trans foundSame)
    exact holds
  · exact fun _ _ _ => rfl
  · exact fun entry found => .inr (.inl rfl)
  · exact (updateLock_inviteSent _ _ _).trans sent
  · intro waiting
    rw [updateLock_log] at waiting
    obtain ⟨entry, found, -⟩ := stored waiting
    refine ⟨{ entry with locked := false }, ?_, rfl⟩
    simp [find_updateLock, found]

/-- `sync_ulck` leaves the mutex free for a waiter that still waits. -/
theorem syncUlck_worker
    {callId : PjStr}
    (given : IsGiven callId ∧ lockKey callId = key)
    (result : Int) :
    WaitTriple key .worker SentOut (syncUlck callId result)
      fun _ => WhileWaiting key Free := by
  obtain ⟨isGiven, rfl⟩ := given
  rw [syncUlck, if_pos isGiven]
  refine findLock_worker.bind fun found => ?_
  cases found with
  | some node =>
      exact (setResult_worker node result).bind fun _ => unlock_worker node
  | none =>
      refine .returns (whileWaiting_stable Free) ?_
      rintro state - ⟨sent, isOver⟩
      refine ⟨sent, fun waiting => ?_⟩
      rw [isOver] at waiting
      cases waiting

theorem WhileWaiting.sentOut
    {fact : SSync → Option Int → Prop}
    (known : WhileWaiting key fact state) :
    SentOut state :=
  known.1

/-- An event of the dialog leaves the mutex free. -/
theorem whileWaiting_free_note
    {event : Event}
    (free : WhileWaiting key Free state) :
    WhileWaiting key Free (state.note event) := by
  refine ⟨free.1, fun waiting => ?_⟩
  rw [State.note, ← List.singleton_append, hasWaited_append,
    Bool.or_eq_false_iff] at waiting
  exact free.2 waiting.2

/-- The mutex is free if the message is a final response. -/
def Answered (key : Octets) (message : RxMessage) (state : State) : Prop :=
  SentOut state ∧
    (message.outcome ≠ none → WhileWaiting key Free state)

theorem answered_stable (message : RxMessage) :
    WaitStable key .worker (Answered key message) :=
  sentOut_stable.conj fun before after inv free rely afterInv final =>
    whileWaiting_stable Free before after inv (free final) rely afterInv

/-- The worker acts on the dialog and knows nothing new. -/
theorem act_sentOut
    {operation : Op}
    {event : Event}
    (notes : ∀ choice state, (exec operation choice state).2 =
      state.note event)
    (notWaiters : event.isWaiters = false)
    (notWorkers : event.isWorkers = false) :
    WaitTriple key .worker SentOut (call operation) fun _ => SentOut :=
  worker_act_triple sentOut_stable (fun _ => sentOut_stable) notes notWaiters
    notWorkers fun _ sent _ => sent

/-- A result is stored for the Call-ID of the dialog. -/
theorem answer_triple
    {α : Type}
    {next : Unit → Prog α}
    {post : α → State → Prop}
    (result : Int)
    (rest : WaitTriple key .worker (WhileWaiting key Free) (next ()) post) :
    WaitTriple key .worker SentOut
      (call .callId >>= fun callId => syncUlck callId result >>= next)
      post :=
  (callId_triple sentOut_stable).bind fun _ => triple_of_fact fun given =>
    (syncUlck_worker given result).bind fun _ => rest

theorem onRxResponse_worker (rxData : RxData) :
    WaitTriple key .worker SentOut (onRxResponse rxData)
      fun _ => Answered key (.response rxData) := by
  have ends (value : Bool) : WaitTriple key .worker (WhileWaiting key Free)
      (.ret value) fun _ => Answered key (.response rxData) :=
    .returns (answered_stable _) fun _ _ free => ⟨free.sentOut, fun _ => free⟩
  by_cases success : (RxMessage.response rxData).isSuccess
  · rw [onRxResponse_success success]
    refine (act_sentOut (fun _ _ => rfl) rfl rfl).bind fun _ =>
      answer_triple 0 ?_
    have sendsBye : WaitTriple key .worker (WhileWaiting key Free)
        (call .sendBye) fun _ => WhileWaiting key Free :=
      worker_act_triple (whileWaiting_stable Free)
        (fun _ => whileWaiting_stable Free) (fun _ _ => rfl) rfl rfl
        fun _ free _ => whileWaiting_free_note free
    exact sendsBye.bind fun _ => ends true
  · by_cases failure : (RxMessage.response rxData).isFailure
    · rw [onRxResponse_failure failure]
      exact (act_sentOut (fun _ _ => rfl) rfl rfl).bind fun _ =>
        answer_triple rxData.status (ends false)
    · by_cases answers : (RxMessage.response rxData).answersBye
      · rw [onRxResponse_bye answers]
        exact answer_triple 0 (ends false)
      · rw [onRxResponse_other success failure answers]
        refine .returns (answered_stable _) fun _ _ sent => ⟨sent, ?_⟩
        intro final
        apply absurd _ final
        rw [RxMessage.outcome, if_neg success, if_neg failure]

theorem onRxRequest_worker (rxData : RxData) :
    WaitTriple key .worker SentOut (onRxRequest rxData)
      fun _ => Answered key (.request rxData) := by
  have ends : WaitTriple key .worker SentOut (.ret false)
      fun _ => Answered key (.request rxData) :=
    .returns (answered_stable _) fun _ _ sent =>
      ⟨sent, fun final => absurd rfl final⟩
  unfold onRxRequest
  refine .ite (fun _ => ?_) fun _ => ends
  by_cases isBye : rxData.sipMethod = .bye
  · simp only [isBye, if_true]
    exact (act_sentOut (fun _ _ => rfl) rfl rfl).bind fun _ => ends
  · simp only [isBye, if_false]
    exact ends

theorem dispatch_worker (message : RxMessage) :
    WaitTriple key .worker SentOut (dispatch message)
      fun _ => Answered key message := by
  cases message with
  | request rxData => exact onRxRequest_worker rxData
  | response rxData => exact onRxResponse_worker rxData

/-- A message can be dispatched once the INVITE was sent. -/
theorem handleEvents_worker :
    WaitTriple key .worker (fun _ => True) (call .handleEvents)
      fun message state => message.isSome → SentOut state := by
  have stable (message : Option RxMessage) :
      WaitStable key .worker fun state => message.isSome → SentOut state :=
    fun before after inv sent rely afterInv isSome =>
      sentOut_stable before after inv (sent isSome) rely afterInv
  refine .call (Protocol.Stable.const True) stable ?_
  intro state choice inv _ _
  have nothing : (waitProtocol key).Keeps .worker state state :=
    ⟨inv, fun other _ => (waitProtocol key).rely_refl other state⟩
  cases dispatched : choice.message with
  | none => simpa [exec, dispatched] using nothing
  | some message =>
      by_cases sent : state.inviteSent
      · have noted := keeps_worker
          (inv.note (show (Event.dispatched message).isWaiters = false
            from rfl) (fun _ => sent) ?_) (workerSteps_note rfl)
        · simp only [exec, dispatched, sent, if_true]
          exact ⟨noted, fun _ => sent⟩
        · intro entry found waiting handled
          apply inv.woken entry found waiting
          rwa [firstHandled, firstOutcome_cons_of_none rfl] at handled
      · simpa [exec, dispatched, sent] using nothing

/-- A final response has freed the mutex when its handling ends. -/
theorem noteHandled_worker (message : RxMessage) :
    WaitTriple key .worker (Answered key message)
      (call (.note (.handled message))) fun _ _ => True := by
  refine .call (answered_stable message)
    (fun _ => Protocol.Stable.const True) ?_
  rintro state choice inv ⟨sent, free⟩ -
  refine ⟨keeps_worker (inv.note rfl (fun _ => sent) ?_)
    (workerSteps_note rfl), trivial⟩
  intro entry found waiting handled
  by_cases earlier : firstHandled state.log = none
  · have final : message.outcome ≠ none := by
      unfold firstHandled at handled earlier
      rwa [firstOutcome, earlier, Option.none_or] at handled
    obtain ⟨same, foundSame, unlocked⟩ := (free final).2 waiting
    obtain rfl := Option.some.inj (found.symm.trans foundSame)
    exact unlocked
  · exact inv.woken entry found waiting earlier

theorem workerThread_triple :
    WaitTriple key .worker (fun _ => True) workerThread
      fun _ _ => True := by
  refine handleEvents_worker.bind fun message => ?_
  cases message with
  | none => exact .returns (Protocol.Stable.const True) fun _ _ _ => trivial
  | some message =>
      have handles : WaitTriple key .worker SentOut
          (dispatch message >>= fun _ =>
            call (.note (.handled message)) >>= fun _ => .ret Label.work)
          fun _ _ => True :=
        (dispatch_worker message).bind fun _ =>
          (noteHandled_worker message).bind fun _ =>
            .returns (Protocol.Stable.const True) fun _ _ _ => trivial
      exact handles.consequence (fun _ _ sent => sent rfl)
        fun _ _ _ holds => holds

end Dialog
end Sms112
