import Sms112.Dialogs.Settling

/-!
# Requests are settled

Both threads of a dialog keep to the protocol. With this, and because the
dialogs do not interfere, every request of the gateway returns what a message
of its own dialog gave it.
-/

namespace Sms112
namespace Dialogs

open Resumption
open Dialog (Event RxMessage RxData ReqLock SSync Thread Label IsGiven lockKey
  ETIMEDOUT)

variable {works : Bool} {key : Octets} {state : Dialog.State}
variable {message : RxMessage} {callId : PjStr}

/-! ## The worker thread -/

/-- A message of the dialog is being handled. -/
def Handling (message : RxMessage) (state : Dialog.State) : Prop :=
  state.inviteSent ∧ .dispatched message ∈ state.log

/-- Whatever the entry has was given by a message. -/
def EntryAnswered (key : Octets) (state : Dialog.State) : Prop :=
  ∀ entry, state.reqLock.find key = some entry →
    Answered entry.result state.log

/-- The caller does not take a dispatched message back. -/
theorem handling_stable (message : RxMessage) :
    SettleStable works key .worker (Handling message) := by
  rintro before after - ⟨sent, dispatched⟩ rely -
  have rely : CallerLeaves key before after := rely
  exact ⟨rely.inviteSent sent, rely.kept _ dispatched⟩

theorem answering_stable (message : RxMessage) :
    SettleStable works key .worker fun state =>
      Handling message state ∧ EntryAnswered key state := by
  rintro before after inv ⟨handling, answered⟩ rely afterInv
  refine ⟨handling_stable message before after inv handling rely afterInv,
    fun entry found => ?_⟩
  have rely : CallerLeaves key before after := rely
  obtain ⟨earlier, foundEarlier, same, -⟩ :=
    rely.results handling.1 entry found
  exact same ▸ (answered earlier foundEarlier).mono rely.kept

/-- A message is being handled with an iterator: if the entry is still there, it
is at this node. -/
def Pointing (key : Octets) (message : RxMessage) (node : Nat)
    (state : Dialog.State) : Prop :=
  Handling message state ∧
    ∀ entry, state.reqLock.find key = some entry → entry.node = node

/-- Once the INVITE was sent, the caller leaves the result of its entry
alone. -/
theorem pointing_stable (message : RxMessage) (node : Nat) :
    SettleStable works key .worker (Pointing key message node) := by
  rintro before after inv ⟨handling, points⟩ rely afterInv
  refine ⟨handling_stable message before after inv handling rely afterInv,
    fun entry found => ?_⟩
  obtain ⟨earlier, foundEarlier, -, same⟩ :=
    CallerLeaves.results rely handling.1 entry found
  exact same.symm.trans (points earlier foundEarlier)

/-- Through the iterator a result was stored that a message gave. -/
def Storing (key : Octets) (message : RxMessage) (node : Nat)
    (state : Dialog.State) : Prop :=
  Pointing key message node state ∧ EntryAnswered key state

theorem storing_stable (message : RxMessage) (node : Nat) :
    SettleStable works key .worker (Storing key message node) :=
  fun before after inv holds rely afterInv =>
    ⟨pointing_stable message node before after inv holds.1 rely afterInv,
      (answering_stable message before after inv ⟨holds.1.1, holds.2⟩ rely
        afterInv).2⟩

/-- What is found after a change was there before it. -/
theorem find_updateLock_self
    {change : SSync → SSync}
    {entry : SSync}
    (found : (state.updateLock key change).reqLock.find key = some entry) :
    ∃ earlier, state.reqLock.find key = some earlier ∧
      change earlier = entry := by
  rwa [Dialog.find_updateLock, if_pos rfl, Option.map_eq_some_iff] at found

/-- The entry changes, and is not free unless a message gave its result. -/
theorem SettleInv.updateLock
    {change : SSync → SSync}
    (inv : SettleInv works key state)
    (free : ∀ entry, state.reqLock.find key = some entry →
      (change entry).locked = false →
        Answered (change entry).result state.log) :
    SettleInv works key (state.updateLock key change) where
  callId := (Dialog.updateLock_callId ..).trans inv.callId
  free entry found unlocked := by
    obtain ⟨earlier, foundEarlier, rfl⟩ := find_updateLock_self found
    rw [Dialog.updateLock_log]
    exact free earlier foundEarlier unlocked
  accounted := by simpa using inv.accounted

/-- The worker changes the entry of the request. -/
theorem keeps_updateLock
    {change : SSync → SSync}
    (inv : SettleInv works key state)
    (free : ∀ entry, state.reqLock.find key = some entry →
      (change entry).locked = false →
        Answered (change entry).result state.log)
    (stores : ∀ entry, state.reqLock.find key = some entry →
      entry.result = (change entry).result ∨
        Answered (change entry).result state.log) :
    (settleProtocol works key).Keeps .worker state
      (state.updateLock key change) := by
  refine keeps_worker (inv.updateLock free)
    { inviteSent := Dialog.updateLock_inviteSent ..
      kept := by simp
      present := Dialog.mem_updateLock change
      stores := ?_ }
  intro entry found
  obtain ⟨earlier, foundEarlier, rfl⟩ := find_updateLock_self found
  rw [Dialog.updateLock_log]
  exact (stores earlier foundEarlier).imp_left fun same =>
    ⟨earlier, foundEarlier, same⟩

/-- Once its entry is gone, nothing changes for the dialog through an
iterator. -/
theorem keeps_updateAt_erased
    (inv : SettleInv works key state)
    (erased : key ∉ state.reqLock)
    (node : Nat)
    (reused : Option Octets)
    (change : SSync → SSync) :
    (settleProtocol works key).Keeps .worker state
      (state.updateAt key node reused change) := by
  have absent (entry : SSync) :
      (state.updateAt key node reused change).reqLock.find key ≠
        some entry := by
    rw [Dialog.find_updateAt_of_erased erased]
    exact nofun
  refine keeps_worker
    { callId := (Dialog.updateAt_callId ..).trans inv.callId
      free := fun entry found => absurd found (absent entry)
      accounted := by simpa using inv.accounted }
    { inviteSent := Dialog.updateAt_inviteSent ..
      kept := by simp
      present := Dialog.mem_updateAt ..
      stores := fun entry found => absurd found (absent entry) }

theorem Handling.updateAt
    (handling : Handling message state)
    (node : Nat)
    (reused : Option Octets)
    (change : SSync → SSync) :
    Handling message (state.updateAt key node reused change) :=
  ⟨(Dialog.updateAt_inviteSent ..).trans handling.1,
    (Dialog.updateAt_log ..).symm ▸ handling.2⟩

/-- The iterator that is found points to the entry of the request, if it is
still there. -/
theorem findLock_worker (message : RxMessage) :
    SettleTriple works key .worker (Handling message)
      (Dialog.call (.findLock key)) fun found state =>
        Handling message state ∧
          ∀ node, found = some node → Pointing key message node state := by
  have stable (found : Option Nat) : SettleStable works key .worker
      fun state => Handling message state ∧
        ∀ node, found = some node → Pointing key message node state :=
    (handling_stable message).conj
      fun before after inv points rely afterInv node same =>
        pointing_stable message node before after inv (points node same) rely
          afterInv
  refine .call (handling_stable message) stable ?_
  intro state choice inv handling _
  refine ⟨keeps_nothing inv, handling, fun node found => ⟨handling, ?_⟩⟩
  intro entry foundEntry
  have found : state.findLock key = some node := found
  have foundEntry : state.reqLock.find key = some entry := foundEntry
  rw [Dialog.State.findLock, foundEntry] at found
  exact Option.some.inj found

/-- The result that is set is what the message gives. -/
theorem setResult_worker
    {result : Int}
    (gives : answer message = some result)
    (node : Nat) :
    SettleTriple works key .worker (Pointing key message node)
      (Dialog.call (.setResult key node result))
      fun _ => Storing key message node := by
  refine .call (pointing_stable message node)
    (fun _ => storing_stable message node) ?_
  rintro state choice inv ⟨handling, points⟩ -
  have given : Answered result state.log := ⟨message, handling.2, gives⟩
  have handlingLater : Handling message (state.updateAt key node choice.reused
      fun entry => { entry with result := result }) :=
    handling.updateAt node choice.reused _
  rcases Dialog.updateAt_of_node points choice.reused
    (fun entry => { entry with result := result }) with valid | erased
  · rw [valid] at handlingLater
    rw [Dialog.exec, valid]
    refine ⟨keeps_updateLock inv (fun _ _ _ => given) fun _ _ => .inr given,
      ⟨handlingLater, fun entry found => ?_⟩, fun entry found => ?_⟩
    · obtain ⟨earlier, foundEarlier, rfl⟩ := find_updateLock_self found
      exact points earlier foundEarlier
    · obtain ⟨earlier, -, rfl⟩ := find_updateLock_self found
      exact (Dialog.updateLock_log ..).symm ▸ given
  · have missing := Dialog.find_updateAt_of_erased erased node choice.reused
      fun entry => { entry with result := result }
    refine ⟨keeps_updateAt_erased inv erased node choice.reused _,
      ⟨handlingLater, fun entry found => ?_⟩, fun entry found => ?_⟩
    · cases missing.symm.trans found
    · cases missing.symm.trans found

/-- The entry is unlocked only with a result that a message gave it. -/
theorem unlock_worker (message : RxMessage) (node : Nat) :
    SettleTriple works key .worker (Storing key message node)
      (Dialog.call (.unlock key node)) fun _ => Handling message := by
  refine .call (storing_stable message node)
    (fun _ => handling_stable message) ?_
  rintro state choice inv ⟨⟨handling, points⟩, answered⟩ -
  rcases Dialog.updateAt_of_node points choice.reused
    (fun entry => { entry with locked := false }) with valid | erased
  case inr =>
    exact ⟨keeps_updateAt_erased inv erased node choice.reused _,
      handling.updateAt node choice.reused _⟩
  rw [Dialog.exec, valid]
  exact ⟨keeps_updateLock inv (fun entry found _ => answered entry found)
      fun _ _ => .inl rfl,
    (Dialog.updateLock_inviteSent ..).trans handling.1,
    (Dialog.updateLock_log ..).symm ▸ handling.2⟩

/-- `sync_ulck` stores what the message gives. -/
theorem syncUlck_worker
    {result : Int}
    (reads : Reads works key callId)
    (gives : answer message = some result) :
    SettleTriple works key .worker (Handling message)
      (Dialog.syncUlck callId result) fun _ => Handling message := by
  have stays (value : Unit) : SettleTriple works key .worker (Handling message)
      (.ret value) fun _ => Handling message :=
    .returns (handling_stable message) fun _ _ holds => holds
  unfold Dialog.syncUlck
  rw [reads.same]
  refine .ite (fun _ => ?_) fun _ => stays ()
  refine (findLock_worker message).bind fun found => ?_
  cases found with
  | some node =>
      exact ((setResult_worker gives node).bind
        fun _ => unlock_worker message node).consequence
          (fun _ _ holds => holds.2 node rfl) fun _ _ _ handling => handling
  | none =>
      exact (stays ()).consequence (fun _ _ holds => holds.1)
        fun _ _ _ handling => handling

/-- The value is stored for the Call-ID of the dialog. -/
theorem answer_triple
    {α : Type}
    {next : Unit → Dialog.Prog α}
    {post : α → Dialog.State → Prop}
    {result : Int}
    (gives : answer message = some result)
    (rest : SettleTriple works key .worker (Handling message) (next ()) post) :
    SettleTriple works key .worker (Handling message)
      (Dialog.call .callId >>= fun callId =>
        Dialog.syncUlck callId result >>= next) post :=
  (callId_triple (handling_stable message)).bind fun _ =>
    triple_of_fact fun reads => (syncUlck_worker reads gives).bind
      fun _ => rest

/-- The worker acts on the dialog. -/
theorem act_worker
    {operation : Dialog.Op}
    {event : Event}
    (message : RxMessage)
    (notes : ∀ choice state,
      (Dialog.exec operation choice state).2 = state.note event)
    (noReturn : isReturn event = false) :
    SettleTriple works key .worker (Handling message) (Dialog.call operation)
      fun _ => Handling message :=
  note_triple (handling_stable message) notes noReturn
    fun _ handling => ⟨handling.1, kept_note event _ handling.2⟩

/-- A response stores the value it gives, or leaves the entry alone. -/
theorem onRxResponse_worker (rxData : RxData) :
    SettleTriple works key .worker (Handling (.response rxData))
      (Dialog.onRxResponse rxData) fun _ => Handling (.response rxData) := by
  have ends (value : Bool) : SettleTriple works key .worker
      (Handling (.response rxData)) (.ret value)
      fun _ => Handling (.response rxData) :=
    .returns (handling_stable _) fun _ _ holds => holds
  by_cases success : (RxMessage.response rxData).isSuccess
  · rw [Dialog.onRxResponse_success success]
    refine (act_worker _ (fun _ _ => rfl) rfl).bind fun _ =>
      answer_triple (if_pos (.inl success)) ?_
    exact (act_worker _ (fun _ _ => rfl) rfl).bind fun _ => ends true
  · by_cases answersBye : (RxMessage.response rxData).answersBye
    · rw [Dialog.onRxResponse_bye answersBye]
      exact answer_triple (if_pos (.inr answersBye)) (ends false)
    · by_cases failure : (RxMessage.response rxData).isFailure
      · have gives : answer (.response rxData) = some rxData.status := by
          rw [answer, if_neg (not_or.mpr ⟨success, answersBye⟩)]
          exact if_pos failure
        rw [Dialog.onRxResponse_failure failure]
        exact (act_worker _ (fun _ _ => rfl) rfl).bind fun _ =>
          answer_triple gives (ends false)
      · rw [Dialog.onRxResponse_other success failure answersBye]
        exact ends false

/-- A request of the other side settles nothing. -/
theorem onRxRequest_worker (rxData : RxData) :
    SettleTriple works key .worker (Handling (.request rxData))
      (Dialog.onRxRequest rxData) fun _ => Handling (.request rxData) := by
  have ends : SettleTriple works key .worker (Handling (.request rxData))
      (.ret false) fun _ => Handling (.request rxData) :=
    .returns (handling_stable _) fun _ _ holds => holds
  unfold Dialog.onRxRequest
  refine .ite (fun _ => ?_) fun _ => ends
  by_cases isBye : rxData.sipMethod = .bye
  · simp only [isBye, if_true]
    exact (act_worker _ (fun _ _ => rfl) rfl).bind fun _ => ends
  · simp only [isBye, if_false]
    exact ends

/-- So does a message, on each of its ways through the handlers. -/
theorem dispatch_worker (message : RxMessage) :
    SettleTriple works key .worker (Handling message) (Dialog.dispatch message)
      fun _ => Handling message := by
  cases message with
  | request rxData => exact onRxRequest_worker rxData
  | response rxData => exact onRxResponse_worker rxData

theorem handleEvents_worker :
    SettleTriple works key .worker (fun _ => True) (Dialog.call .handleEvents)
      fun event state => ∀ message, event = some message →
        Handling message state := by
  have stable (event : Option RxMessage) : SettleStable works key .worker
      fun state => ∀ message, event = some message →
        Handling message state :=
    fun before after inv handling rely afterInv message same =>
      handling_stable message before after inv (handling message same) rely
        afterInv
  refine .call (Protocol.Stable.const True) stable ?_
  intro state choice inv _ _
  obtain none | ⟨message, sent, some⟩ := handleEvents_cases choice state
  · rw [none]
    exact ⟨keeps_nothing inv, nofun⟩
  · rw [some]
    refine ⟨keeps_note inv rfl, fun same isSame => ?_⟩
    cases isSame
    exact ⟨sent, List.mem_cons_self⟩

/-- So does a turn of the worker thread. -/
theorem workerThread_settles :
    SettleTriple works key .worker (fun _ => True) Dialog.workerThread
      fun _ _ => True := by
  refine handleEvents_worker.bind fun event => ?_
  cases event with
  | none => exact .returns (Protocol.Stable.const True) fun _ _ _ => trivial
  | some message =>
      have handles : SettleTriple works key .worker (Handling message)
          (Dialog.dispatch message >>= fun _ =>
            Dialog.call (.note (.handled message)) >>= fun _ =>
              .ret Label.work)
          fun _ _ => True :=
        (dispatch_worker message).bind fun _ =>
          (act_worker message (fun _ _ => rfl) rfl).bind fun _ =>
            .returns (Protocol.Stable.const True) fun _ _ _ => trivial
      exact handles.consequence (fun _ _ handling => handling message rfl)
        fun _ _ _ holds => holds

/-! ## The request -/

/-- The INVITE is not sent. -/
def Fresh (state : Dialog.State) : Prop :=
  state.inviteSent = false

/-- The request has its entry, if its Call-ID is not empty. -/
def Waiting (key : Octets) (state : Dialog.State) : Prop :=
  key ≠ [] → key ∈ state.reqLock

/-- The entry is there, and the request waits. -/
def Registered (key : Octets) (state : Dialog.State) : Prop :=
  key ∈ state.reqLock

/-- The wait has ended, and the entry has what a message gave. -/
structure Woken (key : Octets) (state : Dialog.State) : Prop where
  registered : Registered key state
  answered : EntryAnswered key state

/-- A value is to be returned. -/
def Ended (works : Bool) (value : Int) (state : Dialog.State) : Prop :=
  Explained works value state.log

theorem fresh_stable : SettleStable works key .caller Fresh :=
  fun _ _ _ fresh rely _ => (WorkerLeaves.inviteSent rely).trans fresh

theorem waiting_stable : SettleStable works key .caller (Waiting key) :=
  fun _ _ _ waiting rely _ named =>
    (WorkerLeaves.present rely).mpr (waiting named)

theorem registered_stable : SettleStable works key .caller (Registered key) :=
  fun _ _ _ registered rely _ => (WorkerLeaves.present rely).mpr registered

theorem woken_stable : SettleStable works key .caller (Woken key) := by
  rintro before after inv woken rely afterInv
  refine ⟨registered_stable before after inv woken.registered rely afterInv,
    fun entry found => ?_⟩
  have rely : WorkerLeaves key before after := rely
  rcases rely.stores entry found with ⟨earlier, foundEarlier, same⟩ | stored
  · exact same ▸ (woken.answered earlier foundEarlier).mono rely.kept
  · exact stored

theorem ended_stable (value : Int) :
    SettleStable works key .caller (Ended works value) :=
  fun _ _ _ ended rely _ => Explained.mono ended (WorkerLeaves.kept rely)

/-- Counting the session changes nothing for the entry. -/
theorem incSession_caller :
    SettleTriple works key .caller Fresh (Dialog.call .incSession)
      fun _ => Fresh :=
  note_triple fresh_stable (fun _ _ => rfl) rfl fun _ fresh => fresh

/-- The entry is created. -/
theorem SettleInv.insertLock
    (inv : SettleInv works key state)
    (node : Nat) :
    SettleInv works key (state.insertLock key node) := by
  unfold Dialog.State.insertLock
  split
  next => exact inv
  next absent =>
    exact
      { callId := inv.callId
        free := by
          intro entry found unlocked
          rw [ReqLock.find_insert, if_pos rfl] at found
          cases found
          cases unlocked
        accounted := inv.accounted }

theorem insertLock_present (node : Nat) :
    key ∈ (state.insertLock key node).reqLock := by
  unfold Dialog.State.insertLock
  split
  next present => exact present
  next => exact (AList.mem_insert _).mpr (.inl rfl)

/-- `sync_init` -/
theorem syncInit_caller
    (reads : Reads works key callId) :
    SettleTriple works key .caller Fresh (Dialog.syncInit callId)
      fun _ state => Fresh state ∧ Waiting key state := by
  have stable : SettleStable works key .caller
      fun state => Fresh state ∧ Waiting key state :=
    fresh_stable.conj waiting_stable
  unfold Dialog.syncInit
  rw [reads.same]
  refine .ite (fun given => ?_) fun missing => ?_
  · refine .call fresh_stable (fun _ => stable) ?_
    intro state choice inv fresh _
    have unsent : Fresh (state.insertLock key choice.node) := by
      unfold Dialog.State.insertLock
      split <;> exact fresh
    have impossible (sent : state.inviteSent) : False := by
      rw [show state.inviteSent = false from fresh] at sent
      cases sent
    refine ⟨keeps_caller (inv.insertLock choice.node)
      { inviteSent := fun sent => (impossible sent).elim
        kept := fun event member =>
          (insertLock_log state key choice.node).symm ▸ member
        results := fun sent => (impossible sent).elim },
      unsent, fun _ => insertLock_present choice.node⟩
  · exact .returns stable fun _ _ fresh =>
      ⟨fresh, fun named => absurd (reads.given.mpr named) missing⟩

/-- The INVITE goes out with the entry in place, still locked. -/
theorem sendInvite_caller :
    SettleTriple works key .caller
      (fun state => Fresh state ∧ Waiting key state)
      (Dialog.call .sendInvite) fun _ => Waiting key := by
  refine .call (fresh_stable.conj waiting_stable) (fun _ => waiting_stable) ?_
  rintro state choice inv ⟨-, waiting⟩ -
  have sent : SettleInv works key { state with inviteSent := true } :=
    { callId := inv.callId
      free := inv.free
      accounted := inv.accounted }
  exact ⟨keeps_caller (sent.note rfl)
    (.of_same (fun _ => rfl) rfl (kept_note .inviteSent)), waiting⟩

/-- A look at the map shows whether the entry is there. -/
theorem findLock_caller
    {pre : Dialog.State → Prop}
    (stable : SettleStable works key .caller pre) :
    SettleTriple works key .caller pre (Dialog.call (.findLock key))
      fun found state => (found.isSome ↔ key ∈ state.reqLock) ∧
        pre state := by
  have shown (found : Option Nat) : SettleStable works key .caller
      fun state => found.isSome ↔ key ∈ state.reqLock := by
    rintro before after - shows rely -
    have rely : WorkerLeaves key before after := rely
    exact shows.trans rely.present.symm
  refine .call stable (fun found => (shown found).conj stable) ?_
  intro state choice inv holds _
  exact ⟨keeps_nothing inv, Dialog.isSome_findLock, holds⟩

/-- The mutex is taken. -/
def taken (key : Octets) (state : Dialog.State) : Dialog.State :=
  (state.updateLock key fun entry =>
    { entry with locked := true }).note (.waited 0)

theorem kept_taken :
    ∀ event ∈ state.log, event ∈ (taken key state).log := by
  intro event member
  rw [← Dialog.updateLock_log] at member
  exact kept_note _ event member

/-- The mutex is free, and the request takes it. -/
theorem taken_caller
    (inv : SettleInv works key state)
    (registered : Registered key state)
    (answered : EntryAnswered key state) :
    (settleProtocol works key).Keeps .caller state (taken key state) ∧
      Woken key (taken key state) := by
  have later : SettleInv works key (taken key state) :=
    (inv.updateLock (by intro _ _ locked; cases locked)).note rfl
  have results : ∀ entry, (taken key state).reqLock.find key = some entry →
      ∃ earlier, state.reqLock.find key = some earlier ∧
        earlier.result = entry.result ∧ earlier.node = entry.node := by
    intro entry found
    obtain ⟨earlier, foundEarlier, rfl⟩ := find_updateLock_self found
    exact ⟨earlier, foundEarlier, rfl, rfl⟩
  refine ⟨keeps_caller later
    { inviteSent := (Dialog.updateLock_inviteSent ..).trans
      kept := kept_taken
      results := fun _ => results },
    (Dialog.mem_updateLock _).mpr registered, ?_⟩
  intro entry found
  obtain ⟨earlier, foundEarlier, same, -⟩ := results entry found
  exact same ▸ (answered earlier foundEarlier).mono kept_taken

/-- The wait ends at the deadline, or with what a message gave. -/
theorem timedLock_caller :
    SettleTriple works key .caller (Registered key)
      (Dialog.call (.timedLock key)) fun code state =>
        if code = 0 then Woken key state else Ended works code state := by
  have stable (code : Int) : SettleStable works key .caller fun state =>
      if code = 0 then Woken key state else Ended works code state := by
    split
    · exact woken_stable
    · exact ended_stable code
  refine .call registered_stable stable ?_
  intro state choice inv registered _
  obtain ⟨entry, found⟩ := Option.isSome_iff_exists.mp
    (ReqLock.isSome_find.mpr registered)
  cases locked : entry.locked with
  | true =>
      have timeout : state.timedLock key =
          (ETIMEDOUT, state.note (.waited ETIMEDOUT)) := by
        simp [Dialog.State.timedLock, found, locked]
      rw [Dialog.exec, timeout]
      refine ⟨keeps_note inv rfl, ?_⟩
      rw [if_neg (show ETIMEDOUT ≠ 0 by decide)]
      exact .inl rfl
  | false =>
      have success : state.timedLock key = (0, taken key state) := by
        simp [Dialog.State.timedLock, found, locked, taken]
      have answered : EntryAnswered key state := by
        intro same foundSame
        cases found.symm.trans foundSame
        exact inv.free entry found locked
      rw [Dialog.exec, success, if_pos rfl]
      exact taken_caller inv registered answered

/-- The request takes what a message gave. -/
theorem getResult_caller :
    SettleTriple works key .caller (Woken key) (Dialog.call (.getResult key))
      (Ended works) := by
  refine .call woken_stable ended_stable ?_
  intro state choice inv woken _
  obtain ⟨entry, found⟩ := Option.isSome_iff_exists.mp
    (ReqLock.isSome_find.mpr woken.registered)
  have read : state.lockResult key = entry.result := by
    rw [Dialog.State.lockResult, found, Option.map_some, Option.getD_some]
  rw [Dialog.exec, read]
  exact ⟨keeps_note inv rfl,
    .inr (.inl ((woken.answered entry found).mono (kept_note _)))⟩

/-- The clock gives a deadline where everything works. -/
theorem makeTimespecTimeout_caller (sec : Nat) :
    SettleTriple works key .caller (Registered key)
      (Dialog.call (.makeTimespecTimeout sec))
      fun made state => (works → made = 0) ∧ Registered key state :=
  look_triple registered_stable (fun _ _ => rfl)
    fun _ _ _ _ admissible does => if_pos (admissible.2 does).2

/-- The wait for the entry, and what comes of it. -/
theorem wait_caller (conf : SConf) :
    SettleTriple works key .caller (Registered key)
      (do
        let made ← Dialog.call (.makeTimespecTimeout conf.sipTimeout)
        if made = 0 then
          let iRetVal ← Dialog.call (.timedLock key)
          if iRetVal = 0 then
            Dialog.call (.getResult key)
          else
            return iRetVal
        else
          return -1)
      (Ended works) := by
  refine (makeTimespecTimeout_caller _).bind fun made =>
    triple_of_fact fun deadline => .ite (fun _ => ?_) fun failed => ?_
  · refine timedLock_caller.bind fun code => .ite (fun success => ?_)
      fun failed => ?_
    · simp only [success, if_true]
      exact getResult_caller
    · simp only [failed, if_false]
      exact .returns (ended_stable code) fun _ _ ended => ended
  · have broken : works = false := by
      by_contra does
      exact failed (deadline (Bool.not_eq_false _ ▸ does))
    exact .returns (ended_stable (-1)) fun _ _ _ => .inr (.inr ⟨broken, rfl⟩)

/-- `sync_lock` -/
theorem syncLock_caller
    (conf : SConf)
    (reads : Reads works key callId) :
    SettleTriple works key .caller (Waiting key)
      (Dialog.syncLock conf callId) (Ended works) := by
  unfold Dialog.syncLock
  rw [reads.same]
  refine .ite (fun given => ?_) fun missing => ?_
  · have named := reads.given.mp given
    refine (findLock_caller waiting_stable).bind fun found =>
      .ite (fun _ => ?_) fun missing => ?_
    · exact (wait_caller conf).consequence (fun _ _ holds => holds.2 named)
        fun _ _ _ ended => ended
    · exact .returns (ended_stable (-1)) fun _ _ holds =>
        absurd (holds.1.mpr (holds.2 named)) missing
  · have broken : works = false := by
      by_contra does
      exact missing (reads.given.mpr
        (reads.named (Bool.not_eq_false _ ▸ does)))
    exact .returns (ended_stable (-1)) fun _ _ _ => .inr (.inr ⟨broken, rfl⟩)

/-- The entry is erased. -/
theorem eraseLock_caller (value : Int) :
    SettleTriple works key .caller (Ended works value)
      (Dialog.call (.eraseLock key)) fun _ => Ended works value := by
  refine .call (ended_stable value) (fun _ => ended_stable value) ?_
  intro state choice inv ended _
  have none (entry : SSync) :
      ReqLock.find (AList.erase key state.reqLock) key ≠ some entry := by
    rw [ReqLock.find_erase, if_pos rfl]
    exact nofun
  exact ⟨keeps_caller
    { callId := inv.callId
      free := fun entry found => absurd found (none entry)
      accounted := inv.accounted }
    { inviteSent := id
      kept := fun _ member => member
      results := fun _ entry found => absurd found (none entry) },
    ended⟩

/-- `sync_del` -/
theorem syncDel_caller
    (reads : Reads works key callId)
    (value : Int) :
    SettleTriple works key .caller (Ended works value) (Dialog.syncDel callId)
      fun _ => Ended works value := by
  have passes : SettleTriple works key .caller (Ended works value) (.ret ())
      fun _ => Ended works value :=
    .returns (ended_stable value) fun _ _ ended => ended
  unfold Dialog.syncDel
  rw [reads.same]
  refine .ite (fun _ => ?_) fun _ => passes
  refine (findLock_caller (ended_stable value)).bind fun found => ?_
  exact (Protocol.Triple.ite (fun _ => eraseLock_caller value)
    fun _ => passes).weakenPre fun _ _ holds => holds.2

/-- `sms112_sip_send_req` -/
theorem sendReq_caller (conf : SConf) :
    SettleTriple works key .caller Fresh (Dialog.sendReq conf)
      (Ended works) := by
  refine incSession_caller.bind fun _ => (callId_triple fresh_stable).bind
    fun _ => triple_of_fact fun readsInit => (syncInit_caller readsInit).bind
      fun _ => sendInvite_caller.bind fun _ => ?_
  refine (callId_triple waiting_stable).bind fun _ =>
    triple_of_fact fun readsLock => (syncLock_caller conf readsLock).bind
      fun value => ?_
  refine (callId_triple (ended_stable value)).bind fun _ =>
    triple_of_fact fun readsDel => (syncDel_caller readsDel value).bind
      fun _ => ?_
  exact .returns (ended_stable value) fun _ _ ended => ended

/-- The value that is returned is explained. -/
theorem noteReturned_caller (value : Int) :
    SettleTriple works key .caller (Ended works value)
      (Dialog.call (.note (.returned value))) fun _ _ => True := by
  refine .call (ended_stable value) (fun _ => .const True) ?_
  intro state choice inv ended _
  refine ⟨keeps_caller
    { callId := inv.callId
      free := fun entry found unlocked =>
        (inv.free entry found unlocked).mono (kept_note _)
      accounted := inv.accounted.cons fun same isSame => ?_ }
    (.of_same id rfl (kept_note _)), trivial⟩
  cases isSame
  exact ended

/-! ## A single dialog -/

/-- What holds where a thread starts over. -/
def settledEntry : Thread → Label → Dialog.State → Prop
  | .caller, .request => Fresh
  | _, _ => fun _ => True

/-- Both threads keep to the protocol. -/
theorem code_settles (conf : SConf) (thread : Thread) (label : Label) :
    SettleTriple works key thread (settledEntry thread label)
      ((Dialog.machine conf).code thread label) (settledEntry thread) := by
  have stops : SettleTriple works key thread (fun _ => True)
      (.ret Label.finished) (settledEntry thread) := by
    refine .returns ?_ fun _ _ _ => ?_
    · cases thread <;> exact Protocol.Stable.const True
    · cases thread <;> trivial
  cases thread with
  | caller =>
      cases label with
      | request =>
          exact (sendReq_caller conf).bind fun value =>
            (noteReturned_caller value).bind fun _ => stops
      | work => exact stops
      | finished => exact stops
  | worker =>
      cases label with
      | request => exact stops
      | work =>
          exact workerThread_settles.consequence (fun _ _ _ => trivial)
            fun _ _ _ _ => trivial
      | finished => exact stops

theorem settleInv_start : SettleInv works key (Dialog.start key ∅).state where
  callId := rfl
  free entry found := by cases found
  accounted later value earlier split := by
    cases (List.append_eq_nil_iff.mp split.symm).2

/-- A dialog is settled. -/
theorem single_settled
    {conf : SConf}
    {single : Config Dialog.Res Thread Dialog.State Label}
    (reach : (Dialog.machine conf).Reach (Whole works key) (Dialog.start key ∅)
      single) :
    SettleInv works key single.state := by
  have safe (thread : Thread) :
      (settleProtocol works key).Safe (fun _ => Dialog.exec) (Whole works key)
        thread (settledEntry thread) ((Dialog.start key ∅).control thread)
        (Dialog.start key ∅).state := by
    cases thread with
    | caller =>
        exact fun later rely inv =>
          fresh_stable _ _ settleInv_start rfl rely inv
    | worker => exact fun _ _ _ => trivial
  exact (Protocol.sound (code_settles conf) settleInv_start safe reach).1

/-! ## All dialogs -/

variable {conf : SConf} {config : Config Res Thread State Unit}

/-- Every value a request returns was explained in its own dialog. -/
theorem requests_accounted
    (reach : (machine conf).Reach (Undisturbed (Whole works)) start config)
    {index : Nat}
    (created : index < config.state.count) :
    Accounted works (config.state.calls index).log := by
  have settled := isolated_of_single reach created
    fun _ reachSingle => single_settled reachSingle
  exact settled.accounted

theorem lateSuccess_accounted :
    Accounted true
      (((machine {}).run (lateSuccess ++ steps .caller 8 {})
        start).state.calls 1).log :=
  requests_accounted
    (show (machine {}).Reach (Undisturbed (Whole true)) start _ from
      .run .start (lateSuccess ++ steps .caller 8 {}) (by decide +kernel))
    (by decide +kernel)

/-- While the worker handles a 486 to the first request, the wait of this
request times out and its entry is erased; the entry of the second request gets
its memory. -/
def staleIterator : List (Thread × (Op → Choice)) :=
  steps .caller 6 { callId := ascii "a7" } ++
    steps .worker 5 (inviteResponse 0 486) ++
    steps .caller 8 {} ++
    steps .caller 6 { callId := ascii "b8" } ++
    steps .worker 2 { reused := some (ascii "b8") } ++
    steps .caller 9 {}

-- the second request returns what no message of its dialog gave it
example : (((machine {}).run staleIterator start).state.calls 1).log =
    [.returned 486, .resultRead 486, .waited 0, .inviteSent,
      .sessionIncreased] := by
  decide +kernel

end Dialogs
end Sms112
