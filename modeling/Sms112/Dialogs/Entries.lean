import Sms112.Dialogs.Isolation
import Sms112.Resumption.RelyGuarantee

/-!
# The entry of a request

As long as every Call-ID reads as a C string of its own characters, a request
finds its entry again and erases it before it returns. So between two requests
the map is empty, whatever iterators the worker thread uses: through these it
changes entries, but none comes or goes.
-/

namespace Sms112
namespace Dialogs

open Resumption
open Dialog (Event ReqLock RxMessage IsGiven lockKey)

/-! ## What is to hold -/

/-- The request has returned. -/
def Returned (log : List Event) : Prop :=
  ∃ value, .returned value ∈ log

/-- The request returns with this event. -/
def isReturn : Event → Bool
  | .returned _ => true
  | _ => false

/-- A dialog whose log shows a return has returned before an event that is
none. -/
theorem returned_note
    {dialog : Dialog.State}
    {event : Event}
    (noReturn : isReturn event = false)
    (returned : Returned (dialog.note event).log) :
    Returned dialog.log := by
  obtain ⟨value, member⟩ := returned
  rcases List.mem_cons.mp member with rfl | member
  · cases noReturn
  · exact ⟨value, member⟩

/-- Every Call-ID reads as a C string of its own characters. -/
def ReadsCallIds : Machine.Condition Op Dialog.Thread Choice State
  | _, .inDialog index operation, choice, state =>
      ReadsWhole choice.toChoice (state.dialog index) operation
  | _, _, _, _ => True

instance ReadsCallIds.decidable (thread : Dialog.Thread) :
    (operation : Op) → (choice : Choice) → (state : State) →
      Decidable (ReadsCallIds thread operation choice state)
  | .inDialog index operation, choice, state =>
      inferInstanceAs (Decidable
        (ReadsWhole choice.toChoice (state.dialog index) operation))
  | .createUac, _, _ | .handleEvents, _, _ => .isTrue trivial

/-- The request is made in the last dialog, and has not returned. -/
structure Begun (index : Nat) (state : State) : Prop where
  last : index + 1 = state.count
  unreturned : ¬Returned (state.calls index).log

/-- The map is empty. -/
def Empty (state : State) : Prop :=
  ∀ key, key ∉ state.reqLock

/-- What most operations leave alone. -/
structure LeavesEntries (before after : State) : Prop where
  count : after.count = before.count
  callId : ∀ index,
    (after.calls index).callId = (before.calls index).callId
  returned : ∀ index, Returned (after.calls index).log →
    Returned (before.calls index).log
  present : ∀ key, key ∈ after.reqLock ↔ key ∈ before.reqLock

theorem LeavesEntries.refl (state : State) : LeavesEntries state state :=
  ⟨rfl, fun _ => rfl, fun _ returned => returned, fun _ => Iff.rfl⟩

theorem LeavesEntries.trans
    {first second third : State}
    (before : LeavesEntries first second)
    (after : LeavesEntries second third) :
    LeavesEntries first third where
  count := after.count.trans before.count
  callId index := (after.callId index).trans (before.callId index)
  returned index returned := before.returned index
    (after.returned index returned)
  present key := (after.present key).trans (before.present key)

variable {before after state : State} {index : Nat}

theorem Begun.leaves
    (begun : Begun index before)
    (leaves : LeavesEntries before after) :
    Begun index after :=
  ⟨begun.last.trans leaves.count.symm,
    fun returned => begun.unreturned (leaves.returned index returned)⟩

/-- Only one dialog is the newest. -/
theorem Begun.unique
    {other : Nat}
    (first : Begun other state)
    (second : Begun index state) :
    other = index :=
  Nat.succ.inj (first.last.trans second.last.symm)

/-- An empty map stays empty under such steps. -/
theorem Empty.leaves
    (empty : Empty before)
    (leaves : LeavesEntries before after) :
    Empty after :=
  fun key present => empty key ((leaves.present key).mp present)

/-- Only the caller relies on the worker. -/
def entryProtocol : Protocol Dialog.Thread State where
  inv state := ∀ key ∈ state.reqLock,
    ∃ index, (state.calls index).callId = key ∧ Begun index state
  rely thread before after := thread = .caller → LeavesEntries before after
  rely_refl _ state _ := .refl state
  rely_trans _ _ _ _ before after same := (before same).trans (after same)

/-- Triples of the protocol. -/
abbrev EntryTriple (thread : Dialog.Thread) {α : Type} (pre : State → Prop)
    (program : Prog α) (post : α → State → Prop) : Prop :=
  Protocol.Triple (fun _ => exec) ReadsCallIds entryProtocol thread pre program
    post

/-- Assertions that survive the steps of the worker. -/
abbrev EntryStable (assertion : State → Prop) : Prop :=
  entryProtocol.Stable .caller assertion

/-! ## Operations that leave the entries alone -/

/-- The operations that neither insert nor erase nor return. -/
def leavesEntries : Dialog.Op → Bool
  | .insertLock _ | .eraseLock _ => false
  | .note event => !isReturn event
  | _ => true

/-- The same, of any dialog. -/
def Op.leavesEntries : Op → Bool
  | .createUac => false
  | .handleEvents => true
  | .inDialog _ operation => Dialogs.leavesEntries operation

variable {operation : Dialog.Op}

/-- Such an operation does not make a dialog return. -/
theorem exec_returned
    (leaves : leavesEntries operation)
    (choice : Dialog.Choice)
    (dialog : Dialog.State)
    (returned : Returned (Dialog.exec operation choice dialog).2.log) :
    Returned dialog.log := by
  cases operation with
  | handleEvents =>
      obtain none | ⟨message, -, some⟩ := handleEvents_cases choice dialog
      · rwa [none] at returned
      · rw [some] at returned
        exact returned_note rfl returned
  | insertLock key => cases leaves
  | eraseLock key => cases leaves
  | setResult key node result =>
      simpa only [Dialog.exec, Dialog.updateAt_log] using returned
  | unlock key node =>
      simpa only [Dialog.exec, Dialog.updateAt_log] using returned
  | timedLock key =>
      simp only [Dialog.exec, Dialog.State.timedLock] at returned
      split at returned
      · split at returned
        · exact returned_note rfl returned
        · have earlier := returned_note rfl returned
          rwa [Dialog.updateLock_log] at earlier
      · exact returned_note rfl returned
  | note event =>
      exact returned_note (Bool.not_eq_true' _ ▸ leaves) returned
  | callId => exact returned
  | findLock key => exact returned
  | makeTimespecTimeout sec => exact returned
  | _ => exact returned_note rfl returned

/-- Nor does it insert or erase an entry. -/
theorem exec_present
    (leaves : leavesEntries operation)
    (choice : Dialog.Choice)
    (dialog : Dialog.State)
    (key : Octets) :
    key ∈ (Dialog.exec operation choice dialog).2.reqLock ↔
      key ∈ dialog.reqLock := by
  cases operation with
  | handleEvents =>
      obtain none | ⟨message, -, some⟩ := handleEvents_cases choice dialog
      · rw [none]
      · rw [some]
        rfl
  | insertLock key => cases leaves
  | eraseLock key => cases leaves
  | setResult key node result => exact Dialog.mem_updateAt ..
  | unlock key node => exact Dialog.mem_updateAt ..
  | timedLock key =>
      simp only [Dialog.exec, Dialog.State.timedLock]
      split
      · split
        · rfl
        · exact Dialog.mem_updateLock _
      · rfl
  | _ => rfl

theorem put_leavesEntries
    (leaves : leavesEntries operation)
    (choice : Dialog.Choice)
    (state : State)
    (index : Nat) :
    LeavesEntries state (state.put index
      (Dialog.exec operation choice (state.dialog index)).2) where
  count := rfl
  callId other := put_callId
  returned other returned := by
    by_cases same : other = index
    · subst same
      simp only [State.put, Function.update_self] at returned
      exact exec_returned leaves choice (state.dialog other) returned
    · simpa only [State.put, Function.update_of_ne same] using returned
  present := exec_present leaves choice (state.dialog index)

/-- Nor does it in any of the dialogs of the process. -/
theorem exec_leavesEntries
    {operation : Op}
    (leaves : operation.leavesEntries)
    (choice : Choice)
    (state : State) :
    LeavesEntries state (exec operation choice state).2 := by
  cases operation with
  | createUac => cases leaves
  | handleEvents =>
      have none : leavesEntries .handleEvents := rfl
      have handed :=
        put_leavesEntries none choice.toChoice state choice.index
      simp only [exec]
      split
      next dispatched => rwa [dispatched] at handed
      next => exact .refl state
  | inDialog index operation =>
      exact put_leavesEntries leaves choice.toChoice state index

theorem LeavesEntries.keeps
    {thread : Dialog.Thread}
    (leaves : LeavesEntries before after)
    (inv : entryProtocol.inv before) :
    entryProtocol.Keeps thread before after where
  inv key present := by
    obtain ⟨index, same, begun⟩ := inv key ((leaves.present key).mp present)
    exact ⟨index, (leaves.callId index).trans same, begun.leaves leaves⟩
  rely _ _ _ := leaves

/-- An assertion that the worker's steps leave alone. -/
def AboutEntries (assertion : State → Prop) : Prop :=
  ∀ before after, assertion before → LeavesEntries before after →
    assertion after

/-- What the caller knows of its entry survives whatever the worker does. -/
theorem AboutEntries.stable
    {assertion : State → Prop}
    (about : AboutEntries assertion) :
    EntryStable assertion :=
  fun before after _ holds rely _ => about before after holds (rely rfl)

theorem empty_about : AboutEntries Empty :=
  fun _ _ => Empty.leaves

/-- What uses only such operations leaves an assertion alone. -/
theorem leaving_triple
    {α : Type}
    {program : Prog α}
    (uses : program.Uses fun operation => operation.leavesEntries)
    {assertion : State → Prop}
    (about : AboutEntries assertion) :
    EntryTriple .caller assertion program fun _ => assertion := by
  refine Protocol.Triple.uses uses about.stable ?_
  intro operation state choice leaves inv holds _
  have unchanged := exec_leavesEntries leaves choice state
  exact ⟨unchanged.keeps inv, about _ _ holds unchanged⟩

/-! ## The worker thread -/

/-- `sync_ulck` writes to an entry, but neither inserts nor erases one. -/
theorem syncUlck_leavesEntries (callId : PjStr) (result : Int) :
    (Dialog.syncUlck callId result).Uses
      fun operation => leavesEntries operation := by
  unfold Dialog.syncUlck
  split
  · refine .step rfl fun found => ?_
    cases found with
    | some node => exact .step rfl fun _ => .step rfl fun _ => trivial
    | none => trivial
  · trivial

theorem onRxResponse_leavesEntries (rxData : Dialog.RxData) :
    (Dialog.onRxResponse rxData).Uses
      fun operation => leavesEntries operation := by
  unfold Dialog.onRxResponse
  split
  · split
    · split
      · exact .step rfl fun _ => .step rfl fun callId =>
          (syncUlck_leavesEntries callId 0).bind fun _ =>
            .step rfl fun _ => trivial
      · split
        · trivial
        · split
          · exact .step rfl fun _ => .step rfl fun callId =>
              (syncUlck_leavesEntries callId _).bind fun _ => trivial
          · trivial
    · exact .step rfl fun callId =>
        (syncUlck_leavesEntries callId 0).bind fun _ => trivial
    · trivial
  · trivial

theorem handle_leavesEntries (message : RxMessage) :
    (handle message).Uses fun operation => leavesEntries operation := by
  refine Program.Uses.bind ?_ fun _ => .step rfl fun _ => trivial
  cases message with
  | response rxData => exact onRxResponse_leavesEntries rxData
  | request rxData =>
      simp only [Dialog.dispatch, Dialog.onRxRequest]
      split
      · split
        · exact .step rfl fun _ => trivial
        · trivial
      · trivial

/-- The worker thread may handle any message without an entry more or less. -/
theorem workerThread_triple :
    EntryTriple .worker (fun _ => True) workerThread fun _ _ => True := by
  have uses : workerThread.Uses fun operation => operation.leavesEntries := by
    refine .step rfl fun event => ?_
    match event with
    | some (index, message) =>
        exact (handle_leavesEntries message).embed fun _ leaves => leaves
    | none => trivial
  refine Protocol.Triple.uses uses (.const True) ?_
  intro operation state choice leaves inv _ _
  exact ⟨(exec_leavesEntries leaves choice state).keeps inv, trivial⟩

/-! ## The request -/

/-- The request is to be made, and the map is empty. -/
def Idle (index : Nat) (state : State) : Prop :=
  Begun index state ∧ Empty state

/-- The request may have an entry, under its Call-ID if this is not empty. -/
def Entered (index : Nat) (state : State) : Prop :=
  Begun index state ∧ ((state.calls index).callId = [] → Empty state)

theorem idle_about (index : Nat) : AboutEntries (Idle index) :=
  fun _ _ idle leaves => ⟨idle.1.leaves leaves, idle.2.leaves leaves⟩

theorem entered_about (index : Nat) : AboutEntries (Entered index) :=
  fun _ _ entered leaves => ⟨entered.1.leaves leaves, fun unnamed =>
    (entered.2 ((leaves.callId index).symm.trans unnamed)).leaves leaves⟩

/-- The Call-ID is read as that of the dialog. -/
def ReadAs (index : Nat) (callId : PjStr) (state : State) : Prop :=
  lockKey callId = (state.calls index).callId ∧
    (IsGiven callId ↔ (state.calls index).callId ≠ [])

theorem readAs_about (index : Nat) (callId : PjStr) :
    AboutEntries (ReadAs index callId) := by
  intro before after reads leaves
  rw [ReadAs, leaves.callId index]
  exact reads

theorem AboutEntries.and
    {first second : State → Prop}
    (aboutFirst : AboutEntries first)
    (aboutSecond : AboutEntries second) :
    AboutEntries fun state => first state ∧ second state :=
  fun before after holds leaves => ⟨aboutFirst before after holds.1 leaves,
    aboutSecond before after holds.2 leaves⟩

/-- The Call-ID that is read is that of the dialog, now and later. -/
theorem readCallId_triple
    {assertion : State → Prop}
    (about : AboutEntries assertion)
    (index : Nat) :
    EntryTriple .caller assertion (call (.inDialog index .callId))
      fun callId state => ReadAs index callId state ∧ assertion state := by
  refine .call about.stable
    (fun callId => ((readAs_about index callId).and about).stable) ?_
  intro state choice inv holds reads
  have none : (Op.inDialog index .callId).leavesEntries := rfl
  have leaves := exec_leavesEntries none choice state
  have readAs : ReadAs index (Dialog.exec .callId choice.toChoice
      (state.dialog index)).1 state :=
    ⟨reads, fun given => List.ne_nil_of_length_pos given.2,
      fun named => ⟨Option.some_ne_none _, List.length_pos_of_ne_nil named⟩⟩
  exact ⟨leaves.keeps inv, readAs_about index _ _ _ readAs leaves,
    about _ _ holds leaves⟩

/-- An operation that adds nothing to the log does not return. -/
theorem put_begun
    {later : Dialog.State}
    (begun : Begun index state)
    (log : later.log = (state.calls index).log) :
    Begun index (state.put index later) := by
  refine ⟨begun.last, ?_⟩
  simp only [State.put, Function.update_self, log]
  exact begun.unreturned

theorem insertLock_log
    (dialog : Dialog.State)
    (key : Octets)
    (node : Nat) :
    (dialog.insertLock key node).log = dialog.log := by
  unfold Dialog.State.insertLock
  split <;> rfl

/-- After an insertion there is one more key at most. -/
theorem mem_insertLock
    {dialog : Dialog.State}
    {key other : Octets}
    {node : Nat}
    (present : other ∈ (dialog.insertLock key node).reqLock) :
    other = key ∨ other ∈ dialog.reqLock := by
  unfold Dialog.State.insertLock at present
  split at present
  next => exact .inr present
  next => exact AList.mem_insert _ |>.mp present

/-- The only entry is that of the request. -/
theorem entered_keeps
    {later : State}
    (begun : Begun index later)
    (own : ∀ key ∈ later.reqLock, key = (later.calls index).callId) :
    entryProtocol.Keeps .caller state later where
  inv key present := ⟨index, (own key present).symm, begun⟩
  rely _ different same := absurd same different

/-- `sync_init` -/
theorem syncInit_triple (index : Nat) (callId : PjStr) :
    EntryTriple .caller
      (fun state => ReadAs index callId state ∧ Idle index state)
      (inDialog index (Dialog.syncInit callId)) fun _ => Entered index := by
  have stable := ((readAs_about index callId).and (idle_about index)).stable
  unfold Dialog.syncInit
  split
  next given =>
    refine .call stable (fun _ => (entered_about index).stable) ?_
    rintro state choice - ⟨⟨reads, isNamed⟩, begun, empty⟩ -
    have callIdSame : ((exec (.inDialog index (.insertLock (lockKey callId)))
        choice state).2.calls index).callId = (state.calls index).callId :=
      put_callId
    have begunLater := put_begun begun
      (insertLock_log (state.dialog index) (lockKey callId) choice.node)
    refine ⟨entered_keeps begunLater fun key present => ?_, begunLater,
      fun unnamed => ?_⟩
    · rw [callIdSame, ← reads]
      exact (mem_insertLock present).resolve_right (empty key)
    · exact absurd (callIdSame.symm.trans unnamed) (isNamed.mp given)
  next missing =>
    exact .returns (entered_about index).stable fun _ _ holds =>
      ⟨holds.2.1, fun _ => holds.2.2⟩

/-- Waiting neither inserts nor erases. -/
theorem syncLock_leavesEntries (conf : SConf) (callId : PjStr) :
    (Dialog.syncLock conf callId).Uses
      fun operation => leavesEntries operation := by
  unfold Dialog.syncLock
  split
  · refine .step rfl fun found => ?_
    split
    · refine .step rfl fun made => ?_
      split
      · refine .step rfl fun iRetVal => ?_
        split
        · exact ⟨rfl, fun _ => trivial⟩
        · trivial
      · trivial
    · trivial
  · trivial

/-- The entry is found if there is any. -/
theorem findLock_triple (index : Nat) (callId : PjStr) :
    EntryTriple .caller
      (fun state => ReadAs index callId state ∧ Entered index state)
      (call (.inDialog index (.findLock (lockKey callId))))
      fun found state => (found.isSome ∨ Empty state) ∧
        ReadAs index callId state ∧ Entered index state := by
  have about (found : Option Nat) :
      AboutEntries fun state => found.isSome ∨ Empty state :=
    fun _ _ holds leaves => holds.imp_right fun empty => empty.leaves leaves
  have entered := (readAs_about index callId).and (entered_about index)
  refine .call entered.stable (fun found => ((about found).and entered).stable)
    ?_
  rintro state choice inv ⟨readAs, isEntered⟩ -
  have none : (Op.inDialog index (.findLock (lockKey callId))).leavesEntries :=
    rfl
  have leaves := exec_leavesEntries none choice state
  refine ⟨leaves.keeps inv, ?_, entered _ _ ⟨readAs, isEntered⟩ leaves⟩
  by_cases present : lockKey callId ∈ state.reqLock
  · exact .inl (Dialog.isSome_findLock.mpr present)
  · refine .inr (Empty.leaves (fun key inside => present ?_) leaves)
    obtain ⟨other, same, begun⟩ := inv key inside
    obtain rfl := begun.unique isEntered.1
    rw [readAs.1, same]
    exact inside

/-- The entry is erased, and with it the only one. -/
theorem eraseLock_triple (index : Nat) (callId : PjStr) :
    EntryTriple .caller
      (fun state => ReadAs index callId state ∧ Entered index state)
      (call (.inDialog index (.eraseLock (lockKey callId))))
      fun _ => Idle index := by
  have entered := (readAs_about index callId).and (entered_about index)
  refine .call entered.stable (fun _ => (idle_about index).stable) ?_
  rintro state choice inv ⟨readAs, isEntered⟩ -
  have begunLater : Begun index (exec (.inDialog index (.eraseLock
      (lockKey callId))) choice state).2 := put_begun isEntered.1 rfl
  have empty : Empty (exec (.inDialog index (.eraseLock (lockKey callId)))
      choice state).2 := by
    intro key present
    obtain ⟨different, present⟩ := AList.mem_erase.mp present
    obtain ⟨other, same, begun⟩ := inv key present
    obtain rfl := begun.unique isEntered.1
    exact different (same.symm.trans readAs.1.symm)
  exact ⟨entered_keeps begunLater fun key present => absurd present (empty key),
    begunLater, empty⟩

/-- `sync_del` -/
theorem syncDel_triple (index : Nat) (callId : PjStr) :
    EntryTriple .caller
      (fun state => ReadAs index callId state ∧ Entered index state)
      (inDialog index (Dialog.syncDel callId)) fun _ => Idle index := by
  have isIdle := (idle_about index).stable
  unfold Dialog.syncDel
  split
  next given =>
    refine (findLock_triple index callId).bind fun found => ?_
    show EntryTriple _ _ (inDialog index (if found.isSome then
      Dialog.call (.eraseLock (lockKey callId)) else return ())) _
    split
    next =>
      exact (eraseLock_triple index callId).weakenPre fun _ _ holds => holds.2
    next missing =>
      exact .returns isIdle fun _ _ holds =>
        ⟨holds.2.2.1, holds.1.resolve_left missing⟩
  next missing =>
    refine .returns isIdle fun state _ holds => ⟨holds.2.1, holds.2.2 ?_⟩
    by_contra named
    exact missing (holds.1.2.mpr named)

/-- The request returns after its entry is gone. -/
theorem noteReturned_triple (index : Nat) (result : Int) :
    EntryTriple .caller (Idle index)
      (call (.inDialog index (.note (.returned result)))) fun _ => Empty := by
  refine .call (idle_about index).stable (fun _ => empty_about.stable) ?_
  rintro state choice - ⟨-, empty⟩ -
  have emptyLater : Empty (exec (.inDialog index (.note (.returned result)))
      choice state).2 := empty
  exact ⟨⟨fun key present => absurd present (empty key),
    fun _ different same => absurd same different⟩, emptyLater⟩

/-- Two programs in a dialog, one after the other, are one program in it. -/
theorem inDialog_bind
    {α β : Type}
    (index : Nat)
    (program : Dialog.Prog α)
    (next : α → Dialog.Prog β) :
    inDialog index (program >>= next) =
      inDialog index program >>= fun value => inDialog index (next value) :=
  Program.embed_bind ..

/-- What a dialog does without inserting or erasing. -/
theorem inDialog_triple
    {α : Type}
    {program : Dialog.Prog α}
    (uses : program.Uses fun operation => leavesEntries operation)
    {assertion : State → Prop}
    (about : AboutEntries assertion)
    (index : Nat) :
    EntryTriple .caller assertion (inDialog index program)
      fun _ => assertion := by
  have inside : (inDialog index program).Uses
      fun operation => operation.leavesEntries :=
    uses.embed fun _ leaves => leaves
  exact leaving_triple inside about

/-- The request in a dialog leaves the map empty. -/
theorem request_triple (conf : SConf) (index : Nat) :
    EntryTriple .caller (Idle index) (inDialog index (request conf))
      fun _ => Empty := by
  have act {operation : Dialog.Op} (leaves : leavesEntries operation) :
      (Dialog.call operation).Uses fun operation => leavesEntries operation :=
    ⟨leaves, fun _ => trivial⟩
  have read {assertion : State → Prop} (about : AboutEntries assertion) :=
    readCallId_triple about index
  rw [request, inDialog_bind]
  refine Protocol.Triple.bind ?_ (noteReturned_triple index)
  simp only [Dialog.sendReq, inDialog_bind]
  refine (inDialog_triple (act rfl) (idle_about index) index).bind fun _ =>
    (read (idle_about index)).bind fun callId =>
      (syncInit_triple index callId).bind fun _ => ?_
  refine (inDialog_triple (act rfl) (entered_about index) index).bind fun _ =>
    (read (entered_about index)).bind fun callId => ?_
  have waits := inDialog_triple (syncLock_leavesEntries conf callId)
    (entered_about index) index
  refine (waits.weakenPre fun _ _ holds => holds.2).bind fun iRetVal =>
    (read (entered_about index)).bind fun callId =>
      (syncDel_triple index callId).bind fun _ => ?_
  exact .returns (idle_about index).stable fun _ _ idle => idle

/-- A dialog is created while the map is empty. -/
theorem createUac_triple :
    EntryTriple .caller Empty (call .createUac) fun index => Idle index := by
  refine .call empty_about.stable (fun index => (idle_about index).stable) ?_
  rintro state choice - empty -
  have emptyLater : Empty (state.create choice.callId) := empty
  refine ⟨⟨fun key present => absurd present (empty key),
    fun _ different same => absurd same different⟩, ⟨rfl, ?_⟩, emptyLater⟩
  rintro ⟨value, member⟩
  simp only [exec, State.create, Function.update_self] at member
  exact List.not_mem_nil member

/-! ## All runs -/

/-- Between two requests the map is empty. -/
def restsEmpty : Dialog.Thread → Unit → State → Prop
  | .caller, _ => Empty
  | .worker, _ => fun _ => True

/-- Each thread starts its program again where it left the map as the protocol
asks. -/
theorem code_triple (conf : SConf) (thread : Dialog.Thread) :
    EntryTriple thread (restsEmpty thread ()) (code conf thread)
      (restsEmpty thread) := by
  cases thread with
  | caller =>
      exact createUac_triple.bind fun index => request_triple conf index
  | worker => exact workerThread_triple

variable {conf : SConf} {config : Config Res Dialog.Thread State Unit}

end Dialogs
end Sms112
