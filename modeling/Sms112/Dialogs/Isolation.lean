import Sms112.Dialogs.Alone

/-!
# Dialogs do not interfere

In a run of many dialogs whose Call-IDs are different and read as C strings of
their own characters, and in which no iterator is used after its entry was
erased, every dialog takes its course as if it were the only one
there ever was: what the program sees of it is reached by a run of a single
request and the worker thread, on a map that was empty before. The runs of a
single dialog are those of `Sms112.Dialog.machine`, so whatever holds in all of
these holds of every dialog of the gateway.
-/

namespace Sms112
namespace Dialogs

open Resumption
open Dialog (ReqLock RxMessage)

/-- What the program sees of a dialog and its entry in the map. -/
def State.isolated (state : State) (index : Nat) : Dialog.State :=
  alone (state.calls index).callId (state.dialog index)

/-! ## The condition on a run -/

/-- A condition on the steps of a single dialog, given its Call-ID. -/
abbrev DialogCondition :=
  Octets →
    Machine.Condition Dialog.Op Dialog.Thread Dialog.Choice Dialog.State

/-- The characters of the Call-ID end where the C string at its pointer
does. -/
def ReadsWhole (choice : Dialog.Choice) (state : Dialog.State) :
    Dialog.Op → Prop
  | .callId =>
      pjAnsiStr (some (state.callId ++ choice.memory)) = state.callId
  | _ => True

/-- No two dialogs have the same Call-ID, every Call-ID reads as a C string of
its own characters, and the steps in a dialog satisfy a condition. -/
def Apart (condition : DialogCondition) :
    Machine.Condition Op Dialog.Thread Choice State
  | _, .createUac, choice, state =>
      ∀ index, index < state.count →
        (state.calls index).callId ≠ choice.callId
  | thread, .handleEvents, choice, state =>
      choice.index < state.count →
        condition (state.calls choice.index).callId thread .handleEvents
          choice.toChoice (state.isolated choice.index)
  | thread, .inDialog index operation, choice, state =>
      ReadsWhole choice.toChoice (state.dialog index) operation ∧
        condition (state.calls index).callId thread operation
          choice.toChoice (state.isolated index)

/-- No thread uses an iterator whose entry was erased since it was found. -/
def ValidIterators : Machine.Condition Op Dialog.Thread Choice State
  | _, .inDialog index operation, _, state =>
      UsesValid (state.dialog index) operation
  | _, _, _, _ => True

/-- The dialogs are kept apart, and all iterators that are used are valid:
`sync_ulck` keeps one while `sync_del` of a request whose wait is over may erase
its entry. -/
def Undisturbed (condition : DialogCondition) :
    Machine.Condition Op Dialog.Thread Choice State :=
  fun thread operation choice state =>
    Apart condition thread operation choice state ∧
      ValidIterators thread operation choice state

instance ReadsWhole.decidable
    (choice : Dialog.Choice)
    (state : Dialog.State) :
    (operation : Dialog.Op) → Decidable (ReadsWhole choice state operation)
  | .callId =>
      inferInstanceAs (Decidable
        (pjAnsiStr (some (state.callId ++ choice.memory)) = state.callId))
  | .handleEvents | .incSession | .decSession | .sendInvite | .sendAck
  | .sendBye | .sendResp _ | .insertLock _ | .findLock _ | .setResult _ _ _
  | .getResult _ | .unlock _ _ | .timedLock _ | .eraseLock _
  | .makeTimespecTimeout _ | .note _ => .isTrue trivial

instance Apart.decidable
    (condition : DialogCondition)
    [∀ key thread operation choice state,
      Decidable (condition key thread operation choice state)]
    (thread : Dialog.Thread) :
    (operation : Op) → (choice : Choice) → (state : State) →
      Decidable (Apart condition thread operation choice state)
  | .createUac, choice, state =>
      inferInstanceAs (Decidable (∀ index, index < state.count →
        (state.calls index).callId ≠ choice.callId))
  | .handleEvents, choice, state =>
      inferInstanceAs (Decidable (choice.index < state.count →
        condition (state.calls choice.index).callId thread .handleEvents
          choice.toChoice (state.isolated choice.index)))
  | .inDialog index operation, choice, state =>
      inferInstanceAs (Decidable
        (ReadsWhole choice.toChoice (state.dialog index) operation ∧
          condition (state.calls index).callId thread operation
            choice.toChoice (state.isolated index)))

instance UsesValid.decidable (state : Dialog.State) :
    (operation : Dialog.Op) → Decidable (UsesValid state operation)
  | .setResult key node _ | .unlock key node =>
      inferInstanceAs (Decidable (state.findLock key = some node))
  | .handleEvents | .incSession | .decSession | .sendInvite | .sendAck
  | .sendBye | .sendResp _ | .callId | .insertLock _ | .findLock _
  | .getResult _ | .timedLock _ | .eraseLock _ | .makeTimespecTimeout _
  | .note _ => .isTrue trivial

instance ValidIterators.decidable (thread : Dialog.Thread) :
    (operation : Op) → (choice : Choice) → (state : State) →
      Decidable (ValidIterators thread operation choice state)
  | .inDialog index operation, _, state =>
      inferInstanceAs (Decidable (UsesValid (state.dialog index) operation))
  | .createUac, _, _ | .handleEvents, _, _ => .isTrue trivial

instance Undisturbed.decidable
    (condition : DialogCondition)
    [∀ key thread operation choice state,
      Decidable (condition key thread operation choice state)]
    (thread : Dialog.Thread)
    (operation : Op)
    (choice : Choice)
    (state : State) :
    Decidable (Undisturbed condition thread operation choice state) :=
  inferInstanceAs (Decidable (_ ∧ _))

/-! ## Single steps -/

section Steps

variable {operation : Dialog.Op} {choice : Dialog.Choice}
variable {state : State} {index other : Nat}

theorem put_callId :
    ((state.put index
        (Dialog.exec operation choice (state.dialog index)).2).calls
          other).callId =
      (state.calls other).callId := by
  by_cases same : other = index
  · subst same
    simp only [State.put, Function.update_self, exec_callId]
    rfl
  · simp only [State.put, Function.update_of_ne same]

/-- A step in a dialog is a step of the dialog alone. -/
theorem put_isolated_self
    (uses : UsesKey (state.calls index).callId operation) :
    (state.put index
        (Dialog.exec operation choice (state.dialog index)).2).isolated
          index =
      (Dialog.exec operation choice (state.isolated index)).2 := by
  have whole (after : Dialog.State) :
      (state.put index after).dialog index = after := by
    simp only [State.dialog, State.put, Function.update_self]
  rw [State.isolated, put_callId, whole, State.isolated, exec_alone uses]

/-- It leaves every other dialog as it is. -/
theorem put_isolated_other
    (uses : UsesKey (state.calls index).callId operation)
    (valid : UsesValid (state.dialog index) operation)
    (different : other ≠ index)
    (apart : (state.calls other).callId ≠ (state.calls index).callId) :
    (state.put index
        (Dialog.exec operation choice (state.dialog index)).2).isolated
          other =
      state.isolated other := by
  have sameEntry := exec_onlyChanges uses valid choice _ apart
  rw [State.isolated, put_callId]
  simp only [State.isolated, alone, State.dialog, State.put,
    Function.update_of_ne different]
  exact congrArg
    (fun map => ({ state.dialog other with reqLock := map } : Dialog.State))
    (only_congr sameEntry)

theorem put_keys
    (uses : UsesKey (state.calls index).callId operation)
    {key : Octets}
    (present : key ∈ (state.put index
      (Dialog.exec operation choice (state.dialog index)).2).reqLock) :
    key = (state.calls index).callId ∨ key ∈ state.reqLock := by
  by_cases own : key = (state.calls index).callId
  · exact .inl own
  · exact .inr ((exec_mem uses choice own).mp present)

theorem readsAs_exec
    {state : Dialog.State}
    (reads : ReadsWhole choice state operation) :
    ReadsAs state.callId operation
      (Dialog.exec operation choice state).1 := by
  cases operation with
  | callId => exact reads
  | _ => trivial

end Steps

/-! ## Where a thread is -/

/-- The dialog a thread is in, and what is left of its program there. -/
abbrev Place := Option (Nat × Dialog.Prog Unit)

variable (conf : SConf)

/-- The place of a thread that goes on with a program. -/
inductive Stands (thread : Dialog.Thread) : Prog Unit → Place → Prop
  | between : Stands thread (.ret ()) none
  | begins : Stands thread (code conf thread) none
  | within (index : Nat) (program : Dialog.Prog Unit) :
      Stands thread (inDialog index program) (some (index, program))

/-- The label of a thread that has nothing to do in a dialog. -/
def rest : Dialog.Thread → Dialog.Label
  | .caller => .finished
  | .worker => .work

/-- What a thread goes on with in one of the dialogs. -/
def continuation (thread : Dialog.Thread) (index : Nat) :
    Place → Dialog.Prog Dialog.Label
  | some (current, program) =>
      if current = index then program >>= fun _ => .ret (rest thread)
      else .ret (rest thread)
  | none => .ret (rest thread)

variable {conf} {thread : Dialog.Thread} {index : Nat}

theorem continuation_self (program : Dialog.Prog Unit) :
    continuation thread index (some (index, program)) =
      program >>= fun _ => .ret (rest thread) :=
  if_pos rfl

theorem continuation_other
    {current : Nat}
    (different : current ≠ index)
    (program : Dialog.Prog Unit) :
    continuation thread index (some (current, program)) =
      .ret (rest thread) :=
  if_neg different

/-- A thread whose program is over has nothing left to do in any dialog. -/
theorem Stands.continuation_of_returned
    {control : Prog Unit}
    {place : Place}
    (stands : Stands conf thread control place)
    (returned : control = .ret ()) :
    continuation thread index place = .ret (rest thread) := by
  cases stands with
  | between => rfl
  | begins => rfl
  | within current program =>
      cases program with
      | ret value => exact ite_self _
      | perform operation next => cases returned

theorem caller_eq :
    Dialog.caller conf = request conf >>= fun _ => .ret .finished :=
  (Program.bind_bind ..).symm

theorem workerThread_eq :
    Dialog.workerThread =
      .perform .handleEvents fun
        | some message => handle message >>= fun _ => .ret .work
        | none => .ret .work := by
  refine congrArg (Program.perform Dialog.Op.handleEvents) (funext fun event => ?_)
  cases event with
  | none => rfl
  | some message => exact (Program.bind_bind ..).symm

/-! ## The simulation -/

/-- What holds of the entries of two tables after an update of both. -/
theorem forall_update_both
    {Index First Second : Type} [DecidableEq Index]
    {first : Index → First}
    {second : Index → Second}
    {changed : Index}
    {newFirst : First}
    {newSecond : Second}
    (holds : Index → First → Second → Prop)
    (here : holds changed newFirst newSecond)
    (elsewhere : ∀ index, holds index (first index) (second index))
    (index : Index) :
    holds index (Function.update first changed newFirst index)
      (Function.update second changed newSecond index) := by
  by_cases same : index = changed
  · subst same
    simpa only [Function.update_self] using here
  · simpa only [Function.update_of_ne same] using elsewhere index

/-- What holds of the entries of a table after an update. -/
theorem forall_update
    {Index First : Type} [DecidableEq Index]
    {first : Index → First}
    {changed : Index}
    {newFirst : First}
    (holds : Index → First → Prop)
    (here : holds changed newFirst)
    (elsewhere : ∀ index, holds index (first index)) :
    ∀ index, holds index (Function.update first changed newFirst index) :=
  (Function.forall_update_iff first holds).mpr
    ⟨here, fun index _ => elsewhere index⟩

variable (conf)

/-- A thread is in a dialog that exists and uses the key of this dialog. The
requests are made one after the other. -/
def Within (state : State) (thread : Dialog.Thread) : Place → Prop
  | some (index, program) =>
      index < state.count ∧ OwnKey (state.calls index).callId program ∧
        (thread = .caller → index + 1 = state.count)
  | none => True

/-- New dialogs do not concern a thread, if they do not come from the caller
while it makes a request. -/
theorem Within.transfer
    {state later : State}
    {thread : Dialog.Thread}
    {place : Place}
    (within : Within state thread place)
    (callIds : ∀ index, index < state.count →
      (later.calls index).callId = (state.calls index).callId)
    (counts : later.count = state.count ∨
      thread = .worker ∧ state.count ≤ later.count) :
    Within later thread place := by
  cases place with
  | none => trivial
  | some current =>
      obtain ⟨below, own, last⟩ := within
      refine ⟨?_, (callIds _ below).symm ▸ own, ?_⟩
      · rcases counts with same | ⟨-, more⟩ <;> omega
      · intro isCaller
        rcases counts with same | ⟨isWorker, -⟩
        · rw [same]
          exact last isCaller
        · cases isCaller.symm.trans isWorker

/-- The places of the threads, the names of the dialogs, and for every dialog
a run of this dialog alone. -/
structure Simulated (condition : DialogCondition)
    (config : Config Res Dialog.Thread State Unit)
    (place : Dialog.Thread → Place) : Prop where
  fresh : ∀ index, config.state.count ≤ index →
    config.state.calls index = {}
  distinct : ∀ first second, first < config.state.count →
    second < config.state.count →
      (config.state.calls first).callId =
        (config.state.calls second).callId → first = second
  keys : ∀ key, key ∈ config.state.reqLock →
    ∃ index, index < config.state.count ∧
      (config.state.calls index).callId = key
  stands : ∀ thread, Stands conf thread (config.control thread)
    (place thread)
  within : ∀ thread, Within config.state thread (place thread)
  followed : ∀ index, index < config.state.count →
    ∃ single,
      (Dialog.machine conf).Reach
          (condition (config.state.calls index).callId)
          (Dialog.start (config.state.calls index).callId ∅) single ∧
        single.state = config.state.isolated index ∧
        ∀ thread, single.control thread =
          continuation thread index (place thread)

variable {conf} {condition : DialogCondition}
variable {config : Config Res Dialog.Thread State Unit}
variable {place : Dialog.Thread → Place}

theorem simulated_start :
    Simulated conf condition start fun _ => none where
  fresh _ _ := rfl
  distinct _ _ below := absurd below (Nat.not_lt_zero _)
  keys key present := absurd present (AList.notMem_empty key)
  stands _ := .between
  within _ := trivial
  followed _ below := absurd below (Nat.not_lt_zero _)

/-- A thread has nothing to do in any dialog, before and after. -/
theorem Simulated.idle
    (simulated : Simulated conf condition config place)
    (idles : ∀ index, continuation thread index (place thread) =
      .ret (rest thread))
    {control : Prog Unit}
    (stands : Stands conf thread control none) :
    Simulated conf condition
      { config with control := Function.update config.control thread control }
      (Function.update place thread none) where
  fresh := simulated.fresh
  distinct := simulated.distinct
  keys := simulated.keys
  stands := forall_update_both (Stands conf) stands simulated.stands
  within := forall_update (Within config.state) trivial simulated.within
  followed index below := by
    obtain ⟨single, reach, sameState, controls⟩ :=
      simulated.followed index below
    exact ⟨single, reach, sameState,
      forall_update
        (fun thread place => single.control thread =
          continuation thread index place)
        ((controls thread).trans (idles index)) controls⟩

/-! ### A new dialog -/

theorem create_calls_count (state : State) (callId : Octets) :
    (state.create callId).calls state.count = { callId } :=
  Function.update_self ..

theorem create_calls_older
    {state : State}
    (callId : Octets)
    (below : index < state.count) :
    (state.create callId).calls index = state.calls index :=
  Function.update_of_ne (Nat.ne_of_lt below) ..

/-- No thread is in a dialog that is not created. -/
theorem Simulated.continuation_uncreated
    (simulated : Simulated conf condition config place)
    (thread : Dialog.Thread) :
    continuation thread config.state.count (place thread) =
      .ret (rest thread) := by
  cases placed : place thread with
  | none => rfl
  | some current =>
      obtain ⟨current, program⟩ := current
      have within := simulated.within thread
      rw [placed] at within
      exact continuation_other (Nat.ne_of_lt within.1) program

/-- The names of the dialogs stay different. -/
theorem Simulated.create_distinct
    (simulated : Simulated conf condition config place)
    {callId : Octets}
    (differs : ∀ index, index < config.state.count →
      (config.state.calls index).callId ≠ callId)
    {first second : Nat}
    (belowFirst : first < config.state.count + 1)
    (belowSecond : second < config.state.count + 1)
    (same : ((config.state.create callId).calls first).callId =
      ((config.state.create callId).calls second).callId) :
    first = second := by
  rcases Nat.lt_succ_iff_lt_or_eq.mp belowFirst with olderFirst | rfl <;>
    rcases Nat.lt_succ_iff_lt_or_eq.mp belowSecond with olderSecond | rfl
  · rw [create_calls_older callId olderFirst,
      create_calls_older callId olderSecond] at same
    exact simulated.distinct first second olderFirst olderSecond same
  · rw [create_calls_older callId olderFirst, create_calls_count] at same
    exact absurd same (differs first olderFirst)
  · rw [create_calls_older callId olderSecond, create_calls_count] at same
    exact absurd same.symm (differs second olderSecond)
  · rfl

/-- On its own, the new dialog starts with the request. -/
theorem Simulated.create_followed
    (simulated : Simulated conf condition config place)
    {callId : Octets}
    (absent : callId ∉ config.state.reqLock) :
    ∃ single,
      (Dialog.machine conf).Reach (condition callId)
          (Dialog.start callId ∅) single ∧
        single.state =
          (config.state.create callId).isolated config.state.count ∧
        ∀ thread, single.control thread =
          continuation thread config.state.count
            (Function.update place .caller
              (some (config.state.count, request conf)) thread) := by
  have begun : (Dialog.start callId ∅).control .caller =
      .ret Dialog.Label.request := rfl
  refine ⟨_, .jump .start begun, ?_, fun thread => ?_⟩
  · simp only [State.isolated, State.dialog, alone, create_calls_count]
    simp only [State.create, only_of_absent absent]
    rfl
  · cases thread with
    | caller =>
        simp only [Function.update_self]
        rw [continuation_self]
        exact caller_eq
    | worker => exact (simulated.continuation_uncreated .worker).symm

/-- A dialog is created, and the request is to be made in it. -/
theorem Simulated.create
    (simulated : Simulated conf condition config place)
    (begins : place .caller = none)
    {callId : Octets}
    (differs : ∀ index, index < config.state.count →
      (config.state.calls index).callId ≠ callId) :
    Simulated conf condition
      { state := config.state.create callId
        control := Function.update config.control .caller
          (inDialog config.state.count (request conf)) }
      (Function.update place .caller
        (some (config.state.count, request conf))) where
  fresh index beyond := by
    have beyond : config.state.count + 1 ≤ index := beyond
    have different : index ≠ config.state.count := by omega
    exact (Function.update_of_ne different ..).trans
      (simulated.fresh index (by omega))
  distinct _ _ := simulated.create_distinct differs
  keys key present := by
    obtain ⟨index, below, same⟩ := simulated.keys key present
    exact ⟨index, Nat.lt_succ_of_lt below,
      (create_calls_older callId below).symm ▸ same⟩
  stands thread := by
    cases thread with
    | caller =>
        simp only [Function.update_self]
        exact .within _ _
    | worker => exact simulated.stands .worker
  within := by
    intro thread
    cases thread with
    | caller =>
        simp only [Function.update_self]
        exact ⟨Nat.lt_succ_self _, request_ownKey conf, fun _ => rfl⟩
    | worker =>
        refine (simulated.within .worker).transfer (fun index below => ?_)
          (.inr ⟨rfl, Nat.le_succ _⟩)
        rw [create_calls_older callId below]
  followed index below := by
    rcases Nat.lt_succ_iff_lt_or_eq.mp below with below | rfl
    · obtain ⟨single, reach, sameState, controls⟩ :=
        simulated.followed index below
      refine ⟨single, ?_, ?_, fun thread => ?_⟩
      · simp only [create_calls_older callId below]
        exact reach
      · simp only [State.isolated, State.dialog,
          create_calls_older callId below]
        exact sameState
      · rw [controls thread]
        cases thread with
        | caller =>
            rw [begins, Function.update_self,
              continuation_other (Nat.ne_of_gt below)]
            rfl
        | worker => rfl
    · have absent : callId ∉ config.state.reqLock := by
        intro present
        obtain ⟨index, below, same⟩ := simulated.keys callId present
        exact differs index below same
      simp only [create_calls_count]
      exact simulated.create_followed absent

/-! ### A step in a dialog -/

/-- A thread takes a step in a dialog, and the dialog alone takes it as
well. -/
theorem Simulated.act
    (simulated : Simulated conf condition config place)
    {operation : Dialog.Op}
    {choice : Dialog.Choice}
    {program : Dialog.Prog Unit}
    (created : index < config.state.count)
    (uses : UsesKey (config.state.calls index).callId operation)
    (valid : UsesValid (config.state.dialog index) operation)
    (within : Within config.state thread (some (index, program)))
    (others : ∀ other, other ≠ index →
      continuation thread other (place thread) = .ret (rest thread))
    (follows : ∀ single,
      (Dialog.machine conf).Reach
          (condition (config.state.calls index).callId)
          (Dialog.start (config.state.calls index).callId ∅) single →
        single.state = config.state.isolated index →
        single.control thread = continuation thread index (place thread) →
          (Dialog.machine conf).Reach
            (condition (config.state.calls index).callId)
            (Dialog.start (config.state.calls index).callId ∅)
            { state := (Dialog.exec operation choice
                (config.state.isolated index)).2
              control := Function.update single.control thread
                (program >>= fun _ => .ret (rest thread)) }) :
    Simulated conf condition
      { state := config.state.put index
          (Dialog.exec operation choice (config.state.dialog index)).2
        control := Function.update config.control thread
          (inDialog index program) }
      (Function.update place thread (some (index, program))) where
  fresh other beyond := by
    have different : other ≠ index := by
      rintro rfl
      exact absurd created (Nat.not_lt_of_le beyond)
    exact (Function.update_of_ne different ..).trans
      (simulated.fresh other beyond)
  distinct first second belowFirst belowSecond same := by
    rw [put_callId, put_callId] at same
    exact simulated.distinct first second belowFirst belowSecond same
  keys key present := by
    rcases put_keys uses present with rfl | present
    · exact ⟨index, created, put_callId⟩
    · obtain ⟨other, below, same⟩ := simulated.keys key present
      exact ⟨other, below, put_callId.trans same⟩
  stands := forall_update_both (Stands conf) (.within index program)
    simulated.stands
  within := forall_update (Within _)
    (within.transfer (fun _ _ => put_callId) (.inl rfl))
    fun other => (simulated.within other).transfer (fun _ _ => put_callId)
      (.inl rfl)
  followed other below := by
    obtain ⟨single, reach, sameState, controls⟩ :=
      simulated.followed other below
    rw [put_callId]
    by_cases same : other = index
    · subst same
      refine ⟨_, follows single reach sameState (controls thread),
        (put_isolated_self uses).symm, ?_⟩
      exact forall_update_both
        (fun thread control place => control =
          continuation thread other place)
        (continuation_self program).symm controls
    · have apart : (config.state.calls other).callId ≠
          (config.state.calls index).callId :=
        fun equal => same (simulated.distinct other index below created equal)
      refine ⟨single, reach, ?_, ?_⟩
      · rw [put_isolated_other uses valid same apart]
        exact sameState
      · refine forall_update
          (fun thread place => single.control thread =
            continuation thread other place) ?_ controls
        rw [controls thread, others other same,
          continuation_other (Ne.symm same)]

/-- A thread goes on in its dialog. -/
theorem Simulated.perform
    (simulated : Simulated conf condition config place)
    {operation : Dialog.Op}
    {next : Dialog.Res operation → Dialog.Prog Unit}
    (placed : place thread = some (index, .perform operation next))
    (choice : Dialog.Choice)
    (reads : ReadsWhole choice (config.state.dialog index) operation)
    (valid : UsesValid (config.state.dialog index) operation)
    (holds : condition (config.state.calls index).callId thread operation
      choice (config.state.isolated index)) :
    let outcome :=
      Dialog.exec operation choice (config.state.dialog index)
    Simulated conf condition
      { state := config.state.put index outcome.2
        control := Function.update config.control thread
          (inDialog index (next outcome.1)) }
      (Function.update place thread (some (index, next outcome.1))) := by
  intro outcome
  have within := simulated.within thread
  rw [placed] at within
  obtain ⟨created, own, last⟩ := within
  refine simulated.act created own.1 valid
    ⟨created, own.2 _ (readsAs_exec reads), last⟩ (fun other different => ?_) ?_
  · rw [placed, continuation_other (Ne.symm different)]
  · intro single reach sameState control
    rw [placed, continuation_self] at control
    have sameResult : (Dialog.exec operation choice
        (config.state.isolated index)).1 = outcome.1 := by
      rw [State.isolated, exec_alone own.1]
    rw [← sameResult, ← sameState]
    exact reach.perform control choice (sameState ▸ holds)

/-- The worker gets a message of a dialog. -/
theorem Simulated.deliver
    (simulated : Simulated conf condition config place)
    (begins : place .worker = none)
    (created : index < config.state.count)
    {choice : Dialog.Choice}
    {message : RxMessage}
    (delivered : (Dialog.exec .handleEvents choice
      (config.state.dialog index)).1 = some message)
    (holds : condition (config.state.calls index).callId .worker
      .handleEvents choice (config.state.isolated index)) :
    Simulated conf condition
      { state := config.state.put index
          (Dialog.exec .handleEvents choice (config.state.dialog index)).2
        control := Function.update config.control .worker
          (inDialog index (handle message)) }
      (Function.update place .worker (some (index, handle message))) := by
  have uses : UsesKey (config.state.calls index).callId .handleEvents :=
    trivial
  refine simulated.act created uses trivial
    ⟨created, handle_ownKey message, nofun⟩ (fun other _ => ?_) ?_
  · rw [begins]
    rfl
  · intro single reach sameState control
    rw [begins] at control
    have woken := reach.jump control
    have sameResult : ((Dialog.machine conf).exec .worker .handleEvents choice
        single.state).1 = some message := by
      rw [sameState]
      simp only [Dialog.machine, State.isolated, exec_alone uses]
      exact delivered
    rw [← sameState] at holds ⊢
    have handled := woken.perform
      ((Function.update_self ..).trans workerThread_eq) choice holds
    rw [Function.update_idem, sameResult] at handled
    exact handled

/-! ## Runs of many dialogs -/

theorem code_caller :
    code conf .caller =
      .perform .createUac fun index => inDialog index (request conf) := rfl

theorem code_worker :
    code conf .worker =
      .perform .handleEvents fun
        | some (index, message) => inDialog index (handle message)
        | none => .ret () := rfl

/-- The worker asks for the next message. -/
theorem Simulated.handleEvents
    (simulated : Simulated conf condition config place)
    (begins : place .worker = none)
    {choice : Choice}
    (holds : Apart condition .worker .handleEvents choice config.state) :
    ∃ later, Simulated conf condition
      { state := (exec .handleEvents choice config.state).2
        control := Function.update config.control .worker
          (match (exec .handleEvents choice config.state).1 with
            | some (index, message) => inDialog index (handle message)
            | none => .ret ()) } later := by
  obtain none | ⟨message, sent, some⟩ :=
    handleEvents_cases choice.toChoice (config.state.dialog choice.index)
  · simp only [exec, none]
    exact ⟨_, simulated.idle (fun _ => by rw [begins]; rfl) .between⟩
  · have created : choice.index < config.state.count := by
      by_contra beyond
      rw [State.dialog, simulated.fresh _ (Nat.le_of_not_lt beyond)] at sent
      cases sent
    have delivered := simulated.deliver begins created
      (congrArg Prod.fst some) (holds created)
    rw [some] at delivered
    simp only [exec, some]
    exact ⟨_, delivered⟩

/-- The next operation of a thread. -/
theorem Simulated.step
    (simulated : Simulated conf condition config place)
    {operation : Op}
    {next : Res operation → Prog Unit}
    (pending : config.control thread = .perform operation next)
    {choice : Choice}
    (holds : Undisturbed condition thread operation choice config.state) :
    ∃ later, Simulated conf condition
      { state := (exec operation choice config.state).2
        control := Function.update config.control thread
          (next (exec operation choice config.state).1) } later := by
  have stands := simulated.stands thread
  generalize config.control thread = control at pending stands
  generalize placed : place thread = current at stands
  cases stands with
  | between => cases pending
  | begins =>
      cases thread with
      | caller =>
          rw [code_caller] at pending
          cases pending
          exact ⟨_, simulated.create placed holds.1⟩
      | worker =>
          rw [code_worker] at pending
          cases pending
          exact simulated.handleEvents placed holds.1
  | within index program =>
      cases program with
      | ret value => cases pending
      | perform dialogOperation dialogNext =>
          cases pending
          exact ⟨_, simulated.perform placed choice.toChoice holds.1.1 holds.2
            holds.1.2⟩

/-- The invariant of the runs in which the dialogs are undisturbed. -/
theorem reach_simulated
    (reach : (machine conf).Reach (Undisturbed condition) start config) :
    ∃ place, Simulated conf condition config place := by
  induction reach with
  | start => exact ⟨_, simulated_start⟩
  | @jump config thread label _ returned inductionHypothesis =>
      obtain ⟨place, simulated⟩ := inductionHypothesis
      exact ⟨_, simulated.idle (fun _ =>
        (simulated.stands thread).continuation_of_returned returned) .begins⟩
  | perform _ pending choice holds inductionHypothesis =>
      obtain ⟨place, simulated⟩ := inductionHypothesis
      exact simulated.step pending holds

/-- Every dialog takes the course of a run of this dialog alone. -/
theorem dialogs_isolated
    (reach : (machine conf).Reach (Undisturbed condition) start config)
    (created : index < config.state.count) :
    ∃ single,
      (Dialog.machine conf).Reach
          (condition (config.state.calls index).callId)
          (Dialog.start (config.state.calls index).callId ∅) single ∧
        single.state = config.state.isolated index := by
  obtain ⟨place, simulated⟩ := reach_simulated reach
  obtain ⟨single, reachSingle, sameState, -⟩ :=
    simulated.followed index created
  exact ⟨single, reachSingle, sameState⟩

/-- What holds in all runs of a single dialog holds of every dialog. -/
theorem isolated_of_single
    {property : Dialog.State → Prop}
    (reach : (machine conf).Reach (Undisturbed condition) start config)
    (created : index < config.state.count)
    (holds : ∀ single,
      (Dialog.machine conf).Reach
          (condition (config.state.calls index).callId)
          (Dialog.start (config.state.calls index).callId ∅) single →
        property single.state) :
    property (config.state.isolated index) := by
  obtain ⟨place, simulated⟩ := reach_simulated reach
  obtain ⟨single, reachSingle, sameState, -⟩ :=
    simulated.followed index created
  exact sameState ▸ holds single reachSingle

/-! ## A late answer -/

/-- A thread takes a number of steps with the same choice. -/
def steps (thread : Dialog.Thread) (count : Nat) (choice : Choice) :
    List (Dialog.Thread × (Op → Choice)) :=
  List.replicate count (thread, fun _ => choice)

/-- A response to the INVITE of a dialog. -/
def inviteResponse (index : Nat) (statusCode : Int) : Choice where
  message := some (.response { method := .invite, statusCode := statusCode })
  index := index

/-- The first request is answered with 486 and returns. While the second one
waits, a 200 to the first comes late. -/
def lateSuccess : List (Dialog.Thread × (Op → Choice)) :=
  steps .caller 6 { callId := ascii "a7" } ++
    steps .worker 8 (inviteResponse 0 486) ++
    steps .caller 9 {} ++
    steps .caller 6 { callId := ascii "b8" } ++
    steps .worker 8 (inviteResponse 0 200)

theorem lateSuccess_isolated :
    ∃ single,
      (Dialog.machine {}).Reach (fun _ _ _ _ => True)
          (Dialog.start ((machine {}).run lateSuccess start |>.state.calls
            1).callId ∅) single ∧
        single.state =
          ((machine {}).run lateSuccess start).state.isolated 1 :=
  dialogs_isolated
    (show (machine {}).Reach (Undisturbed fun _ _ _ _ _ => True) start _ from
      .run .start lateSuccess (by decide +kernel))
    (by decide +kernel)

end Dialogs
end Sms112
