import Sms112.Dialog.Addressing
import Sms112.Model.Dialogs

/-!
# One dialog alone

As long as its Call-ID reads as one C string, what the program does in a
dialog concerns the entry under this key and no other. On a map that has
nothing else it does the same (`exec_alone`).
-/

namespace Sms112
namespace Dialogs

open Resumption
open Dialog (ReqLock RxMessage SSync OnlyChanges IsGiven lockKey)

/-! ## Maps with one entry -/

/-- The entry under a key, and no other. -/
def only (key : Octets) (map : ReqLock) : ReqLock :=
  match map.find key with
  | some entry => AList.insert key entry ∅
  | none => ∅

variable {key : Octets} {map : ReqLock}

theorem only_of_find
    {entry : SSync}
    (found : map.find key = some entry) :
    only key map = AList.insert key entry ∅ := by
  rw [only, found]

theorem only_of_absent
    (absent : key ∉ map) :
    only key map = ∅ := by
  rw [only, ReqLock.find_eq_none.mpr absent]

/-- Under the key itself nothing has changed. -/
theorem find_only : (only key map).find key = map.find key := by
  cases found : map.find key with
  | none =>
      rw [only_of_absent (ReqLock.find_eq_none.mp found)]
      rfl
  | some entry =>
      rw [only_of_find found]
      exact AList.lookup_insert _

theorem mem_only : key ∈ only key map ↔ key ∈ map := by
  rw [← ReqLock.isSome_find, ← ReqLock.isSome_find, find_only]

/-- No other key is left. -/
theorem mem_only_key
    {other : Octets}
    (present : other ∈ only key map) :
    other = key := by
  cases found : map.find key with
  | none =>
      rw [only_of_absent (ReqLock.find_eq_none.mp found)] at present
      exact absurd present (AList.notMem_empty other)
  | some entry =>
      rw [only_of_find found, AList.mem_insert] at present
      exact present.resolve_right (AList.notMem_empty other)

/-- A new entry under the key is the only one. -/
theorem only_insert (entry : SSync) :
    only key (AList.insert key entry map) = AList.insert key entry ∅ :=
  only_of_find (AList.lookup_insert _)

/-- With it erased nothing is left. -/
theorem only_erase : only key (AList.erase key map) = ∅ :=
  only_of_absent (by simp)

theorem erase_only : AList.erase key (only key map) = ∅ := by
  by_cases present : key ∈ map
  · obtain ⟨entry, found⟩ := Option.isSome_iff_exists.mp
      (ReqLock.isSome_find.mpr present)
    rw [only_of_find found]
    have noKeys : (AList.erase key
        (AList.insert key entry (∅ : ReqLock))).keys = [] := by
      simp
    exact AList.ext (List.map_eq_nil_iff.mp noKeys)
  · rw [only_of_absent present]
    rfl

/-- Maps that agree on a key have the same entry there. -/
theorem only_congr
    {other : ReqLock}
    (same : map.find key = other.find key) :
    only key map = only key other := by
  rw [only, only, same]

/-! ## Operations of one dialog -/

/-- The operation looks for no key but this one. -/
def UsesKey (key : Octets) : Dialog.Op → Prop
  | .insertLock other | .findLock other | .setResult other _ _
  | .getResult other | .unlock other _ | .timedLock other
  | .eraseLock other => other = key
  | _ => True

/-- The iterator that is used points to the entry it was found at. -/
def UsesValid (state : Dialog.State) : Dialog.Op → Prop
  | .setResult key node _ | .unlock key node =>
      state.findLock key = some node
  | _ => True

/-- The Call-ID is read as this C string. -/
def ReadsAs (key : Octets) : (operation : Dialog.Op) → Dialog.Res operation →
    Prop
  | .callId, callId => lockKey callId = key
  | _, _ => True

/-- A dialog on a map that has no entry but its own. -/
def alone (key : Octets) (state : Dialog.State) : Dialog.State :=
  { state with reqLock := only key state.reqLock }

variable {operation : Dialog.Op} {state : Dialog.State}

/-- A change through the key is the same alone. -/
theorem updateLock_alone (change : SSync → SSync) :
    (alone key state).updateLock key change =
      alone key (state.updateLock key change) := by
  unfold Dialog.State.updateLock
  have sameEntry : (alone key state).reqLock.find key =
      state.reqLock.find key := find_only
  rw [sameEntry]
  cases found : state.reqLock.find key with
  | none => rfl
  | some entry =>
      have single : only key state.reqLock = AList.insert key entry ∅ :=
        only_of_find found
      simp only [alone, single, only_insert, AList.insert_insert]

/-- It changes nothing under the other keys. -/
theorem updateLock_onlyChanges
    (other : Octets)
    (change : SSync → SSync) :
    OnlyChanges other state.reqLock (state.updateLock other change).reqLock :=
  fun _ different => (Dialog.find_updateLock ..).trans (if_neg different)

theorem findLock_alone :
    (alone key state).findLock key = state.findLock key := by
  unfold Dialog.State.findLock
  rw [show (alone key state).reqLock.find key = _ from find_only]

/-- Nothing else changes through an iterator that is not valid: on its own, the
dialog has no other entry. -/
theorem updateAt_alone
    (node : Nat)
    (reused : Option Octets)
    (change : SSync → SSync) :
    (alone key state).updateAt key node reused change =
      alone key (state.updateAt key node reused change) := by
  unfold Dialog.State.updateAt
  rw [findLock_alone]
  split
  next => exact updateLock_alone change
  next =>
    cases reused with
    | none => rfl
    | some other =>
        by_cases same : other = key
        · subst same
          exact updateLock_alone change
        · have missing : (alone key state).reqLock.find other = none := by
            rw [ReqLock.find_eq_none]
            exact fun present => same (mem_only_key present)
          have unchanged : (state.updateLock other change).reqLock.find key =
              state.reqLock.find key :=
            updateLock_onlyChanges other change key (Ne.symm same)
          have nothing : (alone key state).updateLock other change =
              alone key state := by
            unfold Dialog.State.updateLock
            rw [missing]
          refine nothing.trans ?_
          simp only [alone, only_congr unchanged, Dialog.updateLock_callId,
            Dialog.updateLock_log, Dialog.updateLock_inviteSent]

theorem insertLock_alone (node : Nat) :
    (alone key state).insertLock key node =
      alone key (state.insertLock key node) := by
  unfold Dialog.State.insertLock
  by_cases present : key ∈ state.reqLock
  · have presentAlone : key ∈ (alone key state).reqLock :=
      mem_only.mpr present
    rw [if_pos present, if_pos presentAlone]
  · have absent : key ∉ (alone key state).reqLock :=
      fun member => present (mem_only.mp member)
    rw [if_neg present, if_neg absent]
    simp only [alone, only_insert, only_of_absent present]

/-- A wait on the entry ends the same alone. -/
theorem timedLock_alone :
    (alone key state).timedLock key =
      ((state.timedLock key).1, alone key (state.timedLock key).2) := by
  have sameEntry : (alone key state).reqLock.find key =
      state.reqLock.find key := find_only
  unfold Dialog.State.timedLock
  rw [sameEntry, updateLock_alone]
  cases state.reqLock.find key with
  | none => rfl
  | some entry => cases entry with
    | mk locked result => cases locked <;> rfl

/-- An operation does to a dialog on its own what it does to it among
others. -/
theorem exec_alone
    (uses : UsesKey key operation)
    (choice : Dialog.Choice)
    (state : Dialog.State) :
    Dialog.exec operation choice (alone key state) =
      ((Dialog.exec operation choice state).1,
        alone key (Dialog.exec operation choice state).2) := by
  cases operation with
  | handleEvents =>
      cases dispatched : choice.message with
      | none => simp only [Dialog.exec, dispatched]
      | some message =>
          cases sent : state.inviteSent <;>
            simp [Dialog.exec, dispatched, alone, sent, Dialog.State.note]
  | insertLock other =>
      obtain rfl : other = key := uses
      simp only [Dialog.exec, insertLock_alone]
  | findLock other =>
      obtain rfl : other = key := uses
      simp only [Dialog.exec, findLock_alone]
  | setResult other node result =>
      obtain rfl : other = key := uses
      simp only [Dialog.exec, updateAt_alone]
  | getResult other =>
      obtain rfl : other = key := uses
      have same : (alone other state).lockResult other =
          state.lockResult other := by
        unfold Dialog.State.lockResult
        rw [show (alone other state).reqLock.find other = _ from find_only]
      simp only [Dialog.exec, same]
      rfl
  | unlock other node =>
      obtain rfl : other = key := uses
      simp only [Dialog.exec, updateAt_alone]
  | timedLock other =>
      obtain rfl : other = key := uses
      simp only [Dialog.exec, timedLock_alone]
  | eraseLock other =>
      obtain rfl : other = key := uses
      simp only [Dialog.exec, alone, only_erase, erase_only]
  | _ => rfl

/-- The worker gets no message, or one of a dialog whose INVITE was sent. -/
theorem handleEvents_cases (choice : Dialog.Choice) (state : Dialog.State) :
    Dialog.exec .handleEvents choice state = (none, state) ∨
      ∃ message, state.inviteSent ∧
        Dialog.exec .handleEvents choice state =
          (some message, state.note (.dispatched message)) := by
  cases dispatched : choice.message with
  | none => exact .inl (by simp only [Dialog.exec, dispatched])
  | some message =>
      by_cases sent : state.inviteSent
      · exact .inr ⟨message, sent, by
          simp only [Dialog.exec, dispatched, sent, if_true]⟩
      · exact .inl (by simp only [Dialog.exec, dispatched, if_neg sent])

/-- The operations of a dialog leave the entries under other keys alone, if
they use no iterator whose entry is gone. -/
theorem exec_onlyChanges
    (uses : UsesKey key operation)
    (valid : UsesValid state operation)
    (choice : Dialog.Choice) :
    OnlyChanges key state.reqLock
      (Dialog.exec operation choice state).2.reqLock := by
  intro other different
  cases operation with
  | handleEvents =>
      obtain none | ⟨message, -, some⟩ := handleEvents_cases choice state
      · rw [none]
      · rw [some]
        rfl
  | insertLock own =>
      obtain rfl : own = key := uses
      simp only [Dialog.exec, Dialog.State.insertLock]
      split
      · rfl
      · exact AList.lookup_insert_ne different
  | setResult own node result =>
      obtain rfl : own = key := uses
      rw [Dialog.exec, Dialog.updateAt_of_valid valid]
      exact updateLock_onlyChanges own _ other different
  | unlock own node =>
      obtain rfl : own = key := uses
      rw [Dialog.exec, Dialog.updateAt_of_valid valid]
      exact updateLock_onlyChanges own _ other different
  | timedLock own =>
      obtain rfl : own = key := uses
      exact Dialog.timedLock_onlyChanges state own other different
  | eraseLock own =>
      obtain rfl : own = key := uses
      exact AList.lookup_erase_ne different
  | _ => rfl

/-- Whatever iterators they use, no entry under another key comes or goes. -/
theorem exec_mem
    (uses : UsesKey key operation)
    (choice : Dialog.Choice)
    {other : Octets}
    (different : other ≠ key) :
    other ∈ (Dialog.exec operation choice state).2.reqLock ↔
      other ∈ state.reqLock := by
  have unchanged (valid : UsesValid state operation) :
      other ∈ (Dialog.exec operation choice state).2.reqLock ↔
        other ∈ state.reqLock := by
    rw [← ReqLock.isSome_find, ← ReqLock.isSome_find,
      exec_onlyChanges uses valid choice other different]
  cases operation with
  | setResult own node result => exact Dialog.mem_updateAt ..
  | unlock own node => exact Dialog.mem_updateAt ..
  | _ => exact unchanged trivial

/-- No operation changes the Call-ID. -/
theorem exec_callId (choice : Dialog.Choice) :
    (Dialog.exec operation choice state).2.callId = state.callId := by
  cases operation with
  | handleEvents =>
      obtain none | ⟨message, -, some⟩ := handleEvents_cases choice state
      · rw [none]
      · rw [some]
        rfl
  | insertLock own =>
      simp only [Dialog.exec, Dialog.State.insertLock]
      split <;> rfl
  | setResult own node result => exact Dialog.updateAt_callId ..
  | unlock own node => exact Dialog.updateAt_callId ..
  | timedLock own =>
      simp only [Dialog.exec, Dialog.State.timedLock]
      split
      · split
        · rfl
        · exact Dialog.updateLock_callId ..
      · rfl
  | _ => rfl

/-! ## Programs of one dialog -/

/-- The program uses the key that it reads. -/
abbrev OwnKey {α : Type} (key : Octets) (program : Dialog.Prog α) : Prop :=
  program.UsesGiven (UsesKey key) (ReadsAs key)

variable {callId : PjStr}

theorem syncInit_ownKey (reads : lockKey callId = key) :
    OwnKey key (Dialog.syncInit callId) :=
  .ite (.call reads) trivial

theorem syncLock_ownKey (conf : SConf) (reads : lockKey callId = key) :
    OwnKey key (Dialog.syncLock conf callId) := by
  refine .ite (.step reads fun found _ => .ite ?_ trivial) trivial
  refine .step trivial fun made _ => .ite ?_ trivial
  exact .step reads fun code _ => .ite (.call reads) trivial

theorem syncUlck_ownKey (result : Int) (reads : lockKey callId = key) :
    OwnKey key (Dialog.syncUlck callId result) :=
  .ite (.step reads fun
    | some _, _ => .step reads fun _ _ => .call reads
    | none, _ => trivial) trivial

theorem syncDel_ownKey (reads : lockKey callId = key) :
    OwnKey key (Dialog.syncDel callId) :=
  .ite (.step reads fun _ _ => .ite (.call reads) trivial) trivial

/-- A request uses the map under its own key only. -/
theorem request_ownKey (conf : SConf) : OwnKey key (request conf) := by
  refine .bind (.step trivial fun _ _ => .step trivial fun initId reads =>
    .bind (syncInit_ownKey reads) fun _ => .step trivial fun _ _ => ?_)
    fun _ => .call trivial
  refine .step trivial fun lockId readsLock =>
    .bind (syncLock_ownKey conf readsLock) fun iRetVal => ?_
  exact .step trivial fun delId readsDel =>
    .bind (syncDel_ownKey readsDel) fun _ => trivial

theorem dispatch_ownKey (message : RxMessage) :
    OwnKey key (Dialog.dispatch message) := by
  cases message with
  | request rxData =>
      simp only [Dialog.dispatch, Dialog.onRxRequest]
      refine .ite ?_ trivial
      split
      · exact .step trivial fun _ _ => trivial
      · trivial
  | response rxData =>
      refine .ite ?_ trivial
      split
      · refine .ite ?_ (.ite trivial (.ite ?_ trivial))
        · exact .step trivial fun _ _ => .step trivial fun _ reads =>
            .bind (syncUlck_ownKey 0 reads) fun _ =>
              .step trivial fun _ _ => trivial
        · exact .step trivial fun _ _ => .step trivial fun _ reads =>
            .bind (syncUlck_ownKey _ reads) fun _ => trivial
      · exact .step trivial fun _ reads =>
          .bind (syncUlck_ownKey 0 reads) fun _ => trivial
      · trivial

/-- So does the handling of a message that belongs to the dialog. -/
theorem handle_ownKey (message : RxMessage) : OwnKey key (handle message) :=
  .bind (dispatch_ownKey message) fun _ => .call trivial

end Dialogs
end Sms112
