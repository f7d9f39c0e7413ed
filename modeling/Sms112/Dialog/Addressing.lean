import Sms112.Model.Dialog

/-!
# Which entry a Call-ID addresses

The four functions on the map of waiting requests look an entry up under the C
string at the pointer of the Call-ID, which need not end with the characters
that are counted. They address one entry as long as all four read the same C
string, and the request has it to itself as long as no other does.
-/

namespace Sms112
namespace Dialog

open Resumption

/-! ## What the functions are to do -/

/-- The clock gives a deadline. -/
def ClockWorks (oracle : Op → Choice) : Prop :=
  ∀ sec, (oracle (.makeTimespecTimeout sec)).ret = 0

/-- No entry but the one under `key` differs between two maps. -/
def OnlyChanges (key : Octets) (before after : ReqLock) : Prop :=
  ∀ other, other ≠ key → after.find other = before.find other

/-- `sync_init` creates an entry under `key`. -/
def Creates (callId : PjStr) (key : Octets) (state : State) : Prop :=
  key ∉ state.reqLock ∧ ∀ oracle,
    let after := ((syncInit callId).eval exec oracle state).2
    (∃ node, after.reqLock.find key = some { node }) ∧
      OnlyChanges key state.reqLock after.reqLock

/-- `sync_lock` takes the result from the entry under `key` once its mutex is
free, and locks that mutex. -/
def WaitsFor (conf : SConf) (callId : PjStr) (key : Octets) : Prop :=
  ∀ oracle state result node, ClockWorks oracle →
    state.reqLock.find key = some ⟨false, result, node⟩ →
    let outcome := (syncLock conf callId).eval exec oracle state
    outcome.1 = result ∧
      outcome.2.reqLock.find key = some ⟨true, result, node⟩ ∧
      OnlyChanges key state.reqLock outcome.2.reqLock

/-- `sync_ulck` stores the result in the entry under `key` and unlocks its
mutex. -/
def Wakes (callId : PjStr) (key : Octets) : Prop :=
  ∀ oracle state result, key ∈ state.reqLock →
    let after := ((syncUlck callId result).eval exec oracle state).2
    (∃ node, after.reqLock.find key = some ⟨false, result, node⟩) ∧
      OnlyChanges key state.reqLock after.reqLock

/-- `sync_del` removes the entry under `key`. -/
def Removes (callId : PjStr) (key : Octets) : Prop :=
  ∀ oracle state, key ∈ state.reqLock →
    let after := ((syncDel callId).eval exec oracle state).2
    key ∉ after.reqLock ∧ OnlyChanges key state.reqLock after.reqLock

/-- The entry that `sync_init` creates for a Call-ID is the one that the three
other functions work on, and they work on no other. -/
def Addressed (conf : SConf) (init lock ulck del : PjStr)
    (state : State) : Prop :=
  ∃ key, Creates init key state ∧ WaitsFor conf lock key ∧
    Wakes ulck key ∧ Removes del key

/-! ## What the functions do -/

variable (oracle : Op → Choice)
variable {callId : PjStr}

theorem syncInit_eval
    (given : IsGiven callId)
    (state : State) :
    (syncInit callId).eval exec oracle state =
      ((), state.insertLock (lockKey callId)
        (oracle (.insertLock (lockKey callId))).node) := by
  rw [syncInit, if_pos given]
  rfl

theorem syncUlck_find
    (given : IsGiven callId)
    (result : Int)
    (state : State)
    (other : Octets) :
    ((syncUlck callId result).eval exec oracle state).2.reqLock.find other =
      if other = lockKey callId then
        (state.reqLock.find (lockKey callId)).map fun entry =>
          ⟨false, result, entry.node⟩
      else state.reqLock.find other := by
  rw [syncUlck, if_pos given]
  cases found : state.reqLock.find (lockKey callId) with
  | some entry =>
      have node : state.findLock (lockKey callId) = some entry.node := by
        rw [State.findLock, found, Option.map_some]
      have stored : (state.updateLock (lockKey callId) fun entry =>
          { entry with result := result }).findLock (lockKey callId) =
            some entry.node := by
        rw [State.findLock, find_updateLock, if_pos rfl, found]
        rfl
      simp only [Program.eval_bind, Program.eval_call, exec, node, State.updateAt,
        if_true, stored, find_updateLock, found]
      by_cases same : other = lockKey callId <;> simp [same]
  | none =>
      have missing : state.findLock (lockKey callId) = none := by
        rw [State.findLock, found, Option.map_none]
      simp only [Program.eval_bind, Program.eval_call, exec, missing,
        Program.pure_eq_ret, Program.eval_ret]
      by_cases same : other = lockKey callId <;> simp [same, found]

theorem syncDel_find
    (given : IsGiven callId)
    (state : State)
    (other : Octets) :
    ((syncDel callId).eval exec oracle state).2.reqLock.find other =
      if other = lockKey callId then none
      else state.reqLock.find other := by
  rw [syncDel, if_pos given]
  by_cases found : (state.findLock (lockKey callId)).isSome
  · simp only [Program.eval_bind, Program.eval_call, exec, found, if_true]
    exact ReqLock.find_erase
  · have missing := ReqLock.find_eq_none.mpr (mt isSome_findLock.mpr found)
    simp only [Program.eval_bind, Program.eval_call, exec, found,
      Bool.false_eq_true, if_false, Program.pure_eq_ret, Program.eval_ret]
    by_cases same : other = lockKey callId <;> simp [same, missing]

theorem timedLock_onlyChanges (state : State) (key : Octets) :
    OnlyChanges key state.reqLock (state.timedLock key).2.reqLock := by
  intro other different
  unfold State.timedLock
  split
  · split
    · rfl
    · exact (find_updateLock _ _ _ _).trans (if_neg different)
  · rfl

/-- `sync_lock` leaves the entries under other keys alone. -/
theorem syncLock_onlyChanges
    (conf : SConf)
    (given : IsGiven callId)
    (state : State) :
    OnlyChanges (lockKey callId) state.reqLock
      ((syncLock conf callId).eval exec oracle state).2.reqLock := by
  rw [syncLock, if_pos given]
  by_cases found : (state.findLock (lockKey callId)).isSome
  · simp only [Program.eval_bind, Program.eval_call, exec, found, if_true]
    by_cases made : (oracle (.makeTimespecTimeout conf.sipTimeout)).ret = 0
    · have unchanged := timedLock_onlyChanges state (lockKey callId)
      rcases taken : state.timedLock (lockKey callId) with ⟨code, later⟩
      have waited : (call (.timedLock (lockKey callId))).eval exec oracle
          state = (code, later) := taken
      rw [taken] at unchanged
      simp only [made, if_true]
      rw [Program.eval_bind_of_eq _ _ waited]
      split <;> exact unchanged
    · simp only [made, if_false]
      exact fun _ _ => rfl
  · simp only [Program.eval_bind, Program.eval_call, exec, found,
      Bool.false_eq_true, if_false, Program.pure_eq_ret, Program.eval_ret]
    exact fun _ _ => rfl

/-- On a free mutex it takes the result. -/
theorem syncLock_eval
    (conf : SConf)
    (clock : ClockWorks oracle)
    (given : IsGiven callId)
    {state : State}
    {result : Int}
    {node : Nat}
    (free : state.reqLock.find (lockKey callId) =
      some ⟨false, result, node⟩) :
    let outcome := (syncLock conf callId).eval exec oracle state
    outcome.1 = result ∧
      outcome.2.reqLock.find (lockKey callId) =
        some ⟨true, result, node⟩ := by
  have found : (state.findLock (lockKey callId)).isSome := by
    rw [State.findLock, free]
    rfl
  have taken : state.timedLock (lockKey callId) =
      (0, (state.updateLock (lockKey callId) fun entry =>
        { entry with locked := true }).note (.waited 0)) := by
    simp [State.timedLock, free]
  have entry : ((state.updateLock (lockKey callId) fun entry =>
      { entry with locked := true }).note (.waited 0)).reqLock.find
        (lockKey callId) = some ⟨true, result, node⟩ := by
    refine (find_updateLock state _ _ _).trans ?_
    rw [if_pos rfl, free, Option.map_some]
  rw [syncLock, if_pos given]
  simp only [Program.eval_bind, Program.eval_call, exec, found, if_true,
    clock conf.sipTimeout, taken]
  refine ⟨?_, entry⟩
  rw [State.lockResult, entry, Option.map_some, Option.getD_some]

/-! ## When one entry is addressed -/

theorem creates_iff
    (given : IsGiven callId)
    (key : Octets)
    (state : State) :
    Creates callId key state ↔
      key ∉ state.reqLock ∧ lockKey callId = key := by
  unfold Creates
  simp only [syncInit_eval _ given]
  constructor
  · rintro ⟨absent, creates⟩
    obtain ⟨⟨node, created⟩, -⟩ := creates fun _ => {}
    refine ⟨absent, ?_⟩
    by_contra different
    by_cases taken : lockKey callId ∈ state.reqLock
    · rw [State.insertLock, if_pos taken, ReqLock.find_eq_none.mpr absent]
        at created
      cases created
    · rw [find_insertLock taken, if_neg (Ne.symm different),
        ReqLock.find_eq_none.mpr absent] at created
      cases created
  · rintro ⟨absent, rfl⟩
    refine ⟨absent, fun oracle =>
      ⟨⟨(oracle (.insertLock (lockKey callId))).node, ?_⟩, ?_⟩⟩
    · rw [find_insertLock absent, if_pos rfl]
    · intro other different
      rw [find_insertLock absent, if_neg different]

/-- A map in which one entry has a given value. -/
theorem exists_find (key : Octets) (entry : SSync) :
    ∃ state : State, state.reqLock.find key = some entry :=
  ⟨{ reqLock := AList.insert key entry ∅ }, by
    rw [ReqLock.find_insert, if_pos rfl]⟩

theorem waitsFor_iff
    (conf : SConf)
    (given : IsGiven callId)
    (key : Octets) :
    WaitsFor conf callId key ↔ lockKey callId = key := by
  constructor
  · intro waits
    by_contra different
    obtain ⟨state, free⟩ := exists_find key ⟨false, 0, 0⟩
    have locked := (waits (fun _ => {}) state 0 0 (fun _ => rfl) free).2.1
    rw [syncLock_onlyChanges _ conf given state key (Ne.symm different),
      free] at locked
    simp at locked
  · rintro rfl oracle state result node clock free
    obtain ⟨returned, locked⟩ := syncLock_eval oracle conf clock given free
    exact ⟨returned, locked, syncLock_onlyChanges oracle conf given state⟩

theorem wakes_iff
    (given : IsGiven callId)
    (key : Octets) :
    Wakes callId key ↔ lockKey callId = key := by
  constructor
  · intro wakes
    by_contra different
    obtain ⟨state, locked⟩ := exists_find key {}
    have inside : key ∈ state.reqLock := by
      rw [← ReqLock.isSome_find, locked]
      rfl
    obtain ⟨node, free⟩ := (wakes (fun _ => {}) state 0 inside).1
    rw [syncUlck_find _ given, if_neg (Ne.symm different), locked] at free
    simp at free
  · rintro rfl oracle state result inside
    rw [← ReqLock.isSome_find] at inside
    obtain ⟨entry, found⟩ := Option.isSome_iff_exists.mp inside
    constructor
    · refine ⟨entry.node, ?_⟩
      rw [syncUlck_find oracle given, if_pos rfl, found, Option.map_some]
    · intro other different
      rw [syncUlck_find oracle given, if_neg different]

theorem removes_iff
    (given : IsGiven callId)
    (key : Octets) :
    Removes callId key ↔ lockKey callId = key := by
  constructor
  · intro removes
    by_contra different
    obtain ⟨state, found⟩ := exists_find key {}
    have inside : key ∈ state.reqLock := by
      rw [← ReqLock.isSome_find, found]
      rfl
    have removed := ReqLock.find_eq_none.mpr
      (removes (fun _ => {}) state inside).1
    rw [syncDel_find _ given, if_neg (Ne.symm different), found]
      at removed
    cases removed
  · rintro rfl oracle state inside
    constructor
    · rw [← ReqLock.find_eq_none, syncDel_find oracle given, if_pos rfl]
    · intro other different
      rw [syncDel_find oracle given, if_neg different]

theorem isGiven_of_chars
    {id : Octets}
    (nonempty : id ≠ [])
    (chars : callId.chars = id) :
    IsGiven callId := by
  constructor
  · intro null
    rw [PjStr.chars, PjStr.memory, null, Option.getD_none, List.take_nil]
      at chars
    exact nonempty chars.symm
  · apply Nat.pos_of_ne_zero
    intro zero
    rw [PjStr.chars, zero, List.take_zero] at chars
    exact nonempty chars.symm

/-- The entry of a Call-ID is found by the same characters exactly if what
lies behind them continues the C string in the same way each time, and no
other request has an entry under that string. -/
theorem addressed_iff
    (conf : SConf)
    {id : Octets}
    (nonempty : id ≠ [])
    {init lock ulck del : PjStr}
    (same : ∀ str ∈ [init, lock, ulck, del], str.chars = id)
    (state : State) :
    Addressed conf init lock ulck del state ↔
      lockKey init ∉ state.reqLock ∧ lockKey lock = lockKey init ∧
        lockKey ulck = lockKey init ∧ lockKey del = lockKey init := by
  have given (str : PjStr) (member : str ∈ [init, lock, ulck, del]) :
      IsGiven str :=
    isGiven_of_chars nonempty (same str member)
  unfold Addressed
  simp only [creates_iff (given init (by simp)),
    waitsFor_iff conf (given lock (by simp)),
    wakes_iff (given ulck (by simp)),
    removes_iff (given del (by simp))]
  constructor
  · rintro ⟨key, ⟨absent, rfl⟩, rest⟩
    exact ⟨absent, rest⟩
  · rintro ⟨absent, rest⟩
    exact ⟨lockKey init, ⟨absent, rfl⟩, rest⟩

/-- A Call-ID with a zero octet behind it. -/
def terminatedId : PjStr :=
  ⟨some (ascii "a7" ++ [0]), 2⟩

theorem terminatedId_addressed :
    Addressed {} terminatedId terminatedId terminatedId
      terminatedId {} :=
  (addressed_iff {} (show ascii "a7" ≠ [] by decide) (by decide) {}).mpr
    ⟨by decide, rfl, rfl, rfl⟩

/-- The same characters, with another one behind them. -/
def continuedId : PjStr :=
  ⟨some (ascii "a7x" ++ [0]), 2⟩

/-- A waiter whose Call-ID is terminated when it starts to wait is not woken
through one that is not. -/
theorem continuedId_notAddressed :
    continuedId.chars = terminatedId.chars ∧
      ¬Addressed {} terminatedId terminatedId continuedId
        terminatedId {} := by
  refine ⟨by decide, ?_⟩
  rintro ⟨key, creates, waits, wakes, -⟩
  have given : IsGiven terminatedId := by decide
  have stored := ((creates_iff given key {}).mp creates).2
  have woken := (wakes_iff (show IsGiven continuedId by decide) key).mp wakes
  exact absurd (stored.trans woken.symm) (by decide)

end Dialog
end Sms112
