import Mathlib.Data.List.AList
import Sms112.Model.Conf
import Sms112.Model.Pjlib
import Sms112.Resumption.Interleaving

/-!
# The SIP dialog

The callbacks of the module that `sms112_sip.cpp` registers with pjsip, the
map of waiting requests, and the part of `sms112_sip_send_req` from the
creation of its dialog to its result. Two threads share the map: the one that
sends the request and the worker that handles the endpoint's events. The Call-ID
is a counted string; what lies behind its characters is the environment's
choice each time the program looks.
-/

namespace Sms112
namespace Dialog

open Resumption

/-! ## Received messages -/

/-- `pjsip_method_e` -/
inductive SipMethod
  | invite
  | cancel
  | ack
  | bye
  | register
  | options
  | other
  deriving DecidableEq

/-- What the callbacks read of a `pjsip_rx_data`: whether it belongs to the
dialog, the method and the status of its transaction if it has one, and those
of the message itself. -/
structure RxData where
  dlg : Bool := true
  tsx : Option (SipMethod × Int) := none
  method : SipMethod
  statusCode : Int := 0
  deriving DecidableEq

/-- `eSIPMethod` -/
def RxData.sipMethod (rxData : RxData) : SipMethod :=
  match rxData.tsx with
  | some (method, _) => method
  | none => rxData.method

/-- `iStatusCode` -/
def RxData.status (rxData : RxData) : Int :=
  match rxData.tsx with
  | some (_, statusCode) => statusCode
  | none => rxData.statusCode

/-- What pjsip hands to `on_rx_request` and to `on_rx_response`. -/
inductive RxMessage
  | request (rxData : RxData)
  | response (rxData : RxData)
  deriving DecidableEq

/-! ## The state and its operations -/

/-- `SSync`: whether its mutex is locked, and `m_iResult`; with them the
address of the map's node that holds it. -/
structure SSync where
  locked : Bool := true
  result : Int := -1
  node : Nat := 0
  deriving DecidableEq

/-- `g_mapReqLock` -/
abbrev ReqLock := AList fun _ : Octets => SSync

namespace ReqLock

/-- `std::map::find` -/
def find (map : ReqLock) (key : Octets) : Option SSync :=
  map.lookup key

variable {map : ReqLock} {key other : Octets}

theorem isSome_find : (map.find key).isSome ↔ key ∈ map :=
  AList.lookup_isSome

theorem find_eq_none : map.find key = none ↔ key ∉ map :=
  AList.lookup_eq_none

/-- A new entry shadows the one under its key and no other. -/
theorem find_insert (entry : SSync) :
    ReqLock.find (map.insert key entry) other =
      if other = key then some entry else map.find other := by
  by_cases same : other = key
  · subst same
    rw [if_pos rfl]
    exact AList.lookup_insert map
  · rw [if_neg same]
    exact AList.lookup_insert_ne same

/-- An erased entry is gone, and no other. -/
theorem find_erase :
    ReqLock.find (map.erase key) other =
      if other = key then none else map.find other := by
  by_cases same : other = key
  · subst same
    rw [if_pos rfl]
    exact AList.lookup_erase other map
  · rw [if_neg same]
    exact AList.lookup_erase_ne same

end ReqLock

/-- What a run did, for statements about its order. -/
inductive Event
  /-- A callback was entered with a message. -/
  | dispatched (message : RxMessage)
  /-- It returned. -/
  | handled (message : RxMessage)
  | inviteSent
  | ackSent
  | byeSent
  | responseSent (status : Int)
  | sessionIncreased
  | sessionDecreased
  /-- `pthread_mutex_timedlock` returned. -/
  | waited (code : Int)
  /-- `m_iResult` was read. -/
  | resultRead (result : Int)
  /-- `sms112_sip_send_req` returned. -/
  | returned (value : Int)
  deriving DecidableEq

/-- The characters of the dialog's Call-ID, the map, and as ghost whether the
INVITE was sent and what happened, newest first. -/
structure State where
  callId : Octets := []
  reqLock : ReqLock := ∅
  inviteSent : Bool := false
  log : List Event := []

/-- The choices of the environment: the result of a call, the memory behind a
counted string, and the message that is dispatched; the address of a new node,
and the entry that has got the memory of an erased one since. -/
structure Choice where
  ret : Int := 0
  memory : Octets := []
  message : Option RxMessage := none
  node : Nat := 0
  reused : Option Octets := none

/-- The atomic operations. -/
inductive Op
  -- pjsip
  /-- The next message that `pjsip_endpt_handle_events` hands over, in the same
  call as the one before or in a later one. -/
  | handleEvents
  | incSession
  | decSession
  | sendInvite
  | sendAck
  | sendBye
  | sendResp (status : Int)
  /-- `psoDialog->call_id->id` -/
  | callId
  -- the map
  | insertLock (key : Octets)
  | findLock (key : Octets)
  /-- `iter->second.m_iResult = p_iResult`, where the iterator was found under
  the key and points to the node. -/
  | setResult (key : Octets) (node : Nat) (result : Int)
  /-- `pthread_mutex_unlock( iter->second.m_ptMutex )` -/
  | unlock (key : Octets) (node : Nat)
  -- only the thread of the request erases, so its own iterators stay valid
  | getResult (key : Octets)
  | timedLock (key : Octets)
  | eraseLock (key : Octets)
  -- the clock
  | makeTimespecTimeout (sec : Nat)
  -- ghost
  | note (event : Event)

/-- What each operation returns. -/
@[reducible] def Res : Op → Type
  | .handleEvents => Option RxMessage
  | .callId => PjStr
  | .findLock _ => Option Nat
  | .getResult _ | .timedLock _ | .makeTimespecTimeout _ => Int
  | _ => Unit

abbrev Prog := Program Res

/-- Perform one operation. -/
abbrev call (operation : Op) : Prog (Res operation) :=
  Program.call operation

def ETIMEDOUT : Int := 110
def EINVAL : Int := 22

namespace State

variable (state : State)

/-- Add an event to the log. -/
def note (event : Event) : State :=
  { state with log := event :: state.log }

/-- `std::map::insert`: an entry that is there already stays as it is. -/
def insertLock (key : Octets) (node : Nat) : State :=
  if key ∈ state.reqLock then state
  else { state with reqLock := state.reqLock.insert key { node } }

/-- `std::map::find`, with the node that the iterator points to. -/
def findLock (key : Octets) : Option Nat :=
  (state.reqLock.find key).map SSync.node

/-- Change the entry under a key. -/
def updateLock (key : Octets) (change : SSync → SSync) : State :=
  match state.reqLock.find key with
  | some entry =>
      { state with reqLock := state.reqLock.insert key (change entry) }
  | none => state

/-- Change what an iterator points to. Once its entry was erased that is memory
which another entry may have got since. -/
def updateAt (key : Octets) (node : Nat) (reused : Option Octets)
    (change : SSync → SSync) : State :=
  if state.findLock key = some node then state.updateLock key change
  else
    match reused with
    | some other => state.updateLock other change
    | none => state

/-- `pthread_mutex_timedlock`: the call is over when the mutex is free, or
when the deadline has passed. -/
def timedLock (key : Octets) : Int × State :=
  match state.reqLock.find key with
  | some entry =>
      if entry.locked then (ETIMEDOUT, state.note (.waited ETIMEDOUT))
      else (0, (state.updateLock key fun entry =>
        { entry with locked := true }).note (.waited 0))
  | none => (EINVAL, state.note (.waited EINVAL))

/-- `m_iResult` of an entry. -/
def lockResult (key : Octets) : Int :=
  ((state.reqLock.find key).map SSync.result).getD 0

end State

/-- The meaning of the operations. A message of the dialog can be dispatched
once the INVITE was sent. -/
def exec : Handler Res Choice State
  | .handleEvents, choice, state =>
      match choice.message with
      | some message =>
          if state.inviteSent then
            (some message, state.note (.dispatched message))
          else (none, state)
      | none => (none, state)
  | .incSession, _, state => ((), state.note .sessionIncreased)
  | .decSession, _, state => ((), state.note .sessionDecreased)
  | .sendInvite, _, state =>
      ((), { state with inviteSent := true }.note .inviteSent)
  | .sendAck, _, state => ((), state.note .ackSent)
  | .sendBye, _, state => ((), state.note .byeSent)
  | .sendResp status, _, state => ((), state.note (.responseSent status))
  | .callId, choice, state =>
      (⟨some (state.callId ++ choice.memory), state.callId.length⟩, state)
  | .insertLock key, choice, state => ((), state.insertLock key choice.node)
  | .findLock key, _, state => (state.findLock key, state)
  | .setResult key node result, choice, state =>
      ((), state.updateAt key node choice.reused fun entry =>
        { entry with result := result })
  | .getResult key, _, state =>
      (state.lockResult key, state.note (.resultRead (state.lockResult key)))
  | .unlock key node, choice, state =>
      ((), state.updateAt key node choice.reused fun entry =>
        { entry with locked := false })
  | .timedLock key, _, state => state.timedLock key
  | .eraseLock key, _, state =>
      ((), { state with reqLock := state.reqLock.erase key })
  | .makeTimespecTimeout _, choice, state =>
      (if choice.ret = 0 then 0 else -1, state)
  | .note event, _, state => ((), state.note event)

/-! ### Single entries -/

/-- A change through the key reaches the entry under it and no other. -/
theorem find_updateLock
    (state : State)
    (key : Octets)
    (change : SSync → SSync)
    (other : Octets) :
    (state.updateLock key change).reqLock.find other =
      if other = key then (state.reqLock.find key).map change
      else state.reqLock.find other := by
  unfold State.updateLock
  cases found : state.reqLock.find key with
  | none =>
      by_cases same : other = key
      · simp [same, found]
      · simp [same]
  | some entry => exact ReqLock.find_insert (change entry)

/-- A new entry stands under its key, with the node it was given. -/
theorem find_insertLock
    {state : State}
    {key : Octets}
    (absent : key ∉ state.reqLock)
    (node : Nat)
    (other : Octets) :
    (state.insertLock key node).reqLock.find other =
      if other = key then some { node } else state.reqLock.find other := by
  rw [State.insertLock, if_neg absent]
  exact ReqLock.find_insert { node }

@[simp] theorem updateLock_log
    (state : State)
    (key : Octets)
    (change : SSync → SSync) :
    (state.updateLock key change).log = state.log := by
  unfold State.updateLock
  split <;> rfl

@[simp] theorem updateLock_callId
    (state : State)
    (key : Octets)
    (change : SSync → SSync) :
    (state.updateLock key change).callId = state.callId := by
  unfold State.updateLock
  split <;> rfl

@[simp] theorem updateLock_inviteSent
    (state : State)
    (key : Octets)
    (change : SSync → SSync) :
    (state.updateLock key change).inviteSent = state.inviteSent := by
  unfold State.updateLock
  split <;> rfl

/-- A change neither inserts nor erases. -/
theorem mem_updateLock
    {state : State}
    {key other : Octets}
    (change : SSync → SSync) :
    other ∈ (state.updateLock key change).reqLock ↔
      other ∈ state.reqLock := by
  rw [← ReqLock.isSome_find, ← ReqLock.isSome_find, find_updateLock]
  by_cases same : other = key
  · rw [if_pos same, Option.isSome_map, same]
  · rw [if_neg same]

theorem isSome_findLock
    {state : State}
    {key : Octets} :
    (state.findLock key).isSome ↔ key ∈ state.reqLock := by
  rw [State.findLock, Option.isSome_map]
  exact ReqLock.isSome_find

theorem findLock_eq_none
    {state : State}
    {key : Octets} :
    state.findLock key = none ↔ key ∉ state.reqLock := by
  rw [State.findLock, Option.map_eq_none_iff]
  exact ReqLock.find_eq_none

/-- What is changed through an iterator is an entry, if anything. -/
theorem updateAt_cases
    (state : State)
    (key : Octets)
    (node : Nat)
    (reused : Option Octets)
    (change : SSync → SSync) :
    (∃ other, state.updateAt key node reused change =
        state.updateLock other change ∧
        (other = key ∨ state.findLock key ≠ some node)) ∨
      state.updateAt key node reused change = state := by
  unfold State.updateAt
  split
  next => exact .inl ⟨key, rfl, .inl rfl⟩
  next erased =>
    cases reused with
    | some other => exact .inl ⟨other, rfl, .inr erased⟩
    | none => exact .inr rfl

/-- A valid iterator points to the entry that was found. -/
theorem updateAt_of_valid
    {state : State}
    {key : Octets}
    {node : Nat}
    (valid : state.findLock key = some node)
    (reused : Option Octets)
    (change : SSync → SSync) :
    state.updateAt key node reused change = state.updateLock key change :=
  if_pos valid

/-- Where an entry is there still, an iterator to it changes this entry. -/
theorem updateAt_of_node
    {state : State}
    {key : Octets}
    {node : Nat}
    (same : ∀ entry, state.reqLock.find key = some entry → entry.node = node)
    (reused : Option Octets)
    (change : SSync → SSync) :
    state.updateAt key node reused change = state.updateLock key change ∨
      key ∉ state.reqLock := by
  cases found : state.reqLock.find key with
  | none => exact .inr (ReqLock.find_eq_none.mp found)
  | some entry =>
      refine .inl (updateAt_of_valid ?_ reused change)
      rw [State.findLock, found, Option.map_some, same entry found]

@[simp] theorem updateAt_log
    (state : State)
    (key : Octets)
    (node : Nat)
    (reused : Option Octets)
    (change : SSync → SSync) :
    (state.updateAt key node reused change).log = state.log := by
  rcases updateAt_cases state key node reused change with
    ⟨other, changed, -⟩ | unchanged
  · rw [changed, updateLock_log]
  · rw [unchanged]

@[simp] theorem updateAt_callId
    (state : State)
    (key : Octets)
    (node : Nat)
    (reused : Option Octets)
    (change : SSync → SSync) :
    (state.updateAt key node reused change).callId = state.callId := by
  rcases updateAt_cases state key node reused change with
    ⟨other, changed, -⟩ | unchanged
  · rw [changed, updateLock_callId]
  · rw [unchanged]

@[simp] theorem updateAt_inviteSent
    (state : State)
    (key : Octets)
    (node : Nat)
    (reused : Option Octets)
    (change : SSync → SSync) :
    (state.updateAt key node reused change).inviteSent =
      state.inviteSent := by
  rcases updateAt_cases state key node reused change with
    ⟨other, changed, -⟩ | unchanged
  · rw [changed, updateLock_inviteSent]
  · rw [unchanged]

/-- No entry comes or goes through an iterator. -/
theorem mem_updateAt
    {state : State}
    {key other : Octets}
    (node : Nat)
    (reused : Option Octets)
    (change : SSync → SSync) :
    other ∈ (state.updateAt key node reused change).reqLock ↔
      other ∈ state.reqLock := by
  rcases updateAt_cases state key node reused change with
    ⟨found, changed, -⟩ | unchanged
  · rw [changed, mem_updateLock]
  · rw [unchanged]

/-- A write through an iterator to an erased entry brings the entry back under
no key. -/
theorem find_updateAt_of_erased
    {state : State}
    {key : Octets}
    (erased : key ∉ state.reqLock)
    (node : Nat)
    (reused : Option Octets)
    (change : SSync → SSync) :
    (state.updateAt key node reused change).reqLock.find key = none :=
  ReqLock.find_eq_none.mpr fun present =>
    erased ((mem_updateAt node reused change).mp present)

/-! ## The map of waiting requests -/

/-- `NULL != p_pstrCallId->ptr && 0 < p_pstrCallId->slen` -/
def IsGiven (callId : PjStr) : Prop :=
  callId.ptr ≠ none ∧ 0 < callId.slen

instance (callId : PjStr) : Decidable (IsGiven callId) := by
  unfold IsGiven
  infer_instance

/-- `std::string strCallId( p_pstrCallId->ptr )` -/
def lockKey (callId : PjStr) : Octets :=
  pjAnsiStr callId.ptr

/-- `sync_init` -/
def syncInit (callId : PjStr) : Prog Unit := do
  if IsGiven callId then
    call (.insertLock (lockKey callId))
  else
    return ()

variable (conf : SConf)

/-- `sync_lock` -/
def syncLock (callId : PjStr) : Prog Int := do
  if IsGiven callId then
    let found ← call (.findLock (lockKey callId))
    if found.isSome then
      let made ← call (.makeTimespecTimeout conf.sipTimeout)
      if made = 0 then
        let iRetVal ← call (.timedLock (lockKey callId))
        if iRetVal = 0 then
          call (.getResult (lockKey callId))
        else
          return iRetVal
      else
        return -1
    else
      return -1
  else
    return -1

/-- `sync_ulck` -/
def syncUlck (callId : PjStr) (result : Int) : Prog Unit := do
  if IsGiven callId then
    let found ← call (.findLock (lockKey callId))
    match found with
    | some node =>
        call (.setResult (lockKey callId) node result)
        call (.unlock (lockKey callId) node)
    | none => return ()
  else
    return ()

/-- `sync_del` -/
def syncDel (callId : PjStr) : Prog Unit := do
  if IsGiven callId then
    let found ← call (.findLock (lockKey callId))
    if found.isSome then
      call (.eraseLock (lockKey callId))
    else
      return ()
  else
    return ()

/-! ## The callbacks -/

/-- `on_rx_request` -/
def onRxRequest (rxData : RxData) : Prog Bool := do
  if rxData.dlg then
    if rxData.sipMethod = .bye then
      call (.sendResp 200)
    return false
  else
    return false

/-- `on_rx_response` -/
def onRxResponse (rxData : RxData) : Prog Bool := do
  if rxData.dlg then
    match rxData.sipMethod with
    | .invite =>
        if rxData.status.tdiv 100 = 2 then
          call .sendAck
          let callId ← call .callId
          syncUlck callId 0
          call .sendBye
          return true
        else if rxData.status = 401 ∨ rxData.status = 407 then
          return false
        else if 300 ≤ rxData.status then
          call .decSession
          let callId ← call .callId
          syncUlck callId rxData.status
          return false
        else
          return false
    | .bye =>
        let callId ← call .callId
        syncUlck callId 0
        return false
    | _ => return false
  else
    return false

/-- A message is handed to its callback. -/
def dispatch : RxMessage → Prog Bool
  | .request rxData => onRxRequest rxData
  | .response rxData => onRxResponse rxData

/-- `sms112_sip_send_req` from the creation of the dialog on. -/
def sendReq : Prog Int := do
  call .incSession
  let callId ← call .callId
  syncInit callId
  call .sendInvite
  let callId ← call .callId
  let iRetVal ← syncLock conf callId
  let callId ← call .callId
  syncDel callId
  return iRetVal

/-! ## The threads -/

/-- The thread of the request and `worker_thread`. -/
inductive Thread
  | caller
  | worker
  deriving DecidableEq

/-- Where a thread continues. -/
inductive Label
  | request
  | work
  | finished

/-- The request, and a note of its result. -/
def caller : Prog Label := do
  let iRetVal ← sendReq conf
  call (.note (.returned iRetVal))
  return .finished

/-- What `worker_thread` does for one message; how many of them a round of its
loop takes is left open. -/
def workerThread : Prog Label := do
  let message ← call .handleEvents
  match message with
  | some message =>
      let _ ← dispatch message
      call (.note (.handled message))
      return .work
  | none => return .work

/-- What every thread does at a label. -/
def code : Thread → Label → Prog Label
  | .caller, .request => caller conf
  | .worker, .work => workerThread
  | _, _ => .ret .finished

/-- A request and the worker thread. -/
def machine : Machine Res Thread Choice State Label where
  exec := fun _ => exec
  code := code conf

/-- Before the request: the map has the entries of other requests. -/
def start (callId : Octets) (reqLock : ReqLock) :
    Config Res Thread State Label where
  state := { callId, reqLock }
  control
    | .caller => .ret .request
    | .worker => .ret .work

end Dialog
end Sms112
