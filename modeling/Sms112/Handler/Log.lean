import Sms112.Model.DeliverSm
import Sms112.Model.Operations

/-!
# What the handler's operations leave in the log

Statements about the handler look at the events it adds to the log through a
view, which selects and reads the events of interest. An operation is quiet
for a view that hides every event it may note; programs made of such
operations add nothing to be seen.
-/

namespace Sms112

open Resumption

variable {α β : Type}

/-- The events added to the log between two states, newest first. -/
def newEvents (before after : State) : List Event :=
  after.log.take (after.log.length - before.log.length)

/-- The log has grown, and of the new events the view shows `seen`. -/
def Observes (view : Event → Option β) (seen : List β)
    (before after : State) : Prop :=
  ∃ events, after.log = events ++ before.log ∧ events.filterMap view = seen

namespace Observes

variable {view : Event → Option β}

/-- What a view sees of the new events is what was observed. -/
theorem newEvents_eq
    {seen : List β}
    {before after : State}
    (observes : Observes view seen before after) :
    (newEvents before after).filterMap view = seen := by
  obtain ⟨events, appended, equal⟩ := observes
  rw [newEvents, appended, List.length_append, Nat.add_sub_cancel,
    List.take_left, equal]

theorem refl (state : State) : Observes view [] state state :=
  ⟨[], rfl, rfl⟩

theorem trans
    {earlier later : List β}
    {first second third : State}
    (before : Observes view earlier first second)
    (after : Observes view later second third) :
    Observes view (later ++ earlier) first third := by
  obtain ⟨front, appended, equal⟩ := before
  obtain ⟨back, appendedBack, equalBack⟩ := after
  refine ⟨back ++ front, ?_, ?_⟩
  · rw [appendedBack, appended, List.append_assoc]
  · rw [List.filterMap_append, equal, equalBack]

/-- Where nothing is noted nothing is observed. -/
theorem of_log_eq
    {before after : State}
    (unchanged : after.log = before.log) :
    Observes view [] before after :=
  ⟨[], by simp [unchanged], rfl⟩

theorem note (state : State) (event : Event) :
    Observes view (view event).toList state (state.note event) := by
  refine ⟨[event], rfl, ?_⟩
  cases shown : view event <;> simp [shown]

/-- A view that selects events shows exactly those it lets pass. -/
theorem mem_newEvents_iff
    {select : Event → Option Event}
    (selects : ∀ event shown, select event = some shown → shown = event)
    {seen : List Event}
    {before after : State}
    (observes : Observes select seen before after)
    {event : Event}
    (passes : select event = some event) :
    event ∈ newEvents before after ↔ event ∈ seen := by
  rw [← observes.newEvents_eq, List.mem_filterMap]
  constructor
  · intro member
    exact ⟨event, member, passes⟩
  · rintro ⟨original, member, shown⟩
    exact selects original event shown ▸ member

/-- A view that reads what another one shows. -/
theorem through
    {γ : Type}
    {coarser : Event → Option γ}
    {seen : List β}
    {before after : State}
    (observes : Observes view seen before after)
    (read : β → Option γ)
    (factors : ∀ event, coarser event = (view event).bind read) :
    Observes coarser (seen.filterMap read) before after := by
  obtain ⟨events, appended, rfl⟩ := observes
  refine ⟨events, appended, ?_⟩
  rw [List.filterMap_filterMap]
  exact List.filterMap_congr fun event _ => factors event

end Observes

/-- Nothing but the log changes, and the view shows `seen`. -/
def OnlyLogs (view : Event → Option β) (seen : List β)
    (before after : State) : Prop :=
  ∃ log, after = { before with log := log } ∧ Observes view seen before after

namespace OnlyLogs

variable {view : Event → Option β}

theorem refl (state : State) : OnlyLogs view [] state state :=
  ⟨state.log, rfl, Observes.refl state⟩

theorem trans
    {earlier later : List β}
    {first second third : State}
    (before : OnlyLogs view earlier first second)
    (after : OnlyLogs view later second third) :
    OnlyLogs view (later ++ earlier) first third := by
  obtain ⟨log, rfl, observes⟩ := before
  obtain ⟨finalLog, rfl, finalObserves⟩ := after
  exact ⟨finalLog, rfl, observes.trans finalObserves⟩

theorem note (state : State) (event : Event) :
    OnlyLogs view (view event).toList state (state.note event) :=
  ⟨event :: state.log, rfl, Observes.note state event⟩

/-- A program that only logs leaves the memory as it is. -/
theorem block
    {seen : List β}
    {before after : State}
    (only : OnlyLogs view seen before after)
    (address : Nat) :
    after.block address = before.block address := by
  obtain ⟨log, rfl, -⟩ := only
  rfl

end OnlyLogs

/-! ## Quiet operations -/

/-- The events an operation may note. -/
def Op.notes : Op → Event → Bool
  | .send data, .sent _ _ sent _ => sent = data
  | .recv .., .received .. => true
  | .reqStorAdd .., .storRefused .. => true
  | .writeChars .., .outOfBounds => true
  | .curl url body _, .curl url' body' _ _ => url' = url ∧ body' = body
  | .pingTimedLock _, .pingWait _ => true
  | .enter .smppUnbindOper, .unbindReceived _ => true
  | .note noted, event => event = noted
  | _, _ => false

/-- An operation appends at most one event, and one it may note. -/
theorem exec_notes (thread : Thread) (operation : Op) (choice : Choice)
    (state : State) :
    (exec thread operation choice state).2.log = state.log ∨
      ∃ event, operation.notes event ∧
        (exec thread operation choice state).2.log = event :: state.log := by
  cases operation
  case socket =>
    left
    dsimp only [exec]
    rcases state.socket_cases choice with ⟨_, _, _, _, equal⟩ | equal <;>
      rw [equal]
  case connect =>
    left
    dsimp only [exec]
    rcases state.connect_cases choice with ⟨_, _, _, _, equal⟩ | equal <;>
      rw [equal]
  case fcntl =>
    left
    dsimp only [exec]
    rcases state.fcntl_cases choice with ⟨_, _, _, _, equal⟩ | equal <;>
      rw [equal]
  case close =>
    left
    dsimp only [exec]
    rcases state.close_cases choice with ⟨_, _, _, equal⟩ | equal <;>
      rw [equal]
  case send data =>
    dsimp only [exec]
    rcases state.send_cases thread choice data with
      ⟨serial, -, -, equal⟩ | equal <;> rw [equal]
    · exact .inr ⟨.sent thread serial data _, decide_eq_true rfl, rfl⟩
    · exact .inl rfl
  case recv size into =>
    dsimp only [exec]
    rcases state.recv_cases thread choice size into with
      ⟨serial, count, -, -, -, -, -, -, equal⟩ | ⟨ret, -, -, equal⟩ <;>
      rw [equal]
    · exact .inr ⟨_, rfl, rfl⟩
    · exact .inl rfl
  case peek size =>
    left
    dsimp only [exec]
    rcases state.peek_cases thread choice size with
      ⟨serial, count, -, -, -, -, -, equal⟩ | ⟨ret, -, -, equal⟩ <;>
      rw [equal]
    rfl
  case reqStorAdd seqNum pointer =>
    dsimp only [exec]
    rcases state.storAdd_cases seqNum pointer with
      equal | ⟨other, -, equal⟩ <;> rw [equal]
    · exact .inl rfl
    · exact .inr ⟨_, rfl, rfl⟩
  case reqStorGetAndRem seqNum =>
    left
    dsimp only [exec]
    rcases state.storGetAndRem_cases seqNum with
      equal | ⟨pointer, -, equal⟩ <;> rw [equal]
  case timedLockReq pointer deadline =>
    left
    dsimp only [exec]
    rcases state.timedLockReq_cases pointer with
      ⟨data, -, -, equal⟩ | ⟨ret, -, equal⟩ <;> rw [equal]
    rfl
  case writeChars address offset data =>
    dsimp only [exec]
    rcases state.writeChars_cases address offset data with
      equal | ⟨contents, equal⟩ <;> rw [equal]
    · exact .inr ⟨_, rfl, rfl⟩
    · exact .inl rfl
  case malloc size =>
    left
    dsimp only [exec]
    split <;> rfl
  case initPingWait =>
    left
    dsimp only [exec]
    split <;> rfl
  case curl url body contentType =>
    exact .inr ⟨.curl url body choice.ret choice.chunks.flatten,
      decide_eq_true ⟨rfl, rfl⟩, rfl⟩
  case pingTimedLock deadline => exact .inr ⟨_, rfl, rfl⟩
  case note event => exact .inr ⟨event, decide_eq_true rfl, rfl⟩
  case enter routine =>
    cases routine
    case smppUnbindOper => exact .inr ⟨_, rfl, rfl⟩
    all_goals exact .inl rfl
  all_goals exact .inl rfl

/-- The view hides every event the operation may note. -/
def Op.Quiet (view : Event → Option β) (operation : Op) : Prop :=
  ∀ event, operation.notes event → view event = none

/-- A program of quiet operations adds nothing to be seen. -/
theorem eval_quiet
    (thread : Thread)
    (oracle : Op → Choice)
    {view : Event → Option β}
    {program : Prog α}
    (uses : program.Uses (Op.Quiet view))
    (state : State) :
    Observes view [] state (program.eval (exec thread) oracle state).2 := by
  refine uses.eval_preserves Observes.refl ?_ ?_ state
  · intro first second third before after
    exact before.trans after
  · intro operation choice state quiet
    rcases exec_notes thread operation choice state with
      unchanged | ⟨event, noted, appended⟩
    · exact .of_log_eq unchanged
    · exact ⟨[event], appended, by simp [quiet event noted]⟩

/-! ## Classes of operations -/

/-- The calls into libraries that only answer: HTTP, SIP, clock, `snprintf`
and `strerror`. -/
def Op.isLibrary : Op → Bool
  | .curl .. | .snprintf .. | .localNameHost | .sipCall .. | .strerror _ | .time
  | .localtime _ | .strftime .. => true
  | _ => false

/-- The operations on the memory of a delivery, and the conversion. -/
def Op.isMemory : Op → Bool
  | .uninitialised | .linkTlv _ | .newChars _ | .writeChars .. | .iconvOpen ..
  | .iconv .. | .readChars _ | .deleteChars _ => true
  | _ => false

/-- The operations of a delivery: library calls, its memory, and its
record. -/
def Op.isDelivery : Op → Bool
  | .note (.sipSendReq ..) | .note (.sendReport ..) => true
  | operation => operation.isLibrary || operation.isMemory

/-- The operations that send on the connection. -/
def Op.isTransmission : Op → Bool
  | .send _ | .setTcpConnected false => true
  | _ => false

theorem Op.isLibrary.quiet
    (view : Event → Option β)
    (hidden : ∀ url body result received,
      view (.curl url body result received) = none)
    (operation : Op)
    (library : operation.isLibrary) :
    operation.Quiet view := by
  intro event noted
  cases operation <;> simp only [Op.isLibrary, Bool.false_eq_true] at library
  case curl url body contentType =>
    cases event <;> simp only [Op.notes, Bool.false_eq_true] at noted
    exact hidden _ _ _ _
  all_goals simp [Op.notes] at noted

theorem Op.isMemory.quiet
    (view : Event → Option β)
    (hidden : view .outOfBounds = none)
    (operation : Op)
    (memory : operation.isMemory) :
    operation.Quiet view := by
  intro event noted
  cases operation <;> simp only [Op.isMemory, Bool.false_eq_true] at memory
  case writeChars address offset data =>
    cases event <;> simp only [Op.notes, Bool.false_eq_true] at noted
    exact hidden
  all_goals simp [Op.notes] at noted

/-- A view that is blind to what delivery notes sees nothing of it. -/
theorem Op.isDelivery.quiet
    (view : Event → Option β)
    (memory : view .outOfBounds = none)
    (transfer : ∀ url body result received,
      view (.curl url body result received) = none)
    (request : ∀ caller text geodata result,
      view (.sipSendReq caller text geodata result) = none)
    (report : ∀ phoneNumber message resultString resultXML,
      view (.sendReport phoneNumber message resultString resultXML) = none)
    (operation : Op)
    (delivery : operation.isDelivery) :
    operation.Quiet view := by
  unfold Op.isDelivery at delivery
  split at delivery
  case h_1 =>
    intro event noted
    obtain rfl := of_decide_eq_true noted
    exact request _ _ _ _
  case h_2 =>
    intro event noted
    obtain rfl := of_decide_eq_true noted
    exact report _ _ _ _
  case h_3 =>
    rcases Bool.or_eq_true_iff.mp delivery with library | inMemory
    · exact Op.isLibrary.quiet view transfer operation library
    · exact Op.isMemory.quiet view memory operation inMemory

theorem Op.recv_quiet
    (view : Event → Option β)
    (hidden : ∀ serial data, view (.received serial data) = none)
    (size : Nat)
    (into : Option (Option Nat)) :
    (Op.recv size into).Quiet view := by
  intro event noted
  cases event <;> simp only [Op.notes, Bool.false_eq_true] at noted
  exact hidden _ _

/-- A view that is blind to what is sent sees nothing of transmission. -/
theorem Op.isTransmission.quiet
    (view : Event → Option β)
    (hidden : ∀ thread serial data accepted,
      view (.sent thread serial data accepted) = none)
    (operation : Op)
    (transmission : operation.isTransmission) :
    operation.Quiet view := by
  intro event noted
  cases operation <;>
    simp only [Op.isTransmission, Bool.false_eq_true] at transmission
  case send data =>
    cases event <;> simp only [Op.notes, Bool.false_eq_true] at noted
    exact hidden _ _ _ _
  all_goals simp [Op.notes] at noted

end Sms112
