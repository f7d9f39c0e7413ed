import Sms112.Handler.Framing
import Sms112.Model.Threads

/-!
# Serving a PDU on one connection

The socket calls of the handler read `g_iSock` anew each time, and the ping
thread may replace the socket between them. The header, the rest of a PDU and
its response use one connection in every run in which no socket is opened,
closed or forgotten while the handler is serving a PDU.
-/

namespace Sms112

open Resumption

/-- All socket calls made for a PDU used the same connection. -/
def ServedOnOne (state : State) : Prop :=
  ∀ call ∈ state.served, ∀ first ∈ call, ∀ second ∈ call, first = second

/-- The handler has used the socket for the PDU it is working on. -/
def serving (state : State) : Bool :=
  state.busy .smppHandler && !(state.served.headD []).isEmpty

/-- The socket is not replaced while a PDU is being served. -/
def KeepsSocket : Machine.Condition Op Thread Choice State
  | _, .socket, _, state | _, .close, _, state | _, .setSock _, _, state =>
      serving state = false
  | _, _, _, _ => True

instance (thread : Thread) (operation : Op) (choice : Choice)
    (state : State) :
    Decidable (KeepsSocket thread operation choice state) := by
  unfold KeepsSocket
  split <;> infer_instance

/-- What is known during a run: the connection a PDU is being served on is the
one in `g_iSock`. -/
structure ServedInv (state : State) : Prop where
  one : ServedOnOne state
  current : state.busy .smppHandler → ∀ used ∈ state.served.headD [],
    state.serial = some used

namespace ServedInv

variable {before after : State}

theorem of_eq
    (inv : ServedInv before)
    (served : after.served = before.served)
    (busy : after.busy = before.busy)
    (serial : after.serial = before.serial) :
    ServedInv after := by
  refine ⟨?_, ?_⟩
  · unfold ServedOnOne
    rw [served]
    exact inv.one
  · rw [served, busy, serial]
    exact inv.current

/-- Another socket is no matter while none is in use for a PDU. -/
theorem of_not_serving
    (inv : ServedInv before)
    (served : after.served = before.served)
    (busy : after.busy = before.busy)
    (idle : serving before = false) :
    ServedInv after := by
  refine ⟨?_, ?_⟩
  · unfold ServedOnOne
    rw [served]
    exact inv.one
  · rw [served, busy]
    intro running used member
    have unused : before.served.headD [] = [] := by
      simpa [serving, running] using idle
    rw [unused] at member
    cases member

/-- The current socket is used. -/
theorem useSocket
    {state : State}
    (inv : ServedInv state)
    (thread : Thread)
    {serial : Nat}
    (open_socket : state.serial = some serial) :
    ServedInv (state.useSocket thread serial) := by
  unfold State.useSocket
  split
  next call calls running served =>
    have earlier : ∀ used ∈ call, used = serial := by
      intro used member
      have same := inv.current running used (by rw [served]; exact member)
      exact Option.some.inj (same.symm.trans open_socket)
    have all : ∀ used ∈ serial :: call, used = serial := by
      intro used member
      rcases List.mem_cons.mp member with rfl | before
      · rfl
      · exact earlier used before
    refine ⟨fun other member => ?_, fun _ used member => ?_⟩
    · rcases List.mem_cons.mp member with rfl | before
      · intro first inFirst second inSecond
        rw [all first inFirst, all second inSecond]
      · exact inv.one other (by rw [served]; exact .tail _ before)
    · rw [all used member]
      exact open_socket
  next => exact inv

theorem enter
    {state : State}
    (inv : ServedInv state)
    (routine : Routine) :
    ServedInv (state.enter routine) := by
  cases routine
  case smppHandler =>
    refine ⟨fun call member => ?_, fun _ used member => by cases member⟩
    rcases List.mem_cons.mp member with rfl | before
    · intro first inFirst
      cases inFirst
    · exact inv.one call before
  all_goals exact ⟨inv.one, inv.current⟩

theorem leave
    {state : State}
    (inv : ServedInv state)
    (routine : Routine) :
    ServedInv (state.leave routine) := by
  cases routine
  case smppHandler =>
    refine ⟨inv.one, fun running => ?_⟩
    simp [State.leave] at running
  all_goals exact ⟨inv.one, inv.current⟩

end ServedInv

theorem exec_servedInv
    {thread : Thread}
    {operation : Op}
    {choice : Choice}
    {state : State}
    (inv : ServedInv state)
    (keeps : KeepsSocket thread operation choice state) :
    ServedInv (exec thread operation choice state).2 := by
  have frame := exec_frame thread operation choice state
  cases operation
  case socket =>
    exact inv.of_not_serving (frame .served rfl) (frame .busy rfl) keeps
  case close =>
    exact inv.of_not_serving (frame .served rfl) (frame .busy rfl) keeps
  case setSock descriptor =>
    exact inv.of_not_serving rfl rfl keeps
  case send data =>
    dsimp only [exec]
    rcases state.send_cases thread choice data with
      ⟨serial, open_socket, -, equal⟩ | equal <;> rw [equal]
    · exact (inv.useSocket thread open_socket).of_eq rfl rfl rfl
    · exact inv
  case recv size into =>
    dsimp only [exec]
    rcases state.recv_cases thread choice size into with
      ⟨serial, count, open_socket, -, -, -, -, -, equal⟩ | ⟨_, _, _, equal⟩ <;>
      rw [equal]
    · exact (inv.useSocket thread open_socket).of_eq rfl rfl rfl
    · exact inv
  case peek size =>
    dsimp only [exec]
    rcases state.peek_cases thread choice size with
      ⟨serial, count, open_socket, -, -, -, -, equal⟩ | ⟨_, _, _, equal⟩ <;>
      rw [equal]
    · exact inv.useSocket thread open_socket
    · exact inv
  case enter routine => exact inv.enter routine
  case leave routine => exact inv.leave routine
  all_goals
    refine inv.of_eq (frame .served rfl) (frame .busy rfl) ?_
    unfold State.serial
    rw [frame .sockets rfl, frame .iSock rfl]

/-- In every run in which the socket is not replaced while a PDU is being
served, all that is done for a PDU is done on one connection. -/
theorem gateway_servedOnOne
    (conf : SConf)
    (lib : Smpp34)
    {config : Config Res Thread State Label}
    (reach : (gateway conf lib).Reach KeepsSocket gatewayStart config) :
    ServedOnOne config.state := by
  have initially : ServedInv gatewayStart.state := by
    refine ⟨fun call member => ?_, fun running => ?_⟩
    · simp [gatewayStart] at member
    · simp [gatewayStart] at running
  have inv : ServedInv config.state :=
    reach.invariant initially fun _ _ _ _ inv keeps =>
      exec_servedInv inv keeps
  exact inv.one

/-! ## A message served on one connection and one served on two -/

/-- The message has been read, and is being delivered. -/
def messageRead : List (Thread × (Op → Choice)) :=
  started ++ arrival 0 plainDeliverSm ++ steps .receiver 12

theorem messageRead_servedOnOne :
    ServedOnOne ((gateway {} referenceCodec).run
      (messageRead ++ steps .receiver 60) gatewayStart).state :=
  gateway_servedOnOne {} referenceCodec (.run .start _ (by decide +kernel))

/-- Meanwhile the link check times out, and the ping thread reconnects. The
message was read on the first connection, its response is sent on the
second. -/
theorem messageRead_reconnected :
    ∃ config, (gateway {} referenceCodec).Reach Machine.unconditional
        gatewayStart config ∧
      ¬ServedOnOne config.state := by
  let schedule := messageRead ++ steps (.requester 0) 43 ++
    steps .receiver 60
  refine ⟨(gateway {} referenceCodec).run schedule gatewayStart,
    .run .start schedule (Machine.admits_unconditional schedule _), ?_⟩
  have used : [1, 0, 0] ∈ ((gateway {} referenceCodec).run schedule
      gatewayStart).state.served := by
    decide +kernel
  intro one
  have same := one [1, 0, 0] used 1 (by decide) 0 (by decide)
  cases same

end Sms112
