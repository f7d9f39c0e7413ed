import Sms112.Connection.Controller
import Sms112.Framing.Stream

/-!
# The outgoing stream

On every socket the program writes complete packed PDUs and behind them at
most one truncated PDU, in every run in which octets are sent only with the
TCP flag set, in which a short write clears the flag before anything else
happens, and in which a socket is opened only with the flag cleared. Only the
ping loop looks at the flag: the receiver and the unbinding of a link that
failed send behind a short write.
-/

namespace Sms112

open Resumption Framing

variable {α : Type}

/-- A PDU that was packed. -/
def IsPacked (lib : Smpp34) (data : Octets) : Prop :=
  ∃ pdu room, lib.pack2 pdu room = (0, data)

/-- A write on a socket. -/
def Event.write (serial : Nat) : Event → Option (Write UInt8)
  | .sent _ other data accepted =>
      if other = serial then some ⟨data, accepted⟩ else none
  | _ => none

/-- The writes on a socket, newest first. -/
def writesOn (serial : Nat) (log : List Event) : List (Write UInt8) :=
  log.filterMap (Event.write serial)

/-- On every socket the octets written are complete packed PDUs and at most
one that is truncated, and behind a short write nothing was written. -/
structure StreamsParseable (lib : Smpp34) (state : State) : Prop where
  parseable : ∀ serial,
    Parseable (IsPacked lib) (carried (writesOn serial state.log).reverse)
  silent : ∀ serial,
    SilentBehindShort (writesOn serial state.log).reverse

/-- `send` took less than it was given. -/
def Event.isShort : Event → Bool
  | .sent _ _ data accepted => accepted < data.length
  | _ => false

/-- The newest event is a short write, and the flag is still set. -/
def Unflagged (state : State) : Prop :=
  state.tcpIsConnected ∧ ∃ event ∈ state.log.head?, event.isShort

instance (state : State) : Decidable (Unflagged state) :=
  inferInstanceAs (Decidable (_ ∧ _))

/-- Octets are sent only with the flag set, a socket is opened only with the
flag cleared, and behind a short write the flag is cleared at once. -/
def FlagsShortWrites : Machine.Condition Op Thread Choice State
  | _, .setTcpConnected false, _, _ => True
  | _, .send _, choice, state =>
      ¬Unflagged state ∧ (choice.ret < 0 ∨ state.tcpIsConnected)
  | _, .socket, _, state => state.tcpIsConnected = false
  | _, _, _, state => ¬Unflagged state

instance (thread : Thread) (operation : Op) (choice : Choice)
    (state : State) :
    Decidable (FlagsShortWrites thread operation choice state) := by
  induction operation using Op.casesOn
  case setTcpConnected isConnected =>
    induction isConnected using Bool.casesOn <;>
      unfold FlagsShortWrites <;> infer_instance
  all_goals
    unfold FlagsShortWrites
    infer_instance

theorem FlagsShortWrites.flagged
    {thread : Thread}
    {operation : Op}
    {choice : Choice}
    {state : State}
    (admissible : FlagsShortWrites thread operation choice state)
    (other : operation ≠ .setTcpConnected false) :
    ¬Unflagged state := by
  unfold FlagsShortWrites at admissible
  split at admissible
  · exact absurd rfl other
  · exact admissible.1
  · intro unflagged
    rw [unflagged.1] at admissible
    cases admissible
  · exact admissible

/-! ## The invariant -/

/-- What is known of the streams: the descriptors designate sockets that were
created, on a socket that will be created nothing was written, what was written
was packed, and only the newest write on a socket can be short. With the flag
set, none on the socket in `g_iSock` is, but for one just made. -/
structure StreamInv (lib : Smpp34) (state : State) : Prop where
  known : ∀ entry ∈ state.sockets,
    0 ≤ entry.1 ∧ entry.2 < state.nextSerial
  fresh : ∀ serial, state.nextSerial ≤ serial →
    writesOn serial state.log = []
  packed : ∀ serial, ∀ write ∈ writesOn serial state.log,
    IsPacked lib write.frame
  whole : ∀ serial, WholeButNewest (writesOn serial state.log)
  flagged : state.tcpIsConnected → ¬Unflagged state →
    ∀ serial ∈ state.serial, ∀ write ∈ writesOn serial state.log,
      ¬write.IsShort

variable {lib : Smpp34} {before after state : State}

theorem StreamInv.streamsParseable
    (inv : StreamInv lib state) :
    StreamsParseable lib state where
  parseable serial := (inv.whole serial).parseable (inv.packed serial)
  silent serial := (inv.whole serial).silentBehindShort

/-- The sockets may have changed, and what is known of the flag must be
shown. -/
theorem StreamInv.of_writes_eq
    (inv : StreamInv lib before)
    (writes : ∀ serial, writesOn serial after.log = writesOn serial before.log)
    (known : ∀ entry ∈ after.sockets,
      0 ≤ entry.1 ∧ entry.2 < after.nextSerial)
    (newer : before.nextSerial ≤ after.nextSerial)
    (flagged : after.tcpIsConnected → ¬Unflagged after →
      ∀ serial ∈ after.serial, ∀ write ∈ writesOn serial before.log,
        ¬write.IsShort) :
    StreamInv lib after where
  known := known
  fresh serial old := by
    rw [writes]
    exact inv.fresh serial (newer.trans old)
  packed serial := by
    rw [writes]
    exact inv.packed serial
  whole serial := by
    rw [writes]
    exact inv.whole serial
  flagged connected flagged' serial current := by
    rw [writes]
    exact flagged connected flagged' serial current

/-! ## The operations -/

theorem writesOn_cons (serial : Nat) (event : Event) (log : List Event) :
    writesOn serial (event :: log) =
      (event.write serial).toList ++ writesOn serial log := by
  unfold writesOn
  cases shown : event.write serial <;> simp [shown]

/-- What the program does to a stream: it sends packed PDUs, it notes no
writes but those it makes, outside `sms112_tcp_connect` it only clears the
flag, and it gives up a socket by storing -1. -/
def Op.IsOrderly (lib : Smpp34) : Op → Prop
  | .send data => IsPacked lib data
  | .setSock descriptor => descriptor = -1
  | .setTcpConnected value => value = false
  | .note event => ∀ serial, event.write serial = none
  | _ => True

/-- Only `send` writes. -/
theorem writesOn_exec
    (thread : Thread)
    {operation : Op}
    (orderly : operation.IsOrderly lib)
    (noSend : ∀ data, operation ≠ .send data)
    (choice : Choice)
    (state : State)
    (serial : Nat) :
    writesOn serial (exec thread operation choice state).2.log =
      writesOn serial state.log := by
  rcases exec_notes thread operation choice state with
    unchanged | ⟨event, noted, appended⟩
  · rw [unchanged]
  · have hidden : event.write serial = none := by
      cases operation
      case send data => exact absurd rfl (noSend data)
      case note noted' =>
        obtain rfl := of_decide_eq_true noted
        exact orderly serial
      case enter routine =>
        cases routine <;> cases event <;> first | rfl | cases noted
      all_goals cases event <;> first | rfl | cases noted
    rw [appended, writesOn_cons, hidden]
    rfl

/-- A step that writes nothing and leaves the connection alone. -/
theorem StreamInv.quiet
    (inv : StreamInv lib before)
    (settled : ¬Unflagged before)
    (writes : ∀ serial, writesOn serial after.log = writesOn serial before.log)
    (iSock : after.iSock = before.iSock)
    (sockets : after.sockets = before.sockets)
    (nextSerial : after.nextSerial = before.nextSerial)
    (flag : after.tcpIsConnected = before.tcpIsConnected) :
    StreamInv lib after := by
  refine inv.of_writes_eq writes ?_ nextSerial.ge ?_
  · rw [sockets, nextSerial]
    exact inv.known
  · unfold State.serial
    rw [sockets, iSock, flag]
    exact fun connected _ => inv.flagged connected settled

theorem exec_send_stream
    (inv : StreamInv lib state)
    {data : Octets}
    (packed : IsPacked lib data)
    {thread : Thread}
    {choice : Choice}
    (admissible : FlagsShortWrites thread (.send data) choice state) :
    StreamInv lib (exec thread (.send data) choice state).2 := by
  obtain ⟨settled, flag⟩ := admissible
  dsimp only [exec]
  rcases state.send_cases thread choice data with
    ⟨serial, current, taken, accepted⟩ | failed
  · rw [accepted]
    have connected : state.tcpIsConnected :=
      flag.resolve_left (Int.not_lt.mpr taken)
    have older := inv.flagged connected settled serial current
    have young := (inv.known _ (mem_of_lookup current)).2
    generalize min choice.ret.toNat data.length = count
    have written (other : Nat) :
        writesOn other ((state.useSocket thread serial).note
            (.sent thread serial data count)).log =
          if serial = other then ⟨data, count⟩ :: writesOn other state.log
          else writesOn other state.log := by
      change writesOn other (.sent thread serial data count :: state.log) = _
      rw [writesOn_cons, Event.write]
      split <;> rfl
    refine ⟨inv.known, fun other old => ?_, fun other => ?_,
      fun other => ?_, fun _ settled other isCurrent => ?_⟩ <;>
      rw [written]
    · rw [if_neg (by have old : state.nextSerial ≤ other := old; omega)]
      exact inv.fresh other old
    · split
      · exact List.forall_mem_cons.mpr ⟨packed, inv.packed other⟩
      · exact inv.packed other
    · split
      next same => exact same ▸ older
      next different => exact inv.whole other
    · obtain rfl : serial = other :=
        Option.some.inj (current.symm.trans isCurrent)
      rw [if_pos rfl]
      refine List.forall_mem_cons.mpr ⟨fun short => ?_, older⟩
      exact settled ⟨connected, _, rfl, decide_eq_true short⟩
  · rw [failed]
    exact inv

/-- On a socket just created nothing was written. -/
theorem exec_socket_stream
    (inv : StreamInv lib state)
    (choice : Choice) :
    let later := (exec controller .socket choice state).2
    StreamInv lib later ∧
      ∀ serial ∈ later.serial, writesOn serial later.log = [] := by
  dsimp only [exec]
  rcases state.socket_cases choice with
    ⟨descriptor, errno, nonnegative, -, created⟩ | refused
  · rw [created]
    have newest (serial : Nat) (current : State.serial { state with
        iSock := descriptor
        sockets := (descriptor, state.nextSerial) :: state.sockets
        nextSerial := state.nextSerial + 1 } = some serial) :
        writesOn serial state.log = [] := by
      apply inv.fresh
      simp only [State.serial, List.lookup_cons_self,
        Option.some.injEq] at current
      exact current.le
    refine ⟨inv.of_writes_eq (fun _ => rfl) ?_ (Nat.le_succ _)
      fun _ _ serial current write member => ?_, newest⟩
    · refine List.forall_mem_cons.mpr
        ⟨⟨nonnegative, Nat.lt_succ_self _⟩, fun entry member => ?_⟩
      obtain ⟨nonnegative, old⟩ := inv.known entry member
      exact ⟨nonnegative, Nat.lt_succ_of_lt old⟩
    · rw [newest serial current] at member
      cases member
  · rw [refused]
    have unset : State.serial { state with iSock := -1 } = none :=
      state.serial_unset fun entry member => (inv.known entry member).1
    have none (serial : Nat)
        (current : State.serial { state with iSock := -1 } = some serial) :
        writesOn serial state.log = [] := by
      rw [unset] at current
      cases current
    refine ⟨inv.of_writes_eq (fun _ => rfl) inv.known le_rfl
      fun _ _ serial current write member => ?_, none⟩
    rw [none serial current] at member
    cases member

/-- Where no socket is designated, nothing is to be known of one. -/
theorem StreamInv.unset
    (inv : StreamInv lib before)
    (log : after.log = before.log)
    (nextSerial : after.nextSerial = before.nextSerial)
    (sockets : after.sockets ⊆ before.sockets)
    (none : after.serial = none) :
    StreamInv lib after := by
  refine inv.of_writes_eq (fun serial => by rw [log])
    (fun entry member => ?_) nextSerial.ge ?_
  · rw [nextSerial]
    exact inv.known entry (sockets member)
  · rw [none]
    rintro _ _ serial ⟨⟩

/-- The invariant does not depend on what the other operations do. -/
theorem exec_orderly
    (inv : StreamInv lib state)
    {thread : Thread}
    {operation : Op}
    (orderly : operation.IsOrderly lib)
    {choice : Choice}
    (admissible : FlagsShortWrites thread operation choice state) :
    StreamInv lib (exec thread operation choice state).2 := by
  have frame := exec_frame thread operation choice state
  have quiet (noSend : ∀ data, operation ≠ .send data)
      (other : operation ≠ .setTcpConnected false) :=
    inv.quiet (admissible.flagged other)
      (writesOn_exec thread orderly noSend choice state)
  cases operation
  case send data => exact exec_send_stream inv orderly admissible
  case socket => exact (exec_socket_stream inv choice).1
  case close =>
    dsimp only [exec]
    rcases state.close_cases choice with ⟨serial, -, -, closed⟩ | failed
    · rw [closed]
      exact inv.unset rfl rfl List.filter_sublist.subset
        state.serial_closed
    · rw [failed]
      exact inv
  case setSock descriptor =>
    obtain rfl : descriptor = -1 := orderly
    exact inv.unset rfl rfl (List.Subset.refl _)
      (state.serial_unset fun entry member => (inv.known entry member).1)
  case setTcpConnected value =>
    obtain rfl : value = false := orderly
    exact inv.of_writes_eq (fun _ => rfl) inv.known le_rfl nofun
  all_goals
    exact quiet nofun nofun (frame .iSock rfl) (frame .sockets rfl)
      (frame .nextSerial rfl) (frame .tcpIsConnected rfl)

/-! ## The protocol -/

/-- What the controller tolerates: the socket stays, nobody else sets the
flag, and with the flag cleared nobody else writes. -/
structure StreamRely (before after : State) : Prop where
  serial : after.serial = before.serial
  flag : after.tcpIsConnected → before.tcpIsConnected
  writes : before.tcpIsConnected = false →
    ∀ serial, writesOn serial after.log = writesOn serial before.log

theorem StreamRely.trans
    {first second third : State}
    (before : StreamRely first second)
    (after : StreamRely second third) :
    StreamRely first third where
  serial := after.serial.trans before.serial
  flag connected := before.flag (after.flag connected)
  writes cleared serial := by
    have still : second.tcpIsConnected = false :=
      Bool.eq_false_iff.mpr fun connected =>
        Bool.eq_false_iff.mp cleared (before.flag connected)
    exact (after.writes still serial).trans (before.writes cleared serial)

/-- Only the controller relies on the others. -/
def streamProtocol (lib : Smpp34) : Protocol Thread State where
  inv := StreamInv lib
  rely thread before after := thread = controller → StreamRely before after
  rely_refl _ _ _ := ⟨rfl, id, fun _ _ => rfl⟩
  rely_trans _ _ _ _ before after same := (before same).trans (after same)

/-- A triple of this protocol. -/
abbrev StreamTriple (lib : Smpp34) (thread : Thread) (pre : State → Prop)
    (program : Prog α) (post : α → State → Prop) : Prop :=
  (streamProtocol lib).Triple exec FlagsShortWrites thread pre program post

theorem stream_keeps_controller
    (inv : StreamInv lib after) :
    (streamProtocol lib).Keeps controller before after :=
  ⟨inv, fun _ different same => absurd same different⟩

/-- The step of another thread is tolerated by the controller. -/
theorem exec_streamRely
    {thread : Thread}
    {operation : Op}
    (orderly : operation.IsOrderly lib)
    (peripheral : operation.isPeripheral)
    {choice : Choice}
    (admissible : FlagsShortWrites thread operation choice state) :
    StreamRely state (exec thread operation choice state).2 := by
  have step := exec_peripheral thread peripheral choice state
  refine ⟨step.serial, step.tcpIsConnected, fun cleared serial => ?_⟩
  by_cases sends : ∃ data, operation = .send data
  · obtain ⟨data, rfl⟩ := sends
    have fails : choice.ret < 0 := by
      refine admissible.2.resolve_right ?_
      rw [cleared]
      exact Bool.false_ne_true
    dsimp only [exec]
    rcases state.send_cases thread choice data with
      ⟨_, -, taken, -⟩ | failed
    · omega
    · rw [failed]
  · exact writesOn_exec thread orderly
      (fun data equal => sends ⟨data, equal⟩) choice state serial

/-- Threads whose operations are orderly keep to the protocol. -/
theorem orderly_triple
    {thread : Thread}
    {program : Prog α}
    (uses : program.Uses (Op.IsOrderly lib))
    (peripheral : thread ≠ controller →
      program.Uses fun operation => operation.isPeripheral) :
    StreamTriple lib thread (fun _ => True) program fun _ _ => True := by
  by_cases same : thread = controller
  · subst same
    refine Protocol.Triple.uses uses (.const True) ?_
    intro operation state choice orderly inv _ admissible
    exact ⟨stream_keeps_controller (exec_orderly inv orderly admissible),
      trivial⟩
  · refine Protocol.Triple.uses (uses.and (peripheral same)) (.const True) ?_
    rintro operation state choice ⟨orderly, peripheral⟩ inv - admissible
    exact ⟨⟨exec_orderly inv orderly admissible, fun _ _ _ =>
      exec_streamRely orderly peripheral admissible⟩, trivial⟩

/-! ## What the program sends -/

/-- The exchanges and the receiver send nothing but what was packed. -/
theorem Op.isExchange.orderly
    (operation : Op)
    (exchange : operation.isExchange)
    (noSend : operation.isSend = false) :
    operation.IsOrderly lib := by
  cases operation
  case send data => exact nomatch noSend
  case setSock descriptor => exact nomatch exchange
  case setTcpConnected value =>
    cases value with
    | false => rfl
    | true => exact nomatch exchange
  case note event =>
    cases event <;> first | exact fun _ => rfl | exact nomatch exchange
  all_goals trivial

theorem tcpDisconn_orderly :
    tcpDisconn.Uses (Op.IsOrderly lib) := by
  refine .step trivial fun _ => .bind (.step trivial fun iSock => ?_)
    fun _ => .step trivial fun _ => trivial
  split
  · refine .step trivial fun _ => .step trivial fun closed => ?_
    split
    · exact .step rfl fun _ => .step rfl fun _ => trivial
    · trivial
  · trivial

/-- What `smpp34_pack2` returned 0 for is packed. -/
theorem isPacked_of_pack2
    (pdu : Pdu)
    (success : (lib.pack2 pdu localBufferSize).1 = 0) :
    IsPacked lib (lib.pack2 pdu localBufferSize).2 :=
  ⟨pdu, localBufferSize, Prod.ext success rfl⟩

section Programs

variable (conf : SConf) (lib : Smpp34)

theorem smppConnect_orderly :
    (smppConnect conf lib).Uses (Op.IsOrderly lib) :=
  smppConnect_uses conf Op.isExchange.orderly isPacked_of_pack2

theorem smppDisconn_orderly :
    (smppDisconn lib).Uses (Op.IsOrderly lib) :=
  smppDisconn_uses Op.isExchange.orderly isPacked_of_pack2

theorem smppEnqLink_orderly :
    (smppEnqLink lib).Uses (Op.IsOrderly lib) :=
  smppEnqLink_uses Op.isExchange.orderly isPacked_of_pack2

theorem msgReceiver_orderly :
    (msgReceiver conf lib).Uses (Op.IsOrderly lib) :=
  msgReceiver_uses conf (fun operation traffic => Op.isExchange.orderly
    operation (Op.isTraffic.isExchange operation traffic)) isPacked_of_pack2

theorem environment_orderly :
    environment.Uses (Op.IsOrderly lib) :=
  environment_uses trivial trivial trivial

end Programs

/-! ## The controller's programs -/

/-- A program of the controller that does not set the flag. -/
theorem controller_stream
    {program : Prog α}
    (uses : program.Uses (Op.IsOrderly lib)) :
    StreamTriple lib controller (fun _ => True) program fun _ _ => True :=
  orderly_triple uses fun different => absurd rfl different

theorem orderly_call
    (operation : Op)
    (orderly : operation.IsOrderly lib) :
    StreamTriple lib controller (fun _ => True) (call operation)
      fun _ _ => True :=
  controller_stream ⟨orderly, fun _ => trivial⟩

/-- The flag is cleared, and nothing was written on the socket. -/
def Unwritten (state : State) : Prop :=
  state.tcpIsConnected = false ∧
    ∀ serial ∈ state.serial, writesOn serial state.log = []

theorem unwritten_stable :
    (streamProtocol lib).Stable controller Unwritten := by
  rintro before after - ⟨cleared, nothing⟩ rely -
  have rely := rely rfl
  refine ⟨Bool.eq_false_iff.mpr fun connected =>
    Bool.eq_false_iff.mp cleared (rely.flag connected), ?_⟩
  rw [rely.serial]
  intro serial current
  exact (rely.writes cleared serial).trans (nothing serial current)

/-- A step of the controller on a socket nothing was written on. -/
theorem unwritten_call
    (operation : Op)
    (orderly : operation.IsOrderly lib)
    (noSend : ∀ data, operation ≠ .send data)
    (iSock : operation.writes .iSock = false)
    (sockets : operation.writes .sockets = false)
    (flag : operation.writes .tcpIsConnected = false) :
    StreamTriple lib controller Unwritten (call operation)
      fun _ => Unwritten := by
  refine .call unwritten_stable (fun _ => unwritten_stable) ?_
  intro state choice inv ⟨cleared, nothing⟩ admissible
  have frame := exec_frame controller operation choice state
  refine ⟨stream_keeps_controller (exec_orderly inv orderly admissible),
    (frame .tcpIsConnected flag).trans cleared, ?_⟩
  unfold State.serial at nothing ⊢
  rw [frame .sockets sockets, frame .iSock iSock]
  intro serial current
  exact (writesOn_exec controller orderly noSend choice state serial).trans
    (nothing serial current)

/-- The flag is set on a socket nothing was written on. -/
theorem setConnected_stream :
    StreamTriple lib controller Unwritten (call (.setTcpConnected true))
      fun _ _ => True := by
  refine .call unwritten_stable (fun _ => .const True) ?_
  intro state choice inv ⟨_, nothing⟩ _
  refine ⟨stream_keeps_controller (inv.of_writes_eq (fun _ => rfl) inv.known
    le_rfl fun _ _ serial current write member => ?_), trivial⟩
  rw [nothing serial current] at member
  cases member

theorem tcpConnect_stream :
    StreamTriple lib controller (fun _ => True) tcpConnect
      fun _ _ => True := by
  have opens : StreamTriple lib controller (fun _ => True) (call .socket)
      fun _ => Unwritten := by
    refine .call (.const True) (fun _ => unwritten_stable) ?_
    intro state choice inv _ cleared
    obtain ⟨laterInv, nothing⟩ := exec_socket_stream inv choice
    have flag := exec_frame controller .socket choice state
      .tcpIsConnected rfl
    exact ⟨stream_keeps_controller laterInv, flag.trans cleared, nothing⟩
  have done {pre : State → Prop} (value : Int) :
      StreamTriple lib controller pre (.ret value) fun _ _ => True :=
    .returns (.const True) fun _ _ _ => trivial
  refine (orderly_call (.enter .tcpConnect) trivial).bind fun _ =>
    .bind (opens.bind fun opened => .ite (fun _ => done _) fun _ => ?_)
      fun _ => controller_stream (.step trivial fun _ => trivial)
  refine (unwritten_call .connect trivial nofun rfl rfl rfl).bind fun _ =>
    (unwritten_call .fcntl trivial nofun rfl rfl rfl).bind fun outcome =>
      .ite (fun _ => done _) fun _ => ?_
  exact (setConnected_stream).bind fun _ => done _

/-- Wherever the controller starts over, nothing else needs to hold. -/
theorem continues_stream {pre : State → Prop} (label : Label) :
    StreamTriple lib controller pre (.ret label) fun _ _ => True :=
  .returns (.const True) fun _ _ _ => trivial

section Programs

variable (conf : SConf) (lib : Smpp34)

theorem main_stream :
    StreamTriple lib controller (fun _ => True) (main conf lib)
      fun _ _ => True := by
  have stops : StreamTriple lib controller (fun _ => True)
      (do tcpDisconn; return Label.stopped) fun _ _ => True :=
    (controller_stream tcpDisconn_orderly).bind fun _ =>
      continues_stream _
  refine (tcpConnect_stream).bind fun iFnRes =>
    .ite (fun _ => continues_stream _) fun _ => ?_
  refine (orderly_call .createReceiver trivial).bind
    fun created => .ite (fun _ => stops) fun _ => ?_
  refine (controller_stream (smppConnect_orderly conf lib)).bind
    fun bound => .ite (fun _ => stops) fun _ => ?_
  exact (orderly_call .createPing trivial).bind
    fun created => .ite (fun _ => continues_stream _)
      fun _ => continues_stream _

theorem startPing_stream :
    StreamTriple lib controller (fun _ => True) (startPing conf)
      fun _ _ => True := by
  refine controller_stream (.step trivial fun _ => .step trivial
    fun created => ?_)
  split
  · trivial
  · exact .step trivial fun garbage =>
      (makeTimespecTimeout_uses trivial _ _ _).bind fun _ => trivial

theorem doSmppConnection_stream (soTS : Timespec) :
    StreamTriple lib controller (fun _ => True)
      (doSmppConnection conf lib soTS) fun _ _ => True :=
  (controller_stream (smppConnect_orderly conf lib)).bind fun _ =>
    continues_stream _

theorem doTcpConnection_stream (soTS : Timespec) :
    StreamTriple lib controller (fun _ => True)
      (doTcpConnection conf lib soTS) fun _ _ => True :=
  (tcpConnect_stream).bind fun _ =>
    .ite (fun _ => continues_stream _)
      fun _ => doSmppConnection_stream conf lib soTS

theorem doSmppPing_stream (soTS : Timespec) :
    StreamTriple lib controller (fun _ => True) (doSmppPing conf lib soTS)
      fun _ _ => True := by
  have recovers : StreamTriple lib controller (fun _ => True)
      (recoverConnection conf lib soTS) fun _ _ => True :=
    (controller_stream (smppDisconn_orderly lib)).bind fun _ =>
      (controller_stream tcpDisconn_orderly).bind fun _ =>
        doTcpConnection_stream conf lib soTS
  refine (orderly_call .getStop trivial).bind fun iStop =>
    .ite (fun _ => continues_stream _) fun _ => ?_
  refine (orderly_call (.pingTimedLock soTS) trivial).bind fun iFnRes =>
    .ite (fun _ => continues_stream _) fun _ => ?_
  refine (orderly_call .isTcpConnected trivial).bind fun tcpIsConnected =>
    .ite (fun _ => doTcpConnection_stream conf lib soTS) fun _ => ?_
  refine (orderly_call .isSmppConnected trivial).bind fun smppIsConnected =>
    .ite (fun _ => doSmppConnection_stream conf lib soTS) fun _ => ?_
  exact (controller_stream (smppEnqLink_orderly lib)).bind
    fun iFnRes => .ite (fun _ => continues_stream _) fun _ => recovers

theorem finish_stream :
    StreamTriple lib controller (fun _ => True) (finish lib)
      fun _ _ => True :=
  controller_stream (.step trivial fun _ =>
    (smppDisconn_orderly lib).bind fun _ =>
      tcpDisconn_orderly.bind fun _ => trivial)

theorem code_stream (thread : Thread) (label : Label) :
    StreamTriple lib thread (fun _ => True) (code conf lib thread label)
      fun _ _ => True := by
  unfold code
  split
  · exact main_stream conf lib
  · exact startPing_stream conf lib
  · exact doSmppPing_stream conf lib _
  · exact finish_stream lib
  · exact orderly_triple (msgReceiver_orderly conf lib)
      fun _ => (msgReceiver_traffic conf lib).mono Op.isTraffic.peripheral
  · exact orderly_triple (environment_orderly lib)
      fun _ => environment_traffic.mono Op.isTraffic.peripheral
  · exact .returns (.const True) fun _ _ _ => trivial

/-- In every run in which octets are sent only with the TCP flag set, in which
a short write clears the flag before anything else happens, and in which a
socket is opened only with the flag cleared, the streams can be parsed. -/
theorem gateway_streamsParseable
    {config : Config Res Thread State Label}
    (reach :
      (gateway conf lib).Reach FlagsShortWrites gatewayStart config) :
    StreamsParseable lib config.state := by
  have initially : StreamInv lib gatewayStart.state :=
    ⟨List.forall_mem_nil _, fun _ _ => rfl, fun _ => List.forall_mem_nil _,
      fun _ => List.forall_mem_nil _, nofun⟩
  have safe (thread : Thread) : (streamProtocol lib).Safe exec
      FlagsShortWrites thread (fun _ _ => True)
        (gatewayStart.control thread) gatewayStart.state := by
    have starts (label : Label) : (streamProtocol lib).Safe exec
        FlagsShortWrites thread (fun _ _ => True) (.ret label)
          gatewayStart.state :=
      fun _ _ _ => trivial
    match thread with
    | .requester 0 => exact starts .main
    | .requester (number + 1) => exact starts .stopped
    | .receiver => exact starts .receive
    | .environment => exact starts .environment
  have inv : StreamInv lib config.state :=
    (Protocol.sound (code_stream conf lib) initially safe reach).1
  exact inv.streamsParseable

end Programs

/-! ## A response that is cut short and a request that is -/

/-- Every call succeeds, but `send` takes four octets. -/
def sendsFour : Op → Choice
  | .send _ => { ret := 4, errno := 11 }
  | operation => allSucceeds operation

/-- The response to an unbinding is cut short, and the ping thread opens
another connection. -/
theorem unbindRespCut_streamsParseable :
    StreamsParseable referenceCodec ((gateway {} referenceCodec).run
      (started ++ arrival 0 (ReferenceCodec.packed (headerPdu UNBIND 7)) ++
        List.replicate 14 (.receiver, sendsFour) ++
          steps (.requester 0) 18) gatewayStart).state :=
  gateway_streamsParseable {} referenceCodec (.run .start _ (by decide +kernel))

/-- Four octets of an `ENQUIRE_LINK` are sent, and the whole `UNBIND` behind
them. -/
theorem enquireLinkCut_notParseable :
    ∃ config, (gateway {} referenceCodec).Reach Machine.unconditional
        gatewayStart config ∧
      ¬StreamsParseable referenceCodec config.state := by
  let schedule := started ++ steps (.requester 0) 9 ++
    [(.requester 0, sendsFour)] ++ steps (.requester 0) 10
  refine ⟨(gateway {} referenceCodec).run schedule gatewayStart,
    .run .start schedule (Machine.admits_unconditional schedule _), ?_⟩
  have writes : (writesOn 0 ((gateway {} referenceCodec).run schedule
      gatewayStart).state.log).reverse =
      [⟨ReferenceCodec.packed (bindTransceiver {} 1), 23⟩] ++
        ⟨ReferenceCodec.packed (headerPdu ENQUIRE_LINK 2), 4⟩ ::
          [⟨ReferenceCodec.packed (headerPdu UNBIND 3), 16⟩] := by
    decide +kernel
  intro parseable
  have nothing := parseable.silent 0 _ _ _ writes (by decide)
  exact absurd nothing (by decide)

end Sms112
