import Sms112.Model.Platform

/-!
# What the operations can do

One lemma for every operation whose outcome depends on the state or on the
environment: the list of its outcomes, each with the state it leaves. The
other operations compute.
-/

namespace Sms112

namespace State

variable (state : State) (thread : Thread) (choice : Choice)

/-- `recv` returns an error, nothing, or a count that is positive and within
both bounds. -/
theorem recvCount_cases (size : Nat) (available : Octets) (ret : Int) :
    recvCount size available ret = -1 ∨
      recvCount size available ret = 0 ∨
      ∃ count : Nat, recvCount size available ret = count ∧ 0 < count ∧
        count ≤ size ∧ count ≤ available.length := by
  unfold recvCount
  split
  next failed => exact .inl rfl
  next succeeded =>
    split
    next nothing => exact .inr (.inl rfl)
    next something =>
      simp only [not_or] at something
      have positive := List.length_pos_iff.mpr something.2
      refine .inr (.inr
        ⟨(max 1 (min ret (min size available.length : Nat))).toNat, ?_⟩)
      omega

/-- When `recv` returns at least as many octets as a bound. -/
theorem le_recvCount_iff
    {bound : Nat}
    (plural : 2 ≤ bound)
    (size : Nat)
    (available : Octets)
    (ret : Int) :
    (bound : Int) ≤ recvCount size available ret ↔
      (bound : Int) ≤ ret ∧ bound ≤ size ∧ bound ≤ available.length := by
  unfold recvCount
  split
  next failed => omega
  next succeeded =>
    split
    next nothing =>
      rcases nothing with rfl | rfl
      · omega
      · rw [List.length_nil]
        omega
    next something => omega

/-- Either a socket is created or `g_iSock` is -1. -/
theorem socket_cases :
    (∃ descriptor errno, 0 ≤ descriptor ∧
      state.sockets.lookup descriptor = none ∧
      state.socket choice = ((descriptor, errno),
        { state with
          iSock := descriptor
          sockets := (descriptor, state.nextSerial) :: state.sockets
          nextSerial := state.nextSerial + 1 })) ∨
      state.socket choice = ((-1, choice.failure),
        { state with iSock := -1 }) := by
  unfold socket
  split
  next created =>
    exact .inl ⟨choice.ret, choice.errno, created.1,
      Option.isNone_iff_eq_none.mp created.2, rfl⟩
  next refused => exact .inr rfl

/-- Either the socket is established or nothing changes. -/
theorem connect_cases :
    (∃ serial errno, state.serial = some serial ∧ choice.ret = 0 ∧
      state.connect choice = ((0, errno),
        { state with established := serial :: state.established })) ∨
      state.connect choice = ((-1, choice.failure), state) := by
  unfold connect
  cases open_socket : state.serial with
  | none => exact .inr rfl
  | some serial =>
      dsimp only
      split
      next accepted => exact .inl ⟨serial, choice.errno, rfl, accepted, rfl⟩
      next refused => exact .inr rfl

theorem fcntl_cases :
    (∃ serial errno, state.serial = some serial ∧ choice.ret = 0 ∧
      state.fcntl choice = ((0, errno), state)) ∨
      state.fcntl choice = ((-1, choice.failure), state) := by
  unfold fcntl
  split
  next succeeded =>
    obtain ⟨serial, open_socket⟩ :=
      Option.isSome_iff_exists.mp succeeded.1
    exact .inl ⟨serial, choice.errno, open_socket, succeeded.2, rfl⟩
  next failed => exact .inr rfl

/-- Either the descriptor in `g_iSock` is closed or nothing changes. -/
theorem close_cases :
    (∃ serial, state.serial = some serial ∧ choice.ret = 0 ∧
      state.close choice = (0,
        { state with
          sockets :=
            state.sockets.filter fun entry => entry.1 ≠ state.iSock })) ∨
      state.close choice = (-1, state) := by
  unfold close
  split
  next succeeded =>
    obtain ⟨serial, open_socket⟩ :=
      Option.isSome_iff_exists.mp succeeded.1
    exact .inl ⟨serial, open_socket, succeeded.2, rfl⟩
  next failed => exact .inr rfl

/-- A closed descriptor designates no socket. -/
theorem serial_closed :
    State.serial { state with
      sockets :=
        state.sockets.filter fun entry => entry.1 ≠ state.iSock } = none := by
  unfold State.serial
  rw [List.lookup_eq_none_iff]
  intro entry member
  have other : entry.1 ≠ state.iSock := by
    simpa using (List.mem_filter.mp member).2
  simpa using other.symm

/-- No socket is designated by -1. -/
theorem serial_unset
    (descriptors : ∀ entry ∈ state.sockets, 0 ≤ entry.1) :
    State.serial { state with iSock := -1 } = none := by
  unfold State.serial
  rw [List.lookup_eq_none_iff]
  intro entry member
  have nonnegative := descriptors entry member
  simp only [bne_iff_ne, ne_eq]
  omega

/-- Either octets are accepted on the socket or nothing changes. -/
theorem send_cases (data : Octets) :
    (∃ serial, state.serial = some serial ∧ 0 ≤ choice.ret ∧
      state.send thread data choice =
        ((((min choice.ret.toNat data.length : Nat) : Int), choice.errno),
          (state.useSocket thread serial).note
            (.sent thread serial data
              (min choice.ret.toNat data.length)))) ∨
      state.send thread data choice = ((-1, choice.failure), state) := by
  unfold send
  cases open_socket : state.serial with
  | none => exact .inr rfl
  | some serial =>
      dsimp only
      split
      next failed => exact .inr rfl
      next succeeded => exact .inl ⟨serial, rfl, by omega, rfl⟩

/-- Either a positive number of octets is taken off the socket or nothing
changes. -/
theorem recv_cases (size : Nat) (into : Option (Option Nat)) :
    (∃ serial count : Nat, state.serial = some serial ∧
      (into = some none → size = 0) ∧
      recvCount size (state.inbound serial) choice.ret = count ∧
      0 < count ∧ count ≤ size ∧ count ≤ (state.inbound serial).length ∧
      state.recv thread size into choice =
        (((count : Int), (state.inbound serial).take count),
          state.takeOctets thread serial count into)) ∨
      ∃ ret : Int, (ret = -1 ∨ ret = 0) ∧
        (∀ serial, state.serial = some serial → into ≠ some none →
          recvCount size (state.inbound serial) choice.ret = ret) ∧
        state.recv thread size into choice = ((ret, []), state) := by
  unfold recv
  cases open_socket : state.serial with
  | none => exact .inr ⟨-1, .inl rfl, by simp, rfl⟩
  | some serial =>
      dsimp only
      split
      next nullBuffer =>
        exact .inr ⟨-1, .inl rfl,
          fun _ _ buffer => absurd nullBuffer.1 buffer, rfl⟩
      next buffer =>
        rcases recvCount_cases size (state.inbound serial) choice.ret with
          failed | nothing | ⟨count, equal, positive, inSize, inStream⟩
        · refine .inr ⟨-1, .inl rfl, ?_, by rw [failed]; rfl⟩
          rintro _ ⟨⟩ -
          exact failed
        · refine .inr ⟨0, .inr rfl, ?_, by rw [nothing]; rfl⟩
          rintro _ ⟨⟩ -
          exact nothing
        · refine .inl ⟨serial, count, rfl, ?_, equal, positive, inSize,
            inStream, ?_⟩
          · intro null
            by_contra nonempty
            exact buffer ⟨null, nonempty⟩
          · rw [equal, if_pos (by omega), Int.toNat_natCast]

/-- Either octets are seen on the socket or nothing changes. -/
theorem peek_cases (size : Nat) :
    (∃ serial count : Nat, state.serial = some serial ∧
      recvCount size (state.inbound serial) choice.ret = count ∧
      0 < count ∧ count ≤ size ∧ count ≤ (state.inbound serial).length ∧
      state.peek thread size choice =
        (((count : Int), (state.inbound serial).take count),
          state.useSocket thread serial)) ∨
      ∃ ret : Int, (ret = -1 ∨ ret = 0) ∧
        (∀ serial, state.serial = some serial →
          recvCount size (state.inbound serial) choice.ret = ret) ∧
        state.peek thread size choice = ((ret, []), state) := by
  unfold peek
  cases open_socket : state.serial with
  | none => exact .inr ⟨-1, .inl rfl, by simp, rfl⟩
  | some serial =>
      dsimp only
      rcases recvCount_cases size (state.inbound serial) choice.ret with
        failed | nothing | ⟨count, equal, positive, inSize, inStream⟩
      · refine .inr ⟨-1, .inl rfl, ?_, by rw [failed]; rfl⟩
        rintro _ ⟨⟩
        exact failed
      · refine .inr ⟨0, .inr rfl, ?_, by rw [nothing]; rfl⟩
        rintro _ ⟨⟩
        exact nothing
      · refine .inl ⟨serial, count, rfl, equal, positive, inSize, inStream,
          ?_⟩
        rw [equal, if_pos (by omega), Int.toNat_natCast]

/-- Either the request is registered or its number is taken. -/
theorem storAdd_cases (seqNum : Nat) (pointer : ReqPtr) :
    state.storAdd seqNum pointer =
        (0, { state with mapReq := (seqNum, pointer) :: state.mapReq }) ∨
      ∃ other, (seqNum, other) ∈ state.mapReq ∧
        state.storAdd seqNum pointer = (EEXIST,
          state.note (.storRefused seqNum (state.sending.length - 1))) := by
  unfold storAdd
  rcases reqStorAdd_cases state.mapReq seqNum pointer with
    added | ⟨refused, other, member⟩
  · exact .inl (by rw [added]; rfl)
  · exact .inr ⟨other, member, by rw [refused]; rfl⟩

/-- Either the receiver takes an entry out of the store or finds none. -/
theorem storGetAndRem_cases (seqNum : Nat) :
    state.storGetAndRem seqNum = (none, state) ∨
      ∃ pointer, (seqNum, pointer) ∈ state.mapReq ∧
        state.storGetAndRem seqNum = (some pointer,
          { state with
            mapReq := state.mapReq.erase seqNum
            held := pointer.owner :: state.held }) := by
  unfold storGetAndRem
  rcases reqStorGetAndRem_cases state.mapReq seqNum with
    missing | ⟨pointer, member, found⟩
  · exact .inl (by rw [missing])
  · exact .inr ⟨pointer, member, by rw [found]⟩

theorem lookup_updateRequest
    (pointer : ReqPtr)
    (change : SReqData → SReqData)
    (addr : Nat) :
    (state.updateRequest pointer change).requests.lookup addr =
      if addr = pointer.addr then (state.requests.lookup addr).map change
      else state.requests.lookup addr :=
  lookup_change state.requests pointer.addr change addr

theorem lookup_deleteReqData (pointer : ReqPtr) (addr : Nat) :
    (state.deleteReqData pointer).requests.lookup addr =
      if addr = pointer.addr then none
      else state.requests.lookup addr := by
  unfold deleteReqData
  dsimp only
  induction state.requests with
  | nil => simp
  | cons entry requests inductionHypothesis =>
      obtain ⟨other, data⟩ := entry
      by_cases here : addr = other
      · subst here
        by_cases same : addr = pointer.addr
        · simpa [same] using inductionHypothesis
        · simp [same]
      · have different : (addr == other) = false := by simpa using here
        by_cases same : other = pointer.addr
        · subst same
          simpa [here, List.lookup_cons, different]
            using inductionHypothesis
        · simpa [same, List.lookup_cons, different]
            using inductionHypothesis

/-- An address above all others is free. -/
theorem lookup_freshAddr :
    state.requests.lookup state.freshAddr = none := by
  have above (entry : Nat × SReqData) (member : entry ∈ state.requests) :
      entry.1 < state.freshAddr := by
    unfold freshAddr
    generalize state.requests = requests at *
    induction requests with
    | nil => simp at member
    | cons first requests inductionHypothesis =>
        simp only [List.map_cons, List.foldr_cons]
        rcases List.mem_cons.mp member with rfl | later
        · omega
        · have bound := inductionHypothesis later
          omega
  rw [List.lookup_eq_none_iff]
  intro entry member
  have bound := above entry member
  simp only [bne_iff_ne, ne_eq]
  omega

/-- A new object is locked and at an address that was free. -/
theorem newReqData_cases :
    ∃ addr, state.requests.lookup addr = none ∧
      state.newReqData thread choice = (⟨addr, state.nextOwner⟩,
        { state with
          requests :=
            (addr, { owner := state.nextOwner, creator := thread }) ::
              state.requests
          nextOwner := state.nextOwner + 1 }) := by
  unfold newReqData
  by_cases free : (state.requests.lookup choice.count).isNone
  · exact ⟨choice.count, Option.isNone_iff_eq_none.mp free,
      by simp only [free, if_true]⟩
  · exact ⟨state.freshAddr, state.lookup_freshAddr,
      by simp only [free, Bool.false_eq_true, if_false]⟩

/-- Either the waiting thread is woken or nothing changes. -/
theorem timedLockReq_cases (pointer : ReqPtr) :
    (∃ data, state.request pointer = some data ∧ data.locked = false ∧
      state.timedLockReq pointer = (0, state.updateRequest pointer
        fun data => { data with locked := true })) ∨
      ∃ ret, ret ≠ 0 ∧ state.timedLockReq pointer = (ret, state) := by
  unfold timedLockReq
  cases live : state.request pointer with
  | none => exact .inr ⟨EINVAL, by decide, rfl⟩
  | some data =>
      cases locked : data.locked with
      | true => exact .inr ⟨ETIMEDOUT, by decide, by simp [locked]⟩
      | false => exact .inl ⟨data, rfl, locked, by simp [locked]⟩

/-- Either the write is inside the block or it is noted. -/
theorem writeChars_cases (address offset : Nat) (data : Octets) :
    state.writeChars address offset data = state.note .outOfBounds ∨
      ∃ contents, state.writeChars address offset data =
        state.storeBlock address contents := by
  unfold writeChars
  split
  · exact .inr ⟨_, rfl⟩
  · exact .inl rfl

end State

/-- Every call succeeds, and `recv` returns all that is there. -/
def allSucceeds : Op → Choice
  | .recv .. | .peek _ | .malloc _ | .send _ => { ret := 65536 }
  | _ => {}

/-- An open connection. -/
def connectedState : State where
  iSock := 3
  tcpIsConnected := true
  sockets := [(3, 0)]
  established := [0]

end Sms112
