import Sms112.Handler.Answer
import Mathlib.Data.List.Flatten

/-!
# Framing of the stream

TCP delivers the server's PDUs as one stream of octets, in pieces of any size.
Between the pieces the handler is called. The PDUs it hands on should be those
that were sent, in order and once each. This is so in every session in which
the `recv` that follows a header returns the whole PDU; the handler makes only
one such call, and when it is short, the rest of the PDU is taken for the
header of the next one.
-/

namespace Sms112

open Resumption

/-- A PDU that the handler's local buffer can hold. -/
structure SmppPdu where
  octets : Octets
  commandLength : word octets 0 = octets.length
  whole : headerLength ≤ octets.length
  fits : octets.length ≤ localBufferSize

/-- The stream the server writes for a list of PDUs. -/
def stream (pdus : List SmppPdu) : Octets :=
  pdus.flatMap SmppPdu.octets

@[simp] theorem stream_nil : stream [] = [] := rfl

@[simp] theorem stream_cons (pdu : SmppPdu) (pdus : List SmppPdu) :
    stream (pdu :: pdus) = pdu.octets ++ stream pdus := by
  simp [stream]

@[simp] theorem stream_append (first second : List SmppPdu) :
    stream (first ++ second) = stream first ++ stream second := by
  simp [stream]

/-- Only no PDUs at all write nothing. -/
theorem stream_eq_nil_iff (pdus : List SmppPdu) :
    stream pdus = [] ↔ pdus = [] := by
  cases pdus with
  | nil => simp
  | cons pdu pdus =>
      have nonempty : pdu.octets ≠ [] := by
        intro empty
        have whole := pdu.whole
        rw [empty] at whole
        simp [headerLength] at whole
      simp [nonempty]

/-- The header at the front of a stream is that of the first PDU. -/
theorem commandLength_append (pdu : SmppPdu) {arrived rest : Octets}
    (front : arrived <+: pdu.octets ++ rest)
    (seen : headerLength ≤ arrived.length) :
    (SPDUHdr.ofOctets arrived).commandLength = pdu.octets.length := by
  obtain ⟨missing, split⟩ := front
  have whole := pdu.whole
  unfold headerLength at seen whole
  calc word arrived 0
      = word (arrived ++ missing) 0 := (word_append (by omega)).symm
    _ = word (pdu.octets ++ rest) 0 := by rw [split]
    _ = word pdu.octets 0 := word_append (by omega)
    _ = pdu.octets.length := pdu.commandLength

namespace SmppPdu

variable (pdu : SmppPdu)

theorem plural
    {header : SPDUHdr}
    (length : header.commandLength = pdu.octets.length) :
    2 ≤ header.commandLength := by
  have whole := pdu.whole
  unfold headerLength at whole
  omega

/-- What a call with the header of the PDU in front hands on. -/
theorem hands
    {oracle : Op → Choice}
    {lib : Smpp34}
    {before after : State}
    (length : (SPDUHdr.ofOctets before.available).commandLength =
      pdu.octets.length)
    (consumes : Consumes oracle lib before after) :
    HandsOn pdu.octets.length (taken oracle before) before after := by
  have plural := pdu.plural length
  have fits := pdu.fits
  unfold localBufferSize at fits
  have hands := consumes.hands (by omega) (by omega)
  rwa [length] at hands

end SmppPdu

/-! ## Sessions -/

/-- What the other threads do between two calls: registering requests, say,
but nothing to the connection, to its stream or to the PDUs handed on. -/
structure Elsewhere (before after : State) : Prop where
  serial : after.serial = before.serial
  available : after.available = before.available
  handed : Observes handedPdu [] before after

/-- The octets that have arrived on the connection since a state, and the
state now, if every call of the handler meets a condition on its oracle and
the state before it. -/
inductive Session (conf : SConf) (lib : Smpp34)
    (condition : (Op → Choice) → State → Prop) (start : State) :
    Octets → State → Prop
  | start : Session conf lib condition start [] start
  | arrive
      {arrived : Octets}
      {state : State}
      {serial : Nat}
      (session : Session conf lib condition start arrived state)
      (open_socket : state.serial = some serial)
      (chunk : Octets) :
      Session conf lib condition start (arrived ++ chunk)
        (exec .environment .arrive { count := serial, data := chunk }
          state).2
  | elsewhere
      {arrived : Octets}
      {state later : State}
      (session : Session conf lib condition start arrived state)
      (elsewhere : Elsewhere state later) :
      Session conf lib condition start arrived later
  | handle
      {arrived : Octets}
      {state : State}
      (session : Session conf lib condition start arrived state)
      (oracle : Op → Choice)
      (holds : condition oracle state) :
      Session conf lib condition start arrived
        ((smppHandler conf lib).eval (exec .receiver) oracle state).2

/-- The first PDUs were handed on, in order and once each, and their octets
are exactly those that have left the stream. -/
def Framed (pdus : List SmppPdu) (start : State) (arrived : Octets)
    (state : State) : Prop :=
  ∃ done rest, pdus = done ++ rest ∧
    Observes handedPdu (done.map SmppPdu.octets).reverse start state ∧
    arrived = stream done ++ state.available

/-- Only a part of the PDU at the front of the stream is there. -/
def FindsPart (state : State) : Prop :=
  state.available.length < headerLength ∨
    state.available.length <
      (SPDUHdr.ofOctets state.available).commandLength

/-- The call sees a header and, if it is that of a response, finds the request
waiting for it and memory for the PDU. -/
def CanReceive (oracle : Op → Choice) (state : State) : Prop :=
  let header := SPDUHdr.ofOctets state.available
  HeaderVisible oracle state ∧
    (header.isResponse →
      ((state.mapReq.lookup header.sequenceNumber).bind
        state.request).isSome ∧
      (oracle (.malloc header.commandLength)).ret ≠ 0)

/-- If the call reaches a `recv` with a buffer, all octets of the PDU have
arrived and `recv` returns them. -/
def ReceivesWhole (oracle : Op → Choice) (state : State) : Prop :=
  let size := (SPDUHdr.ofOctets state.available).commandLength
  ∀ into, recvInto oracle state = some into → into ≠ some none →
    size ≤ state.available.length ∧
      (size : Int) ≤ (oracle (.recv size into)).ret

variable {thread : Thread} {oracle : Op → Choice}

theorem CanReceive.reaches
    {state : State}
    (can : CanReceive oracle state)
    (fits : (SPDUHdr.ofOctets state.available).commandLength ≤
      localBufferSize) :
    ∃ into, recvInto oracle state = some into ∧ into ≠ some none := by
  obtain ⟨visible, registered⟩ := can
  unfold recvInto respInto reqInto respBuf
  simp only [visible, if_true]
  by_cases response : (SPDUHdr.ofOctets state.available).isResponse
  · obtain ⟨waiting, memory⟩ := registered response
    cases found : state.mapReq.lookup
        (SPDUHdr.ofOctets state.available).sequenceNumber with
    | none => simp [found] at waiting
    | some pointer =>
        have live : (state.request pointer).isSome := by
          simpa [found] using waiting
        simp [response, live, memory]
  · simp [response, fits]

/-- Then a call that reaches its `recv` takes the whole PDU. -/
theorem taken_of_reached
    {state : State}
    {into : Option (Option Nat)}
    (receives : ReceivesWhole oracle state)
    (plural : 2 ≤ (SPDUHdr.ofOctets state.available).commandLength)
    (reached : recvInto oracle state = some into)
    (buffer : into ≠ some none) :
    taken oracle state =
        (SPDUHdr.ofOctets state.available).commandLength ∧
      (SPDUHdr.ofOctets state.available).commandLength ≤
        state.available.length := by
  obtain ⟨arrived, all⟩ := receives into reached buffer
  have count := (State.le_recvCount_iff plural _ state.available _).mpr
    ⟨all, Nat.le_refl _, arrived⟩
  have bound := (recvTaken_le oracle
    (SPDUHdr.ofOctets state.available).commandLength into state).1
  refine ⟨?_, arrived⟩
  unfold taken takenInto
  rw [reached]
  dsimp only
  unfold recvTaken at bound ⊢
  rw [if_neg buffer] at bound ⊢
  omega

/-- And any call takes the whole PDU or nothing. -/
theorem taken_of_receivesWhole
    {state : State}
    (receives : ReceivesWhole oracle state)
    (plural : 2 ≤ (SPDUHdr.ofOctets state.available).commandLength) :
    taken oracle state = 0 ∨
      taken oracle state =
          (SPDUHdr.ofOctets state.available).commandLength ∧
        (SPDUHdr.ofOctets state.available).commandLength ≤
          state.available.length := by
  cases reached : recvInto oracle state with
  | none =>
      left
      unfold taken takenInto
      rw [reached]
  | some into =>
      by_cases null : into = some none
      · left
        unfold taken takenInto recvTaken
        rw [reached]
        exact if_pos null
      · exact .inr (taken_of_reached receives plural reached null)

/-- A call that finds only a part of a PDU removes nothing. -/
theorem smppHandler_part_stays
    (conf : SConf)
    (lib : Smpp34)
    {state : State}
    (receives : ReceivesWhole oracle state)
    (part : FindsPart state) :
    ((smppHandler conf lib).eval (exec thread) oracle state).2.available =
      state.available := by
  have consumes := smppHandler_consumes thread oracle conf lib state
  have bound := (takenInto_le oracle
    (SPDUHdr.ofOctets state.available).commandLength
    (recvInto oracle state) state).1
  have nothing : taken oracle state = 0 := by
    rcases part with noHeader | noBody
    · refine taken_of_not_visible oracle fun visible => ?_
      have seen := visible.1
      omega
    · by_cases plural :
        2 ≤ (SPDUHdr.ofOctets state.available).commandLength
      · rcases taken_of_receivesWhole receives plural with
          nothing | ⟨-, arrived⟩
        · exact nothing
        · omega
      · have empty : state.available = [] := by
          rw [← List.length_eq_zero_iff]
          omega
        refine taken_of_not_visible oracle fun visible => ?_
        have seen := visible.1
        rw [empty] at seen
        simp [headerLength] at seen
  rw [consumes.available, nothing, List.drop_zero]

/-! ## What each step preserves -/

section Steps

variable {pdus : List SmppPdu} {start state later : State}
variable {arrived : Octets}

theorem Framed.elsewhere
    (framed : Framed pdus start arrived state)
    (elsewhere : Elsewhere state later) :
    Framed pdus start arrived later := by
  obtain ⟨done, rest, split, handed, equal⟩ := framed
  refine ⟨done, rest, split, ?_, ?_⟩
  · exact handed.trans elsewhere.handed
  · rw [elsewhere.available, equal]

theorem Framed.arrive
    {serial : Nat}
    (framed : Framed pdus start arrived state)
    (open_socket : state.serial = some serial)
    (chunk : Octets) :
    Framed pdus start (arrived ++ chunk)
      (exec .environment .arrive { count := serial, data := chunk }
        state).2 := by
  obtain ⟨done, rest, split, handed, equal⟩ := framed
  refine ⟨done, rest, split, handed, ?_⟩
  have grown : (exec .environment .arrive
      { count := serial, data := chunk } state).2.available =
        state.available ++ chunk := by
    rw [available_of_serial open_socket, available_of_serial
      (show State.serial (exec .environment .arrive _ state).2 = some serial
        from open_socket)]
    exact Function.update_self serial _ state.inbound
  rw [equal, grown, List.append_assoc]

/-- A header at the front of the stream is that of the next PDU. -/
theorem Framed.front
    (framed : Framed pdus start arrived state)
    (sent : arrived <+: stream pdus)
    (seen : headerLength ≤ state.available.length) :
    ∃ done pdu rest, pdus = done ++ pdu :: rest ∧
      Observes handedPdu (done.map SmppPdu.octets).reverse start state ∧
      arrived = stream done ++ state.available ∧
      (SPDUHdr.ofOctets state.available).commandLength =
        pdu.octets.length ∧
      (pdu.octets.length ≤ state.available.length →
        state.available.take pdu.octets.length = pdu.octets) := by
  obtain ⟨done, rest, split, handed, equal⟩ := framed
  have remaining : state.available <+: stream rest := by
    rw [equal, split, stream_append] at sent
    exact (List.prefix_append_right_inj _).mp sent
  cases rest with
  | nil =>
      rw [stream_nil, List.prefix_nil] at remaining
      rw [remaining] at seen
      simp [headerLength] at seen
  | cons pdu rest =>
      rw [stream_cons] at remaining
      refine ⟨done, pdu, rest, split, handed, equal,
        commandLength_append pdu remaining seen, fun enough => ?_⟩
      obtain ⟨missing, joined⟩ := remaining
      have cut := congrArg (List.take pdu.octets.length) joined
      rwa [List.take_left, List.take_append_of_le_length enough] at cut

/-- A call that takes nothing hands nothing on; else it takes the next PDU and
hands on exactly that. -/
theorem Framed.handle
    (framed : Framed pdus start arrived state)
    (sent : arrived <+: stream pdus)
    (conf : SConf)
    (lib : Smpp34)
    (receives : ReceivesWhole oracle state) :
    Framed pdus start arrived
      ((smppHandler conf lib).eval (exec thread) oracle state).2 := by
  have consumes := smppHandler_consumes thread oracle conf lib state
  by_cases seen : headerLength ≤ state.available.length
  · obtain ⟨done, pdu, rest, split, handed, equal, length, front⟩ :=
      framed.front sent seen
    have hands := pdu.hands length consumes
    rcases taken_of_receivesWhole receives (pdu.plural length) with
      nothing | ⟨all, enough⟩
    · refine ⟨done, pdu :: rest, split, ?_, ?_⟩
      · rw [nothing] at hands
        have positive := pdu.plural length
        exact handed.trans (hands.part (by omega))
      · rw [consumes.available, nothing, List.drop_zero, equal]
    · rw [length] at all enough
      have next := handed.trans (hands.whole all)
      rw [front enough] at next
      refine ⟨done ++ [pdu], rest, by simp [split], by simpa using next, ?_⟩
      have joined := List.take_append_drop pdu.octets.length state.available
      rw [front enough] at joined
      rw [consumes.available, all, equal, stream_append, stream_cons,
        stream_nil, List.append_nil, List.append_assoc, joined]
  · have hidden : ¬HeaderVisible oracle state :=
      fun visible => seen visible.1
    obtain ⟨done, rest, split, handed, equal⟩ := framed
    refine ⟨done, rest, split, handed.trans (consumes.unseen hidden), ?_⟩
    rw [consumes.available, taken_of_not_visible oracle hidden,
      List.drop_zero, equal]

/-- A call that can receive the next PDU hands it on and removes it. -/
theorem Framed.progress
    (framed : Framed pdus start arrived state)
    (sent : arrived <+: stream pdus)
    (conf : SConf)
    (lib : Smpp34)
    (receives : ReceivesWhole oracle state)
    (can : CanReceive oracle state) :
    ∃ pdu ∈ pdus, let after :=
        ((smppHandler conf lib).eval (exec thread) oracle state).2
      state.available = pdu.octets ++ after.available ∧
        Observes handedPdu [pdu.octets] state after := by
  have consumes := smppHandler_consumes thread oracle conf lib state
  obtain ⟨done, pdu, rest, split, -, -, length, front⟩ :=
    framed.front sent can.1.1
  have fits := pdu.fits
  rw [← length] at fits
  obtain ⟨into, reached, buffer⟩ := can.reaches fits
  obtain ⟨all, enough⟩ :=
    taken_of_reached receives (pdu.plural length) reached buffer
  rw [length] at all enough
  refine ⟨pdu, by simp [split], ?_, ?_⟩
  · have joined := List.take_append_drop pdu.octets.length state.available
    rw [front enough] at joined
    rw [consumes.available, all, joined]
  · have handed := (pdu.hands length consumes).whole all
    rwa [front enough] at handed

/-- When all octets have arrived and were taken, all PDUs were handed on. -/
theorem Framed.complete
    (framed : Framed pdus start (stream pdus) state)
    (drained : state.available = []) :
    Observes handedPdu (pdus.map SmppPdu.octets).reverse start state := by
  obtain ⟨done, rest, split, handed, equal⟩ := framed
  rw [drained, List.append_nil, split, stream_append] at equal
  have none : rest = [] :=
    (stream_eq_nil_iff rest).mp (List.append_right_eq_self.mp equal)
  rw [split, none, List.append_nil]
  exact handed

end Steps

/-- A message in coding 0, as a PDU. -/
def plainPdu : SmppPdu where
  octets := plainDeliverSm
  commandLength := by decide +kernel
  whole := by decide +kernel
  fits := by decide +kernel

/-- Octets arrive on the connection, and the handler is called. -/
def afterPiece (piece : Octets) (state : State) : State :=
  ((smppHandler {} referenceCodec).eval (exec .receiver) allSucceeds
    (exec .environment .arrive { count := 0, data := piece } state).2).2

theorem Session.piece
    {condition : (Op → Choice) → State → Prop}
    {start state : State}
    {arrived : Octets}
    (session : Session {} referenceCodec condition start arrived state)
    (open_socket : state.serial = some 0)
    (piece : Octets)
    (holds : condition allSucceeds
      (exec .environment .arrive { count := 0, data := piece } state).2) :
    Session {} referenceCodec condition start (arrived ++ piece)
      (afterPiece piece state) :=
  (session.arrive open_socket piece).handle allSucceeds holds

end Sms112
