import Sms112.Handler.Taken

/-!
# Progress of the handler

A PDU whose header is at the front of the stream should be disposed of by one
call of the handler. The call disposes of it exactly when it reaches a `recv`
that returns at least a header: several exits of the handler do not, and leave
what was peeked where it is.
-/

namespace Sms112

open Resumption

/-- At least a header was removed from the front of the stream, or the
connection was given up. -/
def Disposes (before after : State) : Prop :=
  (∃ front, headerLength ≤ front.length ∧
    before.available = front ++ after.available) ∨
    before.tcpIsConnected ∧ ¬after.tcpIsConnected

variable (thread : Thread) (oracle : Op → Choice)

/-- The header is seen and not shorter than itself, and the `recv` that it
leads to returns at least a header: for a response, there is a waiting request
with its number and memory for the PDU, for a request, the PDU fits into the
local buffer. -/
def Disposable (state : State) : Prop :=
  let header := SPDUHdr.ofOctets state.available
  HeaderVisible oracle state ∧ headerLength ≤ header.commandLength ∧
    if header.isResponse then
      ((state.mapReq.lookup header.sequenceNumber).bind
          state.request).isSome ∧
        (oracle (.malloc header.commandLength)).ret ≠ 0 ∧
        (headerLength : Int) ≤ (oracle (.recv header.commandLength
          (some (some state.nextBlock)))).ret
    else
      header.commandLength ≤ localBufferSize ∧
        (headerLength : Int) ≤ (oracle (.recv header.commandLength none)).ret

instance (state : State) : Decidable (Disposable oracle state) := by
  unfold Disposable
  infer_instance

theorem headerLength_le_recvTaken_iff
    {size : Nat}
    {into : Option (Option Nat)}
    {state : State}
    (enough : headerLength ≤ state.available.length) :
    headerLength ≤ recvTaken oracle size into state ↔
      into ≠ some none ∧ headerLength ≤ size ∧
        (headerLength : Int) ≤ (oracle (.recv size into)).ret := by
  have plural : 2 ≤ headerLength := by decide
  have count := State.le_recvCount_iff plural size state.available
    (oracle (.recv size into)).ret
  unfold recvTaken
  split
  next null =>
    simp [null, headerLength]
  next usable =>
    have positive : 0 < headerLength := by decide
    simp only [ne_eq, usable, not_false_eq_true, true_and]
    omega

theorem headerLength_le_respTaken_iff
    {header : SPDUHdr}
    {state : State}
    (enough : headerLength ≤ state.available.length) :
    headerLength ≤ takenInto oracle header.commandLength
        (respInto oracle header state) state ↔
      headerLength ≤ header.commandLength ∧
        ((state.mapReq.lookup header.sequenceNumber).bind
          state.request).isSome ∧
        (oracle (.malloc header.commandLength)).ret ≠ 0 ∧
        (headerLength : Int) ≤ (oracle (.recv header.commandLength
          (some (some state.nextBlock)))).ret := by
  unfold takenInto respInto
  cases state.mapReq.lookup header.sequenceNumber with
  | none => simp [headerLength]
  | some pointer =>
      simp only [Option.map_some, Option.bind_some]
      rw [headerLength_le_recvTaken_iff oracle enough]
      unfold respBuf
      by_cases live : (state.request pointer).isSome
      · by_cases refused : (oracle (.malloc header.commandLength)).ret = 0
        · simp [live, refused]
        · simp [live, refused]
      · simp [live]

theorem headerLength_le_reqTaken_iff
    {header : SPDUHdr}
    {state : State}
    (enough : headerLength ≤ state.available.length) :
    headerLength ≤ takenInto oracle header.commandLength (reqInto header)
        state ↔
      headerLength ≤ header.commandLength ∧
        header.commandLength ≤ localBufferSize ∧
        (headerLength : Int) ≤
          (oracle (.recv header.commandLength none)).ret := by
  unfold takenInto reqInto
  by_cases fits : header.commandLength ≤ localBufferSize
  · simp only [fits, if_true]
    rw [headerLength_le_recvTaken_iff oracle enough]
    simp
  · simp [fits, headerLength]

theorem headerLength_le_taken_iff (state : State) :
    headerLength ≤ taken oracle state ↔ Disposable oracle state := by
  unfold Disposable
  by_cases visible : HeaderVisible oracle state
  · rw [taken_of_visible oracle visible]
    generalize SPDUHdr.ofOctets state.available = header
    by_cases response : header.isResponse
    · simp only [response, if_true]
      rw [headerLength_le_respTaken_iff oracle visible.1]
      simp only [visible, true_and]
    · simp only [response, Bool.false_eq_true, if_false]
      rw [headerLength_le_reqTaken_iff oracle visible.1]
      simp only [visible, true_and]
  · rw [taken_of_not_visible oracle visible]
    simp [visible, headerLength]

/-- The connection of `connectedState` with octets that have arrived on it. -/
def arrivedState (octets : Octets) : State :=
  { connectedState with inbound := fun _ => octets }

/-- An `ENQUIRE_LINK` of the server. -/
def enquireLink : Octets :=
  ReferenceCodec.packed (headerPdu ENQUIRE_LINK 5)

/-- A response nobody waits for. -/
def enquireLinkResp : Octets :=
  ReferenceCodec.packed (headerPdu ENQUIRE_LINK_RESP 5)

end Sms112
