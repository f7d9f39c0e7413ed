import Sms112.Exchange.Runs

/-!
# Calls and responses

A request that times out stays registered. Its response may come when the next
call has put its object where the object of the first one was, and then the
next call takes it for its own. In the runs in which a response is taken up
only for a call in progress, every call that returns 0 agrees with its
response, and no response is lost.
-/

namespace Sms112

open Resumption History

/-- In every run in which no response is taken up for a call that has returned,
neither the wait nor the call ends while the response is filled in, a PDU is
received on the socket on which its header was seen, and no response has 2^31
octets or more, the calls agree with their responses. -/
theorem client_agreement
    (conf : SConf)
    (lib : Smpp34)
    (faithful : lib.Faithful)
    (requests : List Request)
    {config : Config Res Thread State ClientLabel}
    (reach : (client conf lib).Reach (InTurn .agreement)
      (clientStart requests) config) :
    Agreement config.state.log where
  each :=
    (Exchange.client_sound (fun _ => faithful) conf requests reach).1.good rfl
  apart _ _ := Brackets.Records.apart

/-! ## A response that comes late -/

/-- The number of a request the client sent. -/
def Event.sentNumber : Event → Option Nat
  | .sent (.requester 0) _ data _ => some (word data 12)
  | _ => none

/-- The number of a PDU that was received. -/
def Event.receivedNumber : Event → Option Nat
  | .received _ data => some (word data 12)
  | _ => none

/-- A call and the response it agrees with have one number. -/
theorem Agreed.number
    {requestId : Nat}
    {during : List Event}
    (agreed : Agreed requestId during) :
    ∃ number, number ∈ during.filterMap Event.sentNumber ∧
      number ∈ during.filterMap Event.receivedNumber := by
  obtain ⟨serial, data, accepted, response, sent, -, received, -, same, -⟩ :=
    agreed
  refine ⟨word data 12, List.mem_filterMap.mpr ⟨_, sent, rfl⟩,
    List.mem_filterMap.mpr ⟨_, received, ?_⟩⟩
  exact congrArg some same

/-- The call that ends a history was closed by the newest event. -/
theorem Agreement.newest
    {last : Event}
    {earlier : List Event}
    (agreement : Agreement (last :: earlier))
    (closes : calls.closes last) :
    GoodCall last (calls.current earlier) := by
  obtain ⟨call, records, equal, good⟩ :=
    agreement.each last earlier (List.suffix_refl _) closes
  obtain ⟨sameLast, sameEarlier⟩ := List.cons.inj equal
  rwa [records.during_eq, sameEarlier, sameLast] at good

/-- The client checks the link twice. -/
def linkCheckedTwice : Config Res Thread State ClientLabel :=
  clientStart [.tcpConnect, .smppEnqLink, .smppEnqLink]

/-- The response to the first `ENQUIRE_LINK` arrives and is received. -/
def firstAnswered : List (Thread × (Op → Choice)) :=
  arrival 0 (ReferenceCodec.packed (headerPdu ENQUIRE_LINK_RESP 1)) ++
    steps .receiver 15

/-- The response arrives before the first call waits for it, and the call
returns 0. -/
theorem firstAnswered_agreement :
    let log := ((client {} referenceCodec).run
      (steps controller 16 ++ firstAnswered ++ steps controller 8)
      linkCheckedTwice).state.log
    log.head? = some (.returned ENQUIRE_LINK 0) ∧ Agreement log :=
  ⟨by decide +kernel,
    client_agreement {} referenceCodec referenceCodec_faithful _
      (.run .start _ (by decide +kernel))⟩

/-- The response arrives when the first call has timed out and the second one
waits, and the second call returns 0. -/
theorem firstAnswered_late :
    ∃ requests config,
      (client {} referenceCodec).Reach Machine.unconditional
        (clientStart requests) config ∧
      ¬Agreement config.state.log := by
  let schedule := steps controller 30 ++ firstAnswered ++ steps controller 8
  refine ⟨_, (client {} referenceCodec).run schedule linkCheckedTwice,
    .run .start schedule (Machine.admits_unconditional schedule _), ?_⟩
  have returned : ((client {} referenceCodec).run schedule
      linkCheckedTwice).state.log.head? =
        some (.returned ENQUIRE_LINK 0) := by
    decide +kernel
  have apart : ∀ number ∈ (calls.current ((client {} referenceCodec).run
      schedule linkCheckedTwice).state.log.tail).filterMap Event.sentNumber,
      number ∉ (calls.current ((client {} referenceCodec).run schedule
        linkCheckedTwice).state.log.tail).filterMap Event.receivedNumber := by
    decide +kernel
  intro agreement
  rw [List.eq_cons_of_mem_head? returned] at agreement
  obtain ⟨number, sent, received⟩ := ((agreement.newest rfl).1 rfl).number
  exact apart number sent received

end Sms112
