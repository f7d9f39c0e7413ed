import Mathlib.Data.List.Count
import Mathlib.Data.List.Infix
import Sms112.Dialog.Messages

/-!
# The end of a dialog

A dialog is created with one session. The callbacks decrease the session count
at every failure of the INVITE and send a BYE at every success, whatever was
received before; nothing decreases it when the BYE has ended the call.
-/

namespace Sms112
namespace Dialog

open Resumption

/-- The call is over after these messages. -/
def CallOver (messages : List RxMessage) : Prop :=
  ∃ message ∈ messages, message.isFailure ∨ message.endsBye

/-- The callbacks are called with one message after the other. -/
def dispatchAll : List RxMessage → Prog Unit
  | [] => return ()
  | message :: messages => do
      let _ ← dispatch message
      dispatchAll messages

/-- A dialog with its session, whose INVITE was sent. -/
def begun (callId : Octets) (reqLock : ReqLock) : State :=
  { callId, reqLock, inviteSent := true,
    log := [.inviteSent, .sessionIncreased] }

/-- What has happened to the dialog after some messages. -/
def logAfter (oracle : Op → Choice) (state : State)
    (messages : List RxMessage) : List Event :=
  ((dispatchAll messages).eval exec oracle state).2.log

/-- At no time was the session count decreased twice or were two BYEs sent,
and once the call was over it had been decreased. -/
def TornDownOnce (oracle : Op → Choice) (state : State)
    (messages : List RxMessage) : Prop :=
  ∀ seen, seen <+: messages →
    let log := logAfter oracle state seen
    log.count .sessionDecreased ≤ 1 ∧
      (CallOver seen → log.count .sessionDecreased = 1) ∧
      log.count .byeSent ≤ 1

/-- At most one success and one failure arrive, and a BYE ends the call only
after the failure. -/
structure FailsOnce (messages : List RxMessage) : Prop where
  successes : messages.countP RxMessage.isSuccess ≤ 1
  failures : messages.countP RxMessage.isFailure ≤ 1
  byes : ∀ before message after, messages = before ++ message :: after →
    message.endsBye → ∃ failure ∈ before, failure.isFailure

/-! ## What the callbacks add to the log -/

variable (oracle : Op → Choice)

theorem syncUlck_log (callId : PjStr) (result : Int) (state : State) :
    ((syncUlck callId result).eval exec oracle state).2.log = state.log := by
  unfold syncUlck
  split
  · cases found : state.findLock (lockKey callId) with
    | some node => simp [exec, found]
    | none => simp [exec, found]
  · rfl

/-- The session count is decreased by a failure, and a BYE follows a
success. -/
theorem dispatch_log (message : RxMessage) (state : State) :
    ∃ events,
      ((dispatch message).eval exec oracle state).2.log =
          events ++ state.log ∧
        events.count .sessionDecreased =
          (if message.isFailure then 1 else 0) ∧
        events.count .byeSent = (if message.isSuccess then 1 else 0) := by
  cases message with
  | request rxData =>
      simp only [dispatch, onRxRequest]
      by_cases inDialog : rxData.dlg
      · by_cases isBye : rxData.sipMethod = .bye
        · refine ⟨[.responseSent 200], ?_, rfl, rfl⟩
          simp [inDialog, isBye, exec, State.note]
        · exact ⟨[], by simp [inDialog, isBye], rfl, rfl⟩
      · exact ⟨[], by simp [inDialog], rfl, rfl⟩
  | response rxData =>
      simp only [dispatch]
      by_cases success : (RxMessage.response rxData).isSuccess
      · have noFailure := RxMessage.not_isFailure_of_isSuccess success
        rw [if_pos success, if_neg noFailure, onRxResponse_success success]
        refine ⟨[.byeSent, .ackSent], ?_, by decide, by decide⟩
        simp [exec, State.note, syncUlck_log]
      · rw [if_neg success]
        by_cases failure : (RxMessage.response rxData).isFailure
        · rw [if_pos failure, onRxResponse_failure failure]
          refine ⟨[.sessionDecreased], ?_, by decide, by decide⟩
          simp [exec, State.note, syncUlck_log]
        · rw [if_neg failure]
          refine ⟨[], ?_, rfl, rfl⟩
          by_cases answers : (RxMessage.response rxData).answersBye
          · simp [onRxResponse_bye answers, exec, syncUlck_log]
          · simp [onRxResponse_other success failure answers]

/-- Decreases and BYEs are counted by the messages. -/
theorem dispatchAll_log (messages : List RxMessage) (state : State) :
    (logAfter oracle state messages).count .sessionDecreased =
        messages.countP RxMessage.isFailure +
          state.log.count .sessionDecreased ∧
      (logAfter oracle state messages).count .byeSent =
        messages.countP RxMessage.isSuccess + state.log.count .byeSent := by
  induction messages generalizing state with
  | nil => simp [logAfter, dispatchAll]
  | cons message messages inductionHypothesis =>
      obtain ⟨events, appended, decreases, byes⟩ :=
        dispatch_log oracle message state
      have later := inductionHypothesis
        ((dispatch message).eval exec oracle state).2
      rw [appended, List.count_append, List.count_append, decreases, byes]
        at later
      rw [List.countP_cons, List.countP_cons]
      simp only [logAfter, dispatchAll, Program.eval_bind] at later ⊢
      omega

/-! ## When a call is torn down once -/

theorem countP_isFailure_pos {messages : List RxMessage} :
    0 < messages.countP RxMessage.isFailure ↔
      ∃ failure ∈ messages, failure.isFailure :=
  List.countP_pos_iff

/-- A call is torn down once exactly if it fails once and what would end it
otherwise comes later. -/
theorem tornDownOnce_iff
    (callId : Octets)
    (reqLock : ReqLock)
    (messages : List RxMessage) :
    TornDownOnce oracle (begun callId reqLock) messages ↔
      FailsOnce messages := by
  have counts (seen : List RxMessage) :
      (logAfter oracle (begun callId reqLock) seen).count .sessionDecreased =
          seen.countP RxMessage.isFailure ∧
        (logAfter oracle (begun callId reqLock) seen).count .byeSent =
          seen.countP RxMessage.isSuccess :=
    dispatchAll_log oracle seen (begun callId reqLock)
  unfold TornDownOnce
  simp only [(counts _).1, (counts _).2]
  constructor
  · intro once
    obtain ⟨failures, -, successes⟩ := once messages List.prefix_rfl
    refine ⟨successes, failures, ?_⟩
    rintro before message after rfl isEnd
    have isOver : CallOver (before ++ [message]) :=
      ⟨message, by simp, .inr isEnd⟩
    have decreased := (once (before ++ [message]) ⟨after, by simp⟩).2.1 isOver
    have noFailure := RxMessage.not_isFailure_of_endsBye isEnd
    rw [List.countP_append, List.countP_singleton, if_neg noFailure]
      at decreased
    apply countP_isFailure_pos.mp
    omega
  · rintro ⟨successes, failures, byes⟩ seen isPrefix
    have seenFailures : seen.countP RxMessage.isFailure ≤ _ :=
      isPrefix.sublist.countP_le
    have seenSuccesses : seen.countP RxMessage.isSuccess ≤ _ :=
      isPrefix.sublist.countP_le
    refine ⟨seenFailures.trans failures, ?_, seenSuccesses.trans successes⟩
    rintro ⟨message, member, failure | isEnd⟩
    · have positive := countP_isFailure_pos.mpr ⟨message, member, failure⟩
      omega
    · obtain ⟨before, between, rfl⟩ := List.append_of_mem member
      obtain ⟨after, rfl⟩ := isPrefix
      obtain ⟨failure, earlier, isFailure⟩ :=
        byes before message (between ++ after) (by simp) isEnd
      have positive := countP_isFailure_pos.mpr
        ⟨failure, List.mem_append_left (message :: between) earlier,
          isFailure⟩
      omega

/-- The call is answered, and our BYE is answered. -/
def answeredCall : List RxMessage :=
  [.response { method := .invite, statusCode := 200 },
    .response { method := .bye, statusCode := 200 }]

/-- Such a call keeps its session. -/
theorem answeredCall_leaks :
    ¬TornDownOnce (fun _ => {}) (begun (ascii "a7") ∅) answeredCall := by
  intro once
  have isOver : CallOver answeredCall :=
    ⟨.response { method := .bye, statusCode := 200 }, by decide, by decide⟩
  have decreased := (once answeredCall List.prefix_rfl).2.1 isOver
  revert decreased
  decide

end Dialog
end Sms112
