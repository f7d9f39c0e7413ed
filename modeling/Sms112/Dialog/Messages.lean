import Sms112.Model.Dialog

/-!
# The messages of a call

What the callbacks make of a message depends on its kind only: a success or a
failure of the INVITE, a response to the BYE, or a BYE of the other side.
-/

namespace Sms112
namespace Dialog

open Resumption

namespace RxMessage

/-- A 2xx to the INVITE. -/
def isSuccess : RxMessage → Bool
  | .response rxData =>
      rxData.dlg && rxData.sipMethod = .invite &&
        200 ≤ rxData.status && rxData.status < 300
  | .request _ => false

/-- A final failure of the INVITE that does not ask for credentials. -/
def isFailure : RxMessage → Bool
  | .response rxData =>
      rxData.dlg && rxData.sipMethod = .invite && 300 ≤ rxData.status &&
        rxData.status ≠ 401 && rxData.status ≠ 407
  | .request _ => false

/-- Any response to the BYE. -/
def answersBye : RxMessage → Bool
  | .response rxData => rxData.dlg && rxData.sipMethod = .bye
  | .request _ => false

/-- A BYE of the other side, or a final response to our own. -/
def endsBye : RxMessage → Bool
  | .response rxData =>
      rxData.dlg && rxData.sipMethod = .bye && 200 ≤ rxData.status
  | .request rxData => rxData.dlg && rxData.sipMethod = .bye

/-- No response is both a success and a failure. -/
theorem not_isFailure_of_isSuccess
    {message : RxMessage}
    (success : message.isSuccess) :
    ¬message.isFailure := by
  cases message with
  | request => cases success
  | response rxData =>
      simp only [isSuccess, isFailure, Bool.and_eq_true, decide_eq_true_eq]
        at success ⊢
      omega

theorem not_isFailure_of_endsBye
    {message : RxMessage}
    (isEnd : message.endsBye) :
    ¬message.isFailure := by
  cases message with
  | request => exact Bool.false_ne_true
  | response rxData =>
      simp only [endsBye, isFailure, Bool.and_eq_true, decide_eq_true_eq]
        at isEnd ⊢
      rintro ⟨⟨⟨⟨-, isInvite⟩, -⟩, -⟩, -⟩
      rw [isInvite] at isEnd
      cases isEnd.1.2

end RxMessage

/-- Division by 100 rounds towards zero. -/
theorem tdiv_eq_two_iff (status : Int) :
    status.tdiv 100 = 2 ↔ 200 ≤ status ∧ status < 300 := by
  rcases Int.le_total 0 status with positive | negative
  · rw [Int.tdiv_eq_ediv_of_nonneg positive]
    omega
  · have quotient := Int.tdiv_nonneg (show 0 ≤ -status by omega)
      (show (0 : Int) ≤ 100 by decide)
    rw [Int.neg_tdiv] at quotient
    omega

variable {rxData : RxData}

/-- A 2xx is acknowledged, the request gets 0, and the dialog is ended at
once. -/
theorem onRxResponse_success
    (success : (RxMessage.response rxData).isSuccess) :
    onRxResponse rxData = do
      call .sendAck
      let callId ← call .callId
      syncUlck callId 0
      call .sendBye
      return true := by
  simp only [RxMessage.isSuccess, Bool.and_eq_true, decide_eq_true_eq]
    at success
  obtain ⟨⟨⟨inDialog, isInvite⟩, low⟩, high⟩ := success
  have hundreds := (tdiv_eq_two_iff _).mpr ⟨low, high⟩
  simp only [onRxResponse, inDialog, isInvite, hundreds, if_true]

/-- A final failure ends the session and gives the request its status. -/
theorem onRxResponse_failure
    (failure : (RxMessage.response rxData).isFailure) :
    onRxResponse rxData = do
      call .decSession
      let callId ← call .callId
      syncUlck callId rxData.status
      return false := by
  simp only [RxMessage.isFailure, Bool.and_eq_true, decide_eq_true_eq]
    at failure
  obtain ⟨⟨⟨⟨inDialog, isInvite⟩, low⟩, notAuth⟩, notProxyAuth⟩ := failure
  have hundreds : rxData.status.tdiv 100 ≠ 2 := by
    rw [ne_eq, tdiv_eq_two_iff]
    omega
  have noChallenge : ¬(rxData.status = 401 ∨ rxData.status = 407) :=
    not_or.mpr ⟨notAuth, notProxyAuth⟩
  simp only [onRxResponse, inDialog, isInvite, hundreds, noChallenge, low,
    if_true, if_false]

/-- The answer to the BYE gives the request 0 once more. -/
theorem onRxResponse_bye
    (answers : (RxMessage.response rxData).answersBye) :
    onRxResponse rxData = do
      let callId ← call .callId
      syncUlck callId 0
      return false := by
  simp only [RxMessage.answersBye, Bool.and_eq_true, decide_eq_true_eq]
    at answers
  simp only [onRxResponse, answers.1, answers.2, if_true]

/-- Every other response is left to the library. -/
theorem onRxResponse_other
    (noSuccess : ¬(RxMessage.response rxData).isSuccess)
    (noFailure : ¬(RxMessage.response rxData).isFailure)
    (noAnswer : ¬(RxMessage.response rxData).answersBye) :
    onRxResponse rxData = return false := by
  simp only [RxMessage.isSuccess, RxMessage.isFailure, RxMessage.answersBye,
    Bool.and_eq_true, decide_eq_true_eq] at noSuccess noFailure noAnswer
  unfold onRxResponse
  by_cases inDialog : rxData.dlg
  · rw [if_pos inDialog]
    split
    case h_1 isInvite =>
      have hundreds : rxData.status.tdiv 100 ≠ 2 := by
        rw [ne_eq, tdiv_eq_two_iff]
        exact fun range => noSuccess ⟨⟨⟨inDialog, isInvite⟩, range.1⟩, range.2⟩
      rw [if_neg hundreds]
      split
      case isTrue => rfl
      case isFalse noChallenge =>
        rw [not_or] at noChallenge
        have low : ¬300 ≤ rxData.status := fun low =>
          noFailure ⟨⟨⟨⟨inDialog, isInvite⟩, low⟩, noChallenge.1⟩,
            noChallenge.2⟩
        rw [if_neg low]
    case h_2 isBye => exact absurd ⟨inDialog, isBye⟩ noAnswer
    case h_3 => rfl
  · rw [if_neg inDialog]

end Dialog
end Sms112
