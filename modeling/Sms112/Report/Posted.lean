import Sms112.Model.Http
import Sms112.Report.Unambiguous

/-!
# What a posted report says

The body that `sms112_send_report` posts reads back as the report that was
asked for, with the time stamp of its posting.
-/

namespace Sms112

/-- What a report tells its reader. -/
structure Report where
  eventDate : Octets
  phoneNumber : Octets
  textMessage : Octets
  resultString : Octets
  resultXML : Octets
  deriving DecidableEq

/-- The attributes of a report in their order. -/
def Report.attributes (report : Report) : List (Octets × Octets) :=
  [(ascii "EventType", ascii "SMS"), (ascii "EventDate", report.eventDate),
    (ascii "PhoneNumber", report.phoneNumber),
    (ascii "TextMessage", report.textMessage),
    (ascii "ResultString", report.resultString),
    (ascii "ResultXML", report.resultXML)]

/-- The report that a list of attributes is, if it is one. -/
def Report.ofAttributes : List (Octets × Octets) → Option Report
  | [eventType, date, phoneNumber, text, result, xml] =>
      let report : Report := ⟨date.2, phoneNumber.2, text.2, result.2, xml.2⟩
      if report.attributes = [eventType, date, phoneNumber, text, result, xml]
        then some report
      else none
  | _ => none

theorem Report.ofAttributes_eq_some_iff
    (attributes : List (Octets × Octets))
    (report : Report) :
    ofAttributes attributes = some report ↔ attributes = report.attributes := by
  constructor
  · intro made
    unfold ofAttributes at made
    split at made
    · dsimp only at made
      split at made
      next known =>
        obtain rfl := Option.some.inj made
        exact known.symm
      next => exact nomatch made
    · exact nomatch made
  · rintro rfl
    exact if_pos rfl

/-- The report that a body is read as. -/
def readReport (body : Octets) : Option Report :=
  (scanReport body).bind Report.ofAttributes

/-- Two reports are read off one body only if they are the same. -/
theorem readReport_eq_some_iff
    (body : Octets)
    (report : Report) :
    readReport body = some report ↔
      scanReport body = some report.attributes := by
  simp only [readReport, Option.bind_eq_some_iff,
    Report.ofAttributes_eq_some_iff, exists_eq_right]

/-- The parameters of a report are quoted, under names that need no escapes. -/
theorem reportParam_plain :
    ∀ descr ∈ reportParam, descr.iType ≠ 0 ∧ IsPlain descr.pszName := by
  decide

/-- The body of a report is read as this report. -/
theorem readReport_reportBody
    (timeStamp phoneNumber : Octets)
    (message : Option Octets)
    (resultString resultXML : Octets) :
    readReport (reportBody timeStamp phoneNumber message resultString
        resultXML) =
      some ⟨timeStamp, phoneNumber, message.getD [], resultString,
        resultXML⟩ := by
  rw [readReport_eq_some_iff, reportBody, scanReport_attributes
    (fun descr known => (reportParam_plain descr known).1)
    fun descr known => (reportParam_plain descr known).2]
  rfl

/-- A body posted for these data, at whatever time. -/
def Posts (phoneNumber : Octets) (message : Option Octets)
    (resultString resultXML body : Octets) : Prop :=
  ∃ timeStamp, readReport body = some
    ⟨timeStamp, phoneNumber, message.getD [], resultString, resultXML⟩

theorem posts_iff
    (phoneNumber : Octets)
    (message : Option Octets)
    (resultString resultXML body : Octets) :
    Posts phoneNumber message resultString resultXML body ↔
      (readReport body).any fun report => report =
        ⟨report.eventDate, phoneNumber, message.getD [], resultString,
          resultXML⟩ := by
  constructor
  · rintro ⟨timeStamp, read⟩
    rw [read]
    exact decide_eq_true rfl
  · intro read
    obtain ⟨report, isRead, same⟩ := (Option.any_eq_true ..).mp read
    exact ⟨report.eventDate, isRead.trans
      (congrArg some (of_decide_eq_true same))⟩

instance (phoneNumber : Octets) (message : Option Octets)
    (resultString resultXML body : Octets) :
    Decidable (Posts phoneNumber message resultString resultXML body) :=
  decidable_of_iff' _ (posts_iff ..)

end Sms112
