import Sms112.Model.Curl
import Sms112.Model.Http
import Sms112.Resumption.Outcomes

/-!
# What a curl session does

Whatever the library answers, a session performs at most one transfer, and only
the one it was asked for with all its options accepted; it releases its handle
and then its list of headers, each of them once, and uses neither afterwards.
So the single operation that stands for it in the rest of the model is what a
session comes to.
-/

namespace Sms112
namespace Curl

open Resumption

/-! ## What is asked for -/

/-- The transfer of a request with the headers that were listed. -/
def wanted (url : Octets) (body : Option Octets)
    (hdrList : Option (List Octets)) : Transfer where
  url := url
  userAgent := SMS112_CURL_UAGENT
  isPost := body.isSome
  headers := hdrList.getD []
  postFieldSize := (body.map fun data => toLong data.length).getD (-1)
  postFields := body.getD []
  verifiesPeer := false
  verifiesHost := false
  writesData := true
  callsBack := true

/-- The header list of a request with a body, as the log tells of it: without
memory for it there is none. -/
inductive Listed :
    Option Octets → Option (List Octets) → List Event → Prop
  | nothing : Listed none none [.opened]
  | made (line : Octets) :
      Listed (some line) (some [line]) [.listed, .opened]
  | unmade (line : Octets) : Listed (some line) none [.unlisted, .opened]

/-- The header list of a request. -/
def Lists (body contentType : Option Octets)
    (hdrList : Option (List Octets)) (log : List Event) : Prop :=
  if body.isSome then Listed contentType hdrList log
  else hdrList = none ∧ log = [.opened]

/-- A transfer sends the body as it is, and with it the content type unless
there was no memory for it. -/
structure Asks (url : Octets) (body contentType : Option Octets)
    (log : List Event) (transfer : Transfer) : Prop where
  asks : transfer.url = url
  sends : transfer.body = body
  headers : transfer.headers =
    if body.isSome ∧ .unlisted ∉ log then contentType.toList else []
  writes : transfer.callsBack ∧ transfer.writesData
  agent : transfer.userAgent = SMS112_CURL_UAGENT
  unverified : ¬transfer.verifiesPeer ∧ ¬transfer.verifiesHost

/-- The transfers of a log with their codes and what came in. -/
def transfers (log : List Event) : List (Transfer × Int × Octets) :=
  log.filterMap fun
    | .performed transfer code received => some (transfer, code, received)
    | _ => none

/-- How a session ends: nothing was transferred, or the transfer that is asked
for, with its code and with what it received behind the string. -/
structure Done (url : Octets) (body contentType : Option Octets)
    (result : Octets) (code : Int) (after : State) : Prop where
  handle : after.handle = none
  hdrList : after.hdrList = none
  closed : after.log.count .closed = after.log.count .opened
  freed : after.log.count .freed = after.log.count .listed
  last : .freed ∈ after.log → ∃ earlier, after.log = .freed :: .closed :: earlier
  proper : .misused ∉ after.log
  performs :
    transfers after.log = [] ∧ code ≠ CURLE_OK ∧ after.result = result ∨
      ∃ transfer received,
        transfers after.log = [(transfer, code, received)] ∧
          Asks url body contentType after.log transfer ∧
          after.result = result ++ received

/-- A length below 2^63 is the same as a `long`. -/
theorem toLong_of_lt
    {value : Nat}
    (fits : value < 2 ^ 63) :
    toLong value = value := by
  have unchanged : (BitVec.ofNat 64 value).toNat = value := by
    rw [BitVec.toNat_ofNat]
    exact Nat.mod_eq_of_lt (by omega)
  rw [toLong, BitVec.toInt_eq_toNat_of_lt (by omega), unchanged]

/-- So a body of such a length is posted whole. -/
theorem wanted_body
    {body : Option Octets}
    (fits : ∀ data, body = some data → data.length < 2 ^ 63)
    (url : Octets)
    (hdrList : Option (List Octets)) :
    (wanted url body hdrList).body = body := by
  cases body with
  | none => rfl
  | some data =>
      have size := toLong_of_lt (fits data rfl)
      have given : ¬(data.length : Int) = -1 := by omega
      simp only [Transfer.body, wanted, Option.isSome_some, if_true,
        Option.map_some, Option.getD_some, size, if_neg given,
        Int.toNat_natCast, List.take_length]

/-- The transfer that is set up asks for what the caller wanted. -/
theorem wanted_asks
    {body contentType : Option Octets}
    {hdrList : Option (List Octets)}
    {log : List Event}
    (fits : ∀ data, body = some data → data.length < 2 ^ 63)
    (lists : Lists body contentType hdrList log)
    (url : Octets) :
    Asks url body contentType log (wanted url body hdrList) where
  asks := rfl
  sends := wanted_body fits url hdrList
  headers := by
    unfold Lists at lists
    by_cases posts : body.isSome
    · rw [if_pos posts] at lists
      cases lists <;> simp [wanted, posts]
    · rw [if_neg posts] at lists
      rw [if_neg fun both => posts both.1, lists.1]
      rfl
  writes := ⟨rfl, rfl⟩
  agent := rfl
  unverified := ⟨Bool.false_ne_true, Bool.false_ne_true⟩

/-! ## The handle and the list in between -/

/-- A session that has its handle and the header list so far. -/
def begun (result : Octets) (log : List Event)
    (hdrList : Option (List Octets)) (transfer : Transfer) : State where
  handle := some transfer
  hdrList := hdrList
  result := result
  log := log

/-- The log so far tells whether there is a list. -/
inductive Begins : Option (List Octets) → List Event → Prop
  | opened : Begins none [.opened]
  | listed (headers : List Octets) :
      Begins (some headers) [.listed, .opened]
  | unlisted : Begins none [.unlisted, .opened]

theorem Listed.begins
    {contentType : Option Octets}
    {hdrList : Option (List Octets)}
    {log : List Event}
    (listed : Listed contentType hdrList log) :
    Begins hdrList log := by
  cases listed with
  | nothing => exact .opened
  | made line => exact .listed [line]
  | unmade line => exact .unlisted

variable {result : Octets} {hdrList : Option (List Octets)}
variable {log : List Event} {transfer : Transfer}

/-- Options that are all accepted change the transfer one after the other. -/
theorem setOptions_always (settings : List Setting) (transfer : Transfer) :
    (setOptions settings).Always exec
      (fun code after => ∃ later, after = begun result log hdrList later ∧
        (code = CURLE_OK → later = settings.foldl Transfer.set transfer))
      (begun result log hdrList transfer) := by
  induction settings generalizing transfer with
  | nil => exact ⟨transfer, rfl, fun _ => rfl⟩
  | cons setting settings inductionHypothesis =>
      refine .step fun choice => ?_
      by_cases accepted : choice.code = CURLE_OK
      · have set : exec (.easySetopt setting) choice
            (begun result log hdrList transfer) =
              (CURLE_OK, begun result log hdrList (transfer.set setting)) := by
          simp only [exec, begun, accepted, if_true]
        rw [set]
        exact inductionHypothesis (transfer.set setting)
      · have refused : exec (.easySetopt setting) choice
            (begun result log hdrList transfer) =
              (choice.code, begun result log hdrList transfer) := by
          simp only [exec, begun, accepted, if_false]
        rw [refused, if_neg accepted]
        exact ⟨transfer, rfl, fun isOk => absurd isOk accepted⟩

/-- The header list is made, or there was no memory for it and the log says
so. -/
theorem setContentType_always (contentType : Option Octets)
    (transfer : Transfer) (bare : transfer.headers = []) :
    (setContentType contentType).Always exec
      (fun outcome after => ∃ later log,
        after = begun result log outcome.2 later ∧
        Listed contentType outcome.2 log ∧
        (outcome.1 = CURLE_OK →
          later = { transfer with headers := outcome.2.getD [] }))
      (begun result [.opened] none transfer) := by
  cases contentType with
  | none =>
      refine ⟨transfer, _, rfl, .nothing, fun _ => ?_⟩
      rw [Option.getD_none, ← bare]
  | some line =>
      refine .step fun choice => ?_
      obtain ⟨hdrList, log, listed, lists⟩ : ∃ hdrList log,
          exec (.slistAppend line) choice
              (begun result [.opened] none transfer) =
            (hdrList, begun result log hdrList transfer) ∧
            Listed (some line) hdrList log := by
        by_cases made : choice.made
        · exact ⟨some [line], _, by simp [exec, begun, made, State.note],
            .made line⟩
        · exact ⟨none, _, by simp [exec, begun, made, State.note],
            .unmade line⟩
      rw [listed]
      refine (setOptions_always _ transfer).bind ?_
      rintro resCode state ⟨later, rfl, accepted⟩
      exact ⟨later, log, rfl, lists, accepted⟩

/-- The transfer without a body. -/
theorem requestOptions_set (url : Octets) :
    (requestOptions url).foldl Transfer.set {} = wanted url none none := rfl

/-- Where every option was accepted, the transfer is the one wanted. -/
theorem setBody_always (url : Octets) (body contentType : Option Octets) :
    (setBody contentType body).Always exec
      (fun outcome after => ∃ later log,
        after = begun result log outcome.2 later ∧ Begins outcome.2 log ∧
        (outcome.1 = CURLE_OK → Lists body contentType outcome.2 log ∧
          later = wanted url body outcome.2))
      (begun result [.opened] none (wanted url none none)) := by
  cases body with
  | none => exact ⟨_, _, rfl, .opened, fun _ => ⟨⟨rfl, rfl⟩, rfl⟩⟩
  | some data =>
      refine (setOptions_always [.post 1] _).bind ?_
      rintro resCode state ⟨later, rfl, accepted⟩
      refine .ite (fun isOk => ?_)
        fun failed => ⟨later, _, rfl, .opened, fun isOk =>
          absurd isOk failed⟩
      rw [accepted isOk]
      refine (setContentType_always contentType _ rfl).bind ?_
      rintro ⟨resCode, hdrList⟩ state ⟨later, log, rfl, listed, accepted⟩
      refine .ite (fun isOk => ?_)
        fun failed => ⟨later, log, rfl, listed.begins, fun isOk =>
          absurd isOk failed⟩
      rw [accepted isOk]
      refine (setOptions_always _ _).bind ?_
      rintro resCode state ⟨later, rfl, accepted⟩
      exact ⟨later, log, rfl, listed.begins,
        fun isOk => ⟨listed, accepted isOk⟩⟩

/-! ## The transfer -/

/-- The callback takes every chunk that is no larger than the library makes
them, and appends it. -/
theorem deliver_eq
    {chunks : List Octets}
    (small : ∀ chunk ∈ chunks, chunk.length ≤ CURL_MAX_WRITE_SIZE)
    (result : Octets) :
    State.deliver chunks result = (true, result ++ chunks.flatten) := by
  induction chunks generalizing result with
  | nil => rw [List.flatten_nil, List.append_nil, State.deliver]
  | cons chunk chunks inductionHypothesis =>
      obtain ⟨fits, small⟩ := List.forall_mem_cons.mp small
      have size : 1 * chunk.length % 2 ^ 64 = chunk.length := by
        rw [Nat.one_mul]
        exact Nat.mod_eq_of_lt (fits.trans_lt (by decide))
      rw [State.deliver, writeResult]
      simp only [size, List.take_length, if_true, Option.getD_some]
      rw [inductionHypothesis small, List.flatten_cons, List.append_assoc]

/-- A transfer with a callback appends what comes in to the string. -/
theorem perform_eq
    (state : State)
    (writes : transfer.callsBack ∧ transfer.writesData)
    (code : Int)
    (answer : List Octets) :
    ∃ received, state.perform transfer code answer =
      (code, { state with
        result := state.result ++ received
        log := .performed transfer code received :: state.log }) := by
  have small : ∀ chunk ∈ answer.map (·.take CURL_MAX_WRITE_SIZE),
      chunk.length ≤ CURL_MAX_WRITE_SIZE := by
    rintro _ member
    obtain ⟨chunk, -, rfl⟩ := List.mem_map.mp member
    exact List.length_take_le _ _
  refine ⟨(answer.map (·.take CURL_MAX_WRITE_SIZE)).flatten, ?_⟩
  rw [State.perform, if_pos writes, deliver_eq small]
  rfl

/-- The session with its handle: nothing was transferred, or the transfer that
is asked for. -/
structure Held (url : Octets) (body contentType : Option Octets)
    (result : Octets) (outcome : Int × Option (List Octets))
    (after : State) : Prop where
  hdrList : after.hdrList = outcome.2
  handle : after.handle.isSome
  performs : ∃ log, Begins outcome.2 log ∧
    (outcome.1 ≠ CURLE_OK ∧ after.result = result ∧ after.log = log ∨
      ∃ transfer received, Asks url body contentType log transfer ∧
        after.result = result ++ received ∧
        after.log = .performed transfer outcome.1 received :: log)

/-- Whatever libcurl returns, the calls behind `curl_easy_init` transfer
nothing, or what was asked for. -/
theorem session_always
    {body : Option Octets}
    (fits : ∀ data, body = some data → data.length < 2 ^ 63)
    (url : Octets)
    (contentType : Option Octets) :
    (session url body contentType).Always exec
      (Held url body contentType result)
      (begun result [.opened] none {}) := by
  refine (setOptions_always (requestOptions url) {}).bind ?_
  rintro resCode state ⟨later, rfl, accepted⟩
  refine .ite (fun isOk => ?_)
    fun failed => ⟨rfl, rfl, _, .opened, .inl ⟨failed, rfl, rfl⟩⟩
  rw [accepted isOk, requestOptions_set]
  refine (setBody_always url body contentType).bind ?_
  rintro ⟨resCode, hdrList⟩ state ⟨later, log, rfl, begins, accepted⟩
  refine .ite (fun isOk => ?_)
    fun failed => ⟨rfl, rfl, log, begins, .inl ⟨failed, rfl, rfl⟩⟩
  obtain ⟨lists, rfl⟩ := accepted isOk
  refine .step fun choice => ?_
  have asks := wanted_asks fits lists url
  obtain ⟨received, performed⟩ :=
    perform_eq (begun result log hdrList (wanted url body hdrList))
      asks.writes choice.code choice.chunks
  have done : exec .easyPerform choice
      (begun result log hdrList (wanted url body hdrList)) = _ := performed
  rw [done]
  exact ⟨rfl, rfl, log, begins, .inr ⟨_, received, asks, rfl, rfl⟩⟩

/-! ## The clean-up -/

/-- The handle is released, and then the list. -/
def released (hdrList : Option (List Octets)) (log : List Event) :
    List Event :=
  if hdrList.isSome then .freed :: .closed :: log else .closed :: log

/-- A release adds no failure of the list to the log. -/
theorem unlisted_mem_released
    (hdrList : Option (List Octets))
    (log : List Event) :
    .unlisted ∈ released hdrList log ↔ .unlisted ∈ log := by
  unfold released
  split <;> simp

theorem Asks.of_log
    {url : Octets}
    {body contentType : Option Octets}
    {before after : List Event}
    (asks : Asks url body contentType before transfer)
    (same : .unlisted ∈ after ↔ .unlisted ∈ before) :
    Asks url body contentType after transfer :=
  { asks with headers := by simp only [asks.headers, same] }

/-- What holds before the release holds of the whole session after it. -/
theorem Held.done
    {url : Octets}
    {body contentType : Option Octets}
    {code : Int}
    {after : State}
    (held : Held url body contentType result (code, hdrList) after) :
    Done url body contentType result code
      { result := after.result, log := released hdrList after.log } := by
  obtain ⟨log, begins, performs⟩ := held.performs
  rcases performs with ⟨failed, same, logged⟩ |
    ⟨transfer, received, asks, appended, logged⟩
  · rw [logged]
    have nothing : transfers (released hdrList log) = [] := by
      cases begins <;> rfl
    refine ⟨rfl, rfl, ?_, ?_, ?_, ?_, .inl ⟨nothing, failed, same⟩⟩ <;>
      cases begins <;> simp [released]
  · have only : transfers (released hdrList after.log) =
        [(transfer, code, received)] := by
      rw [logged]
      cases begins <;> rfl
    have asked : Asks url body contentType (released hdrList after.log)
        transfer := by
      refine asks.of_log ?_
      rw [unlisted_mem_released, logged]
      simp
    refine ⟨rfl, rfl, ?_, ?_, ?_, ?_,
      .inr ⟨transfer, received, only, asked, appended⟩⟩ <;>
      rw [logged] <;> cases begins <;> simp [released]

/-- Whatever the library answers, a session ends as it should. -/
theorem perfRequest_always
    {body : Option Octets}
    (fits : ∀ data, body = some data → data.length < 2 ^ 63)
    (url result : Octets)
    (contentType : Option Octets) :
    (perfRequest url body contentType).Always exec
      (Done url body contentType result) { result } := by
  refine .step fun choice => ?_
  by_cases made : choice.made
  · have opened : exec .easyInit choice { result } =
        (true, begun result [.opened] none {}) := by
      simp [exec, made, begun, State.note]
    rw [opened]
    refine (session_always fits url contentType).bind ?_
    rintro ⟨code, hdrList⟩ after held
    have done := held.done
    obtain ⟨handle, listed, received, log⟩ := after
    obtain rfl : listed = hdrList := held.hdrList
    obtain ⟨transfer, rfl⟩ := Option.isSome_iff_exists.mp held.handle
    refine .step fun _ => ?_
    cases listed with
    | none => exact done
    | some headers => exact .step fun _ => done
  · have failed : exec .easyInit choice { result } = (false, { result }) := by
      simp [exec, made]
    rw [failed]
    exact ⟨rfl, rfl, rfl, rfl, nofun, nofun, .inl ⟨rfl, by decide, rfl⟩⟩

/-- A session ends as it should: it performs the transfer it was asked for or
none, and releases what it has. -/
theorem perfRequest_done
    {body : Option Octets}
    (fits : ∀ data, body = some data → data.length < 2 ^ 63)
    (url result : Octets)
    (contentType : Option Octets)
    (oracle : Op → Choice) :
    let outcome :=
      (perfRequest url body contentType).eval exec oracle { result }
    Done url body contentType result outcome.1 outcome.2 :=
  (perfRequest_always fits url result contentType).eval oracle

/-- A report is posted, and there is no memory for its header. -/
theorem reportPosted_done :
    let outcome := (perfRequest (ascii "http://r") (some (ascii "x"))
      (some (ascii "Content-Type: application/json"))).eval exec
      (fun operation => { made := operation = .easyInit }) {}
    Done (ascii "http://r") (some (ascii "x"))
      (some (ascii "Content-Type: application/json")) [] outcome.1
      outcome.2 :=
  perfRequest_done (fun data same => by cases same; decide) _ _ _ _

/-- What a session comes to is an outcome of the single operation. -/
theorem curlPerfRequest_covers
    (url : Octets)
    (body contentType : Option Octets)
    (oracle : Op → Choice)
    (thread : Sms112.Thread)
    (state : Sms112.State) :
    let outcome := (perfRequest url body contentType).eval exec oracle {}
    ∃ choice : Sms112.Choice,
      (curlPerfRequest url body contentType).eval (Sms112.exec thread)
          (fun _ => choice) state =
        ((outcome.1, outcome.2.result),
          state.note (.curl url body outcome.1 outcome.2.result)) := by
  intro outcome
  have received : [outcome.2.result].flatten = outcome.2.result :=
    List.append_nil _
  exact ⟨{ ret := outcome.1, chunks := [outcome.2.result] },
    congrArg (fun received => ((outcome.1, outcome.2.result),
      state.note (.curl url body outcome.1 received))) received⟩

end Curl
end Sms112
