import Sms112.Model.Process
import Sms112.Shutdown.Stop

/-!
# How long the programs of the process are

The main thread sets everything up in a bounded number of operations, and takes
for the gateway what the gateway takes. The worker thread handles one event after the
other, each in a bounded number of operations, and after as many of them as one
call hands over at most it asks whether it has to end.
-/

namespace Sms112
namespace Process

open Resumption Program

variable {lib : Smpp34} {build : Build} {loaded : LoadEnd}

/-! ## The main thread -/

/-- What a program of the gateway takes, the main thread takes for it. -/
theorem gatewayCode_ends
    {conf : SConf}
    {possible : (operation : Sms112.Op) → Sms112.Res operation → Prop}
    {possible' : (operation : Op) → Res operation → Prop}
    {rank : Sms112.Label → Nat}
    {rank' : Label → Nat}
    {budget added : Nat}
    {label : Sms112.Label}
    (ends : (Sms112.code conf lib (.requester 0) label).Ends possible rank
      budget)
    (tells : ∀ operation result, possible' (.gateway operation) result →
      possible operation result)
    (pays : ∀ label, rank' (.gateway label) ≤ rank label + added) :
    (gatewayCode conf lib (.requester 0) label).Ends possible' rank'
      (budget + added) := by
  unfold gatewayCode
  generalize Sms112.code conf lib (.requester 0) label = program at ends
  induction program generalizing budget with
  | ret label => exact (pays label).trans (Nat.add_le_add_right ends added)
  | perform operation next inductionHypothesis =>
      obtain ⟨positive, rest⟩ := ends
      refine ⟨Nat.lt_of_lt_of_le positive (Nat.le_add_right _ _),
        fun result isPossible => ?_⟩
      have same : budget + added - 1 = budget - 1 + added := by omega
      exact same ▸ inductionHypothesis result
        (rest result (tells operation result isPossible))

section Bounds

variable {conf : SConf} {bound : Nat}

/-- A failed assertion is one step, and the last one. -/
theorem failAssertion_within : (failAssertion build).Within 1 := by
  unfold failAssertion
  split
  · exact .step fun _ => .ret _
  · exact Nat.zero_le _

/-- A set-up and the assertion on its status. -/
theorem asserted_within (setup : Setup) :
    (asserted build setup).Within 2 := by
  refine .step fun tStatus => ?_
  split
  · exact Nat.zero_le _
  · exact failAssertion_within

/-- A set-up that is required adds one step to what follows it. -/
theorem required_within
    (setup : Setup)
    {rest : Prog Int}
    (within : rest.Within bound)
    (positive : 0 < bound) :
    (required build setup rest).Within (bound + 1) := by
  refine .step fun tStatus => ?_
  split
  · exact within
  · exact failAssertion_within.bind positive fun _ => Nat.zero_le _

/-- The longest way through `sip_init`, with a transport for each protocol. -/
theorem sipInit_within : (sipInit conf build).Within 20 := by
  have initAuth : (initAuth conf build).Within 4 :=
    (asserted_within _).bind (by decide) fun _ =>
      (asserted_within _).bind (by decide) fun _ => Nat.zero_le _
  have worker : (sipInitWorker conf build).Within 8 :=
    required_within _ (.step fun _ => required_within _
      (.step fun _ => initAuth) (by decide)) (by decide)
  have modules : (sipInitModules conf build).Within 12 :=
    (asserted_within _).bind (by decide) fun _ =>
      (asserted_within _).bind (by decide) fun _ => worker
  refine required_within _ (required_within _ (.step fun _ =>
    required_within _ (.step fun _ => .step fun converted => ?_) (by decide))
      (by decide)) (by decide)
  split
  · exact Nat.zero_le _
  · refine .step fun tStatus => ?_
    split
    · exact modules.mono (by decide)
    · exact Nat.zero_le _

/-- One step for each signal. -/
theorem register_within (numbers : List Signal) :
    (register numbers).Within numbers.length := by
  induction numbers with
  | nil => exact Nat.zero_le _
  | cons number numbers inductionHypothesis =>
      refine .step fun iRetVal => ?_
      split
      · exact inductionHypothesis
      · exact Nat.zero_le _

theorem regSig_within : (regSig build).Within 4 := by
  refine (register_within _).mono ?_
  split <;> decide

/-- `main` up to `sms112_tcp_connect`, if the labels after it are paid for. -/
theorem boot_ends
    {possible : (operation : Op) → Res operation → Prop}
    {rank : Label → Nat}
    (pays : ∀ label, label ≠ .boot → rank label ≤ bound) :
    (main build loaded).Ends possible rank (bound + 26) := by
  have ends (label : Label) (other : label ≠ .boot) (budget : Nat) :
      (.ret label : Prog Label).Ends possible rank (bound + budget) :=
    (pays label other).trans (Nat.le_add_right _ _)
  cases loaded with
  | threw exception conf =>
      exact .step (Nat.succ_pos _) fun _ _ => ends .ended nofun 25
  | returned iFnRes conf =>
      unfold main
      dsimp only
      split
      · refine .step (Nat.succ_pos _) fun iFnRes _ => ?_
        split
        · refine .step (Nat.succ_pos _) fun iFnRes _ => ?_
          split
          · refine sipInit_within.andThen (by omega) fun iFnRes => ?_
            split
            · refine regSig_within.andThen (by omega) fun iFnRes => ?_
              have left : bound + 26 - 1 - 1 - 20 - 4 = bound + 0 := by omega
              rw [left]
              split
              · exact ends (.gateway .main) nofun 0
              · exact ends .cleanupSip nofun 0
            · have left : bound + 26 - 1 - 1 - 20 = bound + 4 := by omega
              exact left ▸ ends .cleanupCurl nofun 4
          · exact ends (.exit 0) nofun 24
        · exact ends (.exit iFnRes) nofun 25
      · exact ends (.exit iFnRes) nofun 26

end Bounds

/-- From every label of the main thread the next one is at most 71 steps
away. -/
theorem mainCode_within (label : Label) :
    (mainCode (loadedConf loaded) lib build loaded label).Within 71 := by
  have runs (label : Sms112.Label) :
      (gatewayCode (loadedConf loaded) lib (.requester 0) label).Within
        (71 + 0) :=
    gatewayCode_ends (controller_within (loadedConf loaded) lib label)
      (fun _ _ _ => trivial) fun _ => Nat.le_refl 0
  match label with
  | .boot => exact (boot_ends fun _ _ => Nat.le_refl 0).mono (by decide)
  | .gateway .main | .gateway .startPing | .gateway (.ping _)
  | .gateway .finish | .gateway .receive | .gateway .environment =>
      exact runs _
  | .gateway .stopped | .work | .events _ | .signals | .ended =>
      exact Nat.zero_le _
  | .cleanupSip | .cleanupCurl | .exit _ =>
      exact .step fun _ => Nat.zero_le _
  | .joinWorker =>
      refine .step fun workerEnded => ?_
      split <;> exact Nat.zero_le _

/-! ## The worker thread -/

/-- `sync_ulck` looks the Call-ID up, sets the result and unlocks. -/
theorem syncUlck_within (callId : PjStr) (result : Int) :
    (Dialog.syncUlck callId result).Within 3 := by
  unfold Dialog.syncUlck
  split
  · refine .step fun found => ?_
    split
    · exact .step fun _ => .step fun _ => .ret _
    · exact Nat.zero_le _
  · exact Nat.zero_le _

theorem onRxRequest_within (rxData : Dialog.RxData) :
    (Dialog.onRxRequest rxData).Within 1 := by
  unfold Dialog.onRxRequest
  split
  · split
    · exact .step fun _ => .ret _
    · exact Nat.zero_le _
  · exact Nat.zero_le _

/-- A response: its status, its Call-ID and `sync_ulck`. -/
theorem onRxResponse_within (rxData : Dialog.RxData) :
    (Dialog.onRxResponse rxData).Within 6 := by
  unfold Dialog.onRxResponse
  split
  · split
    · split
      · exact .step fun _ => .step fun callId =>
          (syncUlck_within callId 0).bind (by decide) fun _ =>
            .step fun _ => .ret _
      · split
        · exact Nat.zero_le _
        · split
          · exact .step fun _ => .step fun callId =>
              (syncUlck_within callId _).bind (by decide)
                fun _ => Nat.zero_le _
          · exact Nat.zero_le _
    · exact .step fun callId => (syncUlck_within callId 0).bind (by decide)
        fun _ => Nat.zero_le _
    · exact Nat.zero_le _
  · exact Nat.zero_le _

/-- Whatever the message is, its handlers take 7 steps at most. -/
theorem handle_within (message : Dialog.RxMessage) :
    (Dialogs.handle message).Within 7 := by
  have dispatches : (Dialog.dispatch message).Within 6 := by
    match message with
    | .request rxData => exact (onRxRequest_within rxData).mono (by decide)
    | .response rxData => exact onRxResponse_within rxData
  exact dispatches.bind (by decide) fun _ => .step fun _ => .ret _

/-- A challenge is answered with a new request, anything else is left alone. -/
theorem onTsxState_within (event : TsxEvent) :
    (onTsxState event).Within 2 := by
  unfold onTsxState
  split
  · exact Nat.zero_le _
  · split
    · refine .step fun tStatus => ?_
      split
      · exact .step fun _ => .ret _
      · exact Nat.zero_le _
    · exact Nat.zero_le _

/-- One event of the endpoint, with the handlers of its message. -/
theorem handleEvents_within : handleEvents.Within 9 := by
  have handles : Dialogs.workerThread.Within 8 := by
    refine .step fun event => ?_
    match event with
    | none => exact Nat.zero_le _
    | some (index, message) => exact (handle_within message).embed _ _
  refine .step fun event => ?_
  match event with
  | some event => exact (onTsxState_within event).mono (by decide)
  | none => exact handles.embed _ _

/-- How many steps the worker thread is from its end, if it is told to end. -/
def workerRank : Label → Nat
  | .work => 4
  | .events left => 10 * left + 5
  | .ended => 0
  | _ => 1

/-- One event after the other, and then the next round. -/
theorem endptHandleEvents_ends
    {possible : (operation : Op) → Res operation → Prop}
    (left : Nat) :
    (endptHandleEvents left).Ends possible workerRank (10 * left + 4) := by
  cases left with
  | zero => exact Nat.le_refl 4
  | succ left =>
      refine handleEvents_within.andThen (by omega) fun _ => ?_
      show 10 * left + 5 ≤ 10 * (left + 1) + 4 - 9
      omega

/-- No call hands over more events than it may. -/
def pollResults (build : Build) : (operation : Op) → Res operation → Prop
  | .pollEvents, events => events ≤ build.maxEvents
  | _, _ => True

/-- How many steps the worker thread is from its end at most. -/
def workerBound (build : Build) : Nat :=
  14 + 10 * build.maxEvents

/-- One turn of the loop and the events that its call hands over: the budget
grows with their number. -/
theorem workerThread_bounded :
    workerThread.Ends (pollResults build) workerRank (workerBound build) := by
  have positive : 2 < workerBound build := by
    unfold workerBound
    omega
  refine .step (by omega) fun created _ => ?_
  split
  · refine .step (by omega) fun quitFlag _ => ?_
    split
    · exact .step (by omega) fun _ _ => Nat.zero_le _
    · refine .step (by omega)
        fun (events : Nat) (few : events ≤ build.maxEvents) => ?_
      show 10 * events + 5 ≤ 14 + 10 * build.maxEvents - 1 - 1 - 1
      omega
  · show 4 ≤ 14 + 10 * build.maxEvents - 1
    omega

/-- At every label that the worker thread comes to, its end is not far. -/
theorem workerCode_bounded
    (label : Label)
    (near : workerRank label ≤ workerBound build) :
    (code lib build loaded .worker label).Ends (pollResults build) workerRank
      (workerBound build) := by
  cases label
  case work => exact workerThread_bounded
  case events left =>
    refine (endptHandleEvents_ends left).mono ?_
    have near : 10 * left + 5 ≤ 14 + 10 * build.maxEvents := near
    show 10 * left + 4 ≤ 14 + 10 * build.maxEvents
    omega
  all_goals exact Nat.zero_le _

end Process
end Sms112
