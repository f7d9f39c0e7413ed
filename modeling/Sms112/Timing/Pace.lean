import Mathlib.Data.List.Chain
import Sms112.Connection.Controller

/-!
# The pace of the ping loop

Every round of `do_smpp_ping` waits for a deadline that is one period later
than the one before, except after a round in which `sms112_tcp_connect`
fails: its `continue` passes over the addition, and the next round waits for
the same deadline again.
-/

namespace Sms112

open Resumption

variable {α : Type}

/-! ## The deadlines waited for -/

def Event.waitedFor : Event → Option Timespec
  | .pingWait deadline => some deadline
  | _ => none

/-- The deadlines the ping loop has waited for, the last one first. -/
def State.deadlines (state : State) : List Timespec :=
  state.log.filterMap Event.waitedFor

/-- The deadline some periods after another. -/
def deadlineAfter (conf : SConf) (first : Timespec) (periods : Nat) :
    Timespec :=
  { first with tvSec := first.tvSec + periods * conf.smppEnqLinkSpan }

/-- Of deadlines in the order of the rounds, every one is a whole number of
periods after the first, and no two are the same unless the period is
zero. -/
structure KeepsPace (conf : SConf) (deadlines : List Timespec) : Prop where
  spaced : ∀ first, deadlines[0]? = some first →
    ∀ round deadline, deadlines[round]? = some deadline →
      deadline = deadlineAfter conf first round
  distinct : 0 < conf.smppEnqLinkSpan → deadlines.Nodup

/-- Every deadline is a period after the one before; the last one comes
first. -/
def Paced (conf : SConf) (deadlines : List Timespec) : Prop :=
  deadlines.IsChain fun later earlier => later = nextDeadline conf earlier

variable {conf : SConf}

theorem deadlineAfter_zero (first : Timespec) :
    deadlineAfter conf first 0 = first := by
  simp [deadlineAfter]

/-- A period from the next deadline is one more from this one. -/
theorem deadlineAfter_next (first : Timespec) (periods : Nat) :
    deadlineAfter conf (nextDeadline conf first) periods =
      deadlineAfter conf first (periods + 1) := by
  simp only [deadlineAfter, nextDeadline, Timespec.mk.injEq, and_true]
  rw [Int.natCast_add, Int.add_mul]
  omega

/-- In a chain of deadlines each is as many periods from the first as it has
before it. -/
theorem spaced_of_isChain
    {first : Timespec}
    {deadlines : List Timespec}
    (chain : (first :: deadlines).IsChain fun earlier later =>
      later = nextDeadline conf earlier)
    {round : Nat}
    {deadline : Timespec}
    (waited : (first :: deadlines)[round]? = some deadline) :
    deadline = deadlineAfter conf first round := by
  induction round generalizing first deadlines with
  | zero =>
      obtain rfl := Option.some.inj waited
      exact (deadlineAfter_zero _).symm
  | succ round inductionHypothesis =>
      cases deadlines with
      | nil => exact nomatch waited
      | cons second deadlines =>
          obtain ⟨rfl, rest⟩ := List.isChain_cons_cons.mp chain
          rw [inductionHypothesis rest waited, deadlineAfter_next]

/-- Deadlines that follow one another by a period keep the pace. -/
theorem Paced.keepsPace
    {deadlines : List Timespec}
    (paced : Paced conf deadlines) :
    KeepsPace conf deadlines.reverse := by
  have chain : deadlines.reverse.IsChain fun earlier later =>
      later = nextDeadline conf earlier :=
    List.isChain_reverse.mpr paced
  have spaced : ∀ first, deadlines.reverse[0]? = some first →
      ∀ round deadline, deadlines.reverse[round]? = some deadline →
        deadline = deadlineAfter conf first round := by
    intro first begins round deadline waited
    cases ordered : deadlines.reverse with
    | nil =>
        rw [ordered] at begins
        exact nomatch begins
    | cons head rest =>
        rw [ordered] at chain begins waited
        obtain rfl := Option.some.inj begins
        exact spaced_of_isChain chain waited
  refine ⟨spaced, fun positive => ?_⟩
  rw [List.nodup_iff_getElem?_ne_getElem?]
  intro earlier later before inside same
  have nonempty : 0 < deadlines.reverse.length := by omega
  have begins := List.getElem?_eq_getElem nonempty
  have last := List.getElem?_eq_getElem inside
  have equal := (spaced _ begins later _ last).symm.trans
    (spaced _ begins earlier _ (same.trans last))
  have seconds := congrArg Timespec.tvSec equal
  simp only [deadlineAfter, add_right_inj] at seconds
  have periods := Int.eq_of_mul_eq_mul_right (by omega) seconds
  omega

/-! ## What leaves the deadlines alone -/

/-- No deadline is waited for, and the loop is neither entered nor left. -/
structure Unhurried (before after : State) : Prop where
  deadlines : after.deadlines = before.deadlines
  busy : after.busy .doSmppPing = before.busy .doSmppPing

namespace Unhurried

theorem refl (state : State) : Unhurried state state :=
  ⟨rfl, rfl⟩

theorem trans
    {first second third : State}
    (before : Unhurried first second)
    (after : Unhurried second third) :
    Unhurried first third :=
  ⟨after.deadlines.trans before.deadlines, after.busy.trans before.busy⟩

end Unhurried

/-- All operations but the wait, and the entry and exit of the loop. -/
def Op.isUnhurried : Op → Bool
  | .pingTimedLock _ | .note (.pingWait _) | .enter .doSmppPing
  | .leave .doSmppPing => false
  | _ => true

theorem Op.isUnhurried.quiet
    {operation : Op}
    (unhurried : operation.isUnhurried) :
    operation.Quiet Event.waitedFor := by
  intro event noted
  cases event
  case pingWait deadline =>
    cases operation
    case pingTimedLock => exact nomatch unhurried
    case note event =>
      obtain rfl := of_decide_eq_true noted
      exact nomatch unhurried
    case enter routine => cases routine <;> exact nomatch noted
    all_goals exact nomatch noted
  all_goals rfl

/-- Only the operations that may note a wait add a deadline. -/
theorem deadlines_exec
    (thread : Thread)
    {operation : Op}
    (quiet : operation.Quiet Event.waitedFor)
    (choice : Choice)
    (state : State) :
    (exec thread operation choice state).2.deadlines = state.deadlines := by
  unfold State.deadlines
  rcases exec_notes thread operation choice state with
    unchanged | ⟨event, noted, appended⟩
  · rw [unchanged]
  · rw [appended, List.filterMap_cons_none (quiet event noted)]

/-- Most operations neither wait nor note that they do. -/
theorem exec_unhurried
    (thread : Thread)
    {operation : Op}
    (unhurried : operation.isUnhurried)
    (choice : Choice)
    (state : State) :
    Unhurried state (exec thread operation choice state).2 := by
  refine ⟨deadlines_exec thread (Op.isUnhurried.quiet unhurried) choice
    state, ?_⟩
  cases operation
  case enter routine =>
    cases routine <;> first | rfl | exact nomatch unhurried
  case leave routine =>
    cases routine <;> first | rfl | exact nomatch unhurried
  all_goals
    exact congrFun (exec_frame thread _ choice state .busy rfl) .doSmppPing

theorem Op.isTraffic.unhurried
    (operation : Op)
    (traffic : operation.isTraffic) :
    operation.isUnhurried := by
  cases operation
  case enter routine => cases routine <;> first | rfl | cases traffic
  case leave routine => cases routine <;> first | rfl | cases traffic
  case note event => cases event <;> first | rfl | cases traffic
  all_goals first | rfl | cases traffic

theorem Op.isExchange.unhurried
    (operation : Op)
    (exchange : operation.isExchange) :
    operation.isUnhurried := by
  unfold Op.isExchange at exchange
  split at exchange <;> first
    | rfl
    | exact Op.isTraffic.unhurried _ exchange

theorem tcpConnect_unhurried :
    tcpConnect.Uses fun operation => operation.isUnhurried := by
  refine .step rfl fun _ => .bind (.step rfl fun opened => ?_) fun _ =>
    .step rfl fun _ => trivial
  dsimp only
  split
  · trivial
  · refine .step rfl fun _ => .step rfl fun outcome => ?_
    split
    · trivial
    · exact .step rfl fun _ => trivial

theorem tcpDisconn_unhurried :
    tcpDisconn.Uses fun operation => operation.isUnhurried := by
  refine .step rfl fun _ => .bind (.step rfl fun iSock => ?_) fun _ =>
    .step rfl fun _ => trivial
  split
  · refine .step rfl fun _ => .step rfl fun closed => ?_
    split
    · exact .step rfl fun _ => .step rfl fun _ => trivial
    · trivial
  · trivial

/-! ## The protocol of the loop -/

/-- In the loop a socket can be created and set to be non-blocking. -/
def ReconnectSucceeds : Machine.Condition Op Thread Choice State
  | thread, .socket, choice, state => state.busy .doSmppPing = true →
      (exec thread .socket choice state).1.1 ≠ -1
  | thread, .fcntl, choice, state => state.busy .doSmppPing = true →
      (exec thread .fcntl choice state).1.1 = 0
  | _, _, _, _ => True

instance (thread : Thread) (operation : Op) (choice : Choice)
    (state : State) :
    Decidable (ReconnectSucceeds thread operation choice state) := by
  unfold ReconnectSucceeds
  split <;> infer_instance

/-- The deadlines are spaced, and only the controller relies on the others
not to wait. -/
def paceProtocol (conf : SConf) : Protocol Thread State where
  inv state := Paced conf state.deadlines
  rely thread before after := thread = controller → Unhurried before after
  rely_refl _ state _ := .refl state
  rely_trans _ _ _ _ before after same := (before same).trans (after same)

/-- A triple of the controller about the deadlines. -/
abbrev PaceTriple (conf : SConf) (pre : State → Prop) (program : Prog α)
    (post : α → State → Prop) : Prop :=
  (paceProtocol conf).Triple exec ReconnectSucceeds controller pre program
    post

/-- An assertion about the deadlines and the loop. -/
def AboutPace (assertion : State → Prop) : Prop :=
  ∀ before after, assertion before → Unhurried before after →
    assertion after

/-- Nobody but the controller waits for deadlines, so what it knows of them is
stable. -/
theorem AboutPace.stable
    {assertion : State → Prop}
    (about : AboutPace assertion) :
    (paceProtocol conf).Stable controller assertion :=
  fun before after _ holds rely _ => about before after holds (rely rfl)

/-- The other threads rely on nothing here. -/
theorem paceProtocol_tolerant : Tolerant (paceProtocol conf) where
  free _ _ _ different same := absurd same different
  traffic thread operation choice state traffic paced := by
    have step := exec_unhurried thread
      (Op.isTraffic.unhurried operation traffic) choice state
    refine ⟨?_, fun _ => step⟩
    change Paced conf _
    rw [step.deadlines]
    exact paced

/-- A program of such operations keeps what is known of the deadlines. -/
theorem unhurried_triple
    {program : Prog α}
    {assertion : State → Prop}
    (uses : program.Uses fun operation => operation.isUnhurried)
    (about : AboutPace assertion) :
    PaceTriple conf assertion program fun _ => assertion := by
  refine Protocol.Triple.unobtrusive uses about.stable ?_
  intro operation state choice unhurried paced _
  have step := exec_unhurried controller unhurried choice state
  refine ⟨?_, fun _ _ => step⟩
  change Paced conf _
  rw [step.deadlines]
  exact paced

theorem unhurried_call
    {operation : Op}
    {assertion : State → Prop}
    (unhurried : operation.isUnhurried)
    (about : AboutPace assertion) :
    PaceTriple conf assertion (call operation) fun _ => assertion :=
  unhurried_triple ⟨unhurried, fun _ => trivial⟩ about

/-! ## The loop -/

/-- In the loop, with a deadline to be waited for next. -/
def Due (conf : SConf) (soTS : Timespec) (state : State) : Prop :=
  Paced conf (soTS :: state.deadlines) ∧ state.busy .doSmppPing = true

/-- Before the loop. -/
def NoDeadline (state : State) : Prop :=
  state.deadlines = []

theorem due_about (soTS : Timespec) : AboutPace (Due conf soTS) := by
  rintro before after ⟨paced, looping⟩ unhurried
  exact ⟨unhurried.deadlines ▸ paced, unhurried.busy.trans looping⟩

theorem noDeadline_about : AboutPace NoDeadline :=
  fun _ _ empty unhurried => unhurried.deadlines.trans empty

theorem always_about : AboutPace fun _ => True :=
  fun _ _ _ _ => trivial

/-- What holds where the controller starts over. -/
def PaceEntry (conf : SConf) : Label → State → Prop
  | .main | .startPing => NoDeadline
  | .ping soTS => Due conf soTS
  | _ => fun _ => True

theorem paceEntry_about (label : Label) :
    AboutPace (PaceEntry conf label) := by
  cases label
  case main => exact noDeadline_about
  case startPing => exact noDeadline_about
  case ping soTS => exact due_about soTS
  all_goals exact always_about

/-- A thread starts over where its label's assertion holds. -/
theorem continues_pace
    {pre : State → Prop}
    {label : Label}
    (holds : ∀ state, pre state → PaceEntry conf label state) :
    PaceTriple conf pre (.ret label) (PaceEntry conf) :=
  .returns (paceEntry_about label).stable fun state _ => holds state

/-- A system call of which the condition says something in the loop. -/
theorem loop_call
    {soTS : Timespec}
    (operation : Op)
    (fact : Res operation → Prop)
    (unhurried : operation.isUnhurried)
    (known : ∀ choice state, state.busy .doSmppPing = true →
      ReconnectSucceeds controller operation choice state →
        fact (exec controller operation choice state).1) :
    PaceTriple conf (Due conf soTS) (call operation) fun result state =>
      fact result ∧ Due conf soTS state := by
  have about (result : Res operation) :
      AboutPace fun state => fact result ∧ Due conf soTS state :=
    fun before after holds step =>
      ⟨holds.1, due_about soTS before after holds.2 step⟩
  refine .call (due_about soTS).stable (fun result => (about result).stable) ?_
  intro state choice paced due condition
  have step := exec_unhurried controller unhurried choice state
  refine ⟨⟨?_, fun _ different same => absurd same different⟩,
    known choice state due.2 condition, due_about soTS _ _ due step⟩
  change Paced conf _
  rw [step.deadlines]
  exact paced

/-- In the loop a connection is opened. -/
theorem tcpConnect_pace (soTS : Timespec) :
    PaceTriple conf (Due conf soTS) tcpConnect fun iFnRes state =>
      iFnRes = 0 ∧ Due conf soTS state := by
  have about (fact : Prop) :
      AboutPace fun state => fact ∧ Due conf soTS state :=
    fun before after holds step =>
      ⟨holds.1, due_about soTS before after holds.2 step⟩
  have body : PaceTriple conf (Due conf soTS) tcpConnectBody
      fun iFnRes state => iFnRes = 0 ∧ Due conf soTS state := by
    refine (loop_call .socket (fun opened => opened.1 ≠ -1) rfl
      fun _ _ looping condition => condition looping).bind
        fun opened => ?_
    refine .ite (fun failed => fun state _ holds =>
      absurd failed holds.1) fun _ => ?_
    refine .consequence (.bind (unhurried_call rfl (due_about soTS))
      fun _ => .bind (loop_call .fcntl (fun outcome => outcome.1 = 0) rfl
        fun _ _ looping condition => condition looping)
        fun outcome => ?_) (fun _ _ holds => holds.2)
        fun _ _ _ holds => holds
    refine .ite (fun failed => fun state _ holds =>
      absurd holds.1 failed) fun success => ?_
    refine .consequence (.bind (unhurried_call rfl (due_about soTS))
      fun _ => ?_) (fun _ _ holds => holds.2) fun _ _ _ holds => holds
    exact .returns (about _).stable
      fun _ _ due => ⟨not_not.mp success, due⟩
  refine (unhurried_call rfl (due_about soTS)).bind fun _ =>
    body.bind fun iFnRes => .bind
      (unhurried_call rfl (about (iFnRes = 0))) fun _ => ?_
  exact .returns (about _).stable fun _ _ holds => holds

variable (conf : SConf) (lib : Smpp34)

theorem doSmppConnection_pace (soTS : Timespec) :
    PaceTriple conf (Due conf (nextDeadline conf soTS))
      (doSmppConnection conf lib soTS) (PaceEntry conf) :=
  (unhurried_triple ((smppConnect_exchange conf lib).mono
    Op.isExchange.unhurried) (due_about _)).bind fun _ =>
      continues_pace fun _ due => due

/-- However long connecting takes, the deadline that is due was computed before
it. -/
theorem doTcpConnection_pace (soTS : Timespec) :
    PaceTriple conf (Due conf (nextDeadline conf soTS))
      (doTcpConnection conf lib soTS) (PaceEntry conf) :=
  (tcpConnect_pace _).bind fun _ =>
    .ite (fun failed _ _ holds => absurd holds.1 failed) fun _ =>
      (doSmppConnection_pace conf lib soTS).consequence
        (fun _ _ holds => holds.2) fun _ _ _ holds => holds

theorem recoverConnection_pace (soTS : Timespec) :
    PaceTriple conf (Due conf (nextDeadline conf soTS))
      (recoverConnection conf lib soTS) (PaceEntry conf) :=
  (unhurried_triple ((smppDisconn_exchange lib).mono
    Op.isExchange.unhurried) (due_about _)).bind fun _ =>
      (unhurried_triple tcpDisconn_unhurried (due_about _)).bind
        fun _ => doTcpConnection_pace conf lib soTS

/-- The wait for a deadline makes the following one due. -/
theorem pingTimedLock_pace (soTS : Timespec) :
    PaceTriple conf (Due conf soTS) (call (.pingTimedLock soTS))
      fun _ => Due conf (nextDeadline conf soTS) := by
  refine .call (due_about soTS).stable
    (fun _ => (due_about (nextDeadline conf soTS)).stable) ?_
  rintro state choice - ⟨paced, looping⟩ -
  have waited : (exec controller (.pingTimedLock soTS) choice
      state).2.deadlines = soTS :: state.deadlines := rfl
  refine ⟨⟨?_, fun _ different same => absurd same different⟩, ?_, looping⟩
  · change Paced conf _
    rw [waited]
    exact paced
  · rw [waited]
    exact List.isChain_cons_cons.mpr ⟨rfl, paced⟩

/-- A turn of the ping loop waits for the deadline that is due and makes the
next one due. -/
theorem doSmppPing_pace (soTS : Timespec) :
    PaceTriple conf (Due conf soTS) (doSmppPing conf lib soTS)
      (PaceEntry conf) := by
  have after : AboutPace (Due conf (nextDeadline conf soTS)) :=
    due_about _
  have leaves {pre : State → Prop} :
      PaceTriple conf pre (.ret .finish) (PaceEntry conf) :=
    continues_pace fun _ _ => trivial
  refine (unhurried_call rfl (due_about soTS)).bind fun iStop =>
    .ite (fun _ => leaves) fun _ => ?_
  refine (pingTimedLock_pace conf soTS).bind fun iFnRes =>
    .ite (fun _ => leaves) fun _ => ?_
  refine (unhurried_call rfl after).bind fun tcpIsConnected =>
    .ite (fun _ => doTcpConnection_pace conf lib soTS) fun _ => ?_
  refine (unhurried_call rfl after).bind fun smppIsConnected =>
    .ite (fun _ => doSmppConnection_pace conf lib soTS) fun _ => ?_
  refine (unhurried_triple ((smppEnqLink_exchange lib).mono
    Op.isExchange.unhurried) after).bind fun iFnRes => .ite
      (fun _ => continues_pace fun _ due => due)
      fun _ => recoverConnection_pace conf lib soTS

/-- No deadline is waited for before the ping thread begins. -/
theorem main_pace :
    PaceTriple conf NoDeadline (main conf lib) (PaceEntry conf) := by
  have leaves {pre : State → Prop} :
      PaceTriple conf pre (.ret .stopped) (PaceEntry conf) :=
    continues_pace fun _ _ => trivial
  have stops : PaceTriple conf NoDeadline
      (do tcpDisconn; return .stopped) (PaceEntry conf) :=
    (unhurried_triple tcpDisconn_unhurried noDeadline_about).bind
      fun _ => leaves
  refine (unhurried_triple tcpConnect_unhurried noDeadline_about).bind
    fun iFnRes => .ite (fun _ => leaves) fun _ => ?_
  refine (unhurried_call rfl noDeadline_about).bind fun created =>
    .ite (fun _ => stops) fun _ => ?_
  refine (unhurried_triple ((smppConnect_exchange conf lib).mono
    Op.isExchange.unhurried) noDeadline_about).bind fun bound =>
      .ite (fun _ => stops) fun _ => ?_
  exact (unhurried_call rfl noDeadline_about).bind fun created =>
    .ite (fun _ => continues_pace fun _ _ => trivial)
      fun _ => continues_pace fun _ empty => empty

/-- The first deadline is due when the loop begins. -/
theorem startPing_pace :
    PaceTriple conf NoDeadline (startPing conf) (PaceEntry conf) := by
  have about : AboutPace fun state =>
      NoDeadline state ∧ state.busy .doSmppPing = true :=
    fun before after holds step =>
      ⟨noDeadline_about before after holds.1 step,
        step.busy.trans holds.2⟩
  have enters : PaceTriple conf NoDeadline (call (.enter .doSmppPing))
      fun _ state => NoDeadline state ∧ state.busy .doSmppPing = true := by
    refine .call noDeadline_about.stable (fun _ => about.stable) ?_
    rintro state choice paced empty -
    exact ⟨⟨paced, fun _ different same => absurd same different⟩, empty,
      rfl⟩
  refine enters.bind fun _ => (unhurried_call rfl about).bind fun created =>
    .ite (fun _ => continues_pace fun _ _ => trivial) fun _ => ?_
  refine (unhurried_call rfl about).bind fun garbage =>
    (unhurried_triple (makeTimespecTimeout_uses (by rfl) _ _ _)
      about).bind fun made => ?_
  refine continues_pace fun state ⟨empty, looping⟩ => ⟨?_, looping⟩
  rw [empty]
  exact .singleton _

theorem finish_pace :
    PaceTriple conf (fun _ => True) (finish lib) (PaceEntry conf) := by
  have leaves : PaceTriple conf (fun _ => True) (call (.leave .doSmppPing))
      fun _ _ => True := by
    refine .call always_about.stable (fun _ => always_about.stable) ?_
    rintro state choice paced - -
    exact ⟨⟨paced, fun _ different same => absurd same different⟩, trivial⟩
  refine leaves.bind fun _ => (unhurried_triple ((smppDisconn_exchange
    lib).mono Op.isExchange.unhurried) always_about).bind fun _ => ?_
  exact (unhurried_triple tcpDisconn_unhurried always_about).bind
    fun _ => continues_pace fun _ _ => trivial

/-- In every run in which no `sms112_tcp_connect` of the loop fails, every
round waits for the deadline a period after the one before. -/
theorem gateway_keepsPace
    {config : Config Res Thread State Label}
    (reach : (gateway conf lib).Reach ReconnectSucceeds gatewayStart
      config) :
    KeepsPace conf config.state.deadlines.reverse :=
  (paceProtocol_tolerant.gateway conf lib
    (fun label => (paceEntry_about label).stable)
    (fun _ _ _ => trivial) (main_pace conf lib) (startPing_pace conf)
    (doSmppPing_pace conf lib) (finish_pace conf lib) .nil rfl
    reach).keepsPace

/-! ## A link check that times out, and a reconnect that fails -/

/-- A link check every minute. -/
def minutely : SConf where
  smppEnqLinkSpan := 60

/-- The link check times out, the ping thread reconnects and waits for the
second deadline. -/
theorem reconnected_keepsPace :
    let config := (gateway minutely referenceCodec).run
      (started ++ steps (.requester 0) 60) gatewayStart
    config.state.deadlines = [⟨120, 0⟩, ⟨60, 0⟩] ∧
      KeepsPace minutely config.state.deadlines.reverse :=
  ⟨by decide +kernel, gateway_keepsPace minutely referenceCodec
    (.run .start (started ++ steps (.requester 0) 60)
      (by decide +kernel))⟩

/-- No socket can be created, and the first deadline is waited for a second
time. -/
theorem socketRefused_waitsAgain :
    ∃ config, (gateway minutely referenceCodec).Reach Machine.unconditional
        gatewayStart config ∧
      ¬ KeepsPace minutely config.state.deadlines.reverse := by
  let schedule := started ++ steps (.requester 0) 38 ++
    stepWith (.requester 0) { ret := -1, errno := 24 } ++
      steps (.requester 0) 4
  refine ⟨(gateway minutely referenceCodec).run schedule gatewayStart,
    .run .start schedule (Machine.admits_unconditional schedule _), ?_⟩
  have waited : ((gateway minutely referenceCodec).run schedule
      gatewayStart).state.deadlines = [⟨60, 0⟩, ⟨60, 0⟩] := by
    decide +kernel
  rw [waited]
  intro pace
  exact absurd (pace.distinct (by decide)) (by decide)

end Sms112
