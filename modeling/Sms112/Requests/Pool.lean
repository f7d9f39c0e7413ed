import Sms112.Requests.Calls
import Sms112.Handler.Progress

/-!
# Any number of requesting threads

Any number of threads connect, bind, unbind, check the link and disconnect, in
any order and for ever, beside the receiver. In every run in which requests
are answered, whatever is registered or held belongs to a call in progress. A
request that times out leaves its entry behind.
-/

namespace Sms112

open Resumption

variable (conf : SConf) (lib : Smpp34)

/-- One of the calls a thread may make. -/
def requestingCall : Prog Unit := do
  let which ← call .pick
  if which = 0 then
    let _ ← tcpConnect
  else if which = 1 then
    tcpDisconn
  else if which = 2 then
    let _ ← smppConnect conf lib
  else if which = 3 then
    let _ ← smppDisconn lib
  else
    let _ ← smppEnqLink lib

/-- What every thread of the pool does at a label. -/
def poolCode : Thread → Label → Prog Label
  | .requester _, label => do
      requestingCall conf lib
      return label
  | .receiver, .receive => msgReceiver conf lib
  | .environment, .environment => environment
  | _, _ => .ret .stopped

/-- The requesting threads, the receiver and the environment. -/
def requestPool : Machine Res Thread Choice State Label where
  exec := exec
  code := poolCode conf lib

/-- The receiver has been created, and no call has been made. -/
def poolStart : Config Res Thread State Label where
  state := { receiverCreated := true }
  control
    | .requester _ => .ret .main
    | .receiver => .ret .receive
    | .environment => .ret .environment

/-- What holds where a thread starts over. -/
def poolEntry (thread : Thread) (_ : Label) (state : State) : Prop :=
  thread = .receiver → state.held = []

theorem poolEntry_stable (thread : Thread) (label : Label) :
    requestProtocol.Stable thread (poolEntry thread label) := by
  rintro before after - entry rely - rfl
  exact (rely.held rfl).1.trans (entry rfl)

theorem requestingCall_triple (number : Nat) :
    RequestTriple (.requester number) (fun _ => True)
      (requestingCall conf lib) fun _ _ => True := by
  have done : RequestTriple (.requester number) (fun _ => True)
      (.ret PUnit.unit) fun _ _ => True :=
    .returns idle_stable fun _ _ holds => holds
  refine (plain_call rfl idle_stable).bind fun which => ?_
  refine .ite (fun _ => ?_) fun _ => .ite (fun _ => ?_) fun _ =>
    .ite (fun _ => ?_) fun _ => .ite (fun _ => ?_) fun _ => ?_
  · exact (plain_triple tcpConnect_plain idle_stable).bind fun _ => done
  · exact plain_triple tcpDisconn_plain idle_stable
  · exact (smppConnect_triple lib conf).bind fun _ => done
  · exact (smppDisconn_triple lib).bind fun _ => done
  · exact (smppEnqLink_triple lib).bind fun _ => done

theorem poolCode_triple (thread : Thread) (label : Label) :
    RequestTriple thread (poolEntry thread label) (poolCode conf lib thread
      label) (poolEntry thread) := by
  have stopped : RequestTriple thread (poolEntry thread label)
      (.ret .stopped) (poolEntry thread) :=
    .returns (poolEntry_stable thread .stopped) fun _ _ entry => entry
  unfold poolCode
  split
  next number =>
    refine .consequence (.bind (requestingCall_triple conf lib number)
      fun _ => .returns (poolEntry_stable (.requester number) label) ?_)
        (fun _ _ _ => trivial) fun _ _ _ entry => entry
    rintro _ _ - ⟨⟩
  next =>
    exact (msgReceiver_triple conf lib).consequence
      (fun _ _ entry => entry rfl) fun _ _ _ nothing _ => nothing
  next =>
    refine (plain_triple environment_plain idle_stable).consequence
      (fun _ _ _ => trivial) ?_
    rintro _ _ - - ⟨⟩
  next => exact stopped

theorem poolStart_inv : RequestsInv poolStart.state where
  sending owner linked := by simp [Linked, poolStart, MapReq.owners] at linked
  once := by simp [poolStart, MapReq.owners]
  live entry member := by simp [poolStart] at member
  locked addr data found := by simp [poolStart] at found
  known entry member := by simp [poolStart] at member
  fresh addr data found := by simp [poolStart] at found
  unique addr data other data' found := by simp [poolStart] at found
  accepted seqNum := by simp [poolStart]

/-- In every run in which no wait times out and no `send` fails behind the
registration of its request, what is registered or held belongs to a call in
progress. -/
theorem requestPool_requestsLive
    {config : Config Res Thread State Label}
    (reach : (requestPool conf lib).Reach Answering poolStart config) :
    RequestsLive config.state := by
  have safe (thread : Thread) : requestProtocol.Safe exec Answering thread
      (poolEntry thread) (poolStart.control thread) poolStart.state := by
    have nothing (label : Label) :
        poolEntry thread label poolStart.state := fun _ => rfl
    cases thread <;>
      exact Protocol.Triple.ret (poolEntry _) _ (poolEntry_stable _ _) _
        poolStart_inv (nothing _)
  have inv : RequestsInv config.state :=
    (Protocol.sound (poolCode_triple conf lib) poolStart_inv safe reach).1
  exact inv.requestsLive

/-! ## A bind that is answered and one that is not -/

/-- The connection is opened, and the bind request is sent. -/
def bindSent : List (Thread × (Op → Choice)) :=
  steps (.requester 0) 9 ++ stepWith (.requester 0) { count := 2 } ++
    steps (.requester 0) 6

/-- The response arrives, and the receiver wakes the request. -/
def bindReceived : List (Thread × (Op → Choice)) :=
  arrival 0 (ReferenceCodec.packed (headerPdu BIND_TRANSCEIVER_RESP 1)) ++
    steps .receiver 16

theorem bindReceived_requestsLive :
    RequestsLive ((requestPool {} referenceCodec).run
      (bindSent ++ bindReceived ++ steps (.requester 0) 6) poolStart).state :=
  requestPool_requestsLive {} referenceCodec
    (.run .start _ (by decide +kernel))

/-- The wait for the response times out: the call has returned and its object
is gone, but its entry is in the store. -/
theorem bindTimedOut_registered :
    ∃ config, (requestPool {} referenceCodec).Reach Machine.unconditional
        poolStart config ∧
      ¬RequestsLive config.state := by
  let schedule := bindSent ++ steps (.requester 0) 6
  refine ⟨(requestPool {} referenceCodec).run schedule poolStart,
    .run .start schedule (Machine.admits_unconditional schedule _), ?_⟩
  have registered : ((requestPool {} referenceCodec).run schedule
      poolStart).state.mapReq.length = 1 := by
    decide +kernel
  have returned : ((requestPool {} referenceCodec).run schedule
      poolStart).state.sending.length = 0 := by
    decide +kernel
  intro live
  have bounded := live.bounded
  omega

end Sms112
