import Sms112.Model.Curl
import Sms112.Model.Dialogs
import Sms112.Model.LoadConf
import Sms112.Model.Threads
import Sms112.Resumption.Refinement

/-!
# The whole process

`main` from its first line to its last: the configuration is loaded, the
libraries are initialised, the worker thread of pjsip is started and the
signals are registered before the gateway begins, and what was set up is
cleaned up when it has ended. Here the SIP requests and the curl sessions are
no longer single operations: the receiver performs them call by call, while
the worker thread handles the messages of the dialogs.

Where `pj_assert` is compiled in, a failed assertion aborts the process. A
signal that nobody has registered ends it, SIGPIPE among them, which `send`
raises when the other side is gone. When `main` returns the process is over,
whatever the other threads are doing.
-/

namespace Sms112
namespace Process

open Resumption

/-! ## What is set up -/

/-- How the program and pjsip were compiled: with `pj_assert`, with `DEBUG`,
and how many events one call of `pjsip_endpt_handle_events` hands over at
most. -/
structure Build where
  assertions : Bool := true
  debug : Bool := true
  maxEvents : Nat := 1

/-- The signals that concern the process. -/
inductive Signal
  | sigterm
  | sigint
  | sigusr1
  | sigusr2
  | sigpipe
  deriving DecidableEq

/-- The signals that start a test in a `DEBUG` build. -/
def testSignals : List Signal := [.sigusr1, .sigusr2]

/-- `pjsip_cred_info` with a plain password. -/
structure CredInfo where
  realm : Octets
  scheme : Octets
  username : Octets
  data : Octets
  deriving DecidableEq

/-- The calls that set something up. -/
inductive Setup
  | logInit (fileMask : Octets)
  | curlGlobalInit
  | pjInit
  | pjlibUtilInit
  | cachingPoolInit
  | endptCreate (name : Octets)
  | udpTransportStart (address : Octets) (port : Nat)
  | tsxLayerInitModule
  | uaInitModule
  | registerModule
  | createPool
  | threadCreate
  | uaInstance
  | authCltInit
  | authCltSetCredentials (credInfo : CredInfo)
  /-- `signal`; where it fails the result is `errno`. -/
  | signal (number : Signal)
  deriving DecidableEq

/-- What a call must be given: without a pool it fails. -/
def Setup.takes : Setup → List Setup
  | .threadCreate | .authCltInit => [.createPool]
  | _ => []

/-- The calls that have no result to fail with. -/
def Setup.isVoid : Setup → Bool
  | .cachingPoolInit | .uaInstance => true
  | _ => false

/-! ## The state and its operations -/

/-- The threads of the gateway, `worker_thread`, and `sig_oper` for the signals
that start a test, as often as it is under way. -/
inductive Thread
  | gateway (thread : Sms112.Thread)
  | worker
  | tester (serial : Nat)
  deriving DecidableEq

/-- The thread that makes the SIP requests, and the main thread. -/
abbrev receiver : Thread := .gateway .receiver
abbrev mainThread : Thread := .gateway (.requester 0)

/-- How the process came to its end. -/
inductive End
  | exited (status : Int)
  | aborted
  | killed (number : Signal)
  deriving DecidableEq

/-- What `sms112_sip_send_req` makes a dialog for. -/
structure SipRequest where
  localName : Octets
  remoteName : Octets
  caller : Octets
  text : Option Octets
  geodata : Octets
  deriving DecidableEq

/-- What `on_tsx_state` reads of a transaction and its event, and the dialog
it belongs to. -/
structure TsxEvent where
  index : Nat
  terminated : Bool
  statusCode : Int

/-- Something was used that is not set up. -/
structure Miss where
  setup : Setup
  /-- `g_bQuitFlag` was set already -/
  cleaningUp : Bool
  deriving DecidableEq

/-- The state of the process. -/
structure State where
  gateway : Sms112.State := {}
  sip : Dialogs.State := {}
  /-- the transfer that a thread is in -/
  curl : Thread → Curl.State := fun _ => {}
  /-- what is set up -/
  made : List Setup := []
  /-- `g_bQuitFlag` -/
  quitFlag : Bool := false
  workerEnded : Bool := false
  ended : Option End := none
  /-- ghost: what the dialogs were created for -/
  requests : Nat → Option SipRequest := fun _ => none
  /-- ghost: the uses of what is not set up, newest first -/
  missed : List Miss := []

/-- The choices of the environment. -/
structure Choice where
  ret : Int := 0
  gateway : Sms112.Choice := {}
  sip : Dialogs.Choice := {}
  curl : Curl.Choice := {}
  tsxEvent : Option TsxEvent := none
  events : Nat := 1
  /-- SIGINT and not SIGTERM -/
  interrupt : Bool := false
  testSignal : Option Signal := none

/-- The atomic operations. -/
inductive Op
  | gateway (operation : Sms112.Op)
  | sip (operation : Dialogs.Op)
  /-- `pjsip_dlg_create_uac` -/
  | createUac (request : SipRequest)
  | curl (operation : Curl.Op)
  /-- `sms112_curl_perf_request` is entered with an empty `p_strResult`. -/
  | enterCurl
  /-- `p_strResult` -/
  | getResult
  /-- What is one operation of the gateway has come to its result. -/
  | settle (operation : Sms112.Op) (result : Sms112.Res operation)
  /-- A look at what belongs to the gateway. -/
  | look (operation : Sms112.Op)
  -- setting up and cleaning up
  | setUp (setup : Setup)
  | inetAton (address : Octets)
  | setQuitFlag
  | getQuitFlag
  | isWorkerCreated
  | endWorker
  /-- `pj_thread_join`: whether the worker has ended -/
  | joinWorker
  | curlGlobalCleanup
  | exit (status : Int)
  | abort
  /-- `pjsip_endpt_handle_events` is entered: how many events it hands over. -/
  | pollEvents
  -- transactions
  /-- The event of a transaction that `on_tsx_state` is called with. -/
  | tsxState
  | authReinitReq
  | endptSendRequest
  -- signals
  /-- SIGTERM or SIGINT is delivered. -/
  | deliver
  /-- SIGUSR1 or SIGUSR2 is delivered, or none of them. -/
  | deliverTest

/-- What each operation returns. -/
@[reducible] def Res : Op → Type
  | .gateway operation | .look operation => Sms112.Res operation
  | .sip operation => Dialogs.Res operation
  | .createUac _ => Nat
  | .curl operation => Curl.Res operation
  | .getResult => Octets
  | .setUp _ | .inetAton _ | .authReinitReq => Int
  | .getQuitFlag | .isWorkerCreated | .joinWorker => Bool
  | .pollEvents => Nat
  | .tsxState => Option TsxEvent
  | .deliverTest => Option Signal
  | _ => Unit

abbrev Prog := Program Res

/-- Perform one operation. -/
abbrev call (operation : Op) : Prog (Res operation) :=
  Program.call operation

/-- The thread of the gateway that a thread is. The others perform none of the
gateway's operations. -/
def Thread.ofGateway : Thread → Sms112.Thread
  | .gateway thread => thread
  | .worker | .tester _ => .environment

/-- The choice with which an operation of the gateway has a given result. -/
def answer : (operation : Sms112.Op) → Sms112.Res operation → Sms112.Choice
  | .sipCall .., iRetVal => { ret := iRetVal }
  | .curl .., outcome => { ret := outcome.1, chunks := outcome.2 }
  | _, _ => {}

section Needs

variable (conf : SConf)

/-- `soCredInfo` -/
def credInfo : CredInfo where
  realm := conf.sipAuthRealm
  scheme := conf.sipAuthScheme
  username := conf.sipAuthUserName
  data := conf.sipAuthPassword

/-- What the endpoint needs to handle its events. -/
def endpointSetups : List Setup :=
  [.pjInit, .pjlibUtilInit, .cachingPoolInit,
    .endptCreate (ascii "sipstateless"),
    .udpTransportStart conf.sipLocalAddr conf.sipLocalPort, .registerModule]

/-- What only `pj_assert` looks after. -/
def assertedSetups : List Setup :=
  [.tsxLayerInitModule, .uaInitModule, .authCltInit,
    .authCltSetCredentials (credInfo conf)]

/-- What a dialog needs. -/
def dialogSetups : List Setup :=
  endpointSetups conf ++ [.createPool, .threadCreate, .uaInstance] ++
    assertedSetups conf

/-- What an operation needs. -/
def needs : Op → List Setup
  | .sip .handleEvents | .tsxState | .pollEvents => endpointSetups conf
  | .sip _ | .createUac _ | .authReinitReq | .endptSendRequest =>
      dialogSetups conf
  | .curl _ | .curlGlobalCleanup => [.curlGlobalInit]
  | .joinWorker => [.threadCreate]
  | _ => []

end Needs

namespace State

variable (state : State)

/-- Something is used. -/
def use (setups : List Setup) : State :=
  { state with
    missed := (setups.filter (· ∉ state.made)).map
      (⟨·, state.quitFlag⟩) ++ state.missed }

/-- A call that sets something up. -/
def setUp (setup : Setup) (ret : Int) : Int × State :=
  if setup.isVoid ∨ ret = 0 ∧ ∀ given ∈ setup.takes, given ∈ state.made then
    (0, { state with made := setup :: state.made })
  else (if ret = 0 then 1 else ret, state)

/-- `sig_oper`, or what the signal does by default. -/
def deliver (number : Signal) (choice : Sms112.Choice) : State :=
  if .signal number ∈ state.made then
    { state with
      gateway := (Sms112.exec .environment .stopSmppReceiverThread choice
        state.gateway).2 }
  else { state with ended := some (.killed number) }

/-- `sig_oper` is entered for a signal that starts a test, or the signal does
what it does by default. -/
def deliverTest : Option Signal → Option Signal × State
  | some number =>
      if .signal number ∈ state.made then (some number, state)
      else (none, { state with ended := some (.killed number) })
  | none => (none, state)

variable {state}

/-- A call sets up what it is for, or fails and changes nothing. -/
theorem setUp_cases (setup : Setup) (ret : Int) :
    (∀ given ∈ setup.takes, given ∈ state.made) ∧
        state.setUp setup ret =
          (0, { state with made := setup :: state.made }) ∨
      ∃ failure, failure ≠ 0 ∧ setup.isVoid = false ∧
        state.setUp setup ret = (failure, state) := by
  unfold setUp
  split
  next succeeds =>
    refine .inl ⟨?_, rfl⟩
    rcases succeeds with isVoid | ⟨-, given⟩
    · cases setup <;> first | exact List.forall_mem_nil _ | cases isVoid
    · exact given
  next fails =>
    rw [not_or] at fails
    refine .inr ⟨_, ?_, Bool.eq_false_iff.mpr fails.1, rfl⟩
    split
    next => decide
    next failed => exact failed

/-- A signal that is registered stops the gateway, any other one kills. -/
theorem deliver_cases (number : Signal) (choice : Sms112.Choice) :
    state.deliver number choice = { state with
        gateway := (Sms112.exec .environment .stopSmppReceiverThread choice
          state.gateway).2 } ∨
      state.deliver number choice =
        { state with ended := some (.killed number) } := by
  unfold deliver
  split
  next => exact .inl rfl
  next => exact .inr rfl

/-- A test is started where its signal is registered; any other signal that
starts one kills. -/
theorem deliverTest_cases (delivered : Option Signal) :
    (∀ number ∈ delivered, .signal number ∈ state.made) ∧
        state.deliverTest delivered = (delivered, state) ∨
      ∃ number, delivered = some number ∧ state.deliverTest delivered =
        (none, { state with ended := some (.killed number) }) := by
  cases delivered with
  | none => exact .inl ⟨nofun, rfl⟩
  | some number =>
      unfold deliverTest
      dsimp only
      split
      next registered =>
        exact .inl ⟨fun _ same => Option.some.inj same ▸ registered, rfl⟩
      next => exact .inr ⟨number, rfl, rfl⟩

end State

def EPIPE : Nat := 32

/-- `send` raises SIGPIPE: there is a socket, and the other side is gone. -/
def raisesSigpipe (state : Sms112.State) :
    (operation : Sms112.Op) → Sms112.Res operation → Bool
  | .send _, (iFnRes, errno) =>
      iFnRes = -1 && errno = EPIPE && state.serial.isSome
  | _, _ => false

/-- The meaning of the operations, each after a note of what it uses. -/
def perform (build : Build) (thread : Thread) : Handler Res Choice State
  | .gateway operation, choice, state =>
      let outcome := Sms112.exec thread.ofGateway operation choice.gateway
        state.gateway
      (outcome.1,
        { state with
          gateway := outcome.2
          ended :=
            if raisesSigpipe state.gateway operation outcome.1 then
              some (.killed .sigpipe)
            else state.ended })
  | .sip operation, choice, state =>
      let outcome := Dialogs.exec operation choice.sip state.sip
      (outcome.1, { state with sip := outcome.2 })
  | .createUac request, choice, state =>
      let outcome := Dialogs.exec .createUac choice.sip state.sip
      (outcome.1,
        { state with
          sip := outcome.2
          requests := Function.update state.requests outcome.1
            (some request) })
  | .curl operation, choice, state =>
      let outcome := Curl.exec operation choice.curl (state.curl thread)
      (outcome.1,
        { state with
          curl := Function.update state.curl thread outcome.2 })
  | .enterCurl, _, state =>
      ((), { state with curl := Function.update state.curl thread {} })
  | .getResult, _, state => ((state.curl thread).result, state)
  | .settle operation result, _, state =>
      ((), { state with
             gateway := (Sms112.exec thread.ofGateway operation
               (answer operation result) state.gateway).2 })
  | .look operation, choice, state =>
      ((Sms112.exec thread.ofGateway operation choice.gateway
        state.gateway).1, state)
  | .setUp setup, choice, state => state.setUp setup choice.ret
  | .inetAton _, choice, state => (choice.ret, state)
  | .setQuitFlag, _, state => ((), { state with quitFlag := true })
  | .getQuitFlag, _, state => (state.quitFlag, state)
  | .isWorkerCreated, _, state => (.threadCreate ∈ state.made, state)
  | .endWorker, _, state => ((), { state with workerEnded := true })
  | .joinWorker, _, state => (state.workerEnded, state)
  | .curlGlobalCleanup, _, state =>
      ((), { state with
             made := state.made.filter (· ≠ .curlGlobalInit) })
  | .exit status, _, state =>
      ((), { state with ended := some (.exited status) })
  | .abort, _, state => ((), { state with ended := some .aborted })
  | .pollEvents, choice, state => (min choice.events build.maxEvents, state)
  | .tsxState, choice, state =>
      (choice.tsxEvent.filter fun event =>
        (state.sip.calls event.index).inviteSent, state)
  | .authReinitReq, choice, state => (choice.ret, state)
  | .endptSendRequest, _, state => ((), state)
  | .deliver, choice, state =>
      ((), state.deliver (if choice.interrupt then .sigint else .sigterm)
        choice.gateway)
  | .deliverTest, choice, state =>
      state.deliverTest (choice.testSignal.filter (· ∈ testSignals))

section Programs

variable (conf : SConf) (lib : Smpp34) (build : Build)

/-- The meaning of the operations. -/
def exec (thread : Thread) : Handler Res Choice State :=
  fun operation choice state =>
    perform build thread operation choice (state.use (needs conf operation))

/-! ## Setting up -/

/-- Where a thread continues. -/
inductive Label
  | boot
  | gateway (label : Sms112.Label)
  | cleanupSip
  | joinWorker
  | cleanupCurl
  | exit (status : Int)
  | work
  /-- in `pjsip_endpt_handle_events`, with so many events to come -/
  | events (left : Nat)
  | signals
  | ended

/-- `pj_assert( false )` -/
def failAssertion : Prog Unit :=
  if build.assertions then call .abort else return ()

/-- A call, and `pj_assert` that it succeeds. -/
def asserted (setup : Setup) : Prog Unit := do
  let tStatus ← call (.setUp setup)
  if tStatus = 0 then
    return ()
  else
    failAssertion build

/-- A call, and `PJ_ASSERT_RETURN` that it succeeds. -/
def required (setup : Setup) (rest : Prog Int) : Prog Int := do
  let tStatus ← call (.setUp setup)
  if tStatus = 0 then
    rest
  else
    failAssertion build
    return 1

/-- `init_auth` -/
def initAuth : Prog Int := do
  asserted build .authCltInit
  asserted build (.authCltSetCredentials (credInfo conf))
  return 0

/-- `sms112_sip_init` after the creation of the worker thread. -/
def sipInitDialogs : Prog Int := do
  let _ ← call (.setUp .uaInstance)
  initAuth conf build

/-- `sms112_sip_init` from the registration of its module on. -/
def sipInitWorker : Prog Int :=
  required build .registerModule do
    let _ ← call (.setUp .createPool)
    required build .threadCreate (sipInitDialogs conf build)

/-- `sms112_sip_init` from the initialisation of the transaction layer on. -/
def sipInitModules : Prog Int := do
  asserted build .tsxLayerInitModule
  asserted build .uaInitModule
  sipInitWorker conf build

/-- `sms112_sip_init` -/
def sipInit : Prog Int :=
  required build .pjInit <| required build .pjlibUtilInit do
    let _ ← call (.setUp .cachingPoolInit)
    required build (.endptCreate (ascii "sipstateless")) do
      let _ ← call (.inetAton conf.sipLocalAddr)
      let converted ← call (.inetAton conf.sipLocalAddr)
      if converted = 0 then
        return -1
      else
        let tStatus ← call
          (.setUp (.udpTransportStart conf.sipLocalAddr conf.sipLocalPort))
        if tStatus = 0 then
          sipInitModules conf build
        else
          return 1

/-- `signal` for one number after the other, up to a failure. -/
def register : List Signal → Prog Int
  | [] => return 0
  | number :: numbers => do
      let iRetVal ← call (.setUp (.signal number))
      if iRetVal = 0 then
        register numbers
      else
        return iRetVal

/-- `sms112_reg_sig` -/
def regSig : Prog Int :=
  register ([.sigterm, .sigint] ++
    if build.debug then testSignals else [])

/-- `main` up to `sms112_tcp_connect`, with the end of `sms112_load_conf`. -/
def main : LoadEnd → Prog Label
  | .threw _ _ => do
      call .abort
      return .ended
  | .returned iFnRes conf => do
      if iFnRes = 0 then
        let iFnRes ← call (.setUp (.logInit conf.logFileMask))
        if iFnRes = 0 then
          let iFnRes ← call (.setUp .curlGlobalInit)
          if iFnRes = 0 then
            let iFnRes ← sipInit conf build
            if iFnRes = 0 then
              let iFnRes ← regSig build
              if iFnRes = 0 then
                return .gateway .main
              else
                return .cleanupSip
            else
              return .cleanupCurl
          else
            return .exit 0
        else
          return .exit iFnRes
      else
        return .exit iFnRes

/-! ## The threads -/

/-- `sms112_sip_send_req` from the creation of its dialog on. -/
def sipSendReq (request : SipRequest) : Prog Int := do
  let index ← call (.createUac request)
  (Dialogs.inDialog index do
    let iRetVal ← Dialog.sendReq conf
    Dialog.call (.note (.returned iRetVal))
    return iRetVal).embed .sip fun _ => id

/-- `sms112_curl_perf_request`, with what it received. -/
def curlPerfRequest (url : Octets) (body contentType : Option Octets) :
    Prog (Int × List Octets) := do
  call .enterCurl
  let iRetVal ← (Curl.perfRequest url body contentType).embed .curl fun _ => id
  let result ← call .getResult
  return (iRetVal, [result])

/-- What the threads of the gateway do for one of its operations. -/
def refine : Sms112.Thread → (operation : Sms112.Op) →
    Prog (Sms112.Res operation)
  | .receiver, .sipCall localName remoteName caller text geodata => do
      let iRetVal ←
        sipSendReq conf ⟨localName, remoteName, caller, text, geodata⟩
      call (.settle (.sipCall localName remoteName caller text geodata)
        iRetVal)
      return iRetVal
  | .receiver, .curl url body contentType => do
      let outcome ← curlPerfRequest url body contentType
      call (.settle (.curl url body contentType) outcome)
      return outcome
  | .environment, .stopSmppReceiverThread => call .deliver
  | _, operation => call (.gateway operation)

/-- A thread of the gateway at one of its labels. -/
def gatewayCode (thread : Sms112.Thread) (label : Sms112.Label) :
    Prog Label := do
  let label ← (Sms112.code conf lib thread label).expand (refine conf thread)
  return .gateway label

/-- `on_tsx_state` -/
def onTsxState (event : TsxEvent) : Prog Unit := do
  if event.terminated then
    return ()
  else if event.statusCode = 401 ∨ event.statusCode = 407 then
    let tStatus ← call .authReinitReq
    if tStatus = 0 then
      call .endptSendRequest
    else
      return ()
  else
    return ()

/-- One event of the endpoint. -/
def handleEvents : Prog Unit := do
  let event ← call .tsxState
  match event with
  | some event => onTsxState event
  | none => Dialogs.workerThread.embed .sip fun _ => id

/-- One round of the loop of `worker_thread`; before its creation the thread
does nothing. -/
def workerThread : Prog Label := do
  let created ← call .isWorkerCreated
  if created then
    let quitFlag ← call .getQuitFlag
    if quitFlag then
      call .endWorker
      return .ended
    else
      let events ← call .pollEvents
      return .events events
  else
    return .work

/-- `pjsip_endpt_handle_events`: one event after the other. -/
def endptHandleEvents : Nat → Prog Label
  | 0 => return .work
  | left + 1 => do
      handleEvents
      return .events left

/-! ## Tests -/

/-- The number that a test is about. -/
def testNumber : Octets := ascii "79506656062"

/-- The text that a test sends, in Windows-1251. -/
def testText : Octets :=
  [0xef, 0xee, 0xec, 0xee, 0xf9, 0xfc, 0x20, 0xed, 0xf3, 0xe6, 0xed, 0xe0, 0x20,
    0xe2, 0xe0, 0xf9, 0xe5, 0xf2, 0xe0]

/-- What a test does for an operation of the gateway. -/
def refineTest : (operation : Sms112.Op) → Prog (Sms112.Res operation)
  | .sipCall localName remoteName caller text geodata =>
      sipSendReq conf ⟨localName, remoteName, caller, text, geodata⟩
  | .curl url body contentType => curlPerfRequest url body contentType
  | operation => call (.look operation)

/-- `sms112_geodata_get`, in a test. -/
def testGeodata : Prog Octets := do
  let (_, str) ← (geodataGet conf (some testNumber) []).expand (refineTest conf)
  return str

/-- The cases SIGUSR1 and SIGUSR2 of the switch in `sig_oper`. -/
def runTest : Option Signal → Prog Unit
  | some .sigusr1 => do
      let _ ← testGeodata conf
      return ()
  | some .sigusr2 => do
      let str ← testGeodata conf
      let _ ← (Sms112.sipSendReq conf testNumber (some testText)
        (cString str)).expand (refineTest conf)
      return ()
  | _ => return ()

/-- `sig_oper` for a signal that starts a test. -/
def sigOper : Prog Label := do
  let number ← call .deliverTest
  runTest conf number
  return .signals

/-- `main` before and after the gateway. -/
def mainCode (loaded : LoadEnd) : Label → Prog Label
  | .boot => main build loaded
  | .gateway .stopped => return .cleanupSip
  | .gateway label => gatewayCode conf lib (.requester 0) label
  | .cleanupSip => do
      call .setQuitFlag
      return .joinWorker
  | .joinWorker => do
      let workerEnded ← call .joinWorker
      if workerEnded then
        return .cleanupCurl
      else
        return .joinWorker
  | .cleanupCurl => do
      call .curlGlobalCleanup
      return .exit 0
  | .exit status => do
      call (.exit status)
      return .ended
  | .work | .events _ | .signals | .ended => return .ended

end Programs

/-- `g_soConf` after `sms112_load_conf`. -/
def loadedConf : LoadEnd → SConf
  | .returned _ conf => conf
  | .threw _ conf => conf

section Machine

variable (lib : Smpp34) (build : Build) (loaded : LoadEnd)

/-- What every thread does at a label. -/
def code : Thread → Label → Prog Label
  | .gateway (.requester 0), label =>
      mainCode (loadedConf loaded) lib build loaded label
  | .gateway thread, .gateway label =>
      gatewayCode (loadedConf loaded) lib thread label
  | .worker, .work => workerThread
  | .worker, .events left => endptHandleEvents left
  | .tester _, .signals => sigOper (loadedConf loaded)
  | _, _ => .ret .ended

/-- The process. -/
def machine : Machine Res Thread Choice State Label where
  exec := exec (loadedConf loaded) build
  code := code lib build loaded

/-- The process when `main` is entered. -/
def start : Config Res Thread State Label where
  state := {}
  control
    | .gateway (.requester 0) => .ret .boot
    | .gateway .receiver => .ret (.gateway .receive)
    | .gateway .environment => .ret (.gateway .environment)
    | .gateway _ => .ret .ended
    | .worker => .ret .work
    | .tester _ => .ret .signals

end Machine

/-! ## Pieces of schedules -/

/-- What the process sets up is there, and the gateway goes by an oracle. -/
def allWorks (oracle : Sms112.Op → Sms112.Choice) : Op → Choice
  | .gateway operation => { gateway := oracle operation }
  | .inetAton _ => { ret := 1 }
  | _ => {}

/-- A thread takes a number of steps with the same choices. -/
def steps (thread : Thread) (count : Nat) (oracle : Op → Choice) :
    List (Thread × (Op → Choice)) :=
  List.replicate count (thread, oracle)

/-- A schedule of the gateway. -/
def ofGateway (schedule : List (Sms112.Thread ×
    (Sms112.Op → Sms112.Choice))) : List (Thread × (Op → Choice)) :=
  schedule.map fun entry => (.gateway entry.1, allWorks entry.2)

/-- The process sets up what it needs, connects and binds. -/
def started : List (Thread × (Op → Choice)) :=
  steps mainThread 22 (allWorks allSucceeds) ++ ofGateway Sms112.started

end Process
end Sms112
