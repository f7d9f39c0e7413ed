import Mathlib.Logic.Function.Basic
import Sms112.Model.Dialog
import Sms112.Resumption.Instances

/-!
# Many dialogs

The gateway makes one SIP request after the other, each in a dialog of its
own, while the worker thread goes on to handle the messages of every dialog,
those of finished requests included. The dialogs share `g_mapReqLock`. What a
thread does in a dialog is the program of `Sms112.Model.Dialog`, performed on
that dialog.
-/

namespace Sms112
namespace Dialogs

open Resumption
open Dialog (RxMessage ReqLock Event)

/-- What belongs to one dialog alone. -/
structure Call where
  callId : Octets := []
  inviteSent : Bool := false
  log : List Event := []

/-- The dialogs created so far, and the map they share. -/
structure State where
  count : Nat := 0
  calls : Nat → Call := fun _ => {}
  reqLock : ReqLock := ∅

/-- The choices of the environment: those of a dialog, the dialog that the
next message belongs to, and the Call-ID of a new dialog. -/
structure Choice extends Dialog.Choice where
  index : Nat := 0
  callId : Octets := []

/-- The atomic operations. -/
inductive Op
  /-- `pjsip_dlg_create_uac` -/
  | createUac
  /-- The next message that `pjsip_endpt_handle_events` hands over, in the same
  call as the one before or in a later one. -/
  | handleEvents
  | inDialog (index : Nat) (operation : Dialog.Op)

/-- What each operation returns. -/
@[reducible] def Res : Op → Type
  | .createUac => Nat
  | .handleEvents => Option (Nat × RxMessage)
  | .inDialog _ operation => Dialog.Res operation

abbrev Prog := Program Res

/-- Perform one operation. -/
abbrev call (operation : Op) : Prog (Res operation) :=
  Program.call operation

namespace State

variable (state : State)

/-- What the program sees in one dialog. -/
def dialog (index : Nat) : Dialog.State where
  callId := (state.calls index).callId
  reqLock := state.reqLock
  inviteSent := (state.calls index).inviteSent
  log := (state.calls index).log

/-- What a step in one dialog leaves behind. -/
def put (index : Nat) (after : Dialog.State) : State where
  count := state.count
  calls := Function.update state.calls index
    { callId := after.callId
      inviteSent := after.inviteSent
      log := after.log }
  reqLock := after.reqLock

/-- A dialog is created. -/
def create (callId : Octets) : State where
  count := state.count + 1
  calls := Function.update state.calls state.count { callId }
  reqLock := state.reqLock

end State

/-- The meaning of the operations. -/
def exec : Handler Res Choice State
  | .createUac, choice, state => (state.count, state.create choice.callId)
  | .handleEvents, choice, state =>
      match Dialog.exec .handleEvents choice.toChoice
          (state.dialog choice.index) with
      | (some message, after) =>
          (some (choice.index, message), state.put choice.index after)
      | (none, _) => (none, state)
  | .inDialog index operation, choice, state =>
      let outcome :=
        Dialog.exec operation choice.toChoice (state.dialog index)
      (outcome.1, state.put index outcome.2)

/-- A program of a single dialog, performed in one of many. -/
def inDialog {α : Type} (index : Nat) (program : Dialog.Prog α) : Prog α :=
  program.embed (Op.inDialog index) fun _ => id

variable (conf : SConf)

/-- The request in a dialog, and a note of its result. -/
def request : Dialog.Prog Unit := do
  let iRetVal ← Dialog.sendReq conf
  Dialog.call (.note (.returned iRetVal))

/-- A message is handed to its callback, and a note that it was. -/
def handle (message : RxMessage) : Dialog.Prog Unit := do
  let _ ← Dialog.dispatch message
  Dialog.call (.note (.handled message))

/-- The next request. -/
def caller : Prog Unit := do
  let index ← call .createUac
  inDialog index (request conf)

/-- What `worker_thread` does for one message; how many of them a round of its
loop takes is left open. -/
def workerThread : Prog Unit := do
  let event ← call .handleEvents
  match event with
  | some (index, message) => inDialog index (handle message)
  | none => return ()

/-- What every thread does, over and over. -/
def code : Dialog.Thread → Prog Unit
  | .caller => caller conf
  | .worker => workerThread

/-- The thread that makes the requests, and the worker thread. -/
def machine : Machine Res Dialog.Thread Choice State Unit where
  exec := fun _ => exec
  code := fun thread _ => code conf thread

/-- No request was made so far. -/
def start : Config Res Dialog.Thread State Unit where
  state := {}
  control := fun _ => .ret ()

end Dialogs
end Sms112
