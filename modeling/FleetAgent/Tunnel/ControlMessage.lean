import FleetAgent.Wire.Decoder
/-!
# Messages on the control connection

The controller talks to a device over a connection that the device keeps open. A message is either
a sign of life or asks the device to dial back on a path; whatever else it is, it is ignored.

`ControlMessage.action` says what a message asks for, and `ControlMessage.ofNode` decodes it.
-/

namespace FleetAgent

open FleetAgent.Wire

/-- A message on the control connection. All of it but the command may be missing. -/
structure ControlMessage where
  /-- What the message is about. -/
  command : String
  /-- The path to dial back on. -/
  connPath : Option String
  /-- What went wrong at the controller. -/
  err : Option String
deriving Repr, DecidableEq

/-- What a message asks for. -/
inductive ControlAction where
  /-- Nothing; the connection is alive. -/
  | keepAlive
  /-- To dial back on a path. -/
  | dial (path : String)
  /-- Nothing that is understood. -/
  | ignore
deriving Repr, DecidableEq

namespace ControlMessage

/-- What went wrong at the controller, or the empty text. -/
def errorText (m : ControlMessage) : String :=
  m.err.getD ""

/-- What the message `m` asks for. A path is dialled only if it is there, is not empty, and nothing
went wrong at the controller. -/
def action (m : ControlMessage) : ControlAction :=
  if m.command = "keep-alive" then .keepAlive
  else if m.command = "conn-ready" then
    if m.errorText ≠ "" then .ignore
    else match m.connPath with
      | none => .ignore
      | some path => if path = "" then .ignore else .dial path
  else .ignore

/-- The message as JSON. -/
def toJson (m : ControlMessage) : Json :=
  .object (("Command", .text m.command) ::
    Json.memberIfSome "ConnPath" m.connPath ++ Json.memberIfSome "Err" m.err)

/-- The fields of a message that have been filled while it is read. -/
structure Draft where
  command : Option String
  connPath : Option (Option String)
  err : Option (Option String)

/-- The fields of a message, each with its key and the decoder of its value. -/
def slots : List (Slot Draft) :=
  [.of "Command" false Draft.command (fun d a => { d with command := some a }) text,
    .of "ConnPath" true Draft.connPath (fun d a => { d with connPath := some a }) (optional text),
    .of "Err" true Draft.err (fun d a => { d with err := some a }) (optional text)]

/-- The message of the node `n`. A field that is missing and not required is taken as absent. -/
def ofNode (n : Json.Node) : Decoder ControlMessage := do
  let d ← record "ControlMessage" slots ⟨none, none, none⟩ n
  return { command := ← required "Command" d.command,
           connPath := d.connPath.getD none, err := d.err.getD none }

end ControlMessage

end FleetAgent
