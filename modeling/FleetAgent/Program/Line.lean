import FleetAgent.Controller.Request
import FleetAgent.Log
/-!
# The lines that the program exchanges

The program holds no connections of its own. What it asks of the controller it writes as a line, and
what comes back it reads as a line, so that whatever can carry requests may stand between the two.
A line is a JSON object that names the task whose request it is about. A reply has a status; a line
that names a task and has none tells that there was no reply.
-/

namespace FleetAgent

open Controller

/-- What a line of the input tells of the requests that are under way. -/
inductive Tiding where
  /-- How the request of a task has ended. -/
  | ended (task : String) (r : Except TransportError Reply)
  /-- Nothing. -/
  | nothing

namespace Line

/-- The name under which the device registers, among those of the tasks. -/
def registrationTask : String := "registration"

/-- The line for the request `r` of a task. Members that the request lacks are left out. -/
def ofRequest (task : String) (r : Request) : Json :=
  .object ([("task", .text task), ("method", .text r.method.label), ("target", .text r.target),
    ("userAgent", .text userAgent)] ++
    Json.memberIfSome "authorization" r.authorization? ++
    Json.memberIfSome "contentType" r.contentType? ++ Json.memberIfSome "body" r.body?)

/-- A natural number as JSON. One that does not fit is written as text. -/
def number (n : Nat) : Json :=
  if h : n < 0x10000000000000000 then .number (.integer n (by omega)) else .text (toString n)

/-- The value of a field of an event as JSON. -/
def ofLogValue : LogValue → Json
  | .text s => .text s
  | .number n => number n

/-- The line for an event. -/
def ofEvent (e : LogEvent) : Json :=
  .object (("level", .text e.level.label) :: ("message", .text e.message) ::
    e.fields.map fun (name, v) => (name, ofLogValue v))

/-- The value of a field of an event for a reader. -/
def showLogValue : LogValue → String
  | .text s => Text.quote s
  | .number n => toString n

/-- The text of an event in a format. -/
def showEvent (format : LogFormat) (e : LogEvent) : String :=
  match format with
  | .json => (ofEvent e).compact
  | .pretty => String.intercalate " " (e.level.label.toUpper :: e.message ::
      e.fields.map fun (name, v) => name ++ "=" ++ showLogValue v)

/-- The status that a value stands for, if it does. -/
def status? : Json → Option Status
  | .number (.integer n _) => Status.ofNat? n.toNat
  | _ => none

/-- What the value of a line tells. Without a task it tells nothing, and without a status that there
was no reply. -/
def tiding (v : Json) : Tiding :=
  match (v.get? "task").bind Json.text? with
  | none => .nothing
  | some task =>
    match (v.get? "status").bind status? with
    | none => .ended task (.error .network)
    | some status =>
      let body := ((v.get? "body").bind Json.text?).getD ""
      .ended task (.ok ⟨status, Text.Utf8.encode body⟩)

/-- What a line tells. One that is no JSON tells nothing. -/
def read (bytes : List UInt8) : Tiding :=
  match Wire.decode (fun n => Wire.Decoder.taking (n.take 0)) bytes with
  | .ok v => tiding v
  | .error _ => .nothing

end Line

end FleetAgent
