import FleetAgent.Controller.Error
import FleetAgent.Desired
import FleetAgent.Text.Cut
/-!
# What can be asked of the controller

Each operation of the controller has a method and a place, which is a list of segments under the
base URL. All places but that of registration lie under the place of the device. Connections for
messages go to the same places under a URL of another scheme.

An `Operation` has a `method` and, but for the registration, a `place?`; `Operation.segments` are
the segments with those of the project and the device. `joinUrl` composes a URL of a base and
segments, and `webSocketUrl` one for messages.
-/

namespace FleetAgent.Controller

/-- How something is asked for, of which three ways are in use. -/
inductive Method where
  | get
  | post
  | delete
deriving Repr, DecidableEq

/-- The word for a method. -/
def Method.label : Method → String
  | .get => "GET"
  | .post => "POST"
  | .delete => "DELETE"

/-- The operations that are requests, each with the identifiers of what it is about. -/
inductive Operation where
  | register
  | getBundle
  | setInfo
  | sendDeviceMetrics
  | sendServiceMetrics
  | setApplicationStatus (a : ApplicationId)
  | deleteApplicationStatus (a : ApplicationId)
  | setServiceStatus (key : ServiceKey)
  | deleteServiceStatus (key : ServiceKey)
  | setServiceState (key : ServiceKey)
  | deleteServiceState (key : ServiceKey)
deriving DecidableEq

/-- The segments of the place of the status of the application `a`, under the device. -/
def applicationStatusPlace (a : ApplicationId) : List String :=
  ["applications", a.text, "deviceapplicationstatuses"]

/-- The segments of the place of an observation of the service `key`, under the device; `collection`
tells the kind of observation. -/
def servicePlace (key : ServiceKey) (collection : String) : List String :=
  ["applications", key.application.text, "services", key.service.text, collection]

namespace Operation

/-- The method of an operation. To set and to delete an observation differ in nothing else. -/
def method : Operation → Method
  | .getBundle => .get
  | .deleteApplicationStatus _ | .deleteServiceStatus _ | .deleteServiceState _ => .delete
  | _ => .post

/-- The segments of the place of an operation, under the device. Registration has none: it comes
before there is a device. -/
def place? : Operation → Option (List String)
  | .register => none
  | .getBundle => some ["bundle"]
  | .setInfo => some ["info"]
  | .sendDeviceMetrics => some ["forwardmetrics", "device"]
  | .sendServiceMetrics => some ["forwardmetrics", "service"]
  | .setApplicationStatus a | .deleteApplicationStatus a => some (applicationStatusPlace a)
  | .setServiceStatus key | .deleteServiceStatus key =>
    some (servicePlace key "deviceservicestatuses")
  | .setServiceState key | .deleteServiceState key =>
    some (servicePlace key "deviceservicestates")

end Operation

/-- The segments of the place of a device. -/
def devicePlace (project : ProjectId) (device : DeviceId) : List String :=
  ["projects", project.text, "devices", device.text]

/-- The segments of the place of registration. -/
def registrationPlace (project : ProjectId) : List String :=
  ["projects", project.text, "devices", "register"]

/-- The segments of the operation `op` for a device of a project. -/
def Operation.segments (project : ProjectId) (device : DeviceId) (op : Operation) : List String :=
  match op.place? with
  | none => registrationPlace project
  | some place => devicePlace project device ++ place

/-- The segments of the connection that carries the tunnel of a device. -/
def connectionPlace (project : ProjectId) (device : DeviceId) : List String :=
  devicePlace project device ++ ["connection"]

/-! ### URLs -/

/-- The URL `base` with `segments` behind it, each behind a slash and as it is written. -/
def joinUrl (base : String) (segments : List String) : String :=
  base ++ String.join (segments.map ("/" ++ ·))

/-- The URL of a connection for messages: the same URL with the scheme `ws` in the place of `http`,
and `wss` in the place of anything else. It is made from the text, so `base` is cut at its first
`://` whatever stands before it. -/
def webSocketUrl (base : String) (segments : List String) : Except TransportError String :=
  let url := joinUrl base segments
  match Text.splitAtText [':', '/', '/'] url.toList with
  | none => .error (.invalidUrl url "missing scheme")
  | some (scheme, rest) =>
    let secure := Text.toAsciiLower (String.ofList scheme) ≠ "http"
    .ok ((if secure then "wss" else "ws") ++ "://" ++ String.ofList rest)

end FleetAgent.Controller
