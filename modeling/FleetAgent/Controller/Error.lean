import FleetAgent.Controller.Status
import FleetAgent.Log
import FleetAgent.Wire.Decoder
/-!
# What can go wrong with a request

Errors of the way to the controller and back, and those of the client that uses it. Being canceled
is one of them, and the only one that is no failure.

`TransportError` are the errors of the way, `ClientError` those of the client. Both say what may be
done about them: `isCanceled`, `isNotFound`, `isTransient`.
-/

namespace FleetAgent.Controller

/-- What can go wrong on the way to the controller and back. `.refused` is the only one that comes
with a reply. -/
inductive TransportError where
  /-- There is no connection. -/
  | network
  /-- There was no answer in time. -/
  | timeout
  /-- The request was called off. -/
  | canceled
  /-- The controller refused. -/
  | refused (status : Status) (body : String)
  /-- The URL is unusable. -/
  | invalidUrl (url reason : String)
  /-- A connection for messages failed. -/
  | webSocket
deriving Repr, DecidableEq

namespace TransportError

/-- The message for a reader, if it has a fixed wording. -/
def message? : TransportError → Option String
  | .network => none
  | .timeout => some "request timed out"
  | .canceled => some "request canceled"
  | .refused status body => some ("HTTP " ++ status.describe ++ ": " ++ body)
  | .invalidUrl url reason => some ("invalid URL '" ++ url ++ "': " ++ reason)
  | .webSocket => none

/-- The status of a refusal. -/
def status? : TransportError → Option Status
  | .refused status _ => some status
  | _ => none

/-- Whether what was asked for is not there, as the controller says. -/
def isNotFound (e : TransportError) : Bool :=
  e.status? = some .notFound

/-- Whether the request was called off, which nobody needs to be told of. -/
def isCanceled : TransportError → Bool
  | .canceled => true
  | _ => false

/-- Whether the same request may succeed later: there was no reply, or the controller was not up to
it. -/
def isTransient : TransportError → Bool
  | .network | .timeout | .webSocket => true
  | .refused status _ => status.isServerError || status = .tooManyRequests
  | .canceled | .invalidUrl _ _ => false

end TransportError

/-- What can go wrong with a request, also before it is sent and when its reply is read. -/
inductive ClientError where
  /-- On the way to the controller and back. -/
  | transport (e : TransportError)
  /-- The answer is not what it should be; `what` names it. -/
  | decode (what : String) (e : Wire.DecodeError)
  /-- The device has no identity. -/
  | notRegistered
deriving DecidableEq

namespace ClientError

/-- The message for a reader, if it has a fixed wording. -/
def message? : ClientError → Option String
  | .transport e => e.message?
  | .decode _ _ => none
  | .notRegistered => some "device is not registered"

/-- Whether the request was called off. Nothing else is: neither a reply that cannot be read nor a
missing identity. -/
def isCanceled : ClientError → Bool
  | .transport e => e.isCanceled
  | _ => false

/-- Whether what was asked for is not there. -/
def isNotFound : ClientError → Bool
  | .transport e => e.isNotFound
  | _ => false

/-- The error `e` in an event of the log. One without a fixed wording is left out. -/
def logFields (e : ClientError) : List (String × LogValue) :=
  match e.message? with
  | none => []
  | some m => [("error", .text m)]

end ClientError

end FleetAgent.Controller
