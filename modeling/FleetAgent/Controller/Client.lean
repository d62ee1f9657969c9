import FleetAgent.Context
import FleetAgent.Controller.Request
import FleetAgent.Url.Parser
/-!
# The client of the controller

A client knows where the controller is and who the device is. Before anything is sent it looks, in
this order, whether the device has an identity (`Client.address`), whether the URL can be used
(`Client.request?`), and whether the context still allows to wait (`Client.allow`); each of them can
end a call without a request. What is sent is a *flight*: it ends with the reply, or when the
context ends, or when there has been no reply for too long (`Flight.poll`).
-/

namespace FleetAgent.Controller

/-- The error for something that is no longer waited for. -/
def TransportError.ofInterruption : Interruption → TransportError
  | .canceled => .canceled
  | .timeout => .timeout

/-- A client of the controller. A device that registers has one without an identity, and all tasks
of an agent share one with it. -/
structure Client where
  /-- The base URL, without slashes at its end. -/
  baseUrl : String
  /-- The project of the device. -/
  project : ProjectId
  /-- The identity of the device, if it has one. -/
  identity? : Option Identity

namespace Client

/-- A client for a device without an identity. Slashes at the end of `baseUrl` do not matter. -/
def create (baseUrl : String) (project : ProjectId) : Client :=
  ⟨Text.dropTrailing '/' baseUrl, project, none⟩

/-- The client `c` for a device with the identity `identity`. -/
def withIdentity (c : Client) (identity : Identity) : Client :=
  { c with identity? := some identity }

/-- The text of the URL of the operation `op`, and who asks. Only registration does without an
identity, and then nobody in particular asks. -/
def address (c : Client) (op : Operation) : Except ClientError (String × Option String) :=
  match op.place?, c.identity? with
  | none, _ => .ok (joinUrl c.baseUrl (registrationPlace c.project), none)
  | some _, none => .error .notRegistered
  | some place, some i =>
    .ok (joinUrl c.baseUrl (devicePlace c.project i.deviceId ++ place),
      authorization? i.accessKey)

/-- The request of `call`; `none` if the URL is one that requests cannot be sent to. A URL that
cannot be parsed is an error that names it. -/
def request? (c : Client) (call : Call) : Except ClientError (Option Request) := do
  let (text, who?) ← c.address call.operation
  match Url.parse text with
  | .error e => throw (.transport (.invalidUrl text e.message))
  | .ok url =>
    if url.scheme = "http" ∨ url.scheme = "https" then
      return some ⟨call.operation.method, url.target, who?, call.body?.map (·.compact)⟩
    else return none

/-- Whether the context `ctx` allows to start something at `now`: it is neither called off nor
expired. -/
def allow (ctx : Context) (signal : Signal) (now : Moment) : Except ClientError Unit :=
  match ctx.poll signal now (none : Option Unit) with
  | some (.error e) => .error (.transport (.ofInterruption e))
  | _ => .ok ()

/-- Starts `call` in `ctx`: the request that is sent, or why there is none. The context is looked at
last, so a call with an unusable URL fails for that even if it is called off. -/
def start (c : Client) (ctx : Context) (signal : Signal) (now : Moment) (call : Call) :
    Except ClientError Request := do
  -- The URL is composed and read before the context is asked.
  let request? ← c.request? call
  allow ctx signal now
  match request? with
  | some r => return r
  | none => throw (.transport .network)

end Client

/-! ### Waiting for a reply -/

/-- A request that was sent, as far as the waiting for its reply goes. -/
structure Flight where
  /-- The context in which its reply is waited for. -/
  context : Context
  /-- When it was sent. -/
  sent : Moment
deriving Repr, DecidableEq

namespace Flight

/-- How long a reply is waited for in any context, in milliseconds. -/
def patience : Nat := 30000

/-- What has become of a request, given the reply `reply?` if there has been one; `none` if it is to
be waited for still. A reply that is there comes before `patience`, and the context before both. -/
def poll {α : Type} (f : Flight) (signal : Signal) (now : Moment)
    (reply? : Option (Except TransportError α)) : Option (Except TransportError α) :=
  -- A reply is looked at before the clock, and both only if the context lets them.
  let given := reply? <|> if f.sent + patience ≤ now then some (.error .timeout) else none
  match f.context.poll signal now given with
  | none => none
  | some (.error e) => some (.error (.ofInterruption e))
  | some (.ok reply) => some reply

/-- A flight in a context that is called off ends as called off, with or without a reply. -/
theorem poll_of_isCanceled {α : Type} {f : Flight} {signal : Signal} (now : Moment)
    (reply? : Option (Except TransportError α)) (h : f.context.isCanceled signal = true) :
    f.poll signal now reply? = some (.error .canceled) := by
  simp [poll, Context.poll_of_isCanceled now _ h, TransportError.ofInterruption]

end Flight

/-- What has become of a call that was started, as long as its result is waited for. -/
inductive Pending where
  /-- Nothing was sent. -/
  | refused (e : ClientError)
  /-- A request was sent. -/
  | sent (flight : Flight)
deriving DecidableEq

/-- Starts `call` in `ctx`; gives what is waited for, and the request if one is sent. -/
def Client.launch (c : Client) (ctx : Context) (signal : Signal) (now : Moment) (call : Call) :
    Pending × Option Request :=
  match c.start ctx signal now call with
  | .ok request => (.sent ⟨ctx, now⟩, some request)
  | .error e => (.refused e, none)

/-- How a call ends, if it does by `now`: as `read` reads the reply to its request, or at once if it
was refused. -/
def Pending.poll {α : Type} (p : Pending) (signal : Signal) (now : Moment)
    (read : Except TransportError Reply → Except ClientError α)
    (reply? : Option (Except TransportError Reply)) : Option (Except ClientError α) :=
  match p with
  | .refused e => some (.error e)
  | .sent flight => (flight.poll signal now reply?).map read

end FleetAgent.Controller
