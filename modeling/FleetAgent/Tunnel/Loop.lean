import FleetAgent.Controller.Dial
import FleetAgent.Surroundings
import FleetAgent.Tunnel.Backoff
import FleetAgent.Tunnel.ControlMessage
/-!
# The tunnel

The agent keeps a connection to the controller open, over which the controller may ask it to dial
back. Each connection that is dialled back is a *session* of its own: it neither waits for the
tunnel nor keeps it waiting, and outlives it when it is opened anew. When the agent is shut down,
all sessions are ended.

Whenever the tunnel cannot be opened, is closed or fails, the agent rests before it opens it again.
How long it rests depends on how many rests there have been since the tunnel was open last, which is
what `Tunnel.attempt` counts.

The tunnel is a machine. `Tunnel.advance?` and `Tunnel.advanceSession?` take steps of their own; the
other steps follow something that comes from the network. `draw` is the random number that a rest
may need.
-/

namespace FleetAgent

open Controller

/-- Where a session is. It takes these places in order, and may skip some. -/
inductive SessionPhase where
  /-- It was created, but has not been run. -/
  | created
  /-- The connection is being dialled. -/
  | dialling
  /-- The connection is served. -/
  | served
  /-- It has ended. -/
  | over
deriving Repr, DecidableEq

/-- A connection that the controller has asked for. -/
structure Session where
  /-- The path that it is dialled at. -/
  path : String
  /-- Where it is. -/
  phase : SessionPhase
deriving Repr, DecidableEq

/-- Where the tunnel is. -/
inductive TunnelPhase where
  /-- It was created, but has not been run. -/
  | created
  /-- It is being opened. -/
  | opening
  /-- It is open. -/
  | serving
  /-- It is opened again at a moment. -/
  | resting (wakeAt : Moment)
  /-- It has ended. -/
  | ended
deriving Repr, DecidableEq

/-- The tunnel, with all sessions that were asked for, also those that have ended. -/
structure Tunnel where
  /-- The client that dials. -/
  client : Client
  /-- The context that everything runs in. -/
  context : Context
  /-- How long it rests. -/
  policy : Backoff
  /-- Where it is. -/
  phase : TunnelPhase
  /-- How many rests there have been since it was open last. -/
  attempt : Nat
  /-- The sessions, in the order in which they were asked for. -/
  sessions : List Session

/-- What the tunnel does to the world. Sessions are told apart by their place in
`Tunnel.sessions`. -/
inductive TunnelEffect where
  /-- Writes an event to the log. -/
  | log (e : LogEvent)
  /-- Dials, to open the tunnel. -/
  | dial (d : Dial)
  /-- Dials back, for a session. -/
  | dialBack (session : Nat) (d : Dial)
  /-- Serves the connection of a session. -/
  | serve (session : Nat)

namespace Tunnel

/-- A tunnel that has not been run. -/
def create (client : Client) (context : Context) (policy : Backoff) : Tunnel :=
  ⟨client, context, policy, .created, 0, []⟩

/-- The greatest number of rests that is told apart. -/
def maxAttempt : Nat := 0xFFFFFFFF

/-- An event. -/
def event (level : LogLevel) (message : String) (fields : List (String × LogValue)) :
    TunnelEffect :=
  .log ⟨level, message, fields⟩

/-- Ends the tunnel and all sessions, and says so. -/
def stop (t : Tunnel) : Tunnel × List TunnelEffect :=
  ({ t with phase := .ended, sessions := t.sessions.map ({ · with phase := .over }) },
    [event .info "Reverse tunnel shutting down" []])

/-- Rests before the tunnel is opened again, as long as the policy says for the rests that there
have been. The rest counts at once. -/
def rest (t : Tunnel) (now : Moment) (draw : Rat) : Tunnel × List TunnelEffect :=
  -- The delay is for the rests so far; the counter saturates instead of starting anew.
  let delay := t.policy.delay t.attempt draw
  ({ t with phase := .resting (now + delay), attempt := min (t.attempt + 1) maxAttempt },
    [event .debug "Reconnecting reverse tunnel" [("delay_ms", .number delay)]])

/-- The tunnel after the attempt to open it has ended with `result`. A success starts the count of
rests anew; an error that was called off ends the tunnel. -/
def opened (t : Tunnel) (now : Moment) (draw : Rat) (result : Except ClientError Unit) :
    Tunnel × List TunnelEffect :=
  match result with
  | .ok () =>
    ({ t with phase := .serving, attempt := 0 }, [event .info "Reverse tunnel connected" []])
  | .error e =>
    -- A shutdown is no failure: the tunnel ends without a rest.
    if e.isCanceled then t.stop
    else
      let warning := event .warn "Failed to open reverse tunnel"
        (e.logFields ++ [("attempt", .number t.attempt)])
      let (t, effects) := t.rest now draw
      (t, warning :: effects)

/-- Opens the tunnel. A request that cannot be sent counts as an attempt that failed. -/
def connect (t : Tunnel) (s : Surroundings) (draw : Rat) : Tunnel × List TunnelEffect :=
  match t.client.startTunnel t.context s.signal s.now with
  | .ok d => ({ t with phase := .opening }, [.dial d])
  | .error e => t.opened s.now draw (.error e)

/-- The tunnel after it has failed with `e`, while it was open. -/
def fail (t : Tunnel) (now : Moment) (draw : Rat) (e : ClientError) :
    Tunnel × List TunnelEffect :=
  if e.isCanceled then t.stop
  else
    let (t, effects) := t.rest now draw
    (t, event .warn "Reverse tunnel failed" e.logFields :: effects)

/-- The error of the interruption `i`. -/
def interrupted (i : Interruption) : ClientError :=
  .transport (.ofInterruption i)

/-- The next step that the tunnel can take on its own, if there is one: it dials, or its context
ends. -/
def advance? (t : Tunnel) (s : Surroundings) (draw : Rat) :
    Option (Tunnel × List TunnelEffect) :=
  match t.phase with
  | .created =>
    let (t, effects) := t.connect s draw
    some (t, event .info "Starting reverse tunnel" [] :: effects)
  | .opening =>
    match t.context.poll s.signal s.now (none : Option Unit) with
    | some (.error i) => some (t.opened s.now draw (.error (interrupted i)))
    | _ => none
  | .serving =>
    match t.context.poll s.signal s.now (none : Option Unit) with
    | some (.error i) => some (t.fail s.now draw (interrupted i))
    | _ => none
  | .resting moment =>
    match t.context.poll s.signal s.now (if moment ≤ s.now then some () else none) with
    | none => none
    | some (.ok ()) => some (t.connect s draw)
    | some (.error _) => some t.stop
  | .ended => none

/-- The tunnel after the reply `reply` to the request that opens it. One that nobody waits for
changes nothing. -/
def answer (t : Tunnel) (s : Surroundings) (draw : Rat) (reply : DialReply) :
    Tunnel × List TunnelEffect :=
  match t.phase with
  | .opening =>
    match t.context.poll s.signal s.now (some ()) with
    | some (.error i) => t.opened s.now draw (.error (interrupted i))
    | _ => t.opened s.now draw reply.result
  | _ => (t, [])

/-- The event for a message `m` that asks for nothing that is understood. -/
def ignoredEvent (m : ControlMessage) : TunnelEffect :=
  if m.errorText ≠ "" then
    event .warn "Controller reported tunnel error"
      [("command", .text m.command), ("error", .text m.errorText)]
  else event .debug "Ignoring tunnel message" [("command", .text m.command)]

/-- Takes the message `payload`. One that cannot be read is ignored, and one that asks to dial back
starts a session. -/
def handle (t : Tunnel) (payload : List UInt8) : Tunnel × List TunnelEffect :=
  match Wire.decode ControlMessage.ofNode payload with
  | .error _ => (t, [event .warn "Ignoring malformed tunnel message" []])
  | .ok m =>
    match m.action with
    | .keepAlive => (t, [event .debug "Tunnel keep-alive" []])
    | .dial path => ({ t with sessions := t.sessions ++ [⟨path, .created⟩] }, [])
    | .ignore => (t, [ignoredEvent m])

/-- What comes over the open tunnel, or becomes of it. -/
inductive Incoming where
  /-- A message. -/
  | message (payload : List UInt8)
  /-- The controller has closed the tunnel. -/
  | closed
  /-- The connection is lost. -/
  | lost

/-- The tunnel after `incoming` has come over it. A context that has ended comes first. -/
def receive (t : Tunnel) (s : Surroundings) (draw : Rat) (incoming : Incoming) :
    Tunnel × List TunnelEffect :=
  match t.phase with
  | .serving =>
    -- What comes over the tunnel is at hand, so only the context can come before it.
    match t.context.poll s.signal s.now (some ()) with
    | some (.error i) => t.fail s.now draw (interrupted i)
    | _ =>
      match incoming with
      | .message payload => t.handle payload
      | .closed =>
        let (t, effects) := t.rest s.now draw
        (t, event .info "Reverse tunnel closed by controller" [] :: effects)
      | .lost => t.fail s.now draw (.transport .webSocket)
  | _ => (t, [])

/-! ### Sessions -/

/-- The tunnel with the session `i` in another place. -/
def setSession (t : Tunnel) (i : Nat) (phase : SessionPhase) : Tunnel :=
  { t with sessions := t.sessions.modify i ({ · with phase }) }

/-- The session `i` after its connection was dialled at `path`, with `result`. One that was called
off is not worth an event. -/
def dialled (t : Tunnel) (i : Nat) (path : String) (result : Except ClientError Unit) :
    Tunnel × List TunnelEffect :=
  match result with
  | .ok () =>
    (t.setSession i .served,
      [event .debug "Reverse connection established" [("conn_path", .text path)], .serve i])
  | .error e =>
    (t.setSession i .over,
      if e.isCanceled then []
      else [event .warn "Reverse dial failed" (("conn_path", .text path) :: e.logFields)])

/-- The next step that the session `i` can take on its own, if there is one: it dials, or its
context ends. -/
def advanceSession? (t : Tunnel) (s : Surroundings) (i : Nat) :
    Option (Tunnel × List TunnelEffect) := do
  let session ← t.sessions[i]?
  match session.phase with
  | .created =>
    match t.client.startDialBack t.context s.signal s.now session.path with
    | .ok d => some (t.setSession i .dialling, [.dialBack i d])
    | .error e => some (t.dialled i session.path (.error e))
  | .dialling =>
    match t.context.poll s.signal s.now (none : Option Unit) with
    | some (.error e) => some (t.dialled i session.path (.error (interrupted e)))
    | _ => none
  -- The connection ends for its own reasons, told by `endSession`.
  | .served => none
  | .over => none

/-- The session `i` after the reply `reply` to the request that dials back. One that nobody waits
for changes nothing. -/
def answerSession (t : Tunnel) (s : Surroundings) (i : Nat) (reply : DialReply) :
    Tunnel × List TunnelEffect :=
  match t.sessions[i]? with
  | some ⟨path, .dialling⟩ =>
    match t.context.poll s.signal s.now (some ()) with
    | some (.error e) => t.dialled i path (.error (interrupted e))
    | _ => t.dialled i path reply.result
  | _ => (t, [])

/-- The session `i` after its connection has been served. -/
def endSession (t : Tunnel) (i : Nat) : Tunnel :=
  match t.sessions[i]? with
  | some ⟨_, .served⟩ => t.setSession i .over
  | _ => t

/-- Whether the tunnel has ended. -/
def hasEnded (t : Tunnel) : Bool := t.phase = .ended

end Tunnel

end FleetAgent
