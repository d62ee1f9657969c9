import FleetAgent.Tunnel.Loop
/-!
# Trying out the tunnel

The tunnel is tried out against a controller that was prepared for its next openings. Over each
tunnel that it opens it sends what was prepared, one thing after the other; when it is dialled back,
it sends some payloads over the new connection, each of which comes back. After the last prepared
opening it does not answer any more, and the agent is shut down. The clock moves only while the
tunnel rests.
-/

namespace FleetAgent

open Controller

/-- Something that comes over the tunnel. -/
structure PreparedIncoming where
  /-- What comes. -/
  incoming : Tunnel.Incoming
  /-- The reply if it makes the agent dial back. -/
  reply : DialReply
  /-- What is sent over the new connection. -/
  payloads : List (List UInt8)

/-- What the controller does when the tunnel is opened. -/
inductive PreparedOpening where
  /-- It does not open it. -/
  | refuse (reply : DialReply)
  /-- It opens it, sends something, and closes it. -/
  | connect (incoming : List PreparedIncoming)

/-- A connection that was dialled back, and what came back over it if there was one. -/
structure DialledSession where
  dial : Dial
  echoed? : Option (List (List UInt8))

/-- An opening of the tunnel. -/
structure OpenedTunnel where
  dial : Dial
  /-- The connections that were dialled back, if the tunnel was opened. -/
  sessions? : Option (List DialledSession)

/-- A tunnel that is tried out. -/
structure TunnelRehearsal where
  tunnel : Tunnel
  now : Moment
  signal : Signal
  /-- The openings so far. -/
  openings : List OpenedTunnel
  /-- The log, without what happens to the connections that are dialled back. -/
  events : List LogEvent

namespace TunnelRehearsal

/-- Nothing has happened. -/
def fresh (t : Tunnel) : TunnelRehearsal := ⟨t, 0, .fresh, [], []⟩

/-- What the tunnel sees. -/
def surroundings (w : TunnelRehearsal) : Surroundings := ⟨w.now, w.signal, .empty⟩

/-- The events among effects. -/
def eventsOf (effects : List TunnelEffect) : List LogEvent :=
  effects.filterMap fun
    | .log e => some e
    | _ => none

/-- The request among effects that opens the tunnel. -/
def dialOf? (effects : List TunnelEffect) : Option Dial :=
  effects.findSome? fun
    | .dial d => some d
    | _ => none

/-- The tunnel after a step. -/
def apply (w : TunnelRehearsal) (step : Tunnel × List TunnelEffect) : TunnelRehearsal :=
  { w with tunnel := step.1, events := w.events ++ eventsOf step.2 }

/-- Lets the rest go by, and opens the tunnel; gives the request. -/
def openTunnel (w : TunnelRehearsal) : TunnelRehearsal × Option Dial :=
  let w := match w.tunnel.phase with
    | .resting wakeAt => { w with now := max w.now wakeAt }
    | _ => w
  match w.tunnel.advance? w.surroundings 0 with
  | none => (w, none)
  | some step => (w.apply step, dialOf? step.2)

/-- Dials back for a session, and serves it. -/
def serveSession (w : TunnelRehearsal) (i : Nat) (p : PreparedIncoming) :
    TunnelRehearsal × Option DialledSession :=
  match w.tunnel.advanceSession? w.surroundings i with
  | some (t, [.dialBack _ d]) =>
    let (t, effects) := t.answerSession w.surroundings i p.reply
    let isServed := effects.any fun
      | .serve _ => true
      | _ => false
    ({ w with tunnel := t.endSession i }, some ⟨d, if isServed then some p.payloads else none⟩)
  | some (t, _) => ({ w with tunnel := t }, none)
  | none => (w, none)

/-- Sends something over the tunnel. -/
def send (w : TunnelRehearsal) (p : PreparedIncoming) : TunnelRehearsal × Option DialledSession :=
  let i := w.tunnel.sessions.length
  let w := w.apply (w.tunnel.receive w.surroundings 0 p.incoming)
  if i < w.tunnel.sessions.length then w.serveSession i p else (w, none)

/-- Sends all that was prepared. -/
def sendAll (w : TunnelRehearsal) : List PreparedIncoming → TunnelRehearsal × List DialledSession
  | [] => (w, [])
  | p :: rest =>
    let (w, session?) := w.send p
    let (w, sessions) := w.sendAll rest
    (w, session?.toList ++ sessions)

/-- Goes through one prepared opening. -/
def goThrough (w : TunnelRehearsal) (p : PreparedOpening) : TunnelRehearsal :=
  match w.openTunnel with
  | (w, none) => w
  | (w, some dial) =>
    match p with
    | .refuse reply =>
      let w := w.apply (w.tunnel.answer w.surroundings 0 reply)
      { w with openings := w.openings ++ [⟨dial, none⟩] }
    | .connect incoming =>
      let w := w.apply (w.tunnel.answer w.surroundings 0 .connected)
      let (w, sessions) := w.sendAll incoming
      let w := w.apply (w.tunnel.receive w.surroundings 0 .closed)
      { w with openings := w.openings ++ [⟨dial, some sessions⟩] }

/-- Opens the tunnel once more, and shuts the agent down. -/
def shutDown (w : TunnelRehearsal) : TunnelRehearsal :=
  let w := { w.openTunnel.1 with signal := w.signal.trigger }
  match w.tunnel.advance? w.surroundings 0 with
  | some step => w.apply step
  | none => w

/-- Goes through all prepared openings, and shuts the agent down. -/
def run (t : Tunnel) (openings : List PreparedOpening) : TunnelRehearsal :=
  (openings.foldl goThrough (fresh t)).shutDown

end TunnelRehearsal

end FleetAgent
