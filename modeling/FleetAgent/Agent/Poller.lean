import FleetAgent.Controller.Client
import FleetAgent.Supervisor
import FleetAgent.Surroundings
import FleetAgent.Ticker
/-!
# Fetching the bundle

The poller fetches the bundle at every tick. What it gets becomes the current bundle; then
everything that is no longer desired is forgotten, and then the supervisor is told, in this order. A
fetch that fails changes nothing. A failure of the supervisor is worth an event and nothing more.

The poller is a machine. `Poller.advance?` takes a step of its own, `Poller.reply` takes the reply
to its request, and `Poller.applied` takes what has become of the supervisor's work.
-/

namespace FleetAgent

open Controller

/-- Where the poller is. It keeps its ticker from the first tick on; while the supervisor is at work
no tick is taken. -/
inductive PollerPhase where
  /-- It was created, but has not been run. -/
  | created
  /-- It waits for the next tick. -/
  | idle (ticker : Ticker)
  /-- The bundle is being fetched. -/
  | fetching (ticker : Ticker) (flight : Flight)
  /-- The supervisor is at work. -/
  | applying (ticker : Ticker)
  /-- It has ended. -/
  | ended
  /-- It has broken down. -/
  | broken
deriving Repr, DecidableEq

/-- The task that fetches the bundle and tells the supervisor. -/
structure Poller where
  /-- The client that it asks with. -/
  client : Client
  /-- The context that it runs in. -/
  context : Context
  /-- The time between two fetches, in milliseconds. -/
  period : Nat
  /-- Where it is. -/
  phase : PollerPhase
  /-- How many fetches have failed since the last one that did not, in 32 bits. -/
  failures : UInt32

/-- What the poller does to the world, or has done by the agent. -/
inductive PollerEffect where
  /-- Writes an event to the log. -/
  | log (e : LogEvent)
  /-- Sends a request. -/
  | send (r : Request)
  /-- Makes a bundle the current one. -/
  | store (b : Bundle)
  /-- Forgets what was pushed and is not desired. -/
  | retain (d : DesiredServices)
  /-- Tells the supervisor. -/
  | apply (b : Bundle)

namespace Poller

/-- A poller that has not been run and of which no fetch has failed. -/
def create (client : Client) (context : Context) (period : Nat) : Poller :=
  ⟨client, context, period, .created, 0⟩

/-- The poller at another place, with everything else as it was. -/
def moveTo (p : Poller) (phase : PollerPhase) : Poller :=
  { p with phase }

/-- Ends because of the shutdown, and says so. -/
def stop (p : Poller) : Poller × List PollerEffect :=
  (p.moveTo .ended, [.log ⟨.info, "Bundle poller shutting down", []⟩])

/-- Up to this many failures in a row are nothing unusual. -/
def patience : UInt32 := 3

/-- The event for a failure `e`, given how many there have been in a row: a warning up to
`patience`, and an error beyond. -/
def failureEvent (failures : UInt32) (e : ClientError) : LogEvent :=
  let fields := e.logFields ++ [("consecutive_failures", .number failures.toNat)]
  if failures ≤ patience then ⟨.warn, "Bundle fetch failed", fields⟩
  else ⟨.error, "Bundle fetch failed repeatedly", fields⟩

/-- The effects of a bundle `b` that was fetched, in this order: it is stored, what it does not
desire is forgotten, and the supervisor is told. -/
def newBundle (b : Bundle) : List PollerEffect :=
  [.store b, .retain b.desiredServices, .apply b]

/-- The poller after a fetch has ended with `result`. A bundle ends the row of failures; an error
that was called off ends the poller; any other counts, and leaves the bundle that is stored. -/
def fetched (p : Poller) (ticker : Ticker) (result : Except ClientError Bundle) :
    Poller × List PollerEffect :=
  match result with
  | .ok b => ({ p with phase := .applying ticker, failures := 0 }, newBundle b)
  | .error e =>
    if e.isCanceled then p.stop
    else
      let failures := p.failures + 1
      ({ p with phase := .idle ticker, failures }, [.log (failureEvent failures e)])

/-- Starts a fetch. A request that cannot be sent counts as a fetch that failed. -/
def fetch (p : Poller) (s : Surroundings) (ticker : Ticker) : Poller × List PollerEffect :=
  match p.client.start p.context s.signal s.now .getBundle with
  | .ok request => (p.moveTo (.fetching ticker ⟨p.context, s.now⟩), [.send request])
  | .error e => p.fetched ticker (.error e)

/-- Starts to tick at `now`. A period of zero cannot be kept and breaks the poller. -/
def begin (p : Poller) (now : Moment) : Poller × List PollerEffect :=
  (p.moveTo (if p.period = 0 then .broken else .idle (.start p.period now)),
    [.log ⟨.info, "Starting bundle poller", [("interval_secs", .number (p.period / 1000))]⟩])

/-- The next step that the poller can take on its own, if there is one. The shutdown comes before
the tick. -/
def advance? (p : Poller) (s : Surroundings) : Option (Poller × List PollerEffect) :=
  match p.phase with
  | .created => some (p.begin s.now)
  | .idle ticker =>
    -- A shutdown and a due tick may be seen at once: the shutdown wins, and no fetch is started.
    if p.context.isCanceled s.signal then some p.stop
    else if ticker.isDue s.now then some (p.fetch s (ticker.take s.now))
    else none
  | .fetching ticker flight =>
    (flight.poll s.signal s.now (none : Option (Except TransportError Reply))).map fun r =>
      p.fetched ticker (readBundle r)
  | .applying _ => none
  | .ended => none
  | .broken => none

/-- The poller after the reply `r` to its request. One that nobody waits for changes nothing. -/
def reply (p : Poller) (s : Surroundings) (r : Except TransportError Reply) :
    Poller × List PollerEffect :=
  match p.phase with
  | .fetching ticker flight =>
    match flight.poll s.signal s.now (some r) with
    -- A flight that was called off by now gives that error here, whatever `r` is.
    | some r => p.fetched ticker (readBundle r)
    | none => (p, [])
  | _ => (p, [])

/-- The poller after the supervisor has come to an end with `result`, whose error is told in the log
and has no other consequence. -/
def applied (p : Poller) (result : Except SupervisorError Unit) : Poller × List PollerEffect :=
  match p.phase with
  | .applying ticker =>
    (p.moveTo (.idle ticker), match result with
      | .ok () => []
      | .error e => [.log ⟨.warn, "Supervisor failed to apply bundle", e.logFields⟩])
  | _ => (p, [])

/-- The poller after the supervisor has broken down, and the poller with it. -/
def breakDown (p : Poller) : Poller :=
  p.moveTo .broken

/-- Whether the poller has ended, in one way or another. -/
def hasEnded (p : Poller) : Bool :=
  match p.phase with
  | .ended | .broken => true
  | _ => false

end Poller

end FleetAgent
