import FleetAgent.Controller.Client
import FleetAgent.Device.InfoReporter
import FleetAgent.Surroundings
import FleetAgent.Ticker
/-!
# The loop that reports the description of the device

At every tick the description is collected and reported, until the agent is shut down. To collect it
may take a while, and is given up when the agent is shut down.

The loop is a machine. `InfoLoop.advance?` takes a step of its own, `InfoLoop.collected` takes the
description that was collected, and `InfoLoop.reply` takes the reply to a push.
-/

namespace FleetAgent

open Controller

/-- Where the loop is. It keeps its ticker from the first tick on, so that what it does between two
ticks does not move them. -/
inductive InfoPhase where
  /-- It was created, but has not been run. -/
  | created
  /-- It waits for the next tick. -/
  | idle (ticker : Ticker)
  /-- The description is being collected. -/
  | collecting (ticker : Ticker)
  /-- A description is being pushed. -/
  | pushing (ticker : Ticker) (info : DeviceInfo) (flight : Flight)
  /-- It has ended. -/
  | ended
  /-- It has broken down. -/
  | broken
deriving DecidableEq

/-- The task that reports the description. -/
structure InfoLoop where
  /-- The client that it pushes with. -/
  client : Client
  /-- The context that it runs in. -/
  context : Context
  /-- The time between two looks, in milliseconds. -/
  period : Nat
  /-- What is remembered of the pushes. -/
  reporter : InfoReporter
  /-- Where it is. -/
  phase : InfoPhase

/-- What the loop does to the world. -/
inductive InfoEffect where
  /-- Writes an event to the log. -/
  | log (e : LogEvent)
  /-- Starts to collect the description. -/
  | collect
  /-- Sends a request. -/
  | send (r : Request)

namespace InfoLoop

/-- A loop that has not been run and has reported nothing. -/
def create (client : Client) (context : Context) (period : Nat) : InfoLoop :=
  ⟨client, context, period, .fresh, .created⟩

/-- The loop at another place, with everything else as it was. -/
def moveTo (l : InfoLoop) (phase : InfoPhase) : InfoLoop :=
  { l with phase }

/-- Ends because of the shutdown, and says so. -/
def stop (l : InfoLoop) : InfoLoop × List InfoEffect :=
  (l.moveTo .ended, [.log ⟨.info, "Device info reporter shutting down", []⟩])

/-- Starts to tick at `now`. A period of zero cannot be kept and breaks the loop. -/
def begin (l : InfoLoop) (now : Moment) : InfoLoop × List InfoEffect :=
  (l.moveTo (if l.period = 0 then .broken else .idle (.start l.period now)),
    [.log ⟨.info, "Starting device info reporter",
      [("interval_secs", .number (l.period / 1000))]⟩])

/-- The loop after a push of `info` has ended with `result`. Only one that has succeeded is
remembered, and only one that was called off ends the loop. -/
def pushed (l : InfoLoop) (ticker : Ticker) (info : DeviceInfo)
    (result : Except ClientError Unit) : InfoLoop × List InfoEffect :=
  match result with
  | .ok () =>
    ({ l with phase := .idle ticker, reporter := l.reporter.record info },
      [.log ⟨.debug, "Device info reported", []⟩])
  | .error e =>
    if e.isCanceled then l.stop
    else (l.moveTo (.idle ticker), [.log ⟨.warn, "Failed to report device info", e.logFields⟩])

/-- Reports the description `info`: it is pushed unless it is what was pushed last, and then the
loop waits for the next tick. -/
def report (l : InfoLoop) (s : Surroundings) (ticker : Ticker) (info : DeviceInfo) :
    InfoLoop × List InfoEffect :=
  -- A value that was pushed last sends nothing, also behind a failed push of another one.
  if l.reporter.holds info then (l.moveTo (.idle ticker), [])
  else match l.client.start l.context s.signal s.now (.setInfo info) with
    | .ok request => (l.moveTo (.pushing ticker info ⟨l.context, s.now⟩), [.send request])
    | .error e => l.pushed ticker info (.error e)

/-- The loop after the collecting of a description was interrupted by `i`: the shutdown ends it, and
a deadline costs it this one description. -/
def interrupted (l : InfoLoop) (ticker : Ticker) (i : Interruption) : InfoLoop × List InfoEffect :=
  match i with
  | .canceled => l.stop
  | .timeout =>
    (l.moveTo (.idle ticker),
      [.log ⟨.warn, "Failed to collect device info",
        (ClientError.transport (.ofInterruption i)).logFields⟩])

/-- The next step that the loop can take on its own, if there is one. The shutdown comes before the
tick. -/
def advance? (l : InfoLoop) (s : Surroundings) : Option (InfoLoop × List InfoEffect) :=
  match l.phase with
  | .created => some (l.begin s.now)
  | .idle ticker =>
    -- A shutdown that is seen together with a due tick wins.
    if l.context.isCanceled s.signal then some l.stop
    else if ticker.isDue s.now then some (l.moveTo (.collecting (ticker.take s.now)), [.collect])
    else none
  | .collecting ticker =>
    match l.context.poll s.signal s.now (none : Option DeviceInfo) with
    | some (.error i) => some (l.interrupted ticker i)
    | _ => none
  | .pushing ticker info flight =>
    (flight.poll s.signal s.now (none : Option (Except TransportError Reply))).map fun r =>
      l.pushed ticker info (readDone r)
  | .ended => none
  | .broken => none

/-- The loop after the description `info` was collected. A shutdown that came first still ends
it. -/
def collected (l : InfoLoop) (s : Surroundings) (info : DeviceInfo) : InfoLoop × List InfoEffect :=
  match l.phase with
  | .collecting ticker =>
    match l.context.poll s.signal s.now (some info) with
    | some (.error i) => l.interrupted ticker i
    | some (.ok info) => l.report s ticker info
    | none => (l, [])
  | _ => (l, [])

/-- The loop after the reply `r` to its request. One that nobody waits for changes nothing. -/
def reply (l : InfoLoop) (s : Surroundings) (r : Except TransportError Reply) :
    InfoLoop × List InfoEffect :=
  match l.phase with
  | .pushing ticker info flight =>
    match flight.poll s.signal s.now (some r) with
    | some r => l.pushed ticker info (readDone r)
    | none => (l, [])
  | _ => (l, [])

/-- Whether the loop has ended, in one way or another. -/
def hasEnded (l : InfoLoop) : Bool :=
  match l.phase with
  | .ended | .broken => true
  | _ => false

end InfoLoop

end FleetAgent
