import FleetAgent.Controller.Client
import FleetAgent.Supervisor
import FleetAgent.Surroundings
/-!
# Running a supervisor

What a supervisor does about a bundle is run step by step. A report first looks into the push cache;
if it has to push, it sends a request and goes on when the request has ended, and a push that has
succeeded is remembered in the push cache as it is then. `SupervisorRun.advance?` takes a step that
needs nothing from the network, `SupervisorRun.reply` takes the reply to a request.
-/

namespace FleetAgent

open Controller

/-- Where the work of a supervisor is. `next` is what is done with the result that is waited for. -/
inductive SupervisorRun (σ : Type) where
  /-- The next step can be taken. -/
  | running (work : Realization σ)
  /-- A report was pushed, and its request is under way. -/
  | pushing (o : Observation) (flight : Flight) (next : Except ClientError Bool → Realization σ)
  /-- It waits until a moment. -/
  | waiting (wakeAt : Moment) (next : Except Interruption Unit → Realization σ)
  /-- It has come to an end. -/
  | done (state : σ) (result : Except SupervisorError Unit)
  /-- It has broken down. -/
  | broken

/-- What the work of a supervisor does to the world. -/
inductive SupervisorEffect where
  /-- Writes an event to the log. -/
  | log (e : LogEvent)
  /-- Sends a request. -/
  | send (r : Request)

/-- The event for an observation `o` that was pushed, which tells its key and the main part of its
value. -/
def Observation.pushedEvent (o : Observation) : LogEvent :=
  match o with
  | ⟨.applicationStatus, a, v⟩ =>
    ⟨.debug, "Application status reported",
      [("application_id", .text a.text), ("current_release_id", .text v.currentReleaseId)]⟩
  | ⟨.serviceStatus, key, v⟩ =>
    ⟨.debug, "Service status reported",
      [("application_id", .text key.application.text), ("service", .text key.service.text),
        ("current_release_id", .text v.currentReleaseId)]⟩
  | ⟨.serviceState, key, v⟩ =>
    ⟨.debug, "Service state reported",
      [("application_id", .text key.application.text), ("service", .text key.service.text),
        ("state", .text v.state.text)]⟩

namespace SupervisorRun

variable {σ : Type}

/-- Goes on after a push of `o` has ended with `result`. A success is recorded in the cache as it is
then, whatever has been recorded since the push was started. -/
def pushed (cache : PushCache) (o : Observation) (next : Except ClientError Bool → Realization σ)
    (result : Except ClientError Unit) : SupervisorRun σ × PushCache × List SupervisorEffect :=
  match result with
  | .ok () => (.running (next (.ok true)), cache.record o, [.log o.pushedEvent])
  | .error e => (.running (next (.error e)), cache, [])

/-- Takes a step of a realization. A report that the cache holds goes on at once with `.ok false`,
and one that cannot be sent with its error; `.stuck` has no step. -/
def step (client : Client) (ctx : Context) (s : Surroundings) (cache : PushCache) :
    Realization σ → Option (SupervisorRun σ × PushCache × List SupervisorEffect)
  | .done state result => some (.done state result, cache, [])
  | .log e next => some (.running next, cache, [.log e])
  | .report o next =>
    -- The cache is asked when the report is made, before anything is sent.
    if cache.holds o then some (.running (next (.ok false)), cache, [])
    else match client.start ctx s.signal s.now (.setObservation o) with
      | .ok request => some (.pushing o ⟨ctx, s.now⟩ next, cache, [.send request])
      | .error e => some (pushed cache o next (.error e))
  | .wait duration next => some (.waiting (s.now + duration) next, cache, [])
  | .stuck => none
  | .broken => some (.broken, cache, [])

/-- The next step that the work can take on its own, if there is one: a step of the realization, or
the end of a push or a pause that needs no reply. -/
def advance? (client : Client) (ctx : Context) (s : Surroundings) (cache : PushCache)
    (run : SupervisorRun σ) : Option (SupervisorRun σ × PushCache × List SupervisorEffect) :=
  match run with
  | .running work => step client ctx s cache work
  | .pushing o flight next =>
    (flight.poll s.signal s.now (none : Option (Except TransportError Reply))).map fun r =>
      pushed cache o next (readDone r)
  | .waiting wakeAt next =>
    (ctx.poll s.signal s.now (if wakeAt ≤ s.now then some () else none)).map fun r =>
      (.running (next r), cache, [])
  | .done _ _ => none
  | .broken => none

/-- The work after the reply `r` to its request. One that nobody waits for changes nothing. -/
def reply (s : Surroundings) (cache : PushCache) (run : SupervisorRun σ)
    (r : Except TransportError Reply) : SupervisorRun σ × PushCache × List SupervisorEffect :=
  match run with
  | .pushing o flight next =>
    match flight.poll s.signal s.now (some r) with
    | some r => pushed cache o next (readDone r)
    | none => (run, cache, [])
  | _ => (run, cache, [])

end SupervisorRun

end FleetAgent
