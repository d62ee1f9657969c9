import FleetAgent.Collector.Loop
import FleetAgent.Controller.Client
/-!
# The task that collects orphans

The loop that collects the orphans of a kind, together with the deletion that is under way and the
state that was published last. The loop decides (`Loop.advance?`, `Loop.finish`), and the task
carries out what it decides (`CollectorTask.carryOut`): it sends the requests and waits for their
replies.
-/

namespace FleetAgent

open Controller

/-- The task that collects the orphans of `kind`. -/
structure CollectorTask (kind : ObservationKind) where
  /-- The loop. -/
  loop : Loop kind
  /-- The deletion that the loop waits for. -/
  deletion? : Option Pending
  /-- The state that was published last. -/
  state : LoopState

/-- What the task does to the world. What its loop takes from the snapshot does nothing to it. -/
inductive CollectorEffect where
  /-- Writes an event to the log. -/
  | log (e : LogEvent)
  /-- Publishes the state of the loop. -/
  | publish (s : LoopState)
  /-- Sends a request. -/
  | send (r : Request)

namespace CollectorTask

variable {kind : ObservationKind}

/-- A task that has not been run, with the state that is published before its first step. -/
def create (kind : ObservationKind) (config : CollectorConfig) (context : Context) :
    CollectorTask kind :=
  ⟨.create kind config context, none, Loop.initialState⟩

/-- Carries out what the loop of `t` does, effect by effect: a deletion is started in its context
`ctx` and becomes the one that the task waits for, even if its request is refused. -/
def carryOut (client : Client) (s : Surroundings) (t : CollectorTask kind) :
    List (LoopEffect kind.Key) → CollectorTask kind × List CollectorEffect
  | [] => (t, [])
  | .log e :: rest =>
    let (t, effects) := carryOut client s t rest
    (t, .log e :: effects)
  | .publish state :: rest =>
    let (t, effects) := carryOut client s { t with state } rest
    (t, .publish state :: effects)
  | .load _ :: rest => carryOut client s t rest
  | .delete key ctx :: rest =>
    let (pending, request?) := client.launch ctx s.signal s.now (.deleteObservation kind key)
    let (t, effects) := carryOut client s { t with deletion? := some pending } rest
    (t, (request?.map .send).toList ++ effects)

/-- The task after its deletion has ended with `result`, and its loop has gone on. -/
def finish (client : Client) (s : Surroundings) (t : CollectorTask kind)
    (result : Except ClientError Unit) : CollectorTask kind × List CollectorEffect :=
  let (loop, effects) := t.loop.finish s result
  carryOut client s { t with loop, deletion? := none } effects

/-- The next step that the task can take on its own, if there is one. If the loop has none, the
deletion may have ended without a reply: it was refused, called off or given up. -/
def advance? (client : Client) (s : Surroundings) (t : CollectorTask kind) :
    Option (CollectorTask kind × List CollectorEffect) :=
  match t.loop.advance? s with
  | some (loop, effects) => some (carryOut client s { t with loop } effects)
  | none =>
    (t.deletion?.bind fun p => p.poll s.signal s.now readDeletion none).map (finish client s t)

/-- The task after the reply `r` to its request. Without a deletion under way nothing happens. -/
def reply (client : Client) (s : Surroundings) (t : CollectorTask kind)
    (r : Except TransportError Reply) : CollectorTask kind × List CollectorEffect :=
  match t.deletion?.bind fun p => p.poll s.signal s.now readDeletion (some r) with
  | some result => finish client s t result
  | none => (t, [])

end CollectorTask

end FleetAgent
