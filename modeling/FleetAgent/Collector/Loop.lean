import FleetAgent.Collector.Pass
import FleetAgent.Config.Collector
import FleetAgent.Surroundings
import FleetAgent.Ticker
/-!
# The loop that collects orphans

For each kind of observation a loop waits for the first bundle and then makes a pass at every tick,
until the agent is shut down. Each pass works from the bundle that is current when it starts. The
state of the loop is published: it waits, it works, it stops, it is done.

A loop is a machine. `Loop.advance?` takes one step of its own, if it has one to take; when a
deletion is under way it has none, and goes on with `Loop.finish` when the deletion has ended. A
loop may be aborted at any time (`Loop.abort`). What the loop does to the world is told in the
effects of its steps.
-/

namespace FleetAgent

open Controller (ClientError)

/-- The states of a loop that are published, in the order in which a loop goes through them. -/
inductive LoopState where
  /-- There has been no bundle yet. -/
  | waitingForBundle
  /-- Passes are made. -/
  | reconciling
  /-- The shutdown was seen. -/
  | stopping
  /-- The loop has ended. -/
  | done
deriving Repr, DecidableEq

/-- The word for a state. -/
def LoopState.label : LoopState → String
  | .waitingForBundle => "waiting_for_bundle"
  | .reconciling => "reconciling"
  | .stopping => "stopping"
  | .done => "done"

/-- What a loop does to the world, for observations with keys of type `κ`. -/
inductive LoopEffect (κ : Type) where
  /-- Writes an event to the log. -/
  | log (e : LogEvent)
  /-- Publishes its state. -/
  | publish (s : LoopState)
  /-- Takes the current bundle, for a pass over its orphans. -/
  | load (b : Bundle)
  /-- Starts to delete an observation, in a context. -/
  | delete (key : κ) (ctx : Context)

/-- Where a loop is. In `.passing`, a deletion is under way. -/
inductive LoopPhase (κ : Type) where
  /-- It was created, but has not been run. -/
  | created
  /-- It waits for the first bundle. -/
  | waiting
  /-- It waits for the next tick. -/
  | idle (ticker : Ticker)
  /-- It makes a pass over the orphans of a bundle. -/
  | passing (ticker : Ticker) (bundle : Bundle) (pass : Pass κ)
  /-- It has ended. -/
  | ended

/-- A loop for the observations of `kind`. -/
structure Loop (kind : ObservationKind) where
  /-- How it works. -/
  config : CollectorConfig
  /-- The context that it runs in. -/
  context : Context
  /-- Where it is. -/
  phase : LoopPhase kind.Key

namespace Loop

variable {kind : ObservationKind}

/-- A loop that has not been run. -/
def create (kind : ObservationKind) (config : CollectorConfig) (context : Context) : Loop kind :=
  ⟨config, context, .created⟩

/-- The state that is published before the loop is run for the first time. -/
def initialState : LoopState := .waitingForBundle

/-- Whether the loop is called off, in what it sees when it is run. -/
def isCanceled (l : Loop kind) (s : Surroundings) : Bool :=
  l.context.isCanceled s.signal

/-- The loop at another place, with everything else as it was. -/
def moveTo (l : Loop kind) (phase : LoopPhase kind.Key) : Loop kind :=
  { l with phase }

/-- An event of the loop, which tells of which kind the loop is. -/
def event (kind : ObservationKind) (level : LogLevel) (message : String)
    (fields : List (String × LogValue)) : LoopEffect kind.Key :=
  .log ⟨level, message, ("loop_name", .text kind.label) :: fields⟩

/-- The event for a pass that has ended. A pass without orphans is not worth an event. -/
def passEvents (report : PassReport) : List (LoopEffect kind.Key) :=
  if report.orphans = 0 then []
  else [event kind .debug "Reconcile tick complete" [
    ("orphans", .number report.orphans),
    ("deleted", .number report.deleted),
    ("failed", .number report.failed)]]

/-- Goes on with `pass`: starts the next deletion, which may take `deleteTimeout` milliseconds from
`now` on, or waits for the next tick if the pass is over. -/
def resume (l : Loop kind) (now : Moment) (ticker : Ticker) (bundle : Bundle)
    (pass : Pass kind.Key) : Loop kind × List (LoopEffect kind.Key) :=
  match pass with
  | .deleting o _ _ =>
    (l.moveTo (.passing ticker bundle pass),
      [.delete o.key (l.context.withTimeout now l.config.deleteTimeout)])
  | .over report => (l.moveTo (.idle ticker), passEvents report)

/-- The effects of ending because of the shutdown, told with `message`. -/
def farewell (message : String) : List (LoopEffect kind.Key) :=
  [.publish .stopping, event kind .info message [], .publish .done]

/-- Starts to tick. A period of zero cannot be kept, and ends the loop. -/
def begin (l : Loop kind) (now : Moment) : Loop kind × List (LoopEffect kind.Key) :=
  -- The new state is published before the period is looked at, so the end of the loop stands behind
  -- it.
  let effects := [.publish .reconciling,
    event kind .info "Starting reconcile loop" [
      ("tick_interval_ms", .number l.config.tick)]]
  if l.config.tick = 0 then (l.moveTo .ended, effects ++ [.publish .done])
  else (l.moveTo (.idle (.start l.config.tick now)), effects)

/-- Takes a tick: makes a pass over the orphans of the current bundle. Nothing is done if there is
none, and the bundle of the pass stays the same until the pass is over. -/
def tick (l : Loop kind) (s : Surroundings) (ticker : Ticker) :
    Loop kind × List (LoopEffect kind.Key) :=
  let ticker := ticker.take s.now
  -- The bundle is loaded once, and goes along with the pass in `LoopPhase.passing`.
  match s.snapshot.load with
  | none => (l.moveTo (.idle ticker), [])
  | some b =>
    let (l, effects) := l.resume s.now ticker b (.start (l.isCanceled s) (kind.orphans b))
    (l, .load b :: effects)

/-- The next step that the loop can take on its own, if there is one. The shutdown comes before
everything else. During a pass the loop has none: it goes on with `finish`. -/
def advance? (l : Loop kind) (s : Surroundings) :
    Option (Loop kind × List (LoopEffect kind.Key)) :=
  match l.phase with
  | .created =>
    some (l.moveTo .waiting,
      [.publish .waitingForBundle, event kind .debug "Waiting for first bundle" []])
  | .waiting =>
    if l.isCanceled s then
      some (l.moveTo .ended, farewell "Reconcile loop stopped before first bundle")
    else if s.snapshot.isStored then some (l.begin s.now)
    else none
  | .idle ticker =>
    if l.isCanceled s then some (l.moveTo .ended, farewell "Reconcile loop shutting down")
    else if ticker.isDue s.now then some (l.tick s ticker)
    else none
  -- A deletion is waited for through its own context, which follows the shutdown.
  | .passing _ _ _ => none
  | .ended => none

/-- The loop after the deletion that was under way has ended with `result`. A shutdown that was seen
by then ends the pass before its next deletion. -/
def finish (l : Loop kind) (s : Surroundings) (result : Except ClientError Unit) :
    Loop kind × List (LoopEffect kind.Key) :=
  match l.phase with
  | .passing ticker bundle pass =>
    -- The event of the deletion comes before what the loop does next.
    let events := (pass.current?.map fun o => kind.deletionEvents o result).getD []
    let (l, effects) := l.resume s.now ticker bundle (pass.finish (l.isCanceled s) result)
    (l, events.map .log ++ effects)
  | _ => (l, [])

/-- The loop after it was aborted. One that was never run has nothing to clean up. -/
def abort (l : Loop kind) : Loop kind × List (LoopEffect kind.Key) :=
  match l.phase with
  -- The end is published by what the loop sets up when it is run first.
  | .created => (l.moveTo .ended, [])
  | .ended => (l, [])
  | _ => (l.moveTo .ended, [.publish .done])

/-- Whether the loop has ended. -/
def hasEnded (l : Loop kind) : Bool :=
  match l.phase with
  | .ended => true
  | _ => false

/-- The next moment at which the clock alone lets the loop take a step. -/
def nextMoment? (l : Loop kind) : Option Moment :=
  match l.phase with
  | .idle ticker => some ticker.due
  | _ => none

/-! ### What a loop keeps -/

@[simp] theorem context_moveTo (l : Loop kind) (phase : LoopPhase kind.Key) :
    (l.moveTo phase).context = l.context := rfl

@[simp] theorem context_resume (l : Loop kind) (now : Moment) (ticker : Ticker) (b : Bundle)
    (pass : Pass kind.Key) : (l.resume now ticker b pass).1.context = l.context := by
  cases pass <;> rfl

@[simp] theorem context_begin (l : Loop kind) (now : Moment) :
    (l.begin now).1.context = l.context := by
  rw [begin]
  split <;> rfl

@[simp] theorem context_tick (l : Loop kind) (s : Surroundings) (ticker : Ticker) :
    (l.tick s ticker).1.context = l.context := by
  rw [tick]
  split
  · rfl
  · exact context_resume ..

/-- No step moves the loop to another context, which is why a loop that ends with the shutdown
always will. -/
theorem context_advance {l : Loop kind} {s : Surroundings}
    {step : Loop kind × List (LoopEffect kind.Key)} (h : l.advance? s = some step) :
    step.1.context = l.context := by
  rw [advance?] at h
  split at h
  · rw [← Option.some.inj h, context_moveTo]
  · split at h
    · rw [← Option.some.inj h, context_moveTo]
    · split at h
      · rw [← Option.some.inj h, context_begin]
      · cases h
  · split at h
    · rw [← Option.some.inj h, context_moveTo]
    · split at h
      · rw [← Option.some.inj h, context_tick]
      · cases h
  · cases h
  · cases h

@[simp] theorem context_finish (l : Loop kind) (s : Surroundings)
    (result : Except ClientError Unit) : (l.finish s result).1.context = l.context := by
  rw [finish]
  split
  · exact context_resume ..
  · rfl

@[simp] theorem context_abort (l : Loop kind) : l.abort.1.context = l.context := by
  rw [abort]
  split <;> rfl

end Loop

end FleetAgent
