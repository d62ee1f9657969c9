import FleetAgent.Collector.Loop
import FleetAgent.Collector.ScriptedStore
/-!
# Trying out a loop

A rehearsal runs loops, and single passes, against a store with prepared answers on a clock that
only moves when told to. At each moment everything that can go on goes on: first a single pass, then
the loops in the order in which they were started, each until it has to wait. Then the clock moves
to the next moment at which something can happen.
-/

namespace FleetAgent

/-- A loop that was started. -/
structure RunningLoop (kind : ObservationKind) where
  /-- The loop. -/
  loop : Loop kind
  /-- The deletion that it waits for. -/
  deletion? : Option Deletion
  /-- The state that it has published. -/
  state : LoopState

/-- A single pass that was started. -/
structure RunningPass (kind : ObservationKind) where
  /-- The pass. -/
  pass : Pass kind.Key
  /-- The context that it runs in. -/
  context : Context
  /-- The deletion that it waits for. -/
  deletion? : Option Deletion

/-- Loops and passes on a clock. -/
structure Rehearsal (kind : ObservationKind) where
  now : Moment
  signal : Signal
  snapshot : Snapshot
  store : ScriptedStore
  config : CollectorConfig
  /-- The context of what is started from now on. -/
  context : Context
  /-- The loops that were started, in order. -/
  loops : List (RunningLoop kind)
  /-- The single pass that was started last. -/
  pass? : Option (RunningPass kind)
  /-- The deletions that were started, the last one first. -/
  attempts : List Attempt
  /-- The log, the last event first. -/
  events : List LogEvent

namespace Rehearsal

variable {kind : ObservationKind}

/-- Nothing has happened. -/
def fresh (kind : ObservationKind) (config : CollectorConfig) (context : Context) :
    Rehearsal kind :=
  ⟨0, .fresh, .empty, .plain, config, context, [], none, [], []⟩

/-- What tasks see. -/
def surroundings (w : Rehearsal kind) : Surroundings := ⟨w.now, w.signal, w.snapshot⟩

/-- Starts a deletion. -/
def startDeletion (w : Rehearsal kind) (key : kind.Key) (ctx : Context) :
    Rehearsal kind × Deletion :=
  let address := kind.address key
  let (store, deletion, shutdown) := w.store.start w.now address ctx
  ({ w with
      store
      signal := if shutdown then w.signal.trigger else w.signal
      attempts := ⟨address, w.now, ctx.deadline?⟩ :: w.attempts }, deletion)

/-- Writes events to the log. -/
def write (w : Rehearsal kind) (events : List LogEvent) : Rehearsal kind :=
  { w with events := events.reverse ++ w.events }

/-! ### Single passes -/

/-- Waits for the deletion that a pass has started, if it is not over. -/
def awaitPass (w : Rehearsal kind) (context : Context) (pass : Pass kind.Key) : Rehearsal kind :=
  match pass.deletion? context w.config.deleteTimeout w.now with
  | none => { w with pass? := some ⟨pass, context, none⟩ }
  | some (key, ctx) =>
    let (w, deletion) := w.startDeletion key ctx
    { w with pass? := some ⟨pass, context, some deletion⟩ }

/-- Goes on with the single pass, if its deletion has ended. -/
def stepPass? (w : Rehearsal kind) : Option (Rehearsal kind) := do
  let p ← w.pass?
  let o ← p.pass.current?
  let (store, result) ← w.store.poll (← p.deletion?) w.signal w.now
  let w := { w with store }.write (kind.deletionEvents o result)
  return w.awaitPass p.context (p.pass.finish (p.context.isCanceled w.signal) result)

/-! ### Loops -/

/-- Carries out what a loop does. -/
def apply (w : Rehearsal kind) (r : RunningLoop kind) :
    List (LoopEffect kind.Key) → Rehearsal kind × RunningLoop kind
  | [] => (w, r)
  | .log e :: rest => (w.write [e]).apply r rest
  | .publish state :: rest => w.apply { r with state } rest
  | .load _ :: rest => w.apply r rest
  | .delete key ctx :: rest =>
    let (w, deletion) := w.startDeletion key ctx
    w.apply { r with deletion? := some deletion } rest

/-- Goes on with a loop, if it can take a step or its deletion has ended. -/
def stepLoop? (w : Rehearsal kind) (r : RunningLoop kind) :
    Option (Rehearsal kind × RunningLoop kind) :=
  match r.loop.advance? w.surroundings with
  | some (loop, effects) => some (w.apply { r with loop } effects)
  | none => do
    let (store, result) ← w.store.poll (← r.deletion?) w.signal w.now
    let w := { w with store }
    let (loop, effects) := r.loop.finish w.surroundings result
    return w.apply { r with loop, deletion? := none } effects

/-! ### The clock -/

/-- No task takes more steps than this before it has to wait. -/
def stepLimit : Nat := 10000000

/-- Goes on with the single pass until it has to wait. -/
def runPass : Nat → Rehearsal kind → Rehearsal kind
  | 0, w => w
  | fuel + 1, w =>
    match w.stepPass? with
    | none => w
    | some w => runPass fuel w

/-- Goes on with a loop until it has to wait. -/
def runLoop : Nat → Rehearsal kind → RunningLoop kind → Rehearsal kind × RunningLoop kind
  | 0, w, r => (w, r)
  | fuel + 1, w, r =>
    match w.stepLoop? r with
    | none => (w, r)
    | some (w, r) => runLoop fuel w r

/-- Goes on with each of the loops until it has to wait. -/
def runLoops (w : Rehearsal kind) :
    List (RunningLoop kind) → Rehearsal kind × List (RunningLoop kind)
  | [] => (w, [])
  | r :: rest =>
    let (w, r) := runLoop stepLimit w r
    let (w, rest) := runLoops w rest
    (w, r :: rest)

/-- Goes on with everything once. -/
def round (w : Rehearsal kind) : Rehearsal kind :=
  let w := runPass stepLimit w
  let (w, loops) := runLoops w w.loops
  { w with loops }

/-- Whether something can go on at this moment. -/
def isReady (w : Rehearsal kind) : Bool :=
  w.stepPass?.isSome || w.loops.any fun r => (w.stepLoop? r).isSome

/-- Goes on with everything until all have to wait. One round after another is needed only when a
task shuts the agent down, so a few are enough. -/
def settle (w : Rehearsal kind) : Rehearsal kind :=
  (List.range 4).foldl (fun w _ => if w.isReady then w.round else w) w

/-- The next moment at which something can happen. -/
def nextMoment? (w : Rehearsal kind) : Option Moment :=
  let deletion (d? : Option Deletion) : Option Moment := do (← (← d?).wait?).nextMoment?
  let pass := (w.pass?.bind fun p => deletion p.deletion?).toList
  let loops := w.loops.flatMap fun r => r.loop.nextMoment?.toList ++ (deletion r.deletion?).toList
  ((pass ++ loops).filter (w.now < ·)).min?

/-- Lets time pass up to a moment, or until there is no more to wait for. -/
def runUntil (limit : Moment) (isOver : Rehearsal kind → Bool) :
    Nat → Rehearsal kind → Rehearsal kind
  | 0, w => w
  | fuel + 1, w =>
    let w := w.settle
    if isOver w then w
    else match w.nextMoment? with
      | none => { w with now := limit }
      | some m =>
        if m ≤ limit then runUntil limit isOver fuel { w with now := m }
        else { w with now := limit }

/-! ### What can be done -/

/-- Lets the given time pass, as far as a sleep may take. -/
def elapse (w : Rehearsal kind) (duration : Nat) : Rehearsal kind :=
  let duration := min duration longestSleep
  runUntil (w.now + duration) (fun _ => false) (duration + 1) w

/-- Stores a bundle. -/
def storeBundle (w : Rehearsal kind) (b : Bundle) : Rehearsal kind :=
  { w with snapshot := w.snapshot.store b }.settle

/-- Triggers the shutdown. -/
def shutdown (w : Rehearsal kind) : Rehearsal kind :=
  { w with signal := w.signal.trigger }.settle

/-- Lets the owner of the signal go away. -/
def dropSignal (w : Rehearsal kind) : Rehearsal kind :=
  { w with signal := w.signal.drop }.settle

/-- Narrows the context of what is started from now on. -/
def limit (w : Rehearsal kind) (timeout : Nat) : Rehearsal kind :=
  { w with context := w.context.withTimeout w.now timeout }

/-- Starts a loop. -/
def spawn (w : Rehearsal kind) : Rehearsal kind :=
  let loop : RunningLoop kind := ⟨.create kind w.config w.context, none, Loop.initialState⟩
  { w with loops := w.loops ++ [loop] }.settle

/-- Aborts the loop that was started last. -/
def abort (w : Rehearsal kind) : Rehearsal kind :=
  match w.loops.reverse with
  | [] => w
  | r :: before =>
    let (loop, effects) := r.loop.abort
    let (w, r) := w.apply { r with loop, deletion? := none } effects
    { w with loops := (r :: before).reverse }.settle

/-- Makes a single pass over the orphans of the current bundle, if there is one. -/
def runOnce (w : Rehearsal kind) : Rehearsal kind × Option PassReport :=
  match w.snapshot.load with
  | none => (w, none)
  | some b =>
    let orphans := kind.orphans b
    let w := w.awaitPass w.context (.start (w.context.isCanceled w.signal) orphans)
    let isOver (w : Rehearsal kind) : Bool :=
      match w.pass? with
      | some ⟨.deleting _ _ _, _, _⟩ => false
      | _ => true
    let time := orphans.length * w.config.deleteTimeout
    let w := runUntil (w.now + time) isOver (time + 1) w
    (w, w.pass?.map (·.pass.report))

/-- Forgets what was done so far. -/
def forget (w : Rehearsal kind) : Rehearsal kind :=
  { w with attempts := [], events := [] }

end Rehearsal

end FleetAgent
