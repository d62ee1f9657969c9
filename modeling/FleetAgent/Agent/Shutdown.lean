import FleetAgent.Agent
import FleetAgent.Agent.Stop
/-!
# How the tasks of an agent end

Once the agent was shut down, each of its tasks ends at its next step. Only a task that is at work
at something that never ends takes no such step, and goes on until it is aborted.

`Agent.endings` are how the tasks end on their own, in the order in which they were started, and
`Agent.stop` stops them by `Stopping.joinAll`.
-/

namespace FleetAgent

namespace Agent

variable {σ : Type}

/-- How the task `name` ends that has ended by now (`hasEnded`), or never does. -/
def ending (a : Agent σ) (name : String) (hasEnded breaksDown : Bool) : TaskEnding :=
  ⟨name, if hasEnded then some a.now else none, breaksDown⟩

/-- How the collector of `kind` ends. It never breaks down. -/
def collectorEnding (a : Agent σ) (kind : ObservationKind) : TaskEnding :=
  a.ending kind.label (a.collector kind).loop.hasEnded false

/-- How the tasks of `a` end on their own, in the order in which they were started. -/
def endings (a : Agent σ) : List TaskEnding :=
  [a.ending RequestTask.poller.name a.poller.hasEnded (a.poller.phase = .broken),
    a.collectorEnding .applicationStatus, a.collectorEnding .serviceStatus,
    a.collectorEnding .serviceState,
    a.ending RequestTask.info.name a.info.hasEnded (a.info.phase = .broken)] ++
    (a.tunnel?.map fun t => a.ending Tunnel.taskName t.hasEnded false).toList

/-- Stops the tasks of `a`, each no later than the grace period `grace` allows. -/
def stop (a : Agent σ) (grace : Nat) : Stopping :=
  .joinAll a.now grace a.endings

end Agent

end FleetAgent
