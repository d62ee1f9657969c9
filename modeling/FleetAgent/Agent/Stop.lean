import FleetAgent.Context
import FleetAgent.Log
/-!
# Stopping tasks

When the agent stops, its tasks are joined one after the other, in the order in which they were
started. They share one deadline: a task that has not ended by then is aborted. A task that has
broken down counts as ended.

What a task would do on its own is known here by its ending alone, so `Stopping.joinAll` tells how
the stopping of any tasks goes.

A task is a `TaskEnding`, and `Stopping.join` joins or aborts one: it ends at the later of the
moment that it is its turn and its own end, or at the deadline. `Stopping` keeps the names of those
that were aborted.
-/

namespace FleetAgent

/-- How a task ends on its own, which is all that the stopping of tasks needs to know of it. -/
structure TaskEnding where
  /-- The name of the task. -/
  name : String
  /-- When it ends; `none` if it never does. -/
  moment? : Option Moment
  /-- Whether it ends by breaking down. -/
  breaksDown : Bool
deriving Repr, DecidableEq

/-- How the stopping of tasks has gone so far. -/
structure Stopping where
  /-- The moment. -/
  now : Moment
  /-- The names of the tasks that were aborted, in order. -/
  aborted : List String
  /-- The moments at which the tasks have ended, in order. -/
  ends : List Moment
  /-- The log, the first event first. -/
  events : List LogEvent
deriving Repr, DecidableEq

namespace Stopping

/-- Nothing has been stopped at the moment `now`. -/
def start (now : Moment) : Stopping := ⟨now, [], [], []⟩

/-- When the task `t` ends on its own, if that is no later than `moment`. -/
def endsBy (t : TaskEnding) (moment : Moment) : Option Moment :=
  t.moment?.filter (· ≤ moment)

/-- The event for a task that has ended. One that broke down is worth an error. -/
def joinedEvent (t : TaskEnding) : LogEvent :=
  if t.breaksDown then ⟨.error, "Task panicked", [("task", .text t.name)]⟩
  else ⟨.debug, "Task stopped", [("task", .text t.name)]⟩

/-- The event for a task that is aborted. -/
def abortedEvent (t : TaskEnding) : LogEvent :=
  ⟨.warn, "Task did not stop within grace period, aborting", [("task", .text t.name)]⟩

/-- Joins a task, or aborts it if it has not ended by the deadline. A task that has ended before it
is its turn is joined at once, even if the deadline has passed by then. -/
def join (deadline : Moment) (s : Stopping) (t : TaskEnding) : Stopping :=
  -- A task whose turn comes behind the deadline is given no more time, but what has ended is
  -- joined.
  let limit := max s.now deadline
  match endsBy t limit with
  | some moment =>
    { s with
      now := max s.now moment
      ends := s.ends ++ [moment]
      events := s.events ++ [joinedEvent t] }
  | none =>
    { now := limit
      aborted := s.aborted ++ [t.name]
      ends := s.ends ++ [limit]
      events := s.events ++ [abortedEvent t] }

/-- Stops `tasks` one after the other from `now` on. They share the deadline `now + grace`, however
many there are. -/
def joinAll (now : Moment) (grace : Nat) (tasks : List TaskEnding) : Stopping :=
  tasks.foldl (join (now + grace)) (start now)

/-- All events of the stopping, with those that frame it. -/
def log (s : Stopping) : List LogEvent :=
  ⟨.info, "Stopping agent", []⟩ :: s.events ++ [⟨.info, "Agent shutdown complete", []⟩]

end Stopping

end FleetAgent
