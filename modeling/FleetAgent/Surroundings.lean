import FleetAgent.Context
import FleetAgent.Snapshot
/-!
# What a task sees
-/

namespace FleetAgent

/-- What a task sees when it is run, and what no task changes by itself. -/
structure Surroundings where
  /-- The moment. -/
  now : Moment
  /-- The shutdown signal. -/
  signal : Signal
  /-- The latest bundle. -/
  snapshot : Snapshot

end FleetAgent
