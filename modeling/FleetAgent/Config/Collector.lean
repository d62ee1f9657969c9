/-!
# Settings of the collection of orphans
-/

namespace FleetAgent

/-- How observations are collected. -/
structure CollectorConfig where
  /-- The time between two passes, in milliseconds. -/
  tick : Nat
  /-- The longest time that one deletion may take, in milliseconds. -/
  deleteTimeout : Nat
deriving Repr, DecidableEq

/-- A pass every second, and a minute for each deletion. -/
def CollectorConfig.standard : CollectorConfig := ⟨1000, 60000⟩

end FleetAgent
