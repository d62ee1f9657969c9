import FleetAgent.Bundle
/-!
# The latest bundle

One task stores bundles, many read the latest one. A reader gets a whole bundle, and keeps it when
a newer one is stored.

`Snapshot.load` gives the bundle that was stored last, and `FirstBundle` is the wait for the first
one.
-/

namespace FleetAgent

/-- The latest bundle, if there has been one. It is never taken away again. -/
structure Snapshot where
  /-- The bundle that was stored last. -/
  latest? : Option Bundle

namespace Snapshot

/-- Nothing has been stored. -/
def empty : Snapshot := ⟨none⟩

/-- Replaces the bundle by `b`, whatever was there. -/
def store (_ : Snapshot) (b : Bundle) : Snapshot := ⟨some b⟩

/-- The current bundle. -/
def load (s : Snapshot) : Option Bundle := s.latest?

/-- Whether a bundle has been stored. -/
def isStored (s : Snapshot) : Bool := s.latest?.isSome

@[simp] theorem load_empty : empty.load = none := rfl

@[simp] theorem load_store (s : Snapshot) (b : Bundle) : (s.store b).load = some b := rfl

end Snapshot

/-- One that waits for the first bundle, with the bundle that it got. What it got stays, also when
newer bundles are stored. -/
structure FirstBundle where
  /-- The bundle that was current when it was looked for. -/
  got? : Option Bundle

namespace FirstBundle

/-- Nothing has been seen yet. -/
def waiting : FirstBundle := ⟨none⟩

/-- Looks for a bundle in `s`; one that was found before is kept. -/
def poll (w : FirstBundle) (s : Snapshot) : FirstBundle :=
  ⟨w.got? <|> s.load⟩

end FirstBundle

end FleetAgent
