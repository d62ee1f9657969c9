import FleetAgent.Supervisor
/-!
# A supervisor that only writes to the log

This supervisor tells in the log what is asked for, whenever that differs from what was asked for
last. It reports nothing and cannot fail.

`LoggingSupervisor.apply` compares the desired services of a bundle with those that were asked for
last; where they differ, `LoggingSupervisor.bundleEvents` tells of the bundle and of each
application.
-/

namespace FleetAgent

/-- The state of a supervisor that only writes to the log: all that it needs to see whether anything
has changed. -/
structure LoggingSupervisor where
  /-- What was asked for last. -/
  last? : Option DesiredServices

namespace LoggingSupervisor

/-- Nothing has been asked for. -/
def fresh : LoggingSupervisor := ⟨none⟩

/-- The event for the application of `e`, with its latest release and its services in order. -/
def applicationEvent (e : ApplicationEntry) : LogEvent :=
  ⟨.debug, "Desired application", [
    ("application_id", .text e.application.id.text),
    ("release_id", .text ((e.latestRelease.bind (·.id)).getD "")),
    ("services", .text (Text.quoteList (e.services.map (·.text))))]⟩

/-- The events for a bundle `b` that asks for something new: one for the whole, and one for each
application. -/
def bundleEvents (b : Bundle) : List LogEvent :=
  let count := b.desiredServices.applicationCount
  ⟨.info, "Desired state changed", [("application_count", .number count)]⟩ ::
    b.applications.map applicationEvent

/-- Applies a bundle `b`. One that asks for the same services as the last one is worth no event. -/
def apply (s : LoggingSupervisor) (b : Bundle) : LoggingSupervisor × List LogEvent :=
  if s.last? = some b.desiredServices then (s, [])
  else (⟨some b.desiredServices⟩, bundleEvents b)

/-- The supervisor. -/
def supervisor : Supervisor LoggingSupervisor where
  initial := fresh
  apply s b :=
    let (s, events) := s.apply b
    .logAll events (.done s (.ok ()))

end LoggingSupervisor

end FleetAgent
