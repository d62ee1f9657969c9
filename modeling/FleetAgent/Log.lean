import FleetAgent.Config.LogLevel
/-!
# The log

What the agent does is told in events. An event has a level, a message with a fixed wording, and
fields that tell what the message is about.
-/

namespace FleetAgent

/-- The value of a field of an event: a text, or a number that is written in decimal. -/
inductive LogValue where
  | text (s : String)
  | number (n : Nat)
deriving Repr, DecidableEq

/-- An event of the log. Two events are equal if they are written alike. -/
structure LogEvent where
  /-- How much it matters. -/
  level : LogLevel
  /-- What happened. -/
  message : String
  /-- What it is about. -/
  fields : List (String × LogValue)
deriving Repr, DecidableEq

namespace LogEvent

/-- Whether the event `e` tells of something that went wrong, by its level alone. -/
def isComplaint (e : LogEvent) : Bool :=
  match e.level with
  | .warn | .error => true
  | _ => false

/-- Whether the event `e` is written when as much is logged as `level` says. -/
def isShownAt (level : LogLevel) (e : LogEvent) : Bool :=
  level.rank ≤ e.level.rank

end LogEvent

end FleetAgent
