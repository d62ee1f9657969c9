import FleetAgent.Text.Blank
/-!
# Levels of the log
-/

namespace FleetAgent

/-- How much is logged, from everything to errors alone. -/
inductive LogLevel where
  | trace
  | debug
  | info
  | warn
  | error
deriving Repr, DecidableEq

namespace LogLevel

/-- The word for a level. -/
def label : LogLevel → String
  | .trace => "trace"
  | .debug => "debug"
  | .info => "info"
  | .warn => "warn"
  | .error => "error"

/-- The place of a level among all, from the one at which everything is logged. What is logged at a
level is what has its rank or more. -/
def rank : LogLevel → Nat
  | .trace => 0
  | .debug => 1
  | .info => 2
  | .warn => 3
  | .error => 4

/-- The level of a text. Blanks around it and capital letters do not matter; there is a second word
for `warn` and one for `error`. -/
def ofText? (s : String) : Option LogLevel :=
  match Text.toAsciiLower (Text.trim s) with
  | "trace" => some .trace
  | "debug" => some .debug
  | "info" => some .info
  | "warn" => some .warn
  | "warning" => some .warn
  | "error" => some .error
  | "fatal" => some .error
  | _ => none

end LogLevel

/-- How the log is written. -/
inductive LogFormat where
  | json
  | pretty
deriving Repr, DecidableEq

end FleetAgent
