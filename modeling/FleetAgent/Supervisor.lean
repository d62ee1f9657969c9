import FleetAgent.Context
import FleetAgent.Controller.Error
import FleetAgent.Reporting
/-!
# Supervisors

A supervisor brings the device into the state that a bundle asks for, and reports what it observes.
What it does about a bundle is a *realization*: a tree of steps, each of which goes on with what the
step before it has given. All that a supervisor has is a reporter and the context that it is given,
so a realization can only report and wait; and it may get stuck or break down.

A `Supervisor` gives the `Realization` of a bundle from its state; each step of it has the function
`next` that goes on with the result.
-/

namespace FleetAgent

open Controller (ClientError)

/-- Why a bundle was not applied, as the supervisor tells it to the poller. -/
inductive SupervisorError where
  /-- Something could not be reported. -/
  | client (e : ClientError)
  /-- Anything else. -/
  | other (message : String)
deriving DecidableEq

namespace SupervisorError

/-- The message for a reader, if it has a fixed wording. -/
def message? : SupervisorError → Option String
  | .client e => e.message?
  | .other message => some message

/-- The error in an event of the log. One without a fixed wording is left out. -/
def logFields (e : SupervisorError) : List (String × LogValue) :=
  match e.message? with
  | none => []
  | some m => [("error", .text m)]

end SupervisorError

/-- What a supervisor does about a bundle. `σ` is the type of its states. The functions `next` hold
what it does for each result that it may get, so a realization tells the whole of what the
supervisor would do. -/
inductive Realization (σ : Type) where
  /-- It has come to an end, and the supervisor is in a new state. -/
  | done (state : σ) (result : Except SupervisorError Unit)
  /-- Writes an event to the log. -/
  | log (e : LogEvent) (next : Realization σ)
  /-- Reports an observation; goes on with whether it was pushed. -/
  | report (o : Observation) (next : Except ClientError Bool → Realization σ)
  /-- Waits for the given time; goes on with whether it could. -/
  | wait (duration : Nat) (next : Except Interruption Unit → Realization σ)
  /-- Never goes on. -/
  | stuck
  /-- Breaks down. -/
  | broken

/-- A supervisor whose states are those of type `σ`. What it does depends on its state and the
bundle alone. -/
structure Supervisor (σ : Type) where
  /-- The state that it starts in. -/
  initial : σ
  /-- What it does about a bundle. -/
  apply : σ → Bundle → Realization σ

namespace Realization

variable {σ : Type}

/-- Reports observations one after the other, up to the first that cannot be reported, whose error
becomes that of the supervisor. The state stays `state`. -/
def reportAll (state : σ) : List Observation → Realization σ
  | [] => .done state (.ok ())
  | o :: rest => .report o fun
    | .ok _ => reportAll state rest
    | .error e => .done state (.error (.client e))

/-- Writes `events` to the log first, and then goes on with `next`. -/
def logAll (events : List LogEvent) (next : Realization σ) : Realization σ :=
  events.foldr .log next

end Realization

end FleetAgent
