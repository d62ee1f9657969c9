import FleetAgent.Context
import FleetAgent.Controller.Error
import FleetAgent.Observation
/-!
# A store with prepared answers

Loops are tried out against a store that does as it is told: it may take its time over each
deletion, let a number of deletions of an observation fail, and shut the agent down when a given
deletion starts.
-/

namespace FleetAgent

open Controller (ClientError)

/-- The name of an observation among those of all kinds: no two kinds share one. -/
def ObservationKind.address (kind : ObservationKind) (key : kind.Key) : String :=
  (match kind with
    | .applicationStatus => "app_status:"
    | .serviceStatus => "svc_status:"
    | .serviceState => "svc_state:") ++ kind.keyText key

/-- Failures that are prepared for an observation. -/
structure PreparedFailure where
  /-- The observation. -/
  address : String
  /-- How many more deletions of it fail. -/
  times : Nat
  /-- How they fail. -/
  error : ClientError

/-- How long a deletion takes, before its result is looked up. -/
inductive StoreDelay where
  /-- No time. -/
  | none
  /-- The given time, in milliseconds. -/
  | time (duration : Nat)
  /-- Until it is called off. -/
  | endless

/-- A deletion that was started. -/
structure Attempt where
  /-- The observation. -/
  address : String
  /-- When it was started. -/
  start : Moment
  /-- Until when it may take. -/
  deadline? : Option Moment
deriving Repr, DecidableEq

/-- A deletion that is under way. -/
structure Deletion where
  /-- The observation. -/
  address : String
  /-- What it waits for, if anything. -/
  wait? : Option Wait

/-- A store with prepared answers. -/
structure ScriptedStore where
  /-- The failures that are prepared, one entry for an observation. -/
  failures : List PreparedFailure
  /-- How long deletions take. -/
  delay : StoreDelay
  /-- How many deletions were started. -/
  started : Nat
  /-- The deletion that shuts the agent down when it starts, counted from one. -/
  shutdownAt? : Option Nat

namespace ScriptedStore

/-- A store in which every deletion succeeds at once. -/
def plain : ScriptedStore := ⟨[], .none, 0, none⟩

/-- Prepares the failures `f` for an observation, in the place of those that were prepared
before. -/
def fail (s : ScriptedStore) (f : PreparedFailure) : ScriptedStore :=
  { s with failures := f :: s.failures.filter (·.address != f.address) }

/-- Starts a deletion at `now` in `ctx`; tells whether it shuts the agent down. -/
def start (s : ScriptedStore) (now : Moment) (address : String) (ctx : Context) :
    ScriptedStore × Deletion × Bool :=
  let started := s.started + 1
  let wait? := match s.delay with
    | .none => none
    | .time duration => some (.sleep ctx now duration)
    | .endless => some (.work ctx none)
  ({ s with started }, ⟨address, wait?⟩, s.shutdownAt? = some started)

/-- The result of a deletion that has taken its time. A prepared failure is used up by it. -/
def result (s : ScriptedStore) (address : String) : ScriptedStore × Except ClientError Unit :=
  match s.failures.find? fun f => f.address == address && 0 < f.times with
  | none => (s, .ok ())
  | some f => (s.fail { f with times := f.times - 1 }, .error f.error)

/-- The error of a deletion that was called off or given up. -/
def interrupted : Interruption → ClientError
  | .canceled => .transport .canceled
  | .timeout => .transport .timeout

/-- The result of the deletion `d`, once it has one. A deletion that is interrupted uses no prepared
failure up. -/
def poll (s : ScriptedStore) (d : Deletion) (signal : Signal) (now : Moment) :
    Option (ScriptedStore × Except ClientError Unit) :=
  match d.wait? with
  | none => some (s.result d.address)
  | some w =>
    (w.poll signal now).map fun
      | .ok () => s.result d.address
      | .error e => (s, .error (interrupted e))

end ScriptedStore

end FleetAgent
