import FleetAgent.Context
import FleetAgent.Controller.Error
import FleetAgent.Log
import FleetAgent.Observation
/-!
# One pass over the orphans

A pass deletes orphans one after the other. A deletion that fails does not keep the pass from going
on; one that was called off ends it, and so does the shutdown before the next deletion starts.

A pass is a state: either a deletion is under way, or the pass is over. `Pass.start` and
`Pass.finish` go on to the next deletion at once, so that a pass only ever waits for a deletion.

`Pass.next` is the one place that decides whether another deletion starts; `PassReport` is counted
along the way.
-/

namespace FleetAgent

open Controller (ClientError)

/-- How a pass went. Orphans that are neither deleted nor failed were not tried, or called off. -/
structure PassReport where
  /-- How many orphans there were. -/
  orphans : Nat
  /-- How many of them were deleted. -/
  deleted : Nat
  /-- How many deletions failed. -/
  failed : Nat
deriving Repr, DecidableEq

/-- A pass over orphans with keys of type `κ`. It waits for one deletion at a time. -/
inductive Pass (κ : Type) where
  /-- The deletion of an orphan is under way; `rest` comes after it. -/
  | deleting (current : Orphan κ) (rest : List (Orphan κ)) (report : PassReport)
  /-- Nothing more is deleted. -/
  | over (report : PassReport)

namespace Pass

variable {κ : Type}

/-- Goes on with the next of the orphans `rest`, unless the pass is called off or none is left. -/
def next (canceled : Bool) (rest : List (Orphan κ)) (report : PassReport) : Pass κ :=
  match rest with
  | [] => .over report
  | o :: rest => if canceled then .over report else .deleting o rest report

/-- A pass over `orphans`, of which none has been tried. -/
def start (canceled : Bool) (orphans : List (Orphan κ)) : Pass κ :=
  next canceled orphans ⟨orphans.length, 0, 0⟩

/-- The pass after the deletion that was under way has ended with `result`. A failure is counted,
and the pass goes on; what was called off is not counted, and the pass is over. -/
def finish (canceled : Bool) (result : Except ClientError Unit) : Pass κ → Pass κ
  | .over report => .over report
  | .deleting _ rest report =>
    match result with
    | .ok () => next canceled rest { report with deleted := report.deleted + 1 }
    | .error e =>
      -- What is left of the orphans is for the next start: nothing more is tried.
      if e.isCanceled then .over report
      else next canceled rest { report with failed := report.failed + 1 }

/-- How the pass has gone so far, or in the end. -/
def report : Pass κ → PassReport
  | .deleting _ _ report => report
  | .over report => report

/-- The orphan whose deletion is under way. -/
def current? : Pass κ → Option (Orphan κ)
  | .deleting o _ _ => some o
  | .over _ => none

/-- The deletion that is under way if it was started at `now`: of which observation, and in which
context. -/
def deletion? (p : Pass κ) (ctx : Context) (timeout : Nat) (now : Moment) : Option (κ × Context) :=
  p.current?.map fun o => (o.key, ctx.withTimeout now timeout)

end Pass

namespace ObservationKind

/-- What an event about an orphan tells of it. -/
def orphanFields (kind : ObservationKind) (o : Orphan kind.Key) : List (String × LogValue) :=
  [("loop_name", .text kind.label), ("key", .text (kind.keyText o.key)),
    ("reason", .text o.reason.label)]

/-- The events for the end of a deletion of `o` with `result`. One that was called off is not worth
an event. -/
def deletionEvents (kind : ObservationKind) (o : Orphan kind.Key)
    (result : Except ClientError Unit) : List LogEvent :=
  match result with
  | .ok () => [⟨.info, "Deleted orphaned observation", kind.orphanFields o⟩]
  | .error e =>
    if e.isCanceled then []
    else [⟨.warn, "Failed to delete orphaned observation, will retry",
      kind.orphanFields o ++ e.logFields⟩]

end ObservationKind

end FleetAgent
