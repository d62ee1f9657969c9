import FleetAgent.Reporting
/-!
# Calls of a reporter

A reporter as it is seen from outside: it gets calls one after the other (`ReporterCall`), and of
each call it can be seen what was pushed and what came of it (`ReporterTurn`).

`PushCache.report` is told beforehand how a push ends. Here whoever pushes is asked only if there is
something to push (`PushCache.reportTo`), and notes what that is; `reportTo_answering` says that
both are the same.
-/

namespace FleetAgent

open Controller (ClientError)

/-! ### Reports that ask for a push -/

namespace PushCache

/-- Reports the observation `o` to whoever pushes it. `push` is asked only if the value is not the
one that was pushed last. -/
def reportTo {m : Type → Type} [Monad m] (push : Observation → m (Except ClientError Unit))
    (c : PushCache) (o : Observation) : m (PushCache × Except ClientError Bool) := do
  if c.holds o then return (c, .ok false)
  match ← push o with
  | .ok () => return (c.record o, .ok true)
  | .error e => return (c, .error e)

/-- Pushes the observation `o`: notes it behind those that were pushed before. The push ends with
`result`. -/
def answering (result : Except ClientError Unit) (o : Observation) :
    StateM (List Observation) (Except ClientError Unit) := do
  modify (· ++ [o])
  return result

/-- A report asks for a push unless the value was pushed last, and goes on with how it ends. -/
theorem reportTo_answering (c : PushCache) (o : Observation) (push : Except ClientError Unit)
    (pushes : List Observation) :
    (c.reportTo (answering push) o).run pushes =
      (c.report o push, if c.holds o then pushes else pushes ++ [o]) := by
  unfold reportTo report
  by_cases h : c.holds o = true
  · simp only [h, if_true]
    rfl
  · simp only [h]
    cases push <;> rfl

end PushCache

/-! ### Calls -/

/-- What a reporter is asked, from outside. -/
inductive ReporterCall where
  /-- To report an observation. If it is pushed, the push ends as told. -/
  | report (o : Observation) (push : Except ClientError Unit)
  /-- To forget all observations of an application. -/
  | forget (a : ApplicationId)
  /-- To forget all observations that are not desired. -/
  | retain (d : DesiredServices)

/-- What is seen of a call from outside. -/
structure ReporterTurn where
  /-- What was asked. -/
  call : ReporterCall
  /-- What was pushed, in order. -/
  pushes : List Observation
  /-- The result, if the call was a report. -/
  result? : Option (Except ClientError Bool)

namespace PushCache

/-- Does what `call` asks, and tells what is seen of it. -/
def perform (c : PushCache) (call : ReporterCall) : PushCache × ReporterTurn :=
  match call with
  | .report o push =>
    let ((c, result), pushes) := (c.reportTo (answering push) o).run []
    (c, ⟨call, pushes, some result⟩)
  | .forget a => (c.forget a, ⟨call, [], none⟩)
  | .retain d => (c.retain d, ⟨call, [], none⟩)

/-- Does what is asked, one call after the other; gives what is seen of each. -/
def performAll (c : PushCache) : List ReporterCall → PushCache × List ReporterTurn
  | [] => (c, [])
  | call :: rest =>
    let (c, turn) := c.perform call
    let (c, turns) := c.performAll rest
    (c, turn :: turns)

/-! ### What is seen of a report -/

section Report

variable {c : PushCache} {o : Observation}

/-- A report pushes what it reports, or nothing, and gives the result of `report`. -/
theorem perform_report (push : Except ClientError Unit) :
    c.perform (.report o push) =
      ((c.report o push).1,
        ⟨.report o push, if c.holds o then [] else [o], some (c.report o push).2⟩) := by
  simp only [perform, reportTo_answering, List.nil_append]

/-- A value that was pushed last is not pushed, and the cache stays as it is. -/
theorem perform_report_of_holds (push : Except ClientError Unit) (h : c.holds o = true) :
    c.perform (.report o push) = (c, ⟨.report o push, [], some (.ok false)⟩) := by
  simp [perform_report, report, h]

theorem perform_report_ok (h : c.holds o = false) :
    c.perform (.report o (.ok ())) = (c.record o, ⟨.report o (.ok ()), [o], some (.ok true)⟩) := by
  simp [perform_report, report, h]

/-- A push that fails is seen, and leaves the cache as it is. -/
theorem perform_report_error (e : ClientError) (h : c.holds o = false) :
    c.perform (.report o (.error e)) = (c, ⟨.report o (.error e), [o], some (.error e)⟩) := by
  simp [perform_report, report, h]

end Report

end PushCache

end FleetAgent
