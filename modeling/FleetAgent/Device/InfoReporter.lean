import FleetAgent.Controller.Error
import FleetAgent.Device
/-!
# Reporting the description of the device

The description is pushed to the controller, but only if it differs from what was pushed last. A
push that fails is not remembered, so that the same description is pushed again.

`InfoReporter.holds` compares a description with the last push that succeeded, and
`InfoReporter.report` pushes it or not.
-/

namespace FleetAgent

open Controller (ClientError)

/-- What is remembered of the pushes of the description. -/
structure InfoReporter where
  /-- The description that was pushed last with success. -/
  lastPushed? : Option DeviceInfo
deriving DecidableEq

namespace InfoReporter

/-- Nothing has been pushed. -/
def fresh : InfoReporter := ⟨none⟩

/-- Whether the description that was pushed last with success is `info`. -/
def holds (r : InfoReporter) (info : DeviceInfo) : Bool :=
  r.lastPushed? = some info

/-- Remembers a description that was pushed. -/
def record (_ : InfoReporter) (info : DeviceInfo) : InfoReporter :=
  ⟨some info⟩

/-- Reports the description `info`. It is pushed unless it was pushed last, and remembered if the
push succeeds. The result tells whether it was pushed; `push` is the result of pushing it. -/
def report (r : InfoReporter) (info : DeviceInfo) (push : Except ClientError Unit) :
    InfoReporter × Except ClientError Bool :=
  if r.holds info then (r, .ok false)
  else match push with
    | .ok () => (r.record info, .ok true)
    | .error e => (r, .error e)

end InfoReporter

end FleetAgent
