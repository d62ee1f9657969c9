import FleetAgent.Device.InfoReporter
import FleetAgent.Reporting
/-!
# What the controller holds

A reporter only knows how its pushes have ended, and not what the controller has made of them: a
push may be applied although it fails at the device. Here reports are followed together with the
values that the controller holds.

* `ReportLedger` follows reports one after the other, and `InfoLedger` those of the description of
  the device.
* `SharedReporter` follows reports that are under way at the same time. Each of them takes three
  steps, between which others may take theirs: the value is compared with the push cache, the
  controller applies the push, and the value is recorded in the push cache.
-/

namespace FleetAgent

open Controller (ClientError)

/-! ### One report after the other -/

/-- How a push goes, at the controller and at the device, which may see it differently. -/
inductive PushFate where
  /-- The controller applies it, and the device hears so. -/
  | applied
  /-- The controller does not apply it, and it fails at the device. -/
  | rejected (e : ClientError)
  /-- The controller applies it, but it fails at the device. -/
  | lost (e : ClientError)
deriving DecidableEq

namespace PushFate

/-- What the device hears of a push. -/
def result : PushFate → Except ClientError Unit
  | .applied => .ok ()
  | .rejected e => .error e
  | .lost e => .error e

/-- Whether the controller applies a push. -/
def isApplied : PushFate → Bool
  | .applied | .lost _ => true
  | .rejected _ => false

end PushFate

/-- A push cache, and the values that the controller holds, which nobody at the device can see. -/
structure ReportLedger where
  /-- The push cache. -/
  cache : PushCache
  /-- The value that the controller applied last, by kind and key. -/
  held : PushCache

namespace ReportLedger

/-- Nothing has been pushed, and nothing is held. -/
def empty : ReportLedger := ⟨.empty, .empty⟩

/-- Reports the observation `o`. If it is pushed, the push goes as `fate` tells. -/
def report (l : ReportLedger) (o : Observation) (fate : PushFate) :
    ReportLedger × Except ClientError Bool :=
  let (cache, result) := l.cache.report o fate.result
  (⟨cache, if !l.cache.holds o && fate.isApplied then l.held.record o else l.held⟩, result)

/-- Reports observations one after the other; gives the results in order. -/
def reportAll (l : ReportLedger) : List (Observation × PushFate) →
    ReportLedger × List (Except ClientError Bool)
  | [] => (l, [])
  | (o, fate) :: rest =>
    let (l, result) := l.report o fate
    let (l, results) := l.reportAll rest
    (l, result :: results)

end ReportLedger

/-- What is remembered of the pushes of a description, and the description that the controller
holds. -/
structure InfoLedger where
  /-- What is remembered. -/
  reporter : InfoReporter
  /-- The description that the controller applied last. -/
  held? : Option DeviceInfo
deriving DecidableEq

namespace InfoLedger

/-- Nothing has been pushed, and nothing is held. -/
def empty : InfoLedger := ⟨.fresh, none⟩

/-- Reports the description `info`. If it is pushed, the push goes as `fate` tells. -/
def report (l : InfoLedger) (info : DeviceInfo) (fate : PushFate) :
    InfoLedger × Except ClientError Bool :=
  let (reporter, result) := l.reporter.report info fate.result
  (⟨reporter, if !l.reporter.holds info && fate.isApplied then some info else l.held?⟩, result)

/-- Reports descriptions one after the other; gives the results in order. -/
def reportAll (l : InfoLedger) : List (DeviceInfo × PushFate) →
    InfoLedger × List (Except ClientError Bool)
  | [] => (l, [])
  | (info, fate) :: rest =>
    let (l, result) := l.report info fate
    let (l, results) := l.reportAll rest
    (l, result :: results)

end InfoLedger

/-! ### Reports at the same time -/

/-- Where a report is. Between two of these, steps of other reports may come. -/
inductive ReportPhase where
  /-- It has not been compared with the push cache. -/
  | created
  /-- It differs from the push cache, and is being pushed. -/
  | pushing
  /-- The controller has applied the push, which is not recorded. -/
  | applied
  /-- It has ended. -/
  | ended
deriving Repr, DecidableEq

/-- A report that was started. -/
structure StartedReport where
  /-- What is reported. -/
  observation : Observation
  /-- Where it is. -/
  phase : ReportPhase

/-- What can happen next to reports that share a push cache. Reports are told apart by their place
among all that were started. -/
inductive ReportEvent where
  /-- A report is started. -/
  | start (o : Observation)
  /-- A report is compared with the push cache. -/
  | compare (i : Nat)
  /-- The controller applies the push of a report. -/
  | apply (i : Nat)
  /-- The push of a report is recorded. -/
  | record (i : Nat)
  /-- All observations of an application are forgotten. -/
  | forget (a : ApplicationId)
  /-- All observations that are not desired are forgotten. -/
  | retain (d : DesiredServices)

/-- Reports of one reporter, which are under way at the same time. -/
structure SharedReporter where
  /-- The push cache, and what the controller holds. -/
  ledger : ReportLedger
  /-- The reports that were started, in order. -/
  reports : List StartedReport

namespace SharedReporter

/-- Nothing has been reported. -/
def empty : SharedReporter := ⟨.empty, []⟩

/-- The reports with the report `i` in another place. -/
def setPhase (s : SharedReporter) (i : Nat) (phase : ReportPhase) : SharedReporter :=
  { s with reports := s.reports.modify i ({ · with phase }) }

/-- The reports with another push cache. -/
def setCache (s : SharedReporter) (cache : PushCache) : SharedReporter :=
  { s with ledger := { s.ledger with cache } }

/-- The reports after something has happened. A step that a report cannot take changes nothing, so
any list of events is a schedule. -/
def step (s : SharedReporter) : ReportEvent → SharedReporter
  | .start o => { s with reports := s.reports ++ [⟨o, .created⟩] }
  | .compare i =>
    match s.reports[i]? with
    | some ⟨o, .created⟩ => s.setPhase i (if s.ledger.cache.holds o then .ended else .pushing)
    | _ => s
  | .apply i =>
    match s.reports[i]? with
    | some ⟨o, .pushing⟩ =>
      { s with ledger := { s.ledger with held := s.ledger.held.record o } }.setPhase i .applied
    | _ => s
  | .record i =>
    match s.reports[i]? with
    | some ⟨o, .applied⟩ => (s.setCache (s.ledger.cache.record o)).setPhase i .ended
    | _ => s
  | .forget a => s.setCache (s.ledger.cache.forget a)
  | .retain d => s.setCache (s.ledger.cache.retain d)

/-- The reports after several things have happened. -/
def steps (s : SharedReporter) (events : List ReportEvent) : SharedReporter :=
  events.foldl step s

/-- Whether the observation `o` is one of a kind and a key. -/
def isAbout (kind : ObservationKind) (key : kind.Key) (o : Observation) : Bool :=
  if h : o.kind = kind then (h ▸ o.key : kind.Key) = key else false

/-- Whether the push of a report for the key was applied, but is not recorded. -/
def isUnrecorded (s : SharedReporter) (kind : ObservationKind) (key : kind.Key) : Bool :=
  s.reports.any fun r => r.phase = .applied && isAbout kind key r.observation

end SharedReporter

end FleetAgent
