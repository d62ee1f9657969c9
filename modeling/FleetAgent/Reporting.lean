import FleetAgent.Controller.Error
import FleetAgent.Device
import FleetAgent.Observation
/-!
# Reporting observations

What is observed on the device is pushed to the controller, but only if it differs from what was
pushed last for the same key. The *push cache* holds the values that were pushed successfully. What
the controller may have deleted is forgotten, so that it is pushed again when it comes back:
`PushCache.forget` for one application, `PushCache.retain` for all that is no longer desired.

Every operation says what it does to the view `PushCache.get?`.
-/

namespace FleetAgent

open Controller (ClientError)

/-! ### Observations with their values -/

namespace ObservationKind

/-- What is observed of a kind: the release that runs, or the state of a service. -/
abbrev Value : ObservationKind → Type
  | .applicationStatus => ReleaseReport
  | .serviceStatus => ReleaseReport
  | .serviceState => ServiceStateReport

instance (kind : ObservationKind) : DecidableEq kind.Value :=
  match kind with
  | .applicationStatus => inferInstanceAs (DecidableEq ReleaseReport)
  | .serviceStatus => inferInstanceAs (DecidableEq ReleaseReport)
  | .serviceState => inferInstanceAs (DecidableEq ServiceStateReport)

/-- A value as JSON. -/
def valueJson : (kind : ObservationKind) → kind.Value → Json
  | .applicationStatus, v => v.toJson
  | .serviceStatus, v => v.toJson
  | .serviceState, v => v.toJson

/-- The application that the key of a kind belongs to. -/
def application : (kind : ObservationKind) → kind.Key → ApplicationId
  | .applicationStatus, a => a
  | .serviceStatus, key => key.application
  | .serviceState, key => key.application

/-- Whether the observation of a kind with a key may exist, given the services that are desired. -/
def isDesired : (kind : ObservationKind) → DesiredServices → kind.Key → Bool
  | .applicationStatus, d, a => d.containsApplication a
  | .serviceStatus, d, key => d.contains key
  | .serviceState, d, key => d.contains key

/-- The request that sets the observation of a kind with a key. -/
def assignment : (kind : ObservationKind) → kind.Key → Controller.Operation
  | .applicationStatus, a => .setApplicationStatus a
  | .serviceStatus, key => .setServiceStatus key
  | .serviceState, key => .setServiceState key

end ObservationKind

/-- An observation on the device, with the key and the value of its kind. -/
structure Observation where
  /-- Its kind. -/
  kind : ObservationKind
  /-- What it is an observation of. -/
  key : kind.Key
  /-- What was observed. -/
  value : kind.Value

/-! ### The push cache -/

/-- The values that were pushed last, by kind and key. What is not there has not been pushed, or was
forgotten. -/
structure PushCache where
  applicationStatuses : Std.ExtTreeMap ApplicationId ReleaseReport
  serviceStatuses : Std.ExtTreeMap ServiceKey ReleaseReport
  serviceStates : Std.ExtTreeMap ServiceKey ServiceStateReport

namespace PushCache

/-- Nothing has been pushed. -/
def empty : PushCache := ⟨∅, ∅, ∅⟩

/-- The value that was pushed last for the key of a kind. All that the cache tells is told by it
(`ext_get?`). -/
def get? (c : PushCache) : (kind : ObservationKind) → kind.Key → Option kind.Value
  | .applicationStatus, a => c.applicationStatuses[a]?
  | .serviceStatus, key => c.serviceStatuses[key]?
  | .serviceState, key => c.serviceStates[key]?

/-- Remembers the value of `o` as the one that was pushed last for its key. -/
def record (c : PushCache) (o : Observation) : PushCache :=
  match o with
  | ⟨.applicationStatus, a, v⟩ =>
    { c with applicationStatuses := c.applicationStatuses.insert a v }
  | ⟨.serviceStatus, key, v⟩ => { c with serviceStatuses := c.serviceStatuses.insert key v }
  | ⟨.serviceState, key, v⟩ => { c with serviceStates := c.serviceStates.insert key v }

/-- Forgets what does not satisfy the condition `keep` on kind and key. -/
def filter (c : PushCache) (keep : (kind : ObservationKind) → kind.Key → Bool) : PushCache where
  applicationStatuses := c.applicationStatuses.filter fun a _ => keep .applicationStatus a
  serviceStatuses := c.serviceStatuses.filter fun key _ => keep .serviceStatus key
  serviceStates := c.serviceStates.filter fun key _ => keep .serviceState key

/-- Forgets all observations of the application `a`, of any kind. -/
def forget (c : PushCache) (a : ApplicationId) : PushCache :=
  c.filter fun kind key => kind.application key ≠ a

/-- Forgets all observations that are not desired by `d`. -/
def retain (c : PushCache) (d : DesiredServices) : PushCache :=
  c.filter fun kind key => kind.isDesired d key

/-- Whether the value that was pushed last for the key of `o` is the one observed. -/
def holds (c : PushCache) (o : Observation) : Bool :=
  c.get? o.kind o.key = some o.value

/-- Reports the observation `o`. It is pushed unless its value was pushed last, and remembered if
the push succeeds. The result tells whether it was pushed; `push` is the result of pushing it. -/
def report (c : PushCache) (o : Observation) (push : Except ClientError Unit) :
    PushCache × Except ClientError Bool :=
  -- Nothing is sent for a value that is held, and nothing is forgotten by a push that fails.
  if c.holds o then (c, .ok false)
  else match push with
    | .ok () => (c.record o, .ok true)
    | .error e => (c, .error e)

/-! ### What the operations do to the view -/

@[simp] theorem get?_empty (kind : ObservationKind) (key : kind.Key) :
    empty.get? kind key = none := by
  cases kind <;> simp [empty, get?]

/-- `filter` keeps a value as it is, or nothing of it. -/
@[simp] theorem get?_filter (c : PushCache)
    (keep : (kind : ObservationKind) → kind.Key → Bool) (kind : ObservationKind)
    (key : kind.Key) :
    (c.filter keep).get? kind key = if keep kind key then c.get? kind key else none := by
  cases kind <;>
    simp only [filter, get?, Std.ExtTreeMap.getElem?_filter', Option.filter] <;>
    split <;> simp_all

@[simp] theorem get?_record_self (c : PushCache) (o : Observation) :
    (c.record o).get? o.kind o.key = some o.value := by
  obtain ⟨kind, key, value⟩ := o
  cases kind <;> simp [record, get?]

theorem get?_record_of_key_ne (c : PushCache) {kind : ObservationKind} {key other : kind.Key}
    (value : kind.Value) (h : other ≠ key) :
    (c.record ⟨kind, key, value⟩).get? kind other = c.get? kind other := by
  cases kind <;> simp [record, get?, Std.ExtTreeMap.getElem?_insert, Ne.symm h]

theorem get?_record_of_kind_ne (c : PushCache) (o : Observation) {kind : ObservationKind}
    (key : kind.Key) (h : kind ≠ o.kind) :
    (c.record o).get? kind key = c.get? kind key := by
  obtain ⟨k, ok, v⟩ := o
  cases k <;> cases kind <;> simp_all [record, get?]

/-- The values that were pushed last decide the cache. -/
theorem ext_get? {c d : PushCache} (h : ∀ kind key, c.get? kind key = d.get? kind key) : c = d := by
  cases c; cases d
  simp only [PushCache.mk.injEq]
  exact ⟨Std.ExtTreeMap.ext_getElem? fun a => h .applicationStatus a,
    Std.ExtTreeMap.ext_getElem? fun key => h .serviceStatus key,
    Std.ExtTreeMap.ext_getElem? fun key => h .serviceState key⟩

end PushCache

end FleetAgent
