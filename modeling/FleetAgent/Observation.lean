import FleetAgent.Bundle
import FleetAgent.Controller.Endpoint
/-!
# Observations

The controller stores three kinds of observations of a device: the release that an application
runs, the release that a service runs, and the state of a service. An observation that is stored but
no longer desired is an orphan and is to be deleted.
-/

namespace FleetAgent

/-- The kinds of observations. They differ in what identifies an observation, in where it is in a
bundle, and in the requests that set and delete it. -/
inductive ObservationKind where
  | applicationStatus
  | serviceStatus
  | serviceState
deriving Repr, DecidableEq

namespace ObservationKind

/-- What identifies an observation of a kind: an application, or a service within its
application. -/
abbrev Key : ObservationKind → Type
  | .applicationStatus => ApplicationId
  | .serviceStatus => ServiceKey
  | .serviceState => ServiceKey

instance (kind : ObservationKind) : DecidableEq kind.Key :=
  match kind with
  | .applicationStatus => inferInstanceAs (DecidableEq ApplicationId)
  | .serviceStatus => inferInstanceAs (DecidableEq ServiceKey)
  | .serviceState => inferInstanceAs (DecidableEq ServiceKey)

/-- The word for a kind in the log. -/
def label : ObservationKind → String
  | .applicationStatus => "application_status"
  | .serviceStatus => "service_status"
  | .serviceState => "service_state"

/-- A key for a reader, as one text. -/
def keyText : (kind : ObservationKind) → kind.Key → String
  | .applicationStatus, a => a.text
  | .serviceStatus, key => key.text
  | .serviceState, key => key.text

/-- The request that deletes an observation. -/
def deletion : (kind : ObservationKind) → kind.Key → Controller.Operation
  | .applicationStatus, a => .deleteApplicationStatus a
  | .serviceStatus, key => .deleteServiceStatus key
  | .serviceState, key => .deleteServiceState key

/-- The keys of the observations of a kind that a bundle lists, in its order and as often as they
occur. -/
def observed : (kind : ObservationKind) → Bundle → List kind.Key
  | .applicationStatus, b => b.applicationStatuses.map (·.applicationId)
  | .serviceStatus, b => b.serviceStatuses.map (·.key)
  | .serviceState, b => b.serviceStates.map (·.key)

/-- Why the observation of a kind with a key is not desired by a bundle; `none` if it is. -/
def classify : (kind : ObservationKind) → Bundle → kind.Key → Option OrphanReason
  | .applicationStatus, b, a => b.desiredApplications.classify a
  | .serviceStatus, b, key => b.desiredServices.classify key
  | .serviceState, b, key => b.desiredServices.classify key

/-- The observations of a kind that a bundle lists but does not desire, each once. -/
def orphans : (kind : ObservationKind) → Bundle → List (Orphan kind.Key)
  | .applicationStatus, b => b.desiredApplications.orphans (observed .applicationStatus b)
  | .serviceStatus, b => b.desiredServices.orphans (observed .serviceStatus b)
  | .serviceState, b => b.desiredServices.orphans (observed .serviceState b)

/-- The orphans are the listed keys that are classified as not desired, each once and in the order
of the bundle. -/
theorem orphans_eq (kind : ObservationKind) (b : Bundle) :
    kind.orphans b = orphansBy (kind.classify b) (kind.observed b) := by
  cases kind <;> rfl

end ObservationKind

end FleetAgent
