import FleetAgent.Desired
import FleetAgent.Json.Value
/-!
# Bundles

A bundle is what the controller tells a device: the applications it should run, each with its latest
release, and the observations that the controller holds for it. Whatever the agent does not
interpret is kept as it came (`Extra`), sorted by key, and is written back unchanged.

`Bundle.desiredApplications` and `Bundle.desiredServices` are what follows from the applications of
a bundle for its observations. The written forms are the `toJson` of each record; they are read by
`Wire.bundle`.
-/

namespace FleetAgent

/-- Members of an object that the agent does not interpret, sorted by key, with whatever values they
came with. -/
abbrev Extra := List (String × Json)

/-! ### Applications -/

/-- What is known of an application itself, whatever its releases are. -/
structure Application where
  /-- Its identifier. -/
  id : ApplicationId
  /-- Its name. -/
  name : Option String
  /-- Everything else. -/
  extra : Extra

/-- A release of an application. Its services are the keys of `config`. -/
structure Release where
  /-- Its identifier. -/
  id : Option String
  /-- The configuration of each service, sorted by name; the agent does not interpret it. -/
  config : List (ServiceName × Json)
  /-- Everything else. -/
  extra : Extra

/-- An application with its latest release. -/
structure ApplicationEntry where
  /-- The application. -/
  application : Application
  /-- Its latest release, if it has one. -/
  latestRelease : Option Release

/-- The services of the latest release of `e`, sorted by name. An application without a release has
none. -/
def ApplicationEntry.services (e : ApplicationEntry) : List ServiceName :=
  match e.latestRelease with
  | none => []
  | some r => r.config.map (·.1)

/-! ### Observations -/

/-- The state of a service's container, as the controller names it. -/
inductive ServiceStateKind where
  | unknown
  | pullingImage
  | creatingContainer
  | stoppingPreviousContainer
  | running
  | exited
  /-- A state that the agent does not know, by its text. -/
  | other (text : String)
deriving Repr, DecidableEq

namespace ServiceStateKind

/-- The text of a state, by which it is written. -/
def text : ServiceStateKind → String
  | .unknown => "service state unknown"
  | .pullingImage => "pulling image"
  | .creatingContainer => "creating container"
  | .stoppingPreviousContainer => "stopping previous container"
  | .running => "running"
  | .exited => "exited"
  | .other s => s

/-- The state of the text `s`. Every text is one of a state. -/
def ofText (s : String) : ServiceStateKind :=
  if s = "service state unknown" then .unknown
  else if s = "pulling image" then .pullingImage
  else if s = "creating container" then .creatingContainer
  else if s = "stopping previous container" then .stoppingPreviousContainer
  else if s = "running" then .running
  else if s = "exited" then .exited
  else .other s

/-- The state for a reader. -/
def describe : ServiceStateKind → String
  | .unknown => "Unknown"
  | .pullingImage => "PullingImage"
  | .creatingContainer => "CreatingContainer"
  | .stoppingPreviousContainer => "StoppingPreviousContainer"
  | .running => "Running"
  | .exited => "Exited"
  | .other s => "Other(" ++ Text.quote s ++ ")"

/-- Whether the state is what its text stands for: no unknown state has the text of a known one. -/
def IsCanonical (k : ServiceStateKind) : Prop :=
  ofText k.text = k

/-- Reading a state loses nothing: its text is the one that was read. -/
@[simp]
theorem text_ofText (s : String) : (ofText s).text = s := by
  unfold ofText
  split
  · simp_all [text]
  split
  · simp_all [text]
  split
  · simp_all [text]
  split
  · simp_all [text]
  split
  · simp_all [text]
  split
  · simp_all [text]
  · rfl

/-- What is read is canonical: `.other` never gets the text of a known state. -/
theorem isCanonical_ofText (s : String) : (ofText s).IsCanonical := by
  simp [IsCanonical]

end ServiceStateKind

/-- The status of an application, as the controller holds it. -/
structure ApplicationStatus where
  /-- The application. -/
  applicationId : ApplicationId
  /-- The release that it runs. -/
  currentReleaseId : String
  /-- Everything else. -/
  extra : Extra

/-- The status of a service, as the controller holds it. -/
structure ServiceStatus where
  /-- The application of the service. -/
  applicationId : ApplicationId
  /-- The service. -/
  service : ServiceName
  /-- The release that it runs. -/
  currentReleaseId : String
  /-- Everything else. -/
  extra : Extra

/-- The state of a service, as the controller holds it. -/
structure ServiceState where
  /-- The application of the service. -/
  applicationId : ApplicationId
  /-- The service. -/
  service : ServiceName
  /-- The state of its container. -/
  state : ServiceStateKind
  /-- What went wrong, if something did. -/
  errorMessage : String
  /-- Everything else. -/
  extra : Extra

/-- The key of the observation. -/
def ServiceStatus.key (s : ServiceStatus) : ServiceKey := ⟨s.applicationId, s.service⟩

/-- The key of the observation. -/
def ServiceState.key (s : ServiceState) : ServiceKey := ⟨s.applicationId, s.service⟩

/-! ### Bundles -/

/-- What the controller tells a device. Each list is in the order in which it was told, and may name
a thing more than once. -/
structure Bundle where
  /-- The applications that should run. -/
  applications : List ApplicationEntry
  /-- The statuses of applications that the controller holds. -/
  applicationStatuses : List ApplicationStatus
  /-- The statuses of services that the controller holds. -/
  serviceStatuses : List ServiceStatus
  /-- The states of services that the controller holds. -/
  serviceStates : List ServiceState

namespace Bundle

/-- The bundle of a device with nothing to do. -/
def empty : Bundle := ⟨[], [], [], []⟩

/-- The identifiers of the applications of `b`, in order. -/
def applicationIds (b : Bundle) : List ApplicationId :=
  b.applications.map (·.application.id)

/-- The applications that should exist according to `b`: those that it lists. -/
def desiredApplications (b : Bundle) : DesiredApplications :=
  .ofList b.applicationIds

/-- The services that should exist according to `b`: those of the latest releases. An application
that is listed twice has the services of both entries. -/
def desiredServices (b : Bundle) : DesiredServices :=
  .ofList (b.applications.map fun e => (e.application.id, e.services))

end Bundle

/-! ### Written forms -/

/-- The application as JSON. -/
def Application.toJson (a : Application) : Json :=
  .object (("id", .text a.id.text) :: Json.memberIfSome "name" a.name ++ a.extra)

/-- The release as JSON. -/
def Release.toJson (r : Release) : Json :=
  .object (Json.memberIfSome "id" r.id ++
    ("config", .object (r.config.map fun (s, v) => (s.text, v))) :: r.extra)

/-- The entry as JSON. A release that is absent is written as `null`. -/
def ApplicationEntry.toJson (e : ApplicationEntry) : Json :=
  .object [("application", e.application.toJson),
    ("latestRelease", match e.latestRelease with
      | none => .null
      | some r => r.toJson)]

/-- The status as JSON. -/
def ApplicationStatus.toJson (s : ApplicationStatus) : Json :=
  .object (("applicationId", .text s.applicationId.text) ::
    ("currentReleaseId", .text s.currentReleaseId) :: s.extra)

/-- The status as JSON. -/
def ServiceStatus.toJson (s : ServiceStatus) : Json :=
  .object (("applicationId", .text s.applicationId.text) :: ("service", .text s.service.text) ::
    ("currentReleaseId", .text s.currentReleaseId) :: s.extra)

/-- The state as JSON. -/
def ServiceState.toJson (s : ServiceState) : Json :=
  .object (("applicationId", .text s.applicationId.text) :: ("service", .text s.service.text) ::
    ("state", .text s.state.text) :: ("errorMessage", .text s.errorMessage) :: s.extra)

/-- The bundle as JSON. -/
def Bundle.toJson (b : Bundle) : Json :=
  .object [("applications", .array (b.applications.map (·.toJson))),
    ("applicationStatuses", .array (b.applicationStatuses.map (·.toJson))),
    ("serviceStatuses", .array (b.serviceStatuses.map (·.toJson))),
    ("serviceStates", .array (b.serviceStates.map (·.toJson)))]

end FleetAgent
