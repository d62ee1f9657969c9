import FleetAgent.Bundle
import FleetAgent.Wire.Decoder
/-!
# Decoding bundles

The four lists of a bundle are lenient. An observation that does not fit is left out, whatever is
wrong with it: it cannot be addressed or is not understood, and is neither desired nor deleted. An
application is left out only if it has an identifier and that is invalid; any other fault of it
fails the bundle, for leaving out an application with a good name would make orphans of its
observations. A service with an invalid name is left out of its release.

`bundle` decodes the whole, from the four slots `bundleSlots`. `applications` spares what
`hasInvalidId` says, and `observations` spares everything; `validServices` leaves services out of a
configuration. Open records keep their other members by `keep`.
-/

namespace FleetAgent.Wire

open FleetAgent.Json (Node)
open Decoder

/-! ### Applications -/

/-- Keeps a member that is no field, within `depth` arrays and objects; `add` adds it to what has
been filled. -/
def keep {σ : Type} (depth : Nat) (add : σ → String → Json → σ) : Unknown σ := fun s name n => do
  return add s name (← taking (n.take depth))

/-- The fields of an application that have been filled. -/
structure ApplicationDraft where
  id : Option ApplicationId
  name : Option (Option String)
  extra : Extra

/-- The fields of an application. -/
def applicationSlots : List (Slot ApplicationDraft) := [
  .of "id" false ApplicationDraft.id (fun d a => { d with id := some a })
    (identifier .application),
  .of "name" true ApplicationDraft.name (fun d a => { d with name := some a }) (optional text)]

/-- The application of a node within `depth` arrays and objects. It must have an identifier, and
keeps the members that are no field of it. -/
def application (depth : Nat) (n : Node) : Decoder Application := do
  let d ← openRecord "Application" applicationSlots
    (keep (depth + 1) fun d k v => { d with extra := Json.setMember k v d.extra })
    ⟨none, none, []⟩ n
  return { id := ← required "id" d.id, name := d.name.getD none, extra := d.extra }

/-- Leaves out the services with an invalid name, with a note for each; the others keep their
order. -/
def validServices : List (String × Json) → Decoder (List (ServiceName × Json))
  | [] => pure []
  | (name, v) :: r =>
    match Identifier.parse .service name with
    | .ok s => do
      let rest ← validServices r
      return (s, v) :: rest
    | .error e => do
      skip (.service name e)
      validServices r

/-- The configuration of each service of a release. -/
def config (depth : Nat) (n : Node) : Decoder (List (ServiceName × Json)) := do
  validServices (← anyMembers depth n)

/-- The fields of a release that have been filled. -/
structure ReleaseDraft where
  id : Option (Option String)
  config : Option (List (ServiceName × Json))
  extra : Extra

/-- The fields of a release within `depth` arrays and objects. -/
def releaseSlots (depth : Nat) : List (Slot ReleaseDraft) := [
  .of "id" true ReleaseDraft.id (fun d a => { d with id := some a }) (optional text),
  .of "config" true ReleaseDraft.config (fun d a => { d with config := some a })
    (config (depth + 1))]

/-- The release of a node within `depth` arrays and objects. All of it may be missing. -/
def release (depth : Nat) (n : Node) : Decoder Release := do
  let d ← openRecord "Release" (releaseSlots depth)
    (keep (depth + 1) fun d k v => { d with extra := Json.setMember k v d.extra })
    ⟨none, none, []⟩ n
  return { id := d.id.getD none, config := d.config.getD [], extra := d.extra }

/-- The fields of an entry that have been filled. -/
structure ApplicationEntryDraft where
  application : Option Application
  latestRelease : Option (Option Release)

/-- The fields of an entry within `depth` arrays and objects. -/
def applicationEntrySlots (depth : Nat) : List (Slot ApplicationEntryDraft) := [
  .of "application" false ApplicationEntryDraft.application
    (fun d a => { d with application := some a }) (application (depth + 1)),
  .of "latestRelease" true ApplicationEntryDraft.latestRelease
    (fun d a => { d with latestRelease := some a }) (optional (release (depth + 1)))]

/-- The entry of a node within `depth` arrays and objects. It must have an application, and members
that are no field are ignored. -/
def applicationEntry (depth : Nat) (n : Node) : Decoder ApplicationEntry := do
  let d ← record "ApplicationEntry" (applicationEntrySlots depth) ⟨none, none⟩ n
  return { application := ← required "application" d.application,
           latestRelease := d.latestRelease.getD none }

/-! ### Observations -/

/-- The state of a container; `null` stands for the unknown one. -/
def serviceStateKind (n : Node) : Decoder ServiceStateKind := do
  match ← optional text n with
  | none => return .unknown
  | some s => return .ofText s

/-- The fields of the status of an application that have been filled. -/
structure ApplicationStatusDraft where
  applicationId : Option ApplicationId
  currentReleaseId : Option String
  extra : Extra

/-- The fields of the status of an application. -/
def applicationStatusSlots : List (Slot ApplicationStatusDraft) := [
  .of "applicationId" false ApplicationStatusDraft.applicationId
    (fun d a => { d with applicationId := some a }) (identifier .application),
  .of "currentReleaseId" true ApplicationStatusDraft.currentReleaseId
    (fun d a => { d with currentReleaseId := some a }) text]

/-- The status of an application of a node within `depth` arrays and objects. It must have an
identifier; a release that is missing is empty. -/
def applicationStatus (depth : Nat) (n : Node) : Decoder ApplicationStatus := do
  let d ← openRecord "ApplicationStatus" applicationStatusSlots
    (keep (depth + 1) fun d k v => { d with extra := Json.setMember k v d.extra })
    ⟨none, none, []⟩ n
  return { applicationId := ← required "applicationId" d.applicationId,
           currentReleaseId := d.currentReleaseId.getD "", extra := d.extra }

/-- The fields of the status of a service that have been filled. -/
structure ServiceStatusDraft where
  applicationId : Option ApplicationId
  service : Option ServiceName
  currentReleaseId : Option String
  extra : Extra

/-- The fields of the status of a service. -/
def serviceStatusSlots : List (Slot ServiceStatusDraft) := [
  .of "applicationId" false ServiceStatusDraft.applicationId
    (fun d a => { d with applicationId := some a }) (identifier .application),
  .of "service" false ServiceStatusDraft.service
    (fun d a => { d with service := some a }) (identifier .service),
  .of "currentReleaseId" true ServiceStatusDraft.currentReleaseId
    (fun d a => { d with currentReleaseId := some a }) text]

/-- The status of a service of a node within `depth` arrays and objects. It must have both parts of
its key; a release that is missing is empty. -/
def serviceStatus (depth : Nat) (n : Node) : Decoder ServiceStatus := do
  let d ← openRecord "ServiceStatus" serviceStatusSlots
    (keep (depth + 1) fun d k v => { d with extra := Json.setMember k v d.extra })
    ⟨none, none, none, []⟩ n
  return { applicationId := ← required "applicationId" d.applicationId,
           service := ← required "service" d.service,
           currentReleaseId := d.currentReleaseId.getD "", extra := d.extra }

/-- The fields of the state of a service that have been filled. -/
structure ServiceStateDraft where
  applicationId : Option ApplicationId
  service : Option ServiceName
  state : Option ServiceStateKind
  errorMessage : Option String
  extra : Extra

/-- The fields of the state of a service. -/
def serviceStateSlots : List (Slot ServiceStateDraft) := [
  .of "applicationId" false ServiceStateDraft.applicationId
    (fun d a => { d with applicationId := some a }) (identifier .application),
  .of "service" false ServiceStateDraft.service
    (fun d a => { d with service := some a }) (identifier .service),
  .of "state" true ServiceStateDraft.state
    (fun d a => { d with state := some a }) serviceStateKind,
  .of "errorMessage" true ServiceStateDraft.errorMessage
    (fun d a => { d with errorMessage := some a }) text]

/-- The state of a service of a node within `depth` arrays and objects. It must have both parts of
its key; a state that is missing is unknown. -/
def serviceState (depth : Nat) (n : Node) : Decoder ServiceState := do
  let d ← openRecord "ServiceState" serviceStateSlots
    (keep (depth + 1) fun d k v => { d with extra := Json.setMember k v d.extra })
    ⟨none, none, none, none, []⟩ n
  return { applicationId := ← required "applicationId" d.applicationId,
           service := ← required "service" d.service,
           state := d.state.getD .unknown,
           errorMessage := d.errorMessage.getD "", extra := d.extra }

/-! ### Bundles -/

/-- Whether the element `v` of the list of applications has an identifier that is invalid. One
without a text for an identifier has none. -/
def hasInvalidId (v : Json) : Bool :=
  match (v.get? "application").bind fun a => (a.get? "id").bind Json.text? with
  | none => false
  | some s => !decide (ValidSegment s)

/-- The list of applications, of which only those with an invalid identifier are left out. -/
def applications (depth : Nat) (n : Node) : Decoder (List ApplicationEntry) := do
  elements .application hasInvalidId (applicationEntry 0) (← values depth n)

/-- A list of observations of a kind, each decoded by `d`. Whatever does not decode is left out. -/
def observations {α : Type} (kind : EntryKind) (d : Node → Decoder α) (depth : Nat) (n : Node) :
    Decoder (List α) := do
  elements kind (fun _ => true) d (← values depth n)

/-- The lists of a bundle that have been filled. -/
structure BundleDraft where
  applications : Option (List ApplicationEntry)
  applicationStatuses : Option (List ApplicationStatus)
  serviceStatuses : Option (List ServiceStatus)
  serviceStates : Option (List ServiceState)

/-- The lists of a bundle. -/
def bundleSlots : List (Slot BundleDraft) := [
  .of "applications" true BundleDraft.applications
    (fun d a => { d with applications := some a }) (applications 1),
  .of "applicationStatuses" true BundleDraft.applicationStatuses
    (fun d a => { d with applicationStatuses := some a })
    (observations .applicationStatus (applicationStatus 0) 1),
  .of "serviceStatuses" true BundleDraft.serviceStatuses
    (fun d a => { d with serviceStatuses := some a })
    (observations .serviceStatus (serviceStatus 0) 1),
  .of "serviceStates" true BundleDraft.serviceStates
    (fun d a => { d with serviceStates := some a })
    (observations .serviceState (serviceState 0) 1)]

/-- The bundle of a whole text. Lists that are missing are empty. -/
def bundle (n : Node) : Decoder Bundle := do
  let d ← record "Bundle" bundleSlots ⟨none, none, none, none⟩ n
  return { applications := d.applications.getD [],
           applicationStatuses := d.applicationStatuses.getD [],
           serviceStatuses := d.serviceStatuses.getD [],
           serviceStates := d.serviceStates.getD [] }

end FleetAgent.Wire
