import FleetAgent.Device
import FleetAgent.Wire.Bundle
/-!
# Decoding what a device sends and keeps

The records of `FleetAgent.Device`. The two reports on a release have one form and are told apart
only by the name in their messages.
-/

namespace FleetAgent.Wire

open FleetAgent.Json (Node)
open Decoder

/-! ### Registration and identity -/

/-- The fields of a registration or an identity that have been filled. -/
structure CredentialsDraft where
  deviceId : Option DeviceId
  accessKey : Option String

/-- An identifier of a device with a key, in a record called `name`. Both must be there. -/
def credentials (name : String) (n : Node) : Decoder Registration := do
  let d ← record name [
      .of "deviceId" false CredentialsDraft.deviceId (fun d a => { d with deviceId := some a })
        (identifier .device),
      .of "accessKey" false CredentialsDraft.accessKey (fun d a => { d with accessKey := some a })
        text]
    ⟨none, none⟩ n
  return { deviceId := ← required "deviceId" d.deviceId,
           accessKey := ← required "accessKey" d.accessKey }

/-- The answer to a registration. -/
def registration : Node → Decoder Registration :=
  credentials "RegisterDeviceResponse"

/-- An identity. -/
def identity (n : Node) : Decoder Identity :=
  Registration.identity <$> credentials "Identity" n

/-! ### Description -/

/-- The fields of an operating system that have been filled. -/
structure OsReleaseDraft where
  prettyName : Option (Option String) := none
  name : Option (Option String) := none
  versionId : Option (Option String) := none
  version : Option (Option String) := none
  id : Option (Option String) := none
  idLike : Option (Option String) := none

/-- An operating system. All of it may be missing. -/
def osRelease (n : Node) : Decoder OsRelease := do
  let d ← record "OsRelease" [
      .of "prettyName" true OsReleaseDraft.prettyName
        (fun d a => { d with prettyName := some a }) (optional text),
      .of "name" true OsReleaseDraft.name (fun d a => { d with name := some a }) (optional text),
      .of "versionId" true OsReleaseDraft.versionId
        (fun d a => { d with versionId := some a }) (optional text),
      .of "version" true OsReleaseDraft.version
        (fun d a => { d with version := some a }) (optional text),
      .of "id" true OsReleaseDraft.id (fun d a => { d with id := some a }) (optional text),
      .of "idLike" true OsReleaseDraft.idLike
        (fun d a => { d with idLike := some a }) (optional text)]
    {} n
  return { prettyName := d.prettyName.getD none, name := d.name.getD none,
           versionId := d.versionId.getD none, version := d.version.getD none,
           id := d.id.getD none, idLike := d.idLike.getD none }

/-- The fields of a description that have been filled. -/
structure DeviceInfoDraft where
  agentVersion : Option String
  ipAddress : Option (Option String)
  osRelease : Option OsRelease

/-- The description of a device. Only the version of the agent must be there. -/
def deviceInfo (n : Node) : Decoder DeviceInfo := do
  let d ← record "DeviceInfo" [
      .of "agentVersion" false DeviceInfoDraft.agentVersion
        (fun d a => { d with agentVersion := some a }) text,
      .of "ipAddress" true DeviceInfoDraft.ipAddress
        (fun d a => { d with ipAddress := some a }) (optional text),
      .of "osRelease" true DeviceInfoDraft.osRelease
        (fun d a => { d with osRelease := some a }) osRelease]
    ⟨none, none, none⟩ n
  return { agentVersion := ← required "agentVersion" d.agentVersion,
           ipAddress := d.ipAddress.getD none, osRelease := d.osRelease.getD {} }

/-! ### Reports -/

/-- A report on a release, in a record called `name`, which must have it. -/
def releaseReport (name : String) (n : Node) : Decoder ReleaseReport := do
  let d ← record name [
      .of "currentReleaseId" false id (fun _ a => some a) text]
    (none : Option String) n
  return { currentReleaseId := ← required "currentReleaseId" d }

/-- A report on the release of an application. -/
def applicationStatusReport : Node → Decoder ReleaseReport :=
  releaseReport "ApplicationStatusReport"

/-- A report on the release of a service. -/
def serviceStatusReport : Node → Decoder ReleaseReport :=
  releaseReport "ServiceStatusReport"

/-- The fields of a report on a state that have been filled. -/
structure ServiceStateReportDraft where
  state : Option ServiceStateKind
  errorMessage : Option String

/-- A report on the state of a service. In an object a missing state is the unknown one; an array
must hold it. -/
def serviceStateReport (n : Node) : Decoder ServiceStateReport := do
  let d ← record "ServiceStateReport" [
      .of "state" false ServiceStateReportDraft.state (fun d a => { d with state := some a })
        serviceStateKind,
      .of "errorMessage" true ServiceStateReportDraft.errorMessage
        (fun d a => { d with errorMessage := some a }) text]
    ⟨none, none⟩ n
  return { state := d.state.getD .unknown, errorMessage := d.errorMessage.getD "" }

end FleetAgent.Wire
