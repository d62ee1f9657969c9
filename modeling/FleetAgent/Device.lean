import FleetAgent.Bundle
/-!
# What a device says about itself

Registration, the identity that follows from it, the description of the device, and the reports
about its applications and services, with their written forms.
-/

namespace FleetAgent

/-! ### Identity -/

/-- A key that the controller gives a device. It is never shown, but written to the file of the
identity. -/
structure AccessKey where
  /-- The text of the key. -/
  secret : String
deriving DecidableEq

/-- Who a registered device is, which is all that it keeps of its registration. -/
structure Identity where
  /-- Its identifier. -/
  deviceId : DeviceId
  /-- The key that it authenticates with. -/
  accessKey : AccessKey
deriving DecidableEq

/-- The answer to a registration. -/
structure Registration where
  /-- The identifier that the device was given. -/
  deviceId : DeviceId
  /-- The key that it was given. -/
  accessKey : String
deriving DecidableEq

namespace Identity

/-- The identity as JSON. -/
def toJson (i : Identity) : Json :=
  .object [("deviceId", .text i.deviceId.text), ("accessKey", .text i.accessKey.secret)]

/-- The identity for a reader, without the key. -/
def describe (i : Identity) : String :=
  "Identity \x7b device_id: DeviceId(" ++ Text.quote i.deviceId.text ++
    "), access_key: AccessKey(<redacted>) \x7d"

end Identity

namespace Registration

/-- The identity that a registration gives. -/
def identity (r : Registration) : Identity :=
  ⟨r.deviceId, ⟨r.accessKey⟩⟩

/-- The registration for a reader, without the key. -/
def describe (r : Registration) : String :=
  "RegisterDeviceResponse \x7b device_id: DeviceId(" ++ Text.quote r.deviceId.text ++
    "), access_key: \"<redacted>\" \x7d"

end Registration

/-- The request for a registration as JSON. -/
def registrationRequest (token : String) : Json :=
  .object [("deviceRegistrationTokenId", .text token)]

/-! ### Description -/

/-- What the operating system says about itself. Any of it may be missing. -/
structure OsRelease where
  prettyName : Option String := none
  name : Option String := none
  versionId : Option String := none
  version : Option String := none
  id : Option String := none
  idLike : Option String := none
deriving Repr, DecidableEq

/-- The description of a device, as it is pushed to the controller. -/
structure DeviceInfo where
  /-- The version of the agent. -/
  agentVersion : String
  /-- The address of the device as seen on the way to the controller. -/
  ipAddress : Option String
  /-- Its operating system. -/
  osRelease : OsRelease
deriving Repr, DecidableEq

/-- The members that are set. -/
def OsRelease.members (r : OsRelease) : List (String × Json) :=
  Json.memberIfSome "prettyName" r.prettyName ++ Json.memberIfSome "name" r.name ++
    Json.memberIfSome "versionId" r.versionId ++ Json.memberIfSome "version" r.version ++
    Json.memberIfSome "id" r.id ++ Json.memberIfSome "idLike" r.idLike

/-- The operating system as JSON. -/
def OsRelease.toJson (r : OsRelease) : Json :=
  .object r.members

/-- The description as JSON. -/
def DeviceInfo.toJson (i : DeviceInfo) : Json :=
  .object (("agentVersion", .text i.agentVersion) :: Json.memberIfSome "ipAddress" i.ipAddress ++
    [("osRelease", i.osRelease.toJson)])

/-! ### Reports -/

/-- The release that an application or a service runs. -/
structure ReleaseReport where
  /-- The release. -/
  currentReleaseId : String
deriving Repr, DecidableEq

/-- The state of a service. -/
structure ServiceStateReport where
  /-- The state of its container. -/
  state : ServiceStateKind
  /-- What went wrong, if something did. -/
  errorMessage : String
deriving Repr, DecidableEq

/-- The report as JSON. -/
def ReleaseReport.toJson (r : ReleaseReport) : Json :=
  .object [("currentReleaseId", .text r.currentReleaseId)]

/-- The report as JSON. An empty message is left out. -/
def ServiceStateReport.toJson (r : ServiceStateReport) : Json :=
  .object (("state", .text r.state.text) ::
    if r.errorMessage = "" then [] else [("errorMessage", .text r.errorMessage)])

end FleetAgent
