import FleetAgent.Device.ReleaseFile
import FleetAgent.Url.Parser
import FleetAgent.Version
/-!
# Looking at the device

The description of the device is collected from what is found on it: the file in which the operating
system describes itself, and the address from which the controller is reached. A file that is
missing or cannot be read describes nothing.
-/

namespace FleetAgent

/-- The address by which a machine reaches itself. -/
def loopbackAddress : Nat := 0x7F000001

/-- The address of the device as seen on the way to the controller at `controllerUrl`. Only the way
to the device itself is known from the URL alone. -/
def localAddress? (controllerUrl : String) : Option String :=
  match Url.parse controllerUrl with
  | .error _ => none
  | .ok url =>
    match url.host with
    | some (.ipv4 address) =>
      if address = loopbackAddress then some (Url.ipv4Text address) else none
    | _ => none

/-- The description that is collected, given the bytes `releaseFile?` of the file of the operating
system if it can be read. -/
def DeviceInfo.collect (controllerUrl : String) (releaseFile? : Option (List UInt8)) :
    DeviceInfo where
  agentVersion := version
  ipAddress := localAddress? controllerUrl
  osRelease := match releaseFile? with
    | some bytes => .ofBytes bytes
    | none => {}

end FleetAgent
