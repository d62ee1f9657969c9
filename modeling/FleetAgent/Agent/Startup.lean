import FleetAgent.Agent
import FleetAgent.Agent.Enrollment
/-!
# Starting the agent

To start, an agent makes sure that the directory of its configuration exists, gets the identity of
the device, and then has all its tasks at once. Nothing of it runs before the device has an
identity.

`Agent.prepare` goes on from what came of making the directory, and `Agent.launch` is the agent with
all its tasks, none of which has been run.
-/

namespace FleetAgent

open Controller

namespace Agent

/-- The event for the start, which tells the configuration that decides what the agent works on. -/
def startingEvent (config : Config) : LogEvent :=
  ⟨.info, "Starting deviceplane agent", [
    ("controller", .text config.controllerUrl),
    ("project", .text config.project.text),
    ("state_dir", .text (Text.quote config.stateDir)),
    ("conf_dir", .text (Text.quote config.confDir)),
    ("server_port", .number config.serverPort)]⟩

/-- Begins the start, `made` being what came of making the directory `config.confDir`: without the
directory the agent does not start, and with it the start is told. -/
def prepare (config : Config) (made : Except IoFault Unit) : Except StartError LogEvent :=
  match made with
  | .error fault => .error (.confDir config.confDir fault)
  | .ok () => .ok (startingEvent config)

/-- The agent of a device that has the identity `identity`, and the event that tells of it. All
tasks are there at once, and none of them has been run. -/
def launch {σ : Type} (config : Config) (supervisor : Supervisor σ) (hasTunnel : Bool)
    (identity : Identity) (now : Moment) (signal : Signal) : Agent σ × List LogEvent :=
  let client := (Client.create config.controllerUrl config.project).withIdentity identity
  let a := create config supervisor hasTunnel client now signal
  (a, [⟨.info, "Agent started", [
    ("device_id", .text identity.deviceId.text),
    ("task_count", .number a.taskNames.length)]⟩])

end Agent

end FleetAgent
