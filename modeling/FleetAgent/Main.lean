import FleetAgent.Agent.Shutdown
import FleetAgent.Agent.Startup
import FleetAgent.Device.Inspection
import FleetAgent.Program
import FleetAgent.Program.Line
import FleetAgent.Supervisor.Logging
/-!
# The program

The outer layer of the agent: arguments and environment, files, the clock, and the lines that carry
requests and replies. Requests are written to the standard output, the log to the standard error,
and replies are read from the standard input; the end of the input is the shutdown signal. All
decisions are taken by the machines `Enrollment` and `Agent`.
-/

namespace FleetAgent.Program

open Controller

/-- What the program is connected to. -/
structure Host where
  /-- The settings. -/
  config : Config
  /-- The line of the input that is being read. -/
  reading : IO.Ref (Task (Except IO.Error String))

/-- What has come since the last look. -/
inductive Heard where
  /-- A line. -/
  | line (tiding : Tiding)
  /-- The end of the input. -/
  | done
  /-- Nothing. -/
  | nothing

namespace Host

/-- Starts to read a line in the background. -/
def readLine : BaseIO (Task (Except IO.Error String)) := do
  let input ← IO.getStdin
  IO.asTask input.getLine

/-- Looks whether something has come, and waits a little if nothing has. -/
def listen (h : Host) : IO Heard := do
  let task ← h.reading.get
  if ← IO.hasFinished task then
    match task.get with
    | .ok line =>
      if line.isEmpty then return .done
      h.reading.set (← readLine)
      return .line (Line.read (Text.Utf8.encode line))
    | .error _ => return .done
  else
    IO.sleep 20
    return .nothing

/-- Writes an event to the log. -/
def log (h : Host) (e : LogEvent) : IO Unit := do
  if e.isShownAt h.config.logLevel then IO.eprintln (Line.showEvent h.config.logFormat e)

/-- Sends a request of a task. -/
def send (task : String) (r : Request) : IO Unit := do
  let output ← IO.getStdout
  output.putStrLn (Line.ofRequest task r).compact
  output.flush

end Host

/-! ### Files -/

/-- The fault that an error of the operating system stands for, if it is one that is told apart. -/
def fault? : IO.Error → Option IoFault
  | .noFileOrDirectory _ _ _ => some .notFound
  | .alreadyExists _ _ _ => some .alreadyExists
  | .inappropriateType _ code _ => some (if code = 21 then .isADirectory else .notADirectory)
  | _ => none

/-- Does something to files. An error that is not told apart goes on to the caller. -/
def attempt {α : Type} (act : IO α) : IO (Except IoFault α) := do
  match ← act.toBaseIO with
  | .ok a => return .ok a
  | .error e =>
    match fault? e with
    | some fault => return .error fault
    | none => throw e

/-- The contents of a file. -/
def readFile (path : String) : IO (Except IoFault (List UInt8)) := do
  attempt do return (← IO.FS.readBinFile path).toList

/-- The directory of the state, as far as the identity goes. -/
def readState (store : IdentityStore) : IO Directory := do
  match ← readFile store.path with
  | .ok contents => return Directory.empty.put IdentityStore.fileName (.file contents 0o600#9)
  | .error .isADirectory => return Directory.empty.put IdentityStore.fileName .folder
  | .error .notFound => return .absent
  | .error _ => return .blocked

/-- Opens a file for writing. One that is created belongs to its owner alone. -/
def openPrivate (path : String) : IO IO.FS.Handle := do
  match ← attempt (IO.FS.Handle.mk path .writeNew) with
  | .ok file =>
    IO.setAccessRights path { user := { read := true, write := true } }
    return file
  | .error _ => IO.FS.Handle.mk path .write

/-- Takes a step of a save. -/
def takeStep (store : IdentityStore) (file : IO.Ref (Option IO.FS.Handle)) :
    IdentityStore.SaveStep → IO Unit
  | .createDirectory => IO.FS.createDirAll store.stateDir
  | .openTemporary => do
    file.set (some (← openPrivate (joinPath store.stateDir IdentityStore.temporaryName)))
  | .write bytes => do
    if let some f ← file.get then f.write (ByteArray.mk bytes.toArray)
  | .sync => do
    if let some f ← file.get then f.flush
    file.set none
  | .rename => IO.FS.rename (joinPath store.stateDir IdentityStore.temporaryName) store.path

/-- Saves an identity where there is none. -/
def saveIdentity (store : IdentityStore) (i : Identity) : IO (Except IoFault Unit) := do
  let file ← IO.mkRef none
  attempt ((IdentityStore.saveSteps i).forM (takeStep store file))

/-! ### The start -/

/-- Does what an enrollment asks for. -/
def actEnrollment (h : Host) : EnrollmentEffect → IO Unit
  | .log e => h.log e
  | .send r => Host.send Line.registrationTask r

/-- Goes on with an enrollment until it has ended. An identity that the controller has given is
saved before anything is made of it. -/
partial def enroll (h : Host) (signal : Signal) (e : Enrollment) :
    IO (Except StartError Identity) := do
  let surroundings : Surroundings := ⟨← IO.monoMsNow, signal, .empty⟩
  match e.result?, e.advance? surroundings with
  | some result, _ => return result
  | none, some (e, effects) =>
    effects.forM (actEnrollment h)
    enroll h signal e
  | none, none =>
    match ← h.listen with
    | .done =>
      h.log signalEvent
      enroll h signal.trigger e
    | .line (.ended task r) =>
      if task ≠ Line.registrationTask then return ← enroll h signal e
      let (e, effects) := e.reply surroundings r
      if let some (.ok i) := e.result? then
        if let .error fault ← saveIdentity e.store i then
          return .error (.identity (.io e.store.path fault))
      effects.forM (actEnrollment h)
      enroll h signal e
    | _ => enroll h signal e

/-! ### The work -/

/-- Does what the agent asks for. A description that has been collected is given back to it. -/
def actAgent (h : Host) : AgentEffect → IO (List AgentEvent)
  | .log e => do
    h.log e
    return []
  | .send task r => do
    Host.send task.name r
    return []
  | .collect => do
    let contents ← readFile h.config.osReleasePath
    return [.collected (DeviceInfo.collect h.config.controllerUrl contents.toOption)]
  | _ => return []

/-- Carries out a step of the agent, and all that follows from it at once. -/
partial def carryOut {σ : Type} (h : Host) (step : Agent σ × List AgentEffect) :
    IO (Agent σ) := do
  let (a, effects) := step
  let events ← effects.mapM (actAgent h)
  let now ← IO.monoMsNow
  match events.flatten with
  | [] =>
    let (a, _) := a.step (.elapse (now - a.now))
    match a.runAny? 0 with
    | some step => carryOut h step
    | none => return a
  | events => carryOut h (a.steps events)

/-- Lets the agent work until it is shut down. -/
partial def work {σ : Type} (h : Host) (a : Agent σ) : IO (Agent σ) := do
  let a ← carryOut h (a, [])
  match ← h.listen with
  | .done =>
    h.log signalEvent
    carryOut h (a.step .trigger)
  | .line (.ended task r) =>
    match RequestTask.all.find? (·.name = task) with
    | some task => work h (← carryOut h (a.step (.reply task r)))
    | none => work h a
  | _ => work h a

/-! ### The whole -/

/-- Starts the agent, lets it work, and stops it. -/
def run (h : Host) : IO ProgramEnding := do
  let config := h.config
  let store : IdentityStore := ⟨config.stateDir⟩
  match Agent.prepare config (← attempt (IO.FS.createDirAll config.confDir)) with
  | .error e => return .ofStartError [] e
  | .ok starting => h.log starting
  match ← enroll h .fresh (.create config .root 0#9 (← readState store)) with
  | .error .canceled =>
    h.log earlyShutdownEvent
    return .finished
  | .error e => return .ofStartError ((← readFile store.path).toOption.getD []) e
  | .ok identity =>
    let (a, events) := Agent.launch config LoggingSupervisor.supervisor false identity
      (← IO.monoMsNow) .fresh
    events.forM h.log
    let stopping := (← work h a).stop config.stopGrace
    stopping.log.forM h.log
    (abortedEvent? stopping.aborted).forM h.log
    return .finished

/-- The settings that the environment gives. -/
def environment : IO (List (String × String)) :=
  Config.settings.filterMapM fun s => do
    return (← IO.getEnv s.environmentName).map (s.environmentName, ·)

/-- Says how the program has ended, and gives the number that it ends with. -/
def finish (e : ProgramEnding) : IO UInt32 := do
  match e with
  | .help => IO.println usage
  | .usage => IO.eprintln usage
  | _ =>
    e.shown?.forM (IO.println ·)
    e.complaint?.forM (IO.eprintln ·)
  return e.exitCode

end FleetAgent.Program

/-- Runs the agent with the settings that the arguments and the environment give. -/
def main (args : List String) : IO UInt32 := do
  match FleetAgent.Config.ofCommandLine (← FleetAgent.Program.environment) args with
  | .error e => FleetAgent.Program.finish (.ofConfigError e)
  | .ok config =>
    let reading ← IO.mkRef (← FleetAgent.Program.Host.readLine)
    FleetAgent.Program.finish (← FleetAgent.Program.run ⟨config, reading⟩)
