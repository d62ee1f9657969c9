import FleetAgent.Agent.StartError
import FleetAgent.Config
import FleetAgent.Controller.Client
import FleetAgent.Surroundings
/-!
# Getting an identity

A device that has an identity keeps it. One that has none registers, if it was given a token: it
asks the controller, and asks again after a while as long as it gets no identity, until the agent is
shut down. An identity that it gets is saved before anything else is done with it.

An enrollment is a machine. `Enrollment.advance?` takes a step of its own, and `Enrollment.reply`
takes the reply to its request. It starts with `Enrollment.begin`, goes back and forth between
`Enrollment.ask` and `Enrollment.answered`, and ends with `Enrollment.accept` or `Enrollment.fail`;
what it has come to is `Enrollment.result?`.
-/

namespace FleetAgent

open Controller

/-- Where an enrollment is. `attempt` counts the requests from one, in 32 bits. -/
inductive EnrollmentPhase where
  /-- It was created, but has not been run. -/
  | created
  /-- The controller was asked. -/
  | asking (token : RegistrationToken) (attempt : UInt32) (flight : Flight)
  /-- The controller is asked again at a moment. -/
  | pausing (token : RegistrationToken) (attempt : UInt32) (wakeAt : Moment)
  /-- It has ended. -/
  | ended (result : Except StartError Identity)

/-- How a device gets its identity: what it is done with, and how far it has come. -/
structure Enrollment where
  /-- The client that registers. -/
  client : Client
  /-- The context that it runs in. -/
  context : Context
  /-- Where the identity is kept. -/
  store : IdentityStore
  /-- The token to register with. -/
  token? : Option RegistrationToken
  /-- The time between two attempts, in milliseconds. -/
  retry : Nat
  /-- The permissions that new files do not get. -/
  umask : Mode
  /-- The directory of the state. -/
  directory : Directory
  /-- Where it is. -/
  phase : EnrollmentPhase

/-- What an enrollment does to the world. -/
inductive EnrollmentEffect where
  /-- Writes an event to the log. -/
  | log (e : LogEvent)
  /-- Sends a request. -/
  | send (r : Request)

namespace Enrollment

/-- An enrollment that has not been run, with the token, the store and the time between attempts of
`config`. -/
def create (config : Config) (context : Context) (umask : Mode) (directory : Directory) :
    Enrollment where
  client := .create config.controllerUrl config.project
  context := context
  store := ⟨config.stateDir⟩
  token? := config.registrationToken
  retry := config.registrationRetry
  umask := umask
  directory := directory
  phase := .created

/-- The enrollment at another place, with everything else as it was. -/
def moveTo (e : Enrollment) (phase : EnrollmentPhase) : Enrollment :=
  { e with phase }

/-- Ends without an identity, because of `error`. Nothing is logged: whoever started the enrollment
tells of it. -/
def fail (e : Enrollment) (error : StartError) : Enrollment × List EnrollmentEffect :=
  (e.moveTo (.ended (.error error)), [])

/-- Saves the identity `i` that the controller has given at the attempt `attempt`, and ends: with
the identity, or with the error of the store. -/
def accept (e : Enrollment) (attempt : UInt32) (i : Identity) :
    Enrollment × List EnrollmentEffect :=
  let (directory, result) := e.store.save e.umask e.directory i
  let e := { e with directory }
  match result with
  | .error error => e.fail (.identity error)
  | .ok () =>
    (e.moveTo (.ended (.ok i)),
      [.log ⟨.info, "Device registered",
        [("device_id", .text i.deviceId.text), ("attempt", .number attempt.toNat)]⟩])

/-- The enrollment after an attempt to register has ended with `result`. An error ends it only if it
was called off; otherwise the next attempt comes `retry` milliseconds from `now`. -/
def answered (e : Enrollment) (now : Moment) (token : RegistrationToken) (attempt : UInt32)
    (result : Except ClientError Registration) : Enrollment × List EnrollmentEffect :=
  match result with
  | .ok r => e.accept attempt r.identity
  | .error error =>
    if error.isCanceled then e.fail .canceled
    else
      (e.moveTo (.pausing token attempt (now + e.retry)),
        [.log ⟨.warn, "Registration failed, will retry",
          error.logFields ++ [("attempt", .number attempt.toNat)]⟩])

/-- Asks the controller with the secret of `token`. A request that cannot be sent counts as an
attempt that failed. -/
def ask (e : Enrollment) (s : Surroundings) (token : RegistrationToken) (attempt : UInt32) :
    Enrollment × List EnrollmentEffect :=
  match e.client.start e.context s.signal s.now (.register token.secret) with
  | .ok request => (e.moveTo (.asking token attempt ⟨e.context, s.now⟩), [.send request])
  | .error error => e.answered s.now token attempt (.error error)

/-- Looks for the identity of the device, and asks the controller if there is none. A file that
cannot be read is no reason to ask, but ends the enrollment. -/
def begin (e : Enrollment) (s : Surroundings) : Enrollment × List EnrollmentEffect :=
  match e.store.load e.directory with
  | .error error => e.fail (.identity error)
  | .ok (some i) =>
    (e.moveTo (.ended (.ok i)),
      [.log ⟨.info, "Loaded device identity", [("device_id", .text i.deviceId.text)]⟩])
  -- Only a file that is not there leads to the controller.
  | .ok none =>
    match e.token? with
    | none => e.fail .missingToken
    | some token =>
      let (e, effects) := e.ask s token 1
      (e, .log ⟨.info, "Device not registered, registering",
        [("project", .text e.client.project.text)]⟩ :: effects)

/-- The next step that the enrollment can take on its own, if there is one: it begins, its request
ends without a reply, or its pause is over or interrupted. -/
def advance? (e : Enrollment) (s : Surroundings) : Option (Enrollment × List EnrollmentEffect) :=
  match e.phase with
  | .created => some (e.begin s)
  | .asking token attempt flight =>
    (flight.poll s.signal s.now (none : Option (Except TransportError Reply))).map fun r =>
      e.answered s.now token attempt (readRegistration r)
  | .pausing token attempt wakeAt =>
    -- The pause is work that is complete at `wakeAt`, so a shutdown at that moment comes first.
    match e.context.poll s.signal s.now (if wakeAt ≤ s.now then some () else none) with
    | none => none
    | some (.ok ()) => some (e.ask s token (attempt + 1))
    | some (.error _) => some (e.fail .canceled)
  | .ended _ => none

/-- The enrollment after the reply `r` to its request. One that nobody waits for changes nothing. -/
def reply (e : Enrollment) (s : Surroundings) (r : Except TransportError Reply) :
    Enrollment × List EnrollmentEffect :=
  match e.phase with
  | .asking token attempt flight =>
    match flight.poll s.signal s.now (some r) with
    | some r => e.answered s.now token attempt (readRegistration r)
    | none => (e, [])
  | _ => (e, [])

/-- What the enrollment has come to, if it has ended. -/
def result? (e : Enrollment) : Option (Except StartError Identity) :=
  match e.phase with
  | .ended result => some result
  | _ => none

end Enrollment

end FleetAgent
