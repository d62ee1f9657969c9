import FleetAgent.Agent.CollectorTask
import FleetAgent.Agent.InfoLoop
import FleetAgent.Agent.Poller
import FleetAgent.Config
import FleetAgent.Supervisor.Run
import FleetAgent.Tunnel.Loop
/-!
# The agent at work

An agent that has been started runs its tasks side by side: the poller with the supervisor, a
collector for each kind of observation, the loop that reports the description of the device, and the
tunnel, if it has one. The tasks share the clock, the shutdown signal, the current bundle and the
push cache; nothing else connects them.

The agent is a machine with one step for everything that can happen next (`AgentEvent`): time goes
by, the shutdown signal changes, a task takes a step of its own, or something comes from the
network. `Agent.step` allows these in any order, so that its runs (`Agent.steps`) are all the ways
in which the tasks can be interleaved. What is done to the world is told in the effects of the steps
(`AgentEffect`).

The machines of the tasks know nothing of each other. Each of them is run in what it sees of the
agent (`Agent.surroundings`), and its step is put back into the agent with a function of its own
(`Agent.setPoller`, `Agent.setWork`, `Agent.setCollector`, `Agent.setInfo`, `Agent.setTunnel`).
-/

namespace FleetAgent

open Controller

/-! ### Tasks -/

/-- The tasks that send requests. The supervisor has no task of its own: while it is at work, it
stands in for the poller, which waits for it. -/
inductive RequestTask where
  /-- The poller, with the supervisor. -/
  | poller
  /-- The collector of a kind of observation. -/
  | collector (kind : ObservationKind)
  /-- The loop that reports the description of the device. -/
  | info
deriving Repr, DecidableEq

/-- The name of a task, under which it is joined or aborted when the agent stops. -/
def RequestTask.name : RequestTask → String
  | .poller => "bundle_poller"
  | .collector kind => kind.label
  | .info => "info_reporter"

/-- The tasks that send requests, in the order in which they are started. The tunnel comes behind
them. -/
def RequestTask.all : List RequestTask :=
  [.poller, .collector .applicationStatus, .collector .serviceStatus, .collector .serviceState,
    .info]

/-- The name of the task of the tunnel, which is started last. -/
def Tunnel.taskName : String := "tunnel"

/-! ### Events and effects -/

/-- What can happen next. `draw` is the random number that a rest of the tunnel may need. An event
that does not concern a task as it is, such as a reply that nobody waits for, changes nothing. -/
inductive AgentEvent where
  /-- Time goes by, in milliseconds. -/
  | elapse (duration : Nat)
  /-- The shutdown signal is triggered. -/
  | trigger
  /-- The owner of the shutdown signal goes away. -/
  | drop
  /-- A task takes a step of its own, if it has one to take. -/
  | run (task : RequestTask)
  /-- The request of a task is replied to. -/
  | reply (task : RequestTask) (r : Except TransportError Reply)
  /-- The description of the device was collected. -/
  | collected (info : DeviceInfo)
  /-- The tunnel takes a step of its own, if it has one to take. -/
  | runTunnel (draw : Rat)
  /-- The request that opens the tunnel is replied to. -/
  | answerTunnel (draw : Rat) (reply : DialReply)
  /-- Something comes over the tunnel. -/
  | receive (draw : Rat) (incoming : Tunnel.Incoming)
  /-- A session takes a step of its own, if it has one to take. -/
  | runSession (i : Nat)
  /-- The request that dials back is replied to. -/
  | answerSession (i : Nat) (reply : DialReply)
  /-- The connection of a session has been served. -/
  | endSession (i : Nat)

/-- What the agent does to the world, in the order in which it does it. -/
inductive AgentEffect where
  /-- Writes an event to the log. -/
  | log (e : LogEvent)
  /-- Sends a request. -/
  | send (task : RequestTask) (r : Request)
  /-- Makes a bundle the current one. -/
  | store (b : Bundle)
  /-- Forgets what was pushed and is not desired. -/
  | retain (d : DesiredServices)
  /-- Tells the supervisor. -/
  | apply (b : Bundle)
  /-- Publishes the state of a loop. -/
  | publish (kind : ObservationKind) (s : LoopState)
  /-- Starts to collect the description of the device. -/
  | collect
  /-- Dials, to open the tunnel. -/
  | dial (d : Dial)
  /-- Dials back, for a session. -/
  | dialBack (session : Nat) (d : Dial)
  /-- Serves the connection of a session. -/
  | serve (session : Nat)

/-! ### The agent -/

/-- An agent at work, with a supervisor whose states are of type `σ`. -/
structure Agent (σ : Type) where
  /-- The client of all tasks. -/
  client : Client
  /-- The context of all tasks. -/
  context : Context
  /-- The moment. -/
  now : Moment
  /-- The shutdown signal. -/
  signal : Signal
  /-- The current bundle. -/
  snapshot : Snapshot
  /-- What was pushed. -/
  cache : PushCache
  /-- The supervisor. -/
  supervisor : Supervisor σ
  /-- The state of the supervisor. -/
  supervisorState : σ
  /-- What the supervisor is at work at. -/
  work? : Option (SupervisorRun σ)
  /-- The poller. -/
  poller : Poller
  /-- The collector of each kind. -/
  collector : (kind : ObservationKind) → CollectorTask kind
  /-- The loop that reports the description of the device. -/
  info : InfoLoop
  /-- The tunnel. -/
  tunnel? : Option Tunnel

namespace Agent

variable {σ : Type}

/-- An agent none of whose tasks has been run: no bundle is stored, nothing is remembered of pushes,
and each task waits to take its first step. -/
def create (config : Config) (supervisor : Supervisor σ) (hasTunnel : Bool) (client : Client)
    (now : Moment) (signal : Signal) : Agent σ where
  client := client
  context := .root
  now := now
  signal := signal
  snapshot := .empty
  cache := .empty
  supervisor := supervisor
  supervisorState := supervisor.initial
  work? := none
  poller := .create client .root config.bundlePoll
  collector kind := .create kind config.collector .root
  info := .create client .root config.infoInterval
  tunnel? := if hasTunnel then some (.create client .root config.tunnelBackoff) else none

/-- What a task of `a` sees when it is run: the moment, the shutdown signal and the current
bundle. -/
def surroundings (a : Agent σ) : Surroundings := ⟨a.now, a.signal, a.snapshot⟩

/-- The names of the tasks of `a`, in the order in which they are started. -/
def taskNames (a : Agent σ) : List String :=
  RequestTask.all.map RequestTask.name ++ if a.tunnel?.isSome then [Tunnel.taskName] else []

/-! ### The poller and the supervisor -/

/-- Carries out one thing that the poller does: the agent with what it changes, and what it is to
the world. -/
def perform (a : Agent σ) : PollerEffect → Agent σ × List AgentEffect
  | .log e => (a, [.log e])
  | .send r => (a, [.send .poller r])
  | .store b => ({ a with snapshot := a.snapshot.store b }, [.store b])
  | .retain d => ({ a with cache := a.cache.retain d }, [.retain d])
  | .apply b =>
    ({ a with work? := some (.running (a.supervisor.apply a.supervisorState b)) }, [.apply b])

/-- Carries out what the poller does, one thing after the other, each in the agent that the ones
before it left. -/
def carryOut (a : Agent σ) : List PollerEffect → Agent σ × List AgentEffect
  | [] => (a, [])
  | e :: rest =>
    let (a, effects) := a.perform e
    let (a, more) := a.carryOut rest
    (a, effects ++ more)

/-- The agent with the poller after a step `step`, and with what the poller does in it carried
out. -/
def setPoller (a : Agent σ) (step : Poller × List PollerEffect) : Agent σ × List AgentEffect :=
  carryOut { a with poller := step.1 } step.2

/-- What the supervisor does, as the agent does it. -/
def supervisorEffect : SupervisorEffect → AgentEffect
  | .log e => .log e
  | .send r => .send .poller r

/-- The agent with the supervisor's work after a step `step`. When the work has come to an end, the
poller goes on (`Poller.applied`); when it has broken down, the poller breaks down with it. -/
def setWork (a : Agent σ) (step : SupervisorRun σ × PushCache × List SupervisorEffect) :
    Agent σ × List AgentEffect :=
  let (work, cache, effects) := step
  let a := { a with cache }
  let (a, more) := match work with
    | .done state result =>
      { a with supervisorState := state, work? := none }.setPoller (a.poller.applied result)
    | .broken => ({ a with work? := none, poller := a.poller.breakDown }, [])
    | work => ({ a with work? := some work }, [])
  (a, effects.map supervisorEffect ++ more)

/-- The next step of the poller or the supervisor, if there is one. While the supervisor is at work
the poller takes none. -/
def runPoller? (a : Agent σ) : Option (Agent σ × List AgentEffect) :=
  match a.work? with
  | some work => (work.advance? a.client a.context a.surroundings a.cache).map a.setWork
  | none => (a.poller.advance? a.surroundings).map a.setPoller

/-- The agent after the reply `r` to the request of the poller or the supervisor; the supervisor's
comes first, as the poller has none under way while it waits. -/
def replyPoller (a : Agent σ) (r : Except TransportError Reply) : Agent σ × List AgentEffect :=
  match a.work? with
  | some work => a.setWork (work.reply a.surroundings a.cache r)
  | none => a.setPoller (a.poller.reply a.surroundings r)

/-! ### The other tasks -/

/-- What a collector does, as the agent does it. -/
def collectorEffect (kind : ObservationKind) : CollectorEffect → AgentEffect
  | .log e => .log e
  | .publish s => .publish kind s
  | .send r => .send (.collector kind) r

/-- The agent with the collector of `kind` after a step `step`; the other collectors stay as they
are. -/
def setCollector (a : Agent σ) (kind : ObservationKind)
    (step : CollectorTask kind × List CollectorEffect) : Agent σ × List AgentEffect :=
  ({ a with collector := fun k => if h : kind = k then h ▸ step.1 else a.collector k },
    step.2.map (collectorEffect kind))

/-- What the loop for the description of the device does, as the agent does it. -/
def infoEffect : InfoEffect → AgentEffect
  | .log e => .log e
  | .collect => .collect
  | .send r => .send .info r

/-- The agent with the loop for the description of the device after a step `step`. -/
def setInfo (a : Agent σ) (step : InfoLoop × List InfoEffect) : Agent σ × List AgentEffect :=
  ({ a with info := step.1 }, step.2.map infoEffect)

/-- What the tunnel does, as the agent does it. -/
def tunnelEffect : TunnelEffect → AgentEffect
  | .log e => .log e
  | .dial d => .dial d
  | .dialBack i d => .dialBack i d
  | .serve i => .serve i

/-- The agent with the tunnel after a step `step` of its own or of one of its sessions. -/
def setTunnel (a : Agent σ) (step : Tunnel × List TunnelEffect) : Agent σ × List AgentEffect :=
  ({ a with tunnel? := some step.1 }, step.2.map tunnelEffect)

/-- Lets the tunnel take a step, if there is a tunnel and `step?` gives one for it; otherwise
nothing happens. -/
def withTunnel (a : Agent σ) (step? : Tunnel → Option (Tunnel × List TunnelEffect)) :
    Agent σ × List AgentEffect :=
  match a.tunnel?.bind step? with
  | some step => a.setTunnel step
  | none => (a, [])

/-! ### Steps -/

/-- The next step of a task, if there is one, whatever the other tasks do. -/
def run? (a : Agent σ) : RequestTask → Option (Agent σ × List AgentEffect)
  | .poller => a.runPoller?
  | .collector kind =>
    ((a.collector kind).advance? a.client a.surroundings).map (a.setCollector kind)
  | .info => (a.info.advance? a.surroundings).map a.setInfo

/-- The next step of the tunnel or of one of its sessions, if there is one. The tunnel comes before
its sessions. -/
def runTunnel? (a : Agent σ) (draw : Rat) : Option (Agent σ × List AgentEffect) :=
  a.tunnel?.bind fun t =>
    (t.advance? a.surroundings draw <|>
      (List.range t.sessions.length).findSome? (t.advanceSession? a.surroundings)).map a.setTunnel

/-- The next step that any of the tasks can take on its own, if there is one; the tasks that send
requests come first, in the order in which they are started. -/
def runAny? (a : Agent σ) (draw : Rat) : Option (Agent σ × List AgentEffect) :=
  RequestTask.all.findSome? a.run? <|> a.runTunnel? draw

/-- The agent after something has happened, and what it does about it. A task that is run without a
step to take stays as it is. -/
def step (a : Agent σ) : AgentEvent → Agent σ × List AgentEffect
  | .elapse duration => ({ a with now := a.now + duration }, [])
  | .trigger => ({ a with signal := a.signal.trigger }, [])
  | .drop => ({ a with signal := a.signal.drop }, [])
  | .run task => (a.run? task).getD (a, [])
  | .reply .poller r => a.replyPoller r
  | .reply (.collector kind) r =>
    a.setCollector kind ((a.collector kind).reply a.client a.surroundings r)
  | .reply .info r => a.setInfo (a.info.reply a.surroundings r)
  | .collected info => a.setInfo (a.info.collected a.surroundings info)
  | .runTunnel draw => a.withTunnel (·.advance? a.surroundings draw)
  | .answerTunnel draw reply => a.withTunnel fun t => some (t.answer a.surroundings draw reply)
  | .receive draw incoming => a.withTunnel fun t => some (t.receive a.surroundings draw incoming)
  | .runSession i => a.withTunnel (·.advanceSession? a.surroundings i)
  | .answerSession i reply => a.withTunnel fun t => some (t.answerSession a.surroundings i reply)
  | .endSession i => a.withTunnel fun t => some (t.endSession i, [])

/-- The agent after several things have happened, and what it does about them, in order. A list of
events is a schedule of the tasks, and every list is one. -/
def steps (a : Agent σ) : List AgentEvent → Agent σ × List AgentEffect
  | [] => (a, [])
  | e :: rest =>
    let (a, effects) := a.step e
    let (a, more) := a.steps rest
    (a, effects ++ more)

end Agent

end FleetAgent
