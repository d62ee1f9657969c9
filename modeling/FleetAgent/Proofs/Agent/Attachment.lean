import FleetAgent.Proofs.Agent.Steps
import FleetAgent.Proofs.Collector.History
import FleetAgent.Proofs.Controller.Waiting
import Mathlib.Tactic.SplitIfs
/-!
# What the tasks do when they are called off

A task is *attached* if everything that it waits for ends with the shutdown: each flight `flight`
under way has `flight.context.attached = true`. Each section is about one of the tasks, defines its
`IsAttached`, and shows that its steps heed the shutdown (`HeedsShutdown`): they keep the task
attached, and once the shutdown signal is raised they are worth a note at most
(`AgentEffect.isNote`), so that nothing is sent, dialled or stored. The result of a section is its
`Move.heeds`.

Two facts carry all of it. In an attached context a raised signal is a cancellation
(`Context.isCanceled_of_attached`), and a request that was started was not called off
(`Client.not_isCanceled_of_start`), so the steps that start one do not exist behind the shutdown.
-/

namespace FleetAgent

open Controller

variable {σ : Type} {s : Surroundings}

/-- Whether an effect only tells something: to the log, or to those who watch a loop. -/
def AgentEffect.isNote : AgentEffect → Bool
  | .log _ | .publish _ _ => true
  | _ => false

/-- A step of a task heeds the shutdown. `IsAttached` is that of the task, and `tell` says what the
effects of the task are to the agent. -/
structure HeedsShutdown {τ ε : Type} (IsAttached : τ → Prop) (tell : ε → AgentEffect)
    (signal : Signal) (step : τ × List ε) : Prop where
  /-- What the task waits for behind the step ends with the shutdown. -/
  attached : IsAttached step.1
  /-- Once the signal is raised, the task only tells something. -/
  notes : signal.isRaised = true → ∀ effect ∈ step.2, (tell effect).isNote = true

/-! ### The poller -/

/-- What the poller does, as the agent does it. -/
def Agent.pollerEffect : PollerEffect → AgentEffect
  | .log e => .log e
  | .send r => .send .poller r
  | .store b => .store b
  | .retain d => .retain d
  | .apply b => .apply b

/-- Whether a place of the poller ends with the shutdown: only `.fetching` waits for something that
might not. -/
def PollerPhase.IsAttached : PollerPhase → Prop
  | .fetching _ flight => flight.context.attached = true
  | _ => True

namespace Poller

variable {p : Poller} {outcome : Option FetchOutcome} {step : Poller × List PollerEffect}

/-- Whether all that the poller waits for ends with the shutdown. -/
structure IsAttached (p : Poller) : Prop where
  /-- The context in which it fetches and rests. -/
  context : p.context.attached = true
  /-- The fetch that is under way, if there is one. -/
  phase : p.phase.IsAttached

/-- A step of the poller heeds the shutdown. -/
abbrev Heeds (signal : Signal) (step : Poller × List PollerEffect) : Prop :=
  HeedsShutdown IsAttached Agent.pollerEffect signal step

/-- The end of a fetch with the error `e`, called off or not, is worth an event. -/
theorem heeds_fetched_error (h : p.context.attached = true) (ticker : Ticker) (e : ClientError)
    (signal : Signal) : Heeds signal (p.fetched ticker (.error e)) := by
  rw [fetched]
  split <;> exact ⟨⟨h, trivial⟩, fun _ => List.forall_mem_singleton.mpr rfl⟩

/-- **The poller** heeds the shutdown: a move of an attached poller leaves it attached and starts
nothing once the signal is raised. -/
theorem Move.heeds (hmove : p.Move s outcome step) (h : p.IsAttached) : Heeds s.signal step := by
  cases hmove with
  | rests => exact ⟨h, fun _ => nofun⟩
  | begins =>
    refine ⟨⟨h.context, ?_⟩, fun _ => List.forall_mem_singleton.mpr rfl⟩
    show PollerPhase.IsAttached (if p.period = 0 then _ else _)
    split <;> exact trivial
  | stops => exact ⟨⟨h.context, trivial⟩, fun _ => List.forall_mem_singleton.mpr rfl⟩
  | sends hphase hstart =>
    exact ⟨⟨h.context, h.context⟩, fun hraised =>
      absurd hraised (Context.not_isRaised h.context (Client.not_isCanceled_of_start hstart))⟩
  | asksInVain hphase e => exact heeds_fetched_error h.context _ e _
  | @fetches ticker flight hphase reply? r hpoll =>
    cases hresult : readBundle r with
    | error e => exact heeds_fetched_error h.context ticker e _
    | ok b =>
      refine ⟨⟨h.context, trivial⟩, fun hraised => ?_⟩
      -- A request in flight is called off, so that there is no bundle.
      have hflight := h.phase
      rw [hphase] at hflight
      rw [Flight.poll_of_isCanceled _ _ (Context.isCanceled_of_attached hflight hraised)] at hpoll
      rw [← Option.some.inj hpoll] at hresult
      cases hresult

/-- The end of the supervisor's work with `result` is worth an event at most. -/
theorem heeds_applied (h : p.IsAttached) (result : Except SupervisorError Unit)
    (signal : Signal) : Heeds signal (p.applied result) := by
  unfold applied
  split
  next =>
    refine ⟨⟨h.context, trivial⟩, fun _ => ?_⟩
    rcases result with error | ⟨⟩
    · exact List.forall_mem_singleton.mpr rfl
    · nofun
  next => exact ⟨h, fun _ => nofun⟩

end Poller

/-! ### The supervisor -/

namespace SupervisorRun

variable {client : Client} {context : Context} {cache : PushCache} {work : SupervisorRun σ}
  {step : SupervisorRun σ × PushCache × List SupervisorEffect}

/-- Whether all that the supervisor waits for ends with the shutdown. A pause (`.waiting`) is polled
in the context of the agent and needs nothing of its own. -/
def IsAttached : SupervisorRun σ → Prop
  | .pushing _ flight _ => flight.context.attached = true
  | _ => True

/-- A step of the supervisor heeds the shutdown. -/
abbrev Heeds (signal : Signal) (step : SupervisorRun σ × PushCache × List SupervisorEffect) :
    Prop :=
  HeedsShutdown IsAttached Agent.supervisorEffect signal (step.1, step.2.2)

/-- The end of a report of `o` leaves nothing under way. -/
theorem heeds_pushed (cache : PushCache) (o : Observation)
    (next : Except ClientError Bool → Realization σ) (result : Except ClientError Unit)
    (signal : Signal) : Heeds signal (pushed cache o next result) := by
  cases result with
  | ok _ => exact ⟨trivial, fun _ => List.forall_mem_singleton.mpr rfl⟩
  | error e => exact ⟨trivial, fun _ => nofun⟩

/-- A step of a realization `r`. The only one that sends something starts a report, and it fails to
once the signal is raised. -/
theorem heeds_step {r : Realization σ} (hcontext : context.attached = true)
    (h : SupervisorRun.step client context s cache r = some step) : Heeds s.signal step := by
  cases r with
  | done state result =>
    rw [← Option.some.inj h]
    exact ⟨trivial, fun _ => nofun⟩
  | log e next =>
    rw [← Option.some.inj h]
    exact ⟨trivial, fun _ => List.forall_mem_singleton.mpr rfl⟩
  | report o next =>
    rw [SupervisorRun.step] at h
    split at h
    next =>
      rw [← Option.some.inj h]
      exact ⟨trivial, fun _ => nofun⟩
    next =>
      split at h
      next hstart =>
        rw [← Option.some.inj h]
        -- A report that was started was not called off, so the signal cannot be raised.
        exact ⟨hcontext, fun hraised =>
          absurd hraised (Context.not_isRaised hcontext (Client.not_isCanceled_of_start hstart))⟩
      next =>
        rw [← Option.some.inj h]
        exact heeds_pushed _ _ _ _ _
  | wait duration next =>
    rw [← Option.some.inj h]
    exact ⟨trivial, fun _ => nofun⟩
  | stuck => cases h
  | broken =>
    rw [← Option.some.inj h]
    exact ⟨trivial, fun _ => nofun⟩

/-- **The supervisor** heeds the shutdown. -/
theorem Move.heeds (hmove : work.Move client context s cache step)
    (hcontext : context.attached = true) (h : work.IsAttached) : Heeds s.signal step := by
  cases hmove with
  | advances hstep =>
    cases work with
    | running r => exact heeds_step hcontext hstep
    | pushing o flight next =>
      obtain ⟨r, -, rfl⟩ := Option.map_eq_some_iff.mp hstep
      exact heeds_pushed _ _ _ _ _
    | waiting wakeAt next =>
      obtain ⟨r, -, rfl⟩ := Option.map_eq_some_iff.mp hstep
      exact ⟨trivial, fun _ => nofun⟩
    | done _ _ => cases hstep
    | broken => cases hstep
  | isReplied r =>
    cases work with
    | pushing o flight next =>
      rw [reply]
      split
      next => exact heeds_pushed _ _ _ _ _
      next => exact ⟨h, fun _ => nofun⟩
    | _ => exact ⟨trivial, fun _ => nofun⟩

end SupervisorRun

/-! ### The collectors -/

/-- The deletions that a step of a loop starts run in a context `ctx` derived from that of the loop,
up to a timeout, and the loop is in a pass behind the step, where it waits for them. -/
def Loop.AwaitsDeletions {kind : ObservationKind}
    (step : Loop kind × List (LoopEffect kind.Key)) : Prop :=
  ∀ key ctx, .delete key ctx ∈ step.2 →
    ctx.attached = step.1.context.attached ∧ step.1.phase.isPassing = true

namespace Loop

variable {kind : ObservationKind} {l : Loop kind}

/-- Going on with `pass` starts the deletion of the next key, or none at the end of the pass. -/
theorem awaitsDeletions_resume (l : Loop kind) (now : Moment) (ticker : Ticker) (b : Bundle)
    (pass : Pass kind.Key) : AwaitsDeletions (l.resume now ticker b pass) := by
  intro key ctx hmem
  match pass with
  | .deleting _ _ _ =>
    obtain ⟨-, rfl⟩ := LoopEffect.delete.inj (List.mem_singleton.mp hmem)
    exact ⟨rfl, rfl⟩
  | .over report =>
    rw [resume, passEvents] at hmem
    split at hmem
    next => cases hmem
    next => cases List.mem_singleton.mp hmem

/-- A loop that begins starts its ticker, or ends at once if its tick is `0`; it deletes nothing
yet. -/
theorem awaitsDeletions_begin (l : Loop kind) (now : Moment) : AwaitsDeletions (l.begin now) := by
  intro key ctx hmem
  rw [begin] at hmem
  split at hmem <;> simp [event] at hmem

/-- At a tick the loop begins a pass, or waits for the next tick if no bundle is stored. Either way
it deletes only for an attached context. -/
theorem awaitsDeletions_tick (l : Loop kind) (s : Surroundings) (ticker : Ticker) :
    AwaitsDeletions (l.tick s ticker) := by
  rw [tick]
  split
  next =>
    intro key ctx hmem
    cases hmem
  next b _ =>
    intro key ctx hmem
    obtain hmem | hmem := List.mem_cons.mp hmem
    · cases hmem
    · exact awaitsDeletions_resume _ _ _ _ _ key ctx hmem

/-- What a loop does on its own, in each of its phases. -/
theorem awaitsDeletions_advance {step : Loop kind × List (LoopEffect kind.Key)}
    (h : l.advance? s = some step) : AwaitsDeletions step := by
  -- A loop that ends says so, and starts nothing.
  have hfarewell : ∀ (l : Loop kind) message, AwaitsDeletions (l, farewell message) := by
    intro l message key ctx hmem
    simp [farewell, event] at hmem
  rw [advance?] at h
  split at h
  next =>
    rw [← Option.some.inj h]
    intro key ctx hmem
    simp [event] at hmem
  next =>
    split_ifs at h
    · rw [← Option.some.inj h]
      exact hfarewell _ _
    · rw [← Option.some.inj h]
      exact awaitsDeletions_begin _ _
  next =>
    split_ifs at h
    · rw [← Option.some.inj h]
      exact hfarewell _ _
    · rw [← Option.some.inj h]
      exact awaitsDeletions_tick _ _ _
  next => cases h
  next => cases h

/-- The end of a deletion with `result` goes on with the pass. -/
theorem awaitsDeletions_finish (l : Loop kind) (s : Surroundings)
    (result : Except ClientError Unit) : AwaitsDeletions (l.finish s result) := by
  rw [finish]
  split
  next ticker b pass _ =>
    intro key ctx hmem
    obtain hmem | hmem := List.mem_append.mp hmem
    · obtain ⟨e, -, he⟩ := List.mem_map.mp hmem
      cases he
    · exact awaitsDeletions_resume _ _ _ _ _ key ctx hmem
  next =>
    intro key ctx hmem
    cases hmem

/-- During a pass the loop has no step of its own. -/
theorem advance_of_isPassing (h : l.phase.isPassing = true) : l.advance? s = none := by
  cases hphase : l.phase with
  | passing ticker b pass => rw [advance?, hphase]
  | _ =>
    rw [hphase] at h
    cases h

end Loop

/-- Whether a call that was started ends with the shutdown. One that was refused has ended
already. -/
def Controller.Pending.IsAttached : Pending → Prop
  | .refused _ => True
  | .sent flight => flight.context.attached = true

namespace CollectorTask

variable {kind : ObservationKind} {client : Client} {t : CollectorTask kind}
  {step : CollectorTask kind × List CollectorEffect}

/-- Whether all that a collector waits for ends with the shutdown. -/
structure IsAttached (t : CollectorTask kind) : Prop where
  /-- The context of its loop, from which those of the deletions are derived. -/
  context : t.loop.context.attached = true
  /-- The deletion under way; the loop is then in a pass, and has no step of its own. -/
  deletion : ∀ pending, t.deletion? = some pending →
    pending.IsAttached ∧ t.loop.phase.isPassing = true

/-- A step of a collector heeds the shutdown. -/
abbrev Heeds (signal : Signal) (step : CollectorTask kind × List CollectorEffect) : Prop :=
  HeedsShutdown IsAttached (Agent.collectorEffect kind) signal step

/-- A deletion that is started in an attached context `ctx` ends with the shutdown, and is not sent
behind it. -/
theorem launch_of_attached (client : Client) (s : Surroundings) {ctx : Context}
    (h : ctx.attached = true) (call : Call) :
    (client.launch ctx s.signal s.now call).1.IsAttached ∧
      (s.signal.isRaised = true → (client.launch ctx s.signal s.now call).2 = none) := by
  rw [Client.launch]
  split
  next hstart =>
    exact ⟨h, fun hraised =>
      absurd hraised (Context.not_isRaised h (Client.not_isCanceled_of_start hstart))⟩
  next => exact ⟨trivial, fun _ => rfl⟩

/-- What the loop does is carried out with heed to the shutdown, if it waits for its deletions
(`hloop`). -/
theorem heeds_carryOut (h : t.IsAttached) {effects : List (LoopEffect kind.Key)}
    (hloop : Loop.AwaitsDeletions (t.loop, effects)) :
    Heeds s.signal (carryOut client s t effects) := by
  -- Each effect is carried out in the task that the ones before it left, which is attached again.
  induction effects generalizing t with
  | nil => exact ⟨h, fun _ => nofun⟩
  | cons effect rest ih =>
    have hrest : Loop.AwaitsDeletions (t.loop, rest) := fun key ctx hmem =>
      hloop key ctx (List.mem_cons_of_mem _ hmem)
    cases effect with
    | log e =>
      have hheeds := ih h hrest
      exact ⟨hheeds.attached, fun hraised =>
        List.forall_mem_cons.mpr ⟨rfl, hheeds.notes hraised⟩⟩
    | publish state =>
      have hheeds := ih (t := { t with state }) ⟨h.context, h.deletion⟩ hrest
      exact ⟨hheeds.attached, fun hraised =>
        List.forall_mem_cons.mpr ⟨rfl, hheeds.notes hraised⟩⟩
    | load b => exact ih h hrest
    | delete key ctx =>
      obtain ⟨hctx, hpassing⟩ := hloop key ctx List.mem_cons_self
      obtain ⟨hpending, hsends⟩ := launch_of_attached client s (hctx.trans h.context)
        (.deleteObservation kind key)
      have hheeds := ih (t := { t with
        deletion? := some (client.launch ctx s.signal s.now (.deleteObservation kind key)).1 })
        ⟨h.context, fun pending heq => ⟨Option.some.inj heq ▸ hpending, hpassing⟩⟩ hrest
      -- The request of a deletion is not sent once the signal is raised.
      refine ⟨hheeds.attached, fun hraised => ?_⟩
      show ∀ effect ∈ ((client.launch ctx s.signal s.now
        (.deleteObservation kind key)).2.map CollectorEffect.send).toList ++ _, _
      rw [hsends hraised]
      exact hheeds.notes hraised

/-- The end of a deletion with `result`, which the loop goes on from. -/
theorem heeds_finish (h : t.IsAttached) (result : Except ClientError Unit) :
    Heeds s.signal (finish client s t result) := by
  refine heeds_carryOut ⟨?_, fun pending hpending => ?_⟩ (t.loop.awaitsDeletions_finish s result)
  · exact (Loop.context_finish ..).symm ▸ h.context
  · cases hpending

/-- **A collector** heeds the shutdown. -/
theorem Move.heeds (hmove : t.Move client s step) (h : t.IsAttached) : Heeds s.signal step := by
  cases hmove with
  | advances hstep =>
    rw [advance?] at hstep
    split at hstep
    next loop effects hloop =>
      rw [← Option.some.inj hstep]
      refine heeds_carryOut ⟨?_, fun pending hpending => ?_⟩ (Loop.awaitsDeletions_advance hloop)
      · exact (Loop.context_advance hloop).symm ▸ h.context
      · -- While a deletion is under way the loop has no step, so this case does not arise.
        rw [Loop.advance_of_isPassing (h.deletion pending hpending).2] at hloop
        cases hloop
    next =>
      obtain ⟨result, -, rfl⟩ := Option.map_eq_some_iff.mp hstep
      exact heeds_finish h result
  | isReplied r =>
    rw [reply]
    split
    next => exact heeds_finish h _
    next => exact ⟨h, fun _ => nofun⟩

end CollectorTask

/-! ### The description of the device -/

/-- Whether a place of the loop ends with the shutdown: only `.pushing` waits for something that
might not. -/
def InfoPhase.IsAttached : InfoPhase → Prop
  | .pushing _ _ flight => flight.context.attached = true
  | _ => True

namespace InfoLoop

variable {l : InfoLoop} {step : InfoLoop × List InfoEffect}

/-- Whether all that the loop waits for ends with the shutdown. -/
structure IsAttached (l : InfoLoop) : Prop where
  /-- The context in which it collects and rests. -/
  context : l.context.attached = true
  /-- The push that is under way, if there is one. -/
  phase : l.phase.IsAttached

/-- A step of the loop heeds the shutdown. -/
abbrev Heeds (signal : Signal) (step : InfoLoop × List InfoEffect) : Prop :=
  HeedsShutdown IsAttached Agent.infoEffect signal step

/-- The end of a push of `info` with `result`. -/
theorem heeds_pushed (h : l.context.attached = true) (ticker : Ticker) (info : DeviceInfo)
    (result : Except ClientError Unit) (signal : Signal) :
    Heeds signal (l.pushed ticker info result) := by
  cases result with
  | ok _ => exact ⟨⟨h, trivial⟩, fun _ => List.forall_mem_singleton.mpr rfl⟩
  | error e =>
    rw [pushed]
    split <;> exact ⟨⟨h, trivial⟩, fun _ => List.forall_mem_singleton.mpr rfl⟩

theorem heeds_interrupted (h : l.context.attached = true) (ticker : Ticker) (i : Interruption)
    (signal : Signal) : Heeds signal (l.interrupted ticker i) := by
  cases i <;> exact ⟨⟨h, trivial⟩, fun _ => List.forall_mem_singleton.mpr rfl⟩

/-- Reporting `info` pushes it in the context of the loop, unless it is what was reported last. -/
theorem heeds_report (h : l.context.attached = true) (ticker : Ticker) (info : DeviceInfo) :
    Heeds s.signal (l.report s ticker info) := by
  rw [report]
  split
  next => exact ⟨⟨h, trivial⟩, fun _ => nofun⟩
  next =>
    split
    next hstart =>
      exact ⟨⟨h, h⟩, fun hraised =>
        absurd hraised (Context.not_isRaised h (Client.not_isCanceled_of_start hstart))⟩
    next => exact heeds_pushed h _ _ _ _

/-- What the loop does on its own, in each of its phases. -/
theorem heeds_advance (h : l.context.attached = true) (hstep : l.advance? s = some step) :
    Heeds s.signal step := by
  rw [advance?] at hstep
  split at hstep
  next =>
    rw [← Option.some.inj hstep]
    refine ⟨⟨h, ?_⟩, fun _ => List.forall_mem_singleton.mpr rfl⟩
    -- A period of zero breaks the loop, and any other starts the ticker.
    show InfoPhase.IsAttached (if l.period = 0 then _ else _)
    split <;> exact trivial
  next =>
    split_ifs at hstep with hcanceled hdue
    · rw [← Option.some.inj hstep]
      exact ⟨⟨h, trivial⟩, fun _ => List.forall_mem_singleton.mpr rfl⟩
    · rw [← Option.some.inj hstep]
      exact ⟨⟨h, trivial⟩, fun hraised =>
        absurd (Context.isCanceled_of_attached h hraised) hcanceled⟩
  next =>
    split at hstep
    next =>
      rw [← Option.some.inj hstep]
      exact heeds_interrupted h _ _ _
    next => cases hstep
  next =>
    obtain ⟨r, -, rfl⟩ := Option.map_eq_some_iff.mp hstep
    exact heeds_pushed h _ _ _ _
  next => cases hstep
  next => cases hstep

/-- **The loop that reports the description of the device** heeds the shutdown. -/
theorem Move.heeds (hmove : l.Move s step) (h : l.IsAttached) : Heeds s.signal step := by
  cases hmove with
  | advances hstep => exact heeds_advance h.context hstep
  | collects info =>
    rw [collected]
    split
    next =>
      split
      next => exact heeds_interrupted h.context _ _ _
      next => exact heeds_report h.context _ _
      next => exact ⟨h, fun _ => nofun⟩
    next => exact ⟨h, fun _ => nofun⟩
  | isReplied r =>
    rw [reply]
    split
    next =>
      split
      next => exact heeds_pushed h.context _ _ _ _
      next => exact ⟨h, fun _ => nofun⟩
    next => exact ⟨h, fun _ => nofun⟩

end InfoLoop

/-! ### The tunnel and its sessions -/

namespace Tunnel

variable {t : Tunnel} {step : Tunnel × List TunnelEffect}

/-- Whether all that the tunnel and its sessions wait for ends with the shutdown. They all share one
context. -/
def IsAttached (t : Tunnel) : Prop := t.context.attached = true

/-- A step of the tunnel or of a session heeds the shutdown. -/
abbrev Heeds (signal : Signal) (step : Tunnel × List TunnelEffect) : Prop :=
  HeedsShutdown IsAttached Agent.tunnelEffect signal step

theorem heeds_stop (h : t.IsAttached) (signal : Signal) : Heeds signal t.stop :=
  ⟨h, fun _ => List.forall_mem_singleton.mpr rfl⟩

/-- A rest, with an event that says why. -/
theorem heeds_rest (h : t.IsAttached) (now : Moment) (draw : Rat) (e : LogEvent)
    (signal : Signal) : Heeds signal ((t.rest now draw).1, .log e :: (t.rest now draw).2) :=
  ⟨h, fun _ => List.forall_mem_cons.mpr ⟨rfl, List.forall_mem_singleton.mpr rfl⟩⟩

/-- The end of the request that opens the tunnel, with `result`. -/
theorem heeds_opened (h : t.IsAttached) (now : Moment) (draw : Rat)
    (result : Except ClientError Unit) (signal : Signal) :
    Heeds signal (t.opened now draw result) := by
  cases result with
  | ok _ => exact ⟨h, fun _ => List.forall_mem_singleton.mpr rfl⟩
  | error e =>
    rw [opened]
    split
    next => exact heeds_stop h signal
    next => exact heeds_rest h now draw _ signal

/-- The connection of the tunnel breaks off with `e`. -/
theorem heeds_fail (h : t.IsAttached) (now : Moment) (draw : Rat) (e : ClientError)
    (signal : Signal) : Heeds signal (t.fail now draw e) := by
  rw [fail]
  split
  next => exact heeds_stop h signal
  next => exact heeds_rest h now draw _ signal

theorem heeds_connect (h : t.IsAttached) (draw : Rat) : Heeds s.signal (t.connect s draw) := by
  rw [connect]
  split
  next hstart =>
    exact ⟨h, fun hraised =>
      absurd hraised (Context.not_isRaised h (Client.not_isCanceled_of_startTunnel hstart))⟩
  next => exact heeds_opened h _ _ _ _

/-- A message `payload` that comes over the tunnel may add a session, which has not dialled yet. -/
theorem heeds_handle (h : t.IsAttached) (payload : List UInt8) (signal : Signal) :
    Heeds signal (t.handle payload) := by
  rw [handle]
  split
  next => exact ⟨h, fun _ => List.forall_mem_singleton.mpr rfl⟩
  next m _ =>
    split
    next => exact ⟨h, fun _ => List.forall_mem_singleton.mpr rfl⟩
    next => exact ⟨h, fun _ => nofun⟩
    next =>
      refine ⟨h, fun _ => List.forall_mem_singleton.mpr ?_⟩
      rw [ignoredEvent]
      split <;> rfl

/-- What the tunnel does on its own, in each of its phases. -/
theorem heeds_advance (h : t.IsAttached) (draw : Rat) (hstep : t.advance? s draw = some step) :
    Heeds s.signal step := by
  rw [advance?] at hstep
  split at hstep
  next =>
    rw [← Option.some.inj hstep]
    have hheeds := heeds_connect (s := s) h draw
    exact ⟨hheeds.attached, fun hraised =>
      List.forall_mem_cons.mpr ⟨rfl, hheeds.notes hraised⟩⟩
  next =>
    split at hstep
    next =>
      rw [← Option.some.inj hstep]
      exact heeds_opened h _ _ _ _
    next => cases hstep
  next =>
    split at hstep
    next =>
      rw [← Option.some.inj hstep]
      exact heeds_fail h _ _ _ _
    next => cases hstep
  next =>
    split at hstep
    next => cases hstep
    next =>
      rw [← Option.some.inj hstep]
      exact heeds_connect h draw
    next =>
      rw [← Option.some.inj hstep]
      exact heeds_stop h _
  next => cases hstep

/-- Whatever comes over the tunnel is handled, or ends the connection. -/
theorem heeds_receive (h : t.IsAttached) (draw : Rat) (incoming : Incoming) :
    Heeds s.signal (t.receive s draw incoming) := by
  unfold receive
  split
  next =>
    split
    next => exact heeds_fail h _ _ _ _
    next =>
      cases incoming with
      | message payload => exact heeds_handle h payload _
      | closed => exact heeds_rest h _ _ _ _
      | lost => exact heeds_fail h _ _ _ _
  next => exact ⟨h, fun _ => nofun⟩

/-- The end of the dialling of session `i` with `e` is worth an event at most. -/
theorem heeds_dialled_error (h : t.IsAttached) (i : Nat) (path : String) (e : ClientError)
    (signal : Signal) : Heeds signal (t.dialled i path (.error e)) := by
  refine ⟨h, fun _ => ?_⟩
  show ∀ effect ∈ if e.isCanceled then [] else _, _
  split
  next => nofun
  next => exact List.forall_mem_singleton.mpr rfl

/-- What session `i` does on its own: it dials, unless it is called off. -/
theorem heeds_advanceSession (h : t.IsAttached) (i : Nat)
    (hstep : t.advanceSession? s i = some step) : Heeds s.signal step := by
  obtain ⟨session, -, hstep⟩ := Option.bind_eq_some_iff.mp hstep
  split at hstep
  next =>
    split at hstep
    next hstart =>
      rw [← Option.some.inj hstep]
      exact ⟨h, fun hraised =>
        absurd hraised (Context.not_isRaised h (Client.not_isCanceled_of_startDialBack hstart))⟩
    next =>
      rw [← Option.some.inj hstep]
      exact heeds_dialled_error h _ _ _ _
  next =>
    split at hstep
    next =>
      rw [← Option.some.inj hstep]
      exact heeds_dialled_error h _ _ _ _
    next => cases hstep
  next => cases hstep
  next => cases hstep

/-- The answer `reply` to the dialling of session `i`. -/
theorem heeds_answerSession (h : t.IsAttached) (i : Nat) (reply : DialReply) :
    Heeds s.signal (t.answerSession s i reply) := by
  rw [answerSession]
  split
  next path _ =>
    split
    next => exact heeds_dialled_error h _ _ _ _
    next hpoll =>
      refine ⟨?_, fun hraised => ?_⟩
      · cases reply.result <;> exact h
      · exact absurd (Context.poll_of_isCanceled _ _ (Context.isCanceled_of_attached h hraised))
          (hpoll _)
  next => exact ⟨h, fun _ => nofun⟩

/-- **The tunnel and its sessions** heed the shutdown. -/
theorem Move.heeds (hmove : t.Move s step) (h : t.IsAttached) : Heeds s.signal step := by
  cases hmove with
  | advances draw hstep => exact heeds_advance h draw hstep
  | isAnswered draw reply =>
    rw [answer]
    split
    next => split <;> exact heeds_opened h _ _ _ _
    next => exact ⟨h, fun _ => nofun⟩
  | receives draw incoming => exact heeds_receive h draw incoming
  | advancesSession i hstep => exact heeds_advanceSession h i hstep
  | answersSession i reply => exact heeds_answerSession h i reply
  | endsSession i =>
    refine ⟨?_, fun _ => nofun⟩
    show (t.endSession i).IsAttached
    rw [endSession]
    split <;> exact h

end Tunnel

end FleetAgent
