import FleetAgent.Proofs.Agent.CalledOff
/-!
# The agent is quiet behind the shutdown

`Agent.quiescence` says of every run of an agent, however its tasks are interleaved: once the
shutdown signal was triggered, or nobody was left to do so, the signal stays raised, nothing is sent
or dialled any more, no bundle is stored, and all that was still waited for ends as called off,
whatever comes of it and whatever deadline has passed (`Agent.EndsCanceled`).

The invariant is `Agent.IsAttached`: all that any task waits for ends with the shutdown. A step of a
task keeps it, and does nothing but tell once the signal is raised (`HeedsShutdown`); from these the
same follows for the steps of the agent (`Agent.heeds_step`).
-/

namespace FleetAgent

open Controller

variable {σ : Type}

/-- An event at which a task goes on: it is run, or its request is replied to. -/
inductive AgentEvent.Resumes (task : RequestTask) : AgentEvent → Prop where
  | run : Resumes task (.run task)
  | reply (r : Except TransportError Reply) : Resumes task (.reply task r)

namespace Agent

variable {a : Agent σ} {e : AgentEvent}

/-! ### Steps of the agent -/

/-- Whether all that the tasks of `a` wait for ends with the shutdown: each of them is attached. -/
structure IsAttached (a : Agent σ) : Prop where
  context : a.context.attached = true
  poller : a.poller.IsAttached
  work : ∀ work, a.work? = some work → work.IsAttached
  collector : ∀ kind, (a.collector kind).IsAttached
  info : a.info.IsAttached
  tunnel : ∀ t, a.tunnel? = some t → t.IsAttached

/-- A step of an agent heeds the shutdown; `signal` and `snapshot` are those of the agent before the
step, and `next` is what the step gives. -/
structure Heeds (signal : Signal) (snapshot : Snapshot) (next : Agent σ × List AgentEffect) :
    Prop where
  /-- What the tasks wait for ends with the shutdown. -/
  attached : next.1.IsAttached
  /-- A signal that is raised stays raised. -/
  raised : signal.isRaised = true → next.1.signal.isRaised = true
  /-- Once it is raised, the tasks only tell something. -/
  notes : signal.isRaised = true → ∀ effect ∈ next.2, effect.isNote = true
  /-- And the current bundle stays. -/
  snapshot_eq : signal.isRaised = true → next.1.snapshot = snapshot

/-- An agent that has not been run is attached: all its tasks run in the root context and wait for
nothing. -/
theorem isAttached_create (config : Config) (supervisor : Supervisor σ) (hasTunnel : Bool)
    (client : Client) (now : Moment) (signal : Signal) :
    (create config supervisor hasTunnel client now signal).IsAttached where
  context := rfl
  poller := ⟨rfl, trivial⟩
  work := nofun
  collector kind := ⟨rfl, nofun⟩
  info := ⟨rfl, trivial⟩
  tunnel t ht := by
    rw [create] at ht
    cases hasTunnel with
    | true => rw [← Option.some.inj ht]; rfl
    | false => cases ht

/-- One thing that the poller does, if it is a note once the signal is raised (`hnote`). -/
theorem heeds_perform (h : a.IsAttached) {effect : PollerEffect}
    (hnote : a.signal.isRaised = true → (pollerEffect effect).isNote = true) :
    Heeds a.signal a.snapshot (a.perform effect) := by
  cases effect with
  | log e => exact ⟨h, id, fun _ => List.forall_mem_singleton.mpr rfl, fun _ => rfl⟩
  | send r =>
    exact ⟨h, id, fun hraised => absurd (hnote hraised) Bool.false_ne_true, fun _ => rfl⟩
  | store b =>
    exact ⟨⟨h.context, h.poller, h.work, h.collector, h.info, h.tunnel⟩, id,
      fun hraised => absurd (hnote hraised) Bool.false_ne_true,
      fun hraised => absurd (hnote hraised) Bool.false_ne_true⟩
  | retain d =>
    exact ⟨⟨h.context, h.poller, h.work, h.collector, h.info, h.tunnel⟩, id,
      fun hraised => absurd (hnote hraised) Bool.false_ne_true, fun _ => rfl⟩
  | apply b =>
    refine ⟨⟨h.context, h.poller, fun work hwork => ?_, h.collector, h.info, h.tunnel⟩, id,
      fun hraised => absurd (hnote hraised) Bool.false_ne_true, fun _ => rfl⟩
    rw [← Option.some.inj hwork]
    exact trivial

theorem signal_perform (a : Agent σ) (effect : PollerEffect) :
    (a.perform effect).1.signal = a.signal := by
  cases effect <;> rfl

/-- What the poller does in a step, if all of it is notes once the signal is raised (`hnotes`). -/
theorem heeds_carryOut (h : a.IsAttached) {effects : List PollerEffect}
    (hnotes : a.signal.isRaised = true →
      ∀ effect ∈ effects, (pollerEffect effect).isNote = true) :
    Heeds a.signal a.snapshot (a.carryOut effects) := by
  induction effects generalizing a with
  | nil => exact ⟨h, id, fun _ => nofun, fun _ => rfl⟩
  | cons effect rest ih =>
    have hfirst := heeds_perform h fun hraised => hnotes hraised effect List.mem_cons_self
    have hrest := ih hfirst.attached fun hraised =>
      (List.forall_mem_cons.mp (hnotes (a.signal_perform effect ▸ hraised))).2
    exact ⟨hrest.attached, fun hraised => hrest.raised (hfirst.raised hraised),
      fun hraised => List.forall_mem_append.mpr
        ⟨hfirst.notes hraised, hrest.notes (hfirst.raised hraised)⟩,
      fun hraised => (hrest.snapshot_eq (hfirst.raised hraised)).trans
        (hfirst.snapshot_eq hraised)⟩

/-- A `step` of the poller that heeds the shutdown is one of the agent that does. -/
theorem heeds_setPoller (h : a.IsAttached) {step : Poller × List PollerEffect}
    (hstep : Poller.Heeds a.signal step) : Heeds a.signal a.snapshot (a.setPoller step) :=
  heeds_carryOut (a := { a with poller := step.1 })
    ⟨h.context, hstep.attached, h.work, h.collector, h.info, h.tunnel⟩ hstep.notes

/-- A `step` of the supervisor's work that heeds the shutdown is one of the agent that does, also if
the work ends with it and the poller goes on. -/
theorem heeds_setWork (h : a.IsAttached)
    {step : SupervisorRun σ × PushCache × List SupervisorEffect}
    (hstep : SupervisorRun.Heeds a.signal step) :
    Heeds a.signal a.snapshot (a.setWork step) := by
  obtain ⟨work, cache, effects⟩ := step
  have hnotes : a.signal.isRaised = true →
      ∀ effect ∈ effects.map supervisorEffect, effect.isNote = true :=
    fun hraised => List.forall_mem_map.mpr (hstep.notes hraised)
  cases work with
  | done state result =>
    have hdone := heeds_setPoller
      (a := { a with cache, supervisorState := state, work? := none })
      ⟨h.context, h.poller, nofun, h.collector, h.info, h.tunnel⟩
      (Poller.heeds_applied h.poller result a.signal)
    exact ⟨hdone.attached, hdone.raised,
      fun hraised => List.forall_mem_append.mpr ⟨hnotes hraised, hdone.notes hraised⟩,
      hdone.snapshot_eq⟩
  | broken =>
    exact ⟨⟨h.context, ⟨h.poller.context, trivial⟩, nofun, h.collector, h.info, h.tunnel⟩, id,
      fun hraised => List.forall_mem_append.mpr ⟨hnotes hraised, nofun⟩, fun _ => rfl⟩
  -- Work that goes on is kept as it is.
  | _ =>
    exact ⟨⟨h.context, h.poller, fun work hwork => Option.some.inj hwork ▸ hstep.attached,
        h.collector, h.info, h.tunnel⟩, id,
      fun hraised => List.forall_mem_append.mpr ⟨hnotes hraised, nofun⟩, fun _ => rfl⟩

/-- A step of the collector of `kind` that heeds the shutdown is one of the agent that does. -/
theorem heeds_setCollector (h : a.IsAttached) {kind : ObservationKind}
    {step : CollectorTask kind × List CollectorEffect}
    (hstep : CollectorTask.Heeds a.signal step) :
    Heeds a.signal a.snapshot (a.setCollector kind step) := by
  refine ⟨⟨h.context, h.poller, h.work, fun k => ?_, h.info, h.tunnel⟩, id,
    fun hraised => List.forall_mem_map.mpr (hstep.notes hraised), fun _ => rfl⟩
  show CollectorTask.IsAttached (if h : kind = k then h ▸ step.1 else a.collector k)
  split
  next hkind =>
    subst hkind
    exact hstep.attached
  next => exact h.collector k

/-- **A step of the agent** heeds the shutdown, whatever the event `e` is. By `moves_step` it is a
step of one task, which heeds the shutdown by the `Move.heeds` of that task. -/
theorem heeds_step (h : a.IsAttached) (e : AgentEvent) :
    Heeds a.signal a.snapshot (a.step e) := by
  have hmoves := a.moves_step e
  generalize a.outcome? e = outcome at hmoves
  generalize a.step e = next at hmoves ⊢
  cases hmoves with
  | rests => exact ⟨h, id, fun _ => nofun, fun _ => rfl⟩
  | elapses duration he =>
    exact ⟨⟨h.context, h.poller, h.work, h.collector, h.info, h.tunnel⟩, id, fun _ => nofun,
      fun _ => rfl⟩
  | signals signal he hraised =>
    exact ⟨⟨h.context, h.poller, h.work, h.collector, h.info, h.tunnel⟩, fun _ => hraised,
      fun _ => nofun, fun _ => rfl⟩
  | polls hwork hmove => exact heeds_setPoller h (hmove.heeds h.poller)
  | works hwork hmove => exact heeds_setWork h (hmove.heeds h.context (h.work _ hwork))
  | collects hmove => exact heeds_setCollector h (hmove.heeds (h.collector _))
  | informs hmove =>
    have hstep := hmove.heeds h.info
    exact ⟨⟨h.context, h.poller, h.work, h.collector, hstep.attached, h.tunnel⟩, id,
      fun hraised => List.forall_mem_map.mpr (hstep.notes hraised), fun _ => rfl⟩
  | tunnels htunnel hmove =>
    have hstep := hmove.heeds (h.tunnel _ htunnel)
    exact ⟨⟨h.context, h.poller, h.work, h.collector, h.info,
        fun t ht => Option.some.inj ht ▸ hstep.attached⟩, id,
      fun hraised => List.forall_mem_map.mpr (hstep.notes hraised), fun _ => rfl⟩

/-! ### Everything is called off -/

/-- Whatever is waited for ends as called off when its task goes on: not with a reply that has come,
and not because of a deadline. -/
structure EndsCanceled (a : Agent σ) : Prop where
  /-- The request for the bundle. -/
  fetch : ∀ ticker flight, a.work? = none → a.poller.phase = .fetching ticker flight →
    ∀ e, AgentEvent.Resumes .poller e →
      a.step e = a.setPoller (a.poller.fetched ticker (.error (.transport .canceled)))
  /-- A report of the supervisor. -/
  report : ∀ o flight next, a.work? = some (.pushing o flight next) →
    ∀ e, AgentEvent.Resumes .poller e →
      a.step e = a.setWork (SupervisorRun.pushed a.cache o next (.error (.transport .canceled)))
  /-- A pause of the supervisor. -/
  pause : ∀ wakeAt next, a.work? = some (.waiting wakeAt next) →
    a.step (.run .poller) = a.setWork (.running (next (.error .canceled)), a.cache, [])
  /-- The deletion of an observation. -/
  deletion : ∀ kind flight, (a.collector kind).deletion? = some (.sent flight) →
    ∀ e, AgentEvent.Resumes (.collector kind) e →
      a.step e = a.setCollector kind
        ((a.collector kind).finish a.client a.surroundings (.error (.transport .canceled)))
  /-- The collecting of the description of the device. -/
  collecting : ∀ ticker, a.info.phase = .collecting ticker →
    ∀ e, (e = .run .info ∨ ∃ info, e = .collected info) →
      a.step e = a.setInfo (a.info.interrupted ticker .canceled)
  /-- The push of the description. -/
  push : ∀ ticker info flight, a.info.phase = .pushing ticker info flight →
    ∀ e, AgentEvent.Resumes .info e →
      a.step e = a.setInfo (a.info.pushed ticker info (.error (.transport .canceled)))
  /-- The request that opens the tunnel. -/
  opening : ∀ t draw, a.tunnel? = some t → t.phase = .opening →
    ∀ e, (e = .runTunnel draw ∨ ∃ reply, e = .answerTunnel draw reply) →
      a.step e = a.setTunnel (t.opened a.now draw (.error (.transport .canceled)))
  /-- The waiting for what comes over the tunnel. -/
  receiving : ∀ t draw, a.tunnel? = some t → t.phase = .serving →
    ∀ e, (e = .runTunnel draw ∨ ∃ incoming, e = .receive draw incoming) →
      a.step e = a.setTunnel (t.fail a.now draw (.transport .canceled))
  /-- A rest of the tunnel. -/
  rest : ∀ t draw wakeAt, a.tunnel? = some t → t.phase = .resting wakeAt →
    a.step (.runTunnel draw) = a.setTunnel t.stop
  /-- The request that dials back. -/
  dialling : ∀ t i path, a.tunnel? = some t → t.sessions[i]? = some ⟨path, .dialling⟩ →
    ∀ e, (e = .runSession i ∨ ∃ reply, e = .answerSession i reply) →
      a.step e = a.setTunnel (t.dialled i path (.error (.transport .canceled)))

/-- A task takes the step `next` when it goes on, if it takes it when it is run (`hrun`) and at
every reply (`hreply`). -/
theorem step_of_resumes {task : RequestTask} {next : Agent σ × List AgentEffect}
    (he : AgentEvent.Resumes task e) (hrun : a.run? task = some next)
    (hreply : ∀ r, a.step (.reply task r) = next) : a.step e = next := by
  cases he with
  | run => rw [step, hrun, Option.getD_some]
  | reply r => exact hreply r

/-- What the tunnel does, `step`, is done by the agent. -/
theorem withTunnel_eq {t : Tunnel} (ht : a.tunnel? = some t)
    {step? : Tunnel → Option (Tunnel × List TunnelEffect)} {step : Tunnel × List TunnelEffect}
    (hstep : step? t = some step) : a.withTunnel step? = a.setTunnel step := by
  rw [withTunnel, ht, Option.bind_some, hstep]

/-- **All that is waited for is called off**, once the signal is raised: every wait of an agent that
`IsAttached` is attached, so its context is called off, and the machine that waits takes the step
for that. -/
theorem IsAttached.endsCanceled (h : a.IsAttached) (hraised : a.signal.isRaised = true) :
    a.EndsCanceled where
  fetch ticker flight hwork hphase e he := by
    have hflight := h.poller.phase
    rw [hphase] at hflight
    obtain ⟨hadvance, hreply⟩ := Poller.fetched_of_isCanceled (s := a.surroundings) hphase
      (Context.isCanceled_of_attached hflight hraised)
    refine step_of_resumes he ?_ fun r => ?_
    · rw [run?, runPoller?, hwork, hadvance, Option.map_some]
    · rw [step, replyPoller, hwork, hreply]
  report o flight next hwork e he := by
    obtain ⟨hadvance, hreply⟩ := SupervisorRun.pushed_of_isCanceled (s := a.surroundings) a.client
      a.context a.cache o next (Context.isCanceled_of_attached (h.work _ hwork) hraised)
    refine step_of_resumes he ?_ fun r => ?_
    · simp only [run?, runPoller?, hwork, hadvance, Option.map_some]
    · simp only [step, replyPoller, hwork, hreply]
  pause wakeAt next hwork := by
    have hadvance := SupervisorRun.waited_of_isCanceled (s := a.surroundings) a.client a.cache
      wakeAt next (Context.isCanceled_of_attached h.context hraised)
    simp only [step, run?, runPoller?, hwork, hadvance, Option.map_some, Option.getD_some]
  deletion kind flight hdeletion e he := by
    obtain ⟨hflight, hpassing⟩ := (h.collector kind).deletion _ hdeletion
    obtain ⟨hadvance, hreply⟩ := CollectorTask.finish_of_isCanceled (s := a.surroundings) a.client
      hdeletion hpassing (Context.isCanceled_of_attached hflight hraised)
    refine step_of_resumes he ?_ fun r => ?_
    · rw [run?, hadvance, Option.map_some]
    · rw [step, hreply]
  collecting ticker hphase e he := by
    obtain ⟨hadvance, hcollected⟩ := InfoLoop.interrupted_of_isCanceled (s := a.surroundings) hphase
      (Context.isCanceled_of_attached h.info.context hraised)
    obtain rfl | ⟨info, rfl⟩ := he
    · rw [step, run?, hadvance, Option.map_some, Option.getD_some]
    · rw [step, hcollected]
  push ticker info flight hphase e he := by
    have hflight := h.info.phase
    rw [hphase] at hflight
    obtain ⟨hadvance, hreply⟩ := InfoLoop.pushed_of_isCanceled (s := a.surroundings) hphase
      (Context.isCanceled_of_attached hflight hraised)
    refine step_of_resumes he ?_ fun r => ?_
    · rw [run?, hadvance, Option.map_some]
    · rw [step, hreply]
  opening t draw ht hphase e he := by
    obtain ⟨hadvance, hanswer⟩ := Tunnel.opened_of_isCanceled (s := a.surroundings)
      (Context.isCanceled_of_attached (h.tunnel t ht) hraised) draw hphase
    obtain rfl | ⟨reply, rfl⟩ := he
    · exact withTunnel_eq ht hadvance
    · exact withTunnel_eq ht (congrArg some (hanswer reply))
  receiving t draw ht hphase e he := by
    obtain ⟨hadvance, hreceive⟩ := Tunnel.fail_of_isCanceled (s := a.surroundings)
      (Context.isCanceled_of_attached (h.tunnel t ht) hraised) draw hphase
    obtain rfl | ⟨incoming, rfl⟩ := he
    · exact withTunnel_eq ht hadvance
    · exact withTunnel_eq ht (congrArg some (hreceive incoming))
  rest t draw wakeAt ht hphase :=
    withTunnel_eq ht (Tunnel.stop_of_isCanceled (s := a.surroundings)
      (Context.isCanceled_of_attached (h.tunnel t ht) hraised) draw hphase)
  dialling t i path ht hsession e he := by
    obtain ⟨hadvance, hanswer⟩ := Tunnel.dialled_of_isCanceled (s := a.surroundings)
      (Context.isCanceled_of_attached (h.tunnel t ht) hraised) hsession
    obtain rfl | ⟨reply, rfl⟩ := he
    · exact withTunnel_eq ht hadvance
    · exact withTunnel_eq ht (congrArg some (hanswer reply))

/-! ### Every run -/

/-- What is so of an agent whose shutdown signal is raised, whatever happens behind that. -/
structure Quiescent (a : Agent σ) (events : List AgentEvent) : Prop where
  /-- The signal stays raised. -/
  raised : (a.after events).signal.isRaised = true
  /-- Nothing is sent, dialled or stored: the tasks only tell something. -/
  notes : ∀ effect ∈ (a.steps events).2, effect.isNote = true
  /-- The current bundle stays. -/
  snapshot : (a.after events).snapshot = a.snapshot
  /-- All that is still waited for ends as called off. -/
  endsCanceled : (a.after events).EndsCanceled

/-- An attached agent whose signal is raised is quiet whatever happens. The induction is on the
events: `heeds_step` keeps the agent attached, its signal raised and its bundle where it is. -/
theorem IsAttached.quiescent (h : a.IsAttached) (hraised : a.signal.isRaised = true)
    (events : List AgentEvent) : a.Quiescent events := by
  induction events generalizing a with
  | nil => exact ⟨hraised, nofun, rfl, h.endsCanceled hraised⟩
  | cons e rest ih =>
    have hstep := heeds_step h e
    have hrest := ih hstep.attached (hstep.raised hraised)
    exact ⟨hrest.raised,
      List.forall_mem_append.mpr ⟨hstep.notes hraised, hrest.notes⟩,
      hrest.snapshot.trans (hstep.snapshot_eq hraised), hrest.endsCanceled⟩

theorem IsAttached.after (h : a.IsAttached) (events : List AgentEvent) :
    (a.after events).IsAttached :=
  after_induction h (fun _ e h => (heeds_step h e).attached) events

/-- Once the signal was triggered (`.trigger`), or its owner went away (`.drop`), it is raised: a
trigger by an owner that is gone finds it raised already. -/
theorem IsAttached.isRaised_after (h : a.IsAttached) {events : List AgentEvent}
    (hshutdown : .trigger ∈ events ∨ .drop ∈ events) :
    (a.after events).signal.isRaised = true := by
  obtain ⟨e, he, hmem⟩ : ∃ e, (e = .trigger ∨ e = .drop) ∧ e ∈ events :=
    hshutdown.elim (fun h => ⟨_, .inl rfl, h⟩) (fun h => ⟨_, .inr rfl, h⟩)
  -- The run is cut at the shutdown `e`, which raises the signal; behind it the signal stays raised.
  obtain ⟨front, back, rfl⟩ := List.append_of_mem hmem
  rw [after_append, after_cons]
  have hraised : ((a.after front).step e).1.signal.isRaised = true := by
    obtain rfl | rfl := he
    · exact Signal.isRaised_trigger _
    · exact Signal.isRaised_drop _
  exact ((heeds_step (h.after front) e).attached.quiescent hraised back).raised

/-- **The agent is quiet behind the shutdown**, in every run: once its events hold a shutdown,
whatever happens then leads to nothing new, and all that was waited for ends as called off. -/
theorem quiescence (config : Config) (supervisor : Supervisor σ) (hasTunnel : Bool)
    (client : Client) (now : Moment) (signal : Signal) {events : List AgentEvent}
    (h : .trigger ∈ events ∨ .drop ∈ events) (more : List AgentEvent) :
    ((create config supervisor hasTunnel client now signal).after events).Quiescent more :=
  have hattached := isAttached_create config supervisor hasTunnel client now signal
  (hattached.after events).quiescent (hattached.isRaised_after h) more

/-- A bundle that comes behind the shutdown is not stored, and the poller ends: the run is
`Quiescent` and not empty. -/
theorem quiescence_late_reply :
    ∃ (config : Config) (supervisor : Supervisor Unit) (client : Client) (ticker : Ticker),
      let a := (create config supervisor true client 0 .fresh).after
        [.run .poller, .run .poller, .trigger]
      let more := [AgentEvent.reply .poller (.ok ⟨⟨200, by decide⟩, []⟩)]
      a.poller.phase = .fetching ticker ⟨.root, 0⟩ ∧ a.Quiescent more ∧
        (a.after more).poller.phase = .ended ∧ (a.after more).snapshot.load = none := by
  let client : Client :=
    (Client.create "http://c" ⟨"p", by decide⟩).withIdentity ⟨⟨"d", by decide⟩, ⟨"k"⟩⟩
  exact ⟨.standard "http://c" ⟨"p", by decide⟩, ⟨(), fun _ _ => .done () (.ok ())⟩, client,
    ⟨10000, 10000⟩, by decide +kernel, quiescence _ _ _ _ _ _ (.inl (by simp)) _,
    by decide +kernel, by decide +kernel⟩

end Agent

end FleetAgent
