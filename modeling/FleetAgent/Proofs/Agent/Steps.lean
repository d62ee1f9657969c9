import FleetAgent.Agent
import Mathlib.Tactic.SplitIfs
/-!
# What a step of the agent can do

`Agent.Moves` has one case for each task, with the step that the task takes; whatever happens, the
agent moves in one of these ways (`Agent.moves_step`), so what is to be said of its runs never looks
into `Agent.step` again. What holds at first and is kept by every step holds behind all events
(`Agent.after_induction`).

The steps of the poller are told apart further (`Poller.Move`), by the outcome of the fetch that
they end, if they end one. This outcome is `Poller.outcome?` for a step of the poller,
`Agent.outcome?` for an event, and `Agent.outcomes` for the events of a run.
-/

namespace FleetAgent

open Controller

variable {σ : Type} {s : Surroundings}

/-- The outcome of a fetch: a bundle, or why there is none. -/
abbrev FetchOutcome := Except ClientError Bundle

/-! ### The poller -/

namespace Poller

variable {p : Poller} {step : Poller × List PollerEffect}

/-- The outcome of the fetch that ends with the next step of the poller: the reply `reply?` is
there, or is not waited for any longer, or nothing could be sent in the first place. -/
def outcome? (p : Poller) (s : Surroundings) (reply? : Option (Except TransportError Reply)) :
    Option FetchOutcome :=
  match p.phase with
  | .idle ticker =>
    if reply?.isNone && !p.context.isCanceled s.signal && ticker.isDue s.now then
      match p.client.start p.context s.signal s.now .getBundle with
      | .ok _ => none
      | .error e => some (.error e)
    else none
  | .fetching _ flight => (flight.poll s.signal s.now reply?).map readBundle
  | _ => none

/-- The ways in which the poller `p` goes on, with the outcome of the fetch that ends. -/
inductive Move (p : Poller) (s : Surroundings) :
    Option FetchOutcome → Poller × List PollerEffect → Prop where
  /-- There is nothing to do. -/
  | rests : Move p s none (p, [])
  /-- It is run for the first time. -/
  | begins (h : p.phase = .created) : Move p s none (p.begin s.now)
  /-- It is called off between two fetches. -/
  | stops {ticker : Ticker} (h : p.phase = .idle ticker)
      (hcanceled : p.context.isCanceled s.signal = true) : Move p s none p.stop
  /-- It asks for the bundle. -/
  | sends {ticker : Ticker} (h : p.phase = .idle ticker) {r : Request}
      (hstart : p.client.start p.context s.signal s.now .getBundle = .ok r) :
      Move p s none (p.moveTo (.fetching (ticker.take s.now) ⟨p.context, s.now⟩), [.send r])
  /-- It cannot ask. -/
  | asksInVain {ticker : Ticker} (h : p.phase = .idle ticker) (e : ClientError) :
      Move p s (some (.error e)) (p.fetched (ticker.take s.now) (.error e))
  /-- A fetch ends. -/
  | fetches {ticker : Ticker} {flight : Flight} (h : p.phase = .fetching ticker flight)
      {reply? : Option (Except TransportError Reply)} {r : Except TransportError Reply}
      (hpoll : flight.poll s.signal s.now reply? = some r) :
      Move p s (some (readBundle r)) (p.fetched ticker (readBundle r))

/-- A `step` of the poller's own is one of its moves, in each of its phases. -/
theorem move_of_advance (h : p.advance? s = some step) : p.Move s (p.outcome? s none) step := by
  rw [advance?] at h
  rw [outcome?]
  split at h
  next hphase =>
    rw [hphase, ← Option.some.inj h]
    exact .begins hphase
  next ticker hphase =>
    rw [hphase]
    split_ifs at h with hcanceled hdue
    · rw [← Option.some.inj h]
      simp only [hcanceled, Bool.not_true, Bool.and_false, Bool.false_and, Bool.false_eq_true,
        if_false]
      exact .stops hphase hcanceled
    · rw [← Option.some.inj h, fetch]
      simp only [hcanceled, hdue, Option.isNone_none, Bool.not_false, Bool.and_true, if_true]
      cases hstart : p.client.start p.context s.signal s.now .getBundle with
      | ok r => exact .sends hphase hstart
      | error e => exact .asksInVain hphase e
  next ticker flight hphase =>
    rw [hphase]
    obtain ⟨r, hr, rfl⟩ := Option.map_eq_some_iff.mp h
    dsimp only
    rw [hr]
    exact .fetches hphase hr
  next => cases h
  next => cases h
  next => cases h

/-- A poller `p` without a step of its own ends no fetch when it is run. -/
theorem outcome_of_advance_none (h : p.advance? s = none) : p.outcome? s none = none := by
  rw [advance?] at h
  rw [outcome?]
  split at h
  next => cases h
  next ticker hphase =>
    rw [hphase]
    split_ifs at h with hcanceled hdue
    simp [hdue]
  next ticker flight hphase =>
    rw [hphase]
    dsimp only
    rw [Option.map_eq_none_iff.mp h, Option.map_none]
  next hphase => rw [hphase]
  next hphase => rw [hphase]
  next hphase => rw [hphase]

/-- A reply `r` to the poller leads to one of its moves. It rests if it waits for none. -/
theorem move_reply (r : Except TransportError Reply) :
    p.Move s (p.outcome? s (some r)) (p.reply s r) := by
  rw [reply, outcome?]
  cases hphase : p.phase with
  | fetching ticker flight =>
    dsimp only
    cases hpoll : flight.poll s.signal s.now (some r) with
    | none => exact .rests
    | some r => exact .fetches hphase hpoll
  | _ => exact .rests

end Poller

/-! ### The other tasks -/

/-- The steps of the work of a supervisor: its own, and those that a reply leads to. -/
inductive SupervisorRun.Move (client : Client) (context : Context) (s : Surroundings)
    (cache : PushCache) (work : SupervisorRun σ) :
    SupervisorRun σ × PushCache × List SupervisorEffect → Prop where
  | advances {step : SupervisorRun σ × PushCache × List SupervisorEffect}
      (h : work.advance? client context s cache = some step) : Move client context s cache work step
  | isReplied (r : Except TransportError Reply) :
      Move client context s cache work (work.reply s cache r)

/-- The steps of a collector: its own, and those that a reply leads to. -/
inductive CollectorTask.Move {kind : ObservationKind} (client : Client) (s : Surroundings)
    (t : CollectorTask kind) : CollectorTask kind × List CollectorEffect → Prop where
  | advances {step : CollectorTask kind × List CollectorEffect}
      (h : t.advance? client s = some step) : Move client s t step
  | isReplied (r : Except TransportError Reply) : Move client s t (t.reply client s r)

/-- The steps of the loop that reports the description of the device: its own, and those that follow
what was collected or a reply. -/
inductive InfoLoop.Move (l : InfoLoop) (s : Surroundings) : InfoLoop × List InfoEffect → Prop where
  | advances {step : InfoLoop × List InfoEffect} (h : l.advance? s = some step) : Move l s step
  | collects (info : DeviceInfo) : Move l s (l.collected s info)
  | isReplied (r : Except TransportError Reply) : Move l s (l.reply s r)

/-- The steps of the tunnel and its sessions: their own, and those that follow something that comes
from the network. -/
inductive Tunnel.Move (t : Tunnel) (s : Surroundings) : Tunnel × List TunnelEffect → Prop where
  | advances (draw : Rat) {step : Tunnel × List TunnelEffect}
      (h : t.advance? s draw = some step) : Move t s step
  | isAnswered (draw : Rat) (reply : DialReply) : Move t s (t.answer s draw reply)
  | receives (draw : Rat) (incoming : Tunnel.Incoming) : Move t s (t.receive s draw incoming)
  | advancesSession (i : Nat) {step : Tunnel × List TunnelEffect}
      (h : t.advanceSession? s i = some step) : Move t s step
  | answersSession (i : Nat) (reply : DialReply) : Move t s (t.answerSession s i reply)
  | endsSession (i : Nat) : Move t s (t.endSession i, [])

/-! ### The agent -/

namespace Agent

variable {a : Agent σ} {e : AgentEvent}

/-- The outcome of the fetch that ends with the next step of the poller, at the reply `reply?` if
there is one. As long as the supervisor is at work, there is no fetch. -/
def fetchOutcome? (a : Agent σ) (reply? : Option (Except TransportError Reply)) :
    Option FetchOutcome :=
  match a.work? with
  | some _ => none
  | none => a.poller.outcome? a.surroundings reply?

/-- The outcome of the fetch that ends with the event `e`. Events for other tasks end none. -/
def outcome? (a : Agent σ) (e : AgentEvent) : Option FetchOutcome :=
  match e with
  | .run .poller => a.fetchOutcome? none
  | .reply .poller r => a.fetchOutcome? (some r)
  | _ => none

/-- The ways in which the agent goes on when something happens, with the outcome of the fetch that
ends. -/
inductive Moves (a : Agent σ) (e : AgentEvent) :
    Option FetchOutcome → Agent σ × List AgentEffect → Prop where
  /-- Nothing can be done about it. -/
  | rests : Moves a e none (a, [])
  /-- Time goes by. -/
  | elapses (duration : Nat) (he : e = .elapse duration) :
      Moves a e none ({ a with now := a.now + duration }, [])
  /-- The shutdown signal is raised. -/
  | signals (signal : Signal) (he : e = .trigger ∨ e = .drop) (hraised : signal.isRaised = true) :
      Moves a e none ({ a with signal }, [])
  /-- The poller goes on. -/
  | polls {outcome : Option FetchOutcome} {step : Poller × List PollerEffect}
      (h : a.work? = none) (hmove : a.poller.Move a.surroundings outcome step) :
      Moves a e outcome (a.setPoller step)
  /-- The supervisor goes on. -/
  | works {work : SupervisorRun σ} {step : SupervisorRun σ × PushCache × List SupervisorEffect}
      (h : a.work? = some work)
      (hmove : work.Move a.client a.context a.surroundings a.cache step) :
      Moves a e none (a.setWork step)
  /-- A collector goes on. -/
  | collects {kind : ObservationKind} {step : CollectorTask kind × List CollectorEffect}
      (hmove : (a.collector kind).Move a.client a.surroundings step) :
      Moves a e none (a.setCollector kind step)
  /-- The loop that reports the description of the device goes on. -/
  | informs {step : InfoLoop × List InfoEffect} (hmove : a.info.Move a.surroundings step) :
      Moves a e none (a.setInfo step)
  /-- The tunnel or a session goes on. -/
  | tunnels {t : Tunnel} {step : Tunnel × List TunnelEffect} (h : a.tunnel? = some t)
      (hmove : t.Move a.surroundings step) : Moves a e none (a.setTunnel step)

/-- Running the poller lets it move, or the supervisor if it is at work. The outcome is that of the
fetch, if one ends. -/
theorem moves_runPoller :
    a.Moves (.run .poller) (a.fetchOutcome? none) (a.runPoller?.getD (a, [])) := by
  rw [runPoller?, fetchOutcome?]
  cases hwork : a.work? with
  | none =>
    cases hstep : a.poller.advance? a.surroundings with
    | none =>
      dsimp only
      rw [Poller.outcome_of_advance_none hstep]
      exact .rests
    | some step => exact .polls hwork (Poller.move_of_advance hstep)
  | some work =>
    dsimp only
    cases hstep : work.advance? a.client a.context a.surroundings a.cache with
    | none => exact .rests
    | some step => exact .works hwork (.advances hstep)

/-- A reply `r` to the poller is one to the supervisor if it is at work. -/
theorem moves_replyPoller (r : Except TransportError Reply) :
    a.Moves (.reply .poller r) (a.fetchOutcome? (some r)) (a.replyPoller r) := by
  rw [replyPoller, fetchOutcome?]
  cases hwork : a.work? with
  | none => exact .polls hwork (Poller.move_reply r)
  | some work => exact .works hwork (.isReplied r)

/-- Running a `task` lets the agent move, or rest if the task has no step. -/
theorem moves_run (task : RequestTask) :
    a.Moves (.run task) (a.outcome? (.run task)) ((a.run? task).getD (a, [])) := by
  cases task with
  | poller => exact moves_runPoller
  | collector kind =>
    rw [run?]
    cases hstep : (a.collector kind).advance? a.client a.surroundings with
    | none => exact .rests
    | some step => exact .collects (.advances hstep)
  | info =>
    rw [run?]
    cases hstep : a.info.advance? a.surroundings with
    | none => exact .rests
    | some step => exact .informs (.advances hstep)

theorem moves_reply (task : RequestTask) (r : Except TransportError Reply) :
    a.Moves (.reply task r) (a.outcome? (.reply task r)) (a.step (.reply task r)) := by
  cases task with
  | poller => exact moves_replyPoller r
  | collector kind => exact .collects (.isReplied r)
  | info => exact .informs (.isReplied r)

/-- A step of the tunnel lets the agent move, if it is a move of the tunnel (`h`); without a tunnel
the agent rests. -/
theorem moves_withTunnel {step? : Tunnel → Option (Tunnel × List TunnelEffect)}
    (h : ∀ t step, step? t = some step → t.Move a.surroundings step) :
    a.Moves e none (a.withTunnel step?) := by
  rw [withTunnel]
  split
  next step hstep =>
    obtain ⟨t, ht, hstep⟩ := Option.bind_eq_some_iff.mp hstep
    exact .tunnels ht (h t step hstep)
  next => exact .rests

/-- **What a step can do**: it is a step of one task, and ends a fetch only if that is the poller.
This is the only place that looks at all events `e` of the agent; what is said of steps is said by
cases on `Moves`. -/
theorem moves_step (a : Agent σ) (e : AgentEvent) : a.Moves e (a.outcome? e) (a.step e) := by
  cases e with
  | run task => exact moves_run task
  | reply task r => exact moves_reply task r
  | elapse duration =>
    exact .elapses duration rfl
  | trigger =>
    exact .signals _ (.inl rfl) a.signal.isRaised_trigger
  | drop =>
    exact .signals _ (.inr rfl) a.signal.isRaised_drop
  | collected info =>
    exact .informs (.collects info)
  | runTunnel draw =>
    exact moves_withTunnel fun t step h => .advances draw h
  | answerTunnel draw reply =>
    exact moves_withTunnel fun t step h => Option.some.inj h ▸ .isAnswered draw reply
  | receive draw incoming =>
    exact moves_withTunnel fun t step h => Option.some.inj h ▸ .receives draw incoming
  | runSession i =>
    exact moves_withTunnel fun t step h => .advancesSession i h
  | answerSession i reply =>
    exact moves_withTunnel fun t step h => Option.some.inj h ▸ .answersSession i reply
  | endSession i =>
    exact moves_withTunnel fun t step h => Option.some.inj h ▸ .endsSession i

/-! ### Runs -/

/-- The agent `a` behind several events. -/
def after (a : Agent σ) (events : List AgentEvent) : Agent σ := (a.steps events).1

@[simp] theorem after_nil (a : Agent σ) : a.after [] = a := rfl

@[simp] theorem after_cons (a : Agent σ) (e : AgentEvent) (events : List AgentEvent) :
    a.after (e :: events) = (a.step e).1.after events := rfl

theorem after_append (a : Agent σ) (events more : List AgentEvent) :
    a.after (events ++ more) = (a.after events).after more := by
  induction events generalizing a with
  | nil => rfl
  | cons e events ih => exact ih (a.step e).1

/-- The outcomes of the fetches that end along several events, in order. Most events end none. -/
def outcomes (a : Agent σ) : List AgentEvent → List FetchOutcome
  | [] => []
  | e :: rest => (a.outcome? e).toList ++ (a.step e).1.outcomes rest

/-- **What holds at first and is kept by every step** holds behind all events: the induction over a
run, in the form in which every invariant `P` uses it. -/
theorem after_induction {P : Agent σ → Prop} (h : P a)
    (hstep : ∀ a e, P a → P (a.step e).1) (events : List AgentEvent) : P (a.after events) := by
  induction events generalizing a with
  | nil => exact h
  | cons e events ih => exact ih (hstep a e h)

end Agent

end FleetAgent
