import FleetAgent.Proofs.Agent.Attachment
/-!
# What comes of a wait that is called off

A task waits for a reply, for a moment or for what comes over the tunnel, and its wait is polled in
a context: by `advance?`, which has nothing to give it, and by `reply` and its like, which have
something. If `ctx.isCanceled s.signal`, the poll gives `.error .canceled` in either case
(`Context.poll_of_isCanceled`, `Flight.poll_of_isCanceled`).

Here this is followed through each machine, once for each thing that it waits for: in a called-off
context the step is the one for the result `.error (.transport .canceled)`, whether the task is run
(the first half of each lemma) or whatever it is given (the second half).
-/

namespace FleetAgent

open Controller

variable {s : Surroundings}

/-- The poller, while `flight` fetches the bundle. -/
theorem Poller.fetched_of_isCanceled {p : Poller} {ticker : Ticker} {flight : Flight}
    (hphase : p.phase = .fetching ticker flight)
    (hcanceled : flight.context.isCanceled s.signal = true) :
    p.advance? s = some (p.fetched ticker (.error (.transport .canceled))) ∧
      ∀ r, p.reply s r = p.fetched ticker (.error (.transport .canceled)) := by
  constructor
  · simp only [advance?, hphase, Flight.poll_of_isCanceled _ _ hcanceled, Option.map_some]
    rfl
  · intro r
    simp only [reply, hphase, Flight.poll_of_isCanceled _ _ hcanceled]
    rfl

namespace SupervisorRun

variable {σ : Type} (client : Client)

/-- The supervisor, while `flight` pushes the observation `o`. -/
theorem pushed_of_isCanceled (context : Context) (cache : PushCache) (o : Observation)
    {flight : Flight} (next : Except ClientError Bool → Realization σ)
    (hcanceled : flight.context.isCanceled s.signal = true) :
    advance? client context s cache (.pushing o flight next) =
        some (pushed cache o next (.error (.transport .canceled))) ∧
      ∀ r, reply s cache (.pushing o flight next) r =
        pushed cache o next (.error (.transport .canceled)) := by
  constructor
  · simp only [advance?, Flight.poll_of_isCanceled _ _ hcanceled, Option.map_some]
    rfl
  · intro r
    simp only [reply, Flight.poll_of_isCanceled _ _ hcanceled]
    rfl

/-- The supervisor, while it pauses until `wakeAt`. Nothing but time ends a pause. -/
theorem waited_of_isCanceled {context : Context} (cache : PushCache) (wakeAt : Moment)
    (next : Except Interruption Unit → Realization σ)
    (hcanceled : context.isCanceled s.signal = true) :
    advance? client context s cache (.waiting wakeAt next) =
      some (.running (next (.error .canceled)), cache, []) := by
  simp only [advance?, Context.poll_of_isCanceled _ _ hcanceled, Option.map_some]

end SupervisorRun

/-- A collector, while `flight` deletes an observation. The loop itself has no step then, for it is
in a pass. -/
theorem CollectorTask.finish_of_isCanceled {kind : ObservationKind} {t : CollectorTask kind}
    (client : Client) {flight : Flight} (hdeletion : t.deletion? = some (.sent flight))
    (hpassing : t.loop.phase.isPassing = true)
    (hcanceled : flight.context.isCanceled s.signal = true) :
    t.advance? client s = some (t.finish client s (.error (.transport .canceled))) ∧
      ∀ r, t.reply client s r = t.finish client s (.error (.transport .canceled)) := by
  constructor
  · simp only [advance?, Loop.advance_of_isPassing hpassing, hdeletion, Option.bind_some,
      Pending.poll, Flight.poll_of_isCanceled _ _ hcanceled, Option.map_some]
    rfl
  · intro r
    simp only [reply, hdeletion, Option.bind_some, Pending.poll,
      Flight.poll_of_isCanceled _ _ hcanceled, Option.map_some]
    rfl

namespace InfoLoop

variable {l : InfoLoop} {ticker : Ticker}

/-- The loop that reports the description of the device, while the description is collected. -/
theorem interrupted_of_isCanceled (hphase : l.phase = .collecting ticker)
    (hcanceled : l.context.isCanceled s.signal = true) :
    l.advance? s = some (l.interrupted ticker .canceled) ∧
      ∀ info, l.collected s info = l.interrupted ticker .canceled := by
  constructor
  · simp only [advance?, hphase, Context.poll_of_isCanceled _ _ hcanceled]
  · intro info
    simp only [collected, hphase, Context.poll_of_isCanceled _ _ hcanceled]

/-- The loop that reports the description of the device, while `flight` pushes it. -/
theorem pushed_of_isCanceled {info : DeviceInfo} {flight : Flight}
    (hphase : l.phase = .pushing ticker info flight)
    (hcanceled : flight.context.isCanceled s.signal = true) :
    l.advance? s = some (l.pushed ticker info (.error (.transport .canceled))) ∧
      ∀ r, l.reply s r = l.pushed ticker info (.error (.transport .canceled)) := by
  constructor
  · simp only [advance?, hphase, Flight.poll_of_isCanceled _ _ hcanceled, Option.map_some]
    rfl
  · intro r
    simp only [reply, hphase, Flight.poll_of_isCanceled _ _ hcanceled]
    rfl

end InfoLoop

namespace Tunnel

variable {t : Tunnel} (hcanceled : t.context.isCanceled s.signal = true)
include hcanceled

theorem opened_of_isCanceled (draw : Rat) (hphase : t.phase = .opening) :
    t.advance? s draw = some (t.opened s.now draw (.error (.transport .canceled))) ∧
      ∀ reply, t.answer s draw reply = t.opened s.now draw (.error (.transport .canceled)) := by
  constructor
  · simp only [advance?, hphase, Context.poll_of_isCanceled _ _ hcanceled]
    rfl
  · intro reply
    simp only [answer, hphase, Context.poll_of_isCanceled _ _ hcanceled]
    rfl

/-- The tunnel, while it is `serving`. What comes over it then (`receive`) is not looked at. -/
theorem fail_of_isCanceled (draw : Rat) (hphase : t.phase = .serving) :
    t.advance? s draw = some (t.fail s.now draw (.transport .canceled)) ∧
      ∀ incoming, t.receive s draw incoming = t.fail s.now draw (.transport .canceled) := by
  constructor
  · simp only [advance?, hphase, Context.poll_of_isCanceled _ _ hcanceled]
    rfl
  · intro incoming
    simp only [receive, hphase, Context.poll_of_isCanceled _ _ hcanceled]
    rfl

/-- The tunnel, while it rests until `wakeAt`. -/
theorem stop_of_isCanceled (draw : Rat) {wakeAt : Moment} (hphase : t.phase = .resting wakeAt) :
    t.advance? s draw = some t.stop := by
  simp only [advance?, hphase, Context.poll_of_isCanceled _ _ hcanceled]

/-- The session `i` of the tunnel, while its connection is dialled. -/
theorem dialled_of_isCanceled {i : Nat} {path : String}
    (hsession : t.sessions[i]? = some ⟨path, .dialling⟩) :
    t.advanceSession? s i = some (t.dialled i path (.error (.transport .canceled))) ∧
      ∀ reply, t.answerSession s i reply = t.dialled i path (.error (.transport .canceled)) := by
  constructor
  · simp only [advanceSession?, hsession, Option.bind_eq_bind, Option.bind_some,
      Context.poll_of_isCanceled _ _ hcanceled]
    rfl
  · intro reply
    simp only [answerSession, hsession, Context.poll_of_isCanceled _ _ hcanceled]
    rfl

end Tunnel

end FleetAgent
