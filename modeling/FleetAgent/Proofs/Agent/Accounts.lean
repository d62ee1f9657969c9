import FleetAgent.Proofs.Agent.Attachment
import FleetAgent.Proofs.Agent.Polling
import FleetAgent.Proofs.Enrollment.Steps
import FleetAgent.Proofs.Tunnel.Steps
/-!
# What the tasks complain of

A *complaint* is an event of the log that warns or tells of an error (`LogEvent.isComplaint`). A
step of a task deals with one `Matter` at most: an operation ends without success, the supervisor
gives up a bundle or tells something of its own, or a message comes over the tunnel. An `Account`
holds the matter of a step against the complaints among its effects, and is justified
(`Account.IsJustified`) if the matter calls for them (`Matter.CallsFor`).

Each section is about one of the tasks, says with a `failure?` or `matter?` of its own what a step
of it deals with, and shows that the accounts of its steps are justified:
`EnrollmentStep.isJustified`, `Poller.Move.isJustified`, `SupervisorRun.isJustified_advance`,
`CollectorTask.isJustified_advance`, `InfoLoop.isJustified_advance` and `Tunnel.Goes.isJustified`.
An operation that was called off calls for no complaint, whatever the operation and wherever the
task is; but the supervisor's work does, even if it was called off.
`Account.IsJustified.complaints_eq_nil` and `Account.IsJustified.complaints_ne_nil` draw these two
conclusions.
-/

namespace FleetAgent

open Controller

variable {σ : Type} {s : Surroundings}

/-! ### Matters -/

/-- Whether a report that was called off is why a bundle was not applied. An error `.other m` of the
supervisor's own is never one, whatever its message `m` says. -/
def SupervisorError.isCanceled : SupervisorError → Bool
  | .client e => e.isCanceled
  | .other _ => false

/-- What a step of a task deals with. -/
inductive Matter where
  /-- An operation ends without success: a request, a connection, or a wait. -/
  | failure (e : ClientError)
  /-- The supervisor gives up a bundle. -/
  | work (e : SupervisorError)
  /-- The supervisor tells something of its own. -/
  | told (e : LogEvent)
  /-- A message comes over the tunnel. -/
  | message (payload : List UInt8)
deriving DecidableEq

/-- Whether the matter is the end of something that was called off. What the supervisor tells and
what comes over the tunnel are the end of nothing. -/
def Matter.isCanceled : Matter → Bool
  | .failure e => e.isCanceled
  | .work e => e.isCanceled
  | .told _ | .message _ => false

/-! ### Complaints -/

/-- The event itself if it is a complaint, so that complaints can be picked from a list with
`List.filterMap`. -/
def LogEvent.complaint? (e : LogEvent) : Option LogEvent :=
  if e.isComplaint then some e else none

/-- The complaint that an effect of the agent is, if it is one. -/
def AgentEffect.complaint? : AgentEffect → Option LogEvent
  | .log e => e.complaint?
  | _ => none

/-- The complaints among `effects` of the agent, in the order in which they are written. -/
def complaints (effects : List AgentEffect) : List LogEvent :=
  effects.filterMap AgentEffect.complaint?

/-- `complaints` is a `filterMap`, so the complaints of a step that acts twice are those of the two
parts. -/
theorem complaints_append (effects more : List AgentEffect) :
    complaints (effects ++ more) = complaints effects ++ complaints more :=
  List.filterMap_append

/-- The complaints about a message that comes over the tunnel: one if `payload` cannot be decoded,
and one if it is a message to be ignored that tells of an error of the controller. -/
def ControlMessage.complaints (payload : List UInt8) : List LogEvent :=
  match Wire.decode ControlMessage.ofNode payload with
  | .error _ => [⟨.warn, "Ignoring malformed tunnel message", []⟩]
  | .ok m =>
    if m.action = .ignore ∧ m.errorText ≠ "" then
      [⟨.warn, "Controller reported tunnel error",
        [("command", .text m.command), ("error", .text m.errorText)]⟩]
    else []

/-- A matter calls for `complaints`. A failure may or may not be worth one, but being called off is
not; the other matters determine their complaints, and `.work e` calls for one also if `e` was
called off. -/
def Matter.CallsFor (complaints : List LogEvent) : Matter → Prop
  | .failure e => e.isCanceled = true → complaints = []
  | .work e => complaints = [⟨.warn, "Supervisor failed to apply bundle", e.logFields⟩]
  | .told e => complaints = e.complaint?.toList
  | .message payload => complaints = ControlMessage.complaints payload

/-! ### Accounts -/

/-- What a step deals with, and what it complains of, side by side. -/
structure Account where
  /-- What it deals with, if there is something. -/
  matter? : Option Matter
  /-- The complaints, in order. -/
  complaints : List LogEvent
deriving DecidableEq

namespace Account

/-- The account of a step of the agent that deals with `matter?` and has `effects`. -/
def of (matter? : Option Matter) (effects : List AgentEffect) : Account :=
  ⟨matter?, FleetAgent.complaints effects⟩

/-- Whether `r` deals with the end of something that was called off. -/
def isCanceled (r : Account) : Bool :=
  r.matter?.any Matter.isCanceled

/-- What is dealt with calls for the complaints; a step that deals with nothing has none. -/
def IsJustified (r : Account) : Prop :=
  match r.matter? with
  | none => r.complaints = []
  | some m => m.CallsFor r.complaints

/-- Whatever fails, it is all right not to complain: `.failure e` calls for `[]`. -/
theorem isJustified_quiet (failure? : Option ClientError) :
    IsJustified ⟨failure?.map .failure, []⟩ := by
  cases failure? with
  | none => rfl
  | some e => exact fun _ => rfl

/-- A justified account of something that was called off has no complaint, if it is not about the
supervisor's work (`hwork`). -/
theorem IsJustified.complaints_eq_nil {r : Account} (h : r.IsJustified)
    (hcanceled : r.isCanceled = true) (hwork : ∀ e, r.matter? ≠ some (.work e)) :
    r.complaints = [] := by
  obtain ⟨matter?, complaints⟩ := r
  rcases matter? with _ | ⟨e | e | e | payload⟩
  · exact h
  · exact h hcanceled
  · exact absurd rfl (hwork e)
  · cases hcanceled
  · cases hcanceled

/-- The supervisor's work that was given up is complained of, for whatever reason `e` it was. -/
theorem IsJustified.complaints_ne_nil {r : Account} (h : r.IsJustified) {e : SupervisorError}
    (hwork : r.matter? = some (.work e)) : r.complaints ≠ [] := by
  rw [IsJustified, hwork] at h
  rw [show r.complaints = _ from h]
  exact List.cons_ne_nil _ _

end Account

/-! ### The registration -/

/-- The complaint that an effect of an enrollment is, if it is one. A request that is sent is
none. -/
def EnrollmentEffect.complaint? : EnrollmentEffect → Option LogEvent
  | .log e => e.complaint?
  | .send _ => none

namespace EnrollmentStep

/-- What ends without success in the step `x`: the request of an attempt, which may fail before it
is sent (`call`), or the pause between two attempts. -/
def failure? (x : EnrollmentStep) : Option ClientError :=
  let e := x.before.enrollment
  let s := x.before.around
  match x.event, e.phase with
  | .advance, .created =>
    match e.decided?, e.token? with
    | none, some token => (x.before.call token).error?
    | _, _ => none
  | .advance, .asking _ _ flight =>
    (flight.poll s.signal s.now none).bind fun r => (readRegistration r).error?
  | .advance, .pausing token _ wakeAt =>
    (e.context.poll s.signal s.now (if wakeAt ≤ s.now then some () else none)).bind fun
      | .ok () => (x.before.call token).error?
      | .error i => some (.transport (.ofInterruption i))
  | .reply r, .asking _ _ flight =>
    (flight.poll s.signal s.now (some r)).bind fun r => (readRegistration r).error?
  | _, _ => none

/-- The account of the step `x`. Its matter can only be a failure. -/
def account (x : EnrollmentStep) : Account :=
  ⟨x.failure?.map .failure, x.effects.filterMap EnrollmentEffect.complaint?⟩

end EnrollmentStep

namespace Enrollment

/-- An identity `i` that comes is nothing to complain of, whether the store keeps it or not:
`accept` only tells of it. -/
theorem complaints_accept (e : Enrollment) (attempt : UInt32) (i : Identity) :
    (e.accept attempt i).2.filterMap EnrollmentEffect.complaint? = [] := by
  rw [accept]
  rcases e.store.save e.umask e.directory i with ⟨d, error | ⟨⟩⟩ <;> rfl

/-- The end of an attempt to register. A `result` that was called off ends the enrollment before
anything is logged. -/
theorem isJustified_answered (e : Enrollment) (now : Moment) (token : RegistrationToken)
    (attempt : UInt32) (result : Except ClientError Registration) :
    Account.IsJustified ⟨result.error?.map .failure,
      (e.answered now token attempt result).2.filterMap EnrollmentEffect.complaint?⟩ := by
  cases result with
  | ok r => exact e.complaints_accept attempt r.identity
  | error error =>
    intro hcanceled
    rw [answered, if_pos hcanceled]
    rfl

/-- The start of an attempt to register, which ends at once if `client.start` refuses the
request. -/
theorem isJustified_ask (e : Enrollment) (s : Surroundings) (token : RegistrationToken)
    (attempt : UInt32) :
    Account.IsJustified
      ⟨(e.client.start e.context s.signal s.now (.register token.secret)).error?.map .failure,
        (e.ask s token attempt).2.filterMap EnrollmentEffect.complaint?⟩ := by
  rw [ask]
  cases hstart : e.client.start e.context s.signal s.now (.register token.secret) with
  | ok request => rfl
  | error error => exact e.isJustified_answered s.now token attempt (.error error)

end Enrollment

namespace EnrollmentStep

open Enrollment

/-- The first step of an enrollment of its own, `Enrollment.begin`. It asks only if no identity is
stored and a token is given. -/
theorem isJustified_begin {w v : EnrollmentWorld} (hphase : w.enrollment.phase = .created) :
    (account ⟨w, .advance, v, (w.enrollment.begin w.around).2⟩).IsJustified := by
  simp only [account, failure?, hphase, begin, decided?]
  cases hload : w.enrollment.store.load w.enrollment.directory with
  | error error => rfl
  | ok o =>
    cases o with
    | some i => rfl
    | none =>
      cases htoken : w.enrollment.token? with
      | none => rfl
      | some token => exact w.enrollment.isJustified_ask w.around token 1

/-- A step of an enrollment of its own, in each of its phases. -/
theorem isJustified_advance {w v : EnrollmentWorld} {step : Enrollment × List EnrollmentEffect}
    (h : w.enrollment.advance? w.around = some step) :
    (account ⟨w, .advance, v, step.2⟩).IsJustified := by
  rw [advance?] at h
  cases hphase : w.enrollment.phase with
  | created =>
    rw [hphase] at h
    rw [← Option.some.inj h]
    exact isJustified_begin hphase
  | asking token attempt flight =>
    rw [hphase] at h
    obtain ⟨r, hpoll, rfl⟩ := Option.map_eq_some_iff.mp h
    simp only [account, failure?, hphase, hpoll]
    exact w.enrollment.isJustified_answered w.around.now token attempt (readRegistration r)
  | pausing token attempt wakeAt =>
    rw [hphase] at h
    simp only [account, failure?, hphase]
    dsimp only at h
    split at h
    next => cases h
    next hpoll =>
      rw [← Option.some.inj h, hpoll]
      exact w.enrollment.isJustified_ask w.around token (attempt + 1)
    next =>
      -- The pause was interrupted, which ends the enrollment without a word.
      rw [← Option.some.inj h]
      exact Account.isJustified_quiet _
  | ended result =>
    rw [hphase] at h
    cases h

/-- The end of the request of an enrollment, with the reply `r`. -/
theorem isJustified_reply (w v : EnrollmentWorld) (r : Except TransportError Reply) :
    (account ⟨w, .reply r, v, (w.enrollment.reply w.around r).2⟩).IsJustified := by
  simp only [account, failure?, reply]
  cases hphase : w.enrollment.phase with
  | asking token attempt flight =>
    dsimp only
    cases hpoll : flight.poll w.around.signal w.around.now (some r) with
    | none => rfl
    | some r =>
      exact w.enrollment.isJustified_answered w.around.now token attempt (readRegistration r)
  | created | pausing | ended => rfl

/-- **The poller** complains of no fetch that was called off: the account of a move with its
`outcome` and the effects of `step` is justified. -/
theorem isJustified {x : EnrollmentStep} (h : x.IsStep) : x.account.IsJustified := by
  obtain ⟨w, event, v, effects⟩ := x
  change w.step? event = some (v, effects) at h
  cases event with
  -- What happens to the signal and the clock is no step of the enrollment itself.
  | trigger | drop | elapse =>
    obtain ⟨-, rfl⟩ := Prod.mk.inj (Option.some.inj h)
    rfl
  | advance =>
    obtain ⟨step, hadvance, heq⟩ := Option.map_eq_some_iff.mp h
    obtain ⟨-, rfl⟩ := Prod.mk.inj heq
    exact isJustified_advance hadvance
  | reply r =>
    rw [EnrollmentWorld.step?] at h
    split at h
    next =>
      obtain ⟨-, rfl⟩ := Prod.mk.inj (Option.some.inj h)
      exact isJustified_reply w v r
    next => cases h

theorem matter?_ne_work (x : EnrollmentStep) (e : SupervisorError) :
    x.account.matter? ≠ some (.work e) := by
  rw [account]
  cases x.failure? <;> nofun

end EnrollmentStep

/-! ### The poller -/

/-- The end of a fetch with `result`. An error that was called off stops the poller without a
complaint. -/
theorem Poller.isJustified_fetched (p : Poller) (ticker : Ticker) (result : FetchOutcome) :
    (Account.of (result.error?.map .failure)
      ((p.fetched ticker result).2.map Agent.pollerEffect)).IsJustified := by
  cases result with
  | ok b => rfl
  | error e =>
    intro hcanceled
    rw [fetched, if_pos hcanceled]
    rfl

/-- **The poller** complains of no fetch that was called off. -/
theorem Poller.Move.isJustified {p : Poller} {outcome : Option FetchOutcome}
    {step : Poller × List PollerEffect} (h : p.Move s outcome step) :
    (Account.of ((outcome.bind Except.error?).map .failure)
      (step.2.map Agent.pollerEffect)).IsJustified := by
  cases h with
  | rests | begins | stops | sends => rfl
  | asksInVain hphase e => exact p.isJustified_fetched _ (.error e)
  | @fetches _ _ _ _ r _ => exact p.isJustified_fetched _ (readBundle r)

/-! ### The supervisor -/

namespace SupervisorRun

variable {client : Client} {context : Context} {cache : PushCache} {work : SupervisorRun σ}
  {step : SupervisorRun σ × PushCache × List SupervisorEffect}

/-- What the work of a supervisor deals with at its next step, with the reply `reply?` if one comes.
A report that cannot be made is a failure, and it is up to the supervisor what becomes of it. -/
def matter? (client : Client) (context : Context) (s : Surroundings) (cache : PushCache)
    (work : SupervisorRun σ) (reply? : Option (Except TransportError Reply)) : Option Matter :=
  match work, reply? with
  -- Work that has come to an end is not kept, so that no reply meets it; one would pass it on.
  | .running (.done _ result), none | .done _ result, some _ => result.error?.map .work
  | .running (.log e _), none => some (.told e)
  | .running (.report o _), none =>
    if cache.holds o then none
    else (client.start context s.signal s.now (.setObservation o)).error?.map .failure
  | .pushing _ flight _, reply? =>
    ((flight.poll s.signal s.now reply?).bind fun r => (readDone r).error?).map .failure
  | .waiting wakeAt _, none =>
    ((context.poll s.signal s.now (if wakeAt ≤ s.now then some () else none)).bind fun r =>
      r.error?.map fun i => .transport (.ofInterruption i)).map .failure
  | _, _ => none

/-- What is said of the work if this step brings it to an end, and nothing before. -/
def verdict : SupervisorRun σ → List AgentEffect
  | .done _ result => Supervisor.complaint result
  | _ => []

/-- The account of a step of the work: what the step itself writes, and behind it the `verdict` on
work that is over. -/
def account (matter? : Option Matter)
    (step : SupervisorRun σ × PushCache × List SupervisorEffect) : Account :=
  .of matter? (step.2.2.map Agent.supervisorEffect ++ step.1.verdict)

/-- The end of the work with `result`: an error in it is what `.work` calls to be complained of. -/
theorem isJustified_done (state : σ) (result : Except SupervisorError Unit) (cache : PushCache) :
    (account (result.error?.map .work) (.done state result, cache, [])).IsJustified := by
  rcases result with e | ⟨⟩ <;> rfl

/-- The end of a report of `o`. Only a success is logged, so a failure of any kind leaves no
complaint here. -/
theorem isJustified_pushed (cache : PushCache) (o : Observation)
    (next : Except ClientError Bool → Realization σ) (result : Except ClientError Unit) :
    (account (result.error?.map .failure) (pushed cache o next result)).IsJustified := by
  cases result with
  | ok =>
    obtain ⟨kind, key, v⟩ := o
    cases kind <;> rfl
  | error e => exact fun _ => rfl

/-- A step of a realization `r`, by what it wants next. -/
theorem isJustified_step {r : Realization σ}
    (h : SupervisorRun.step client context s cache r = some step) :
    (account (matter? client context s cache (.running r) none) step).IsJustified := by
  cases r with
  | done state result =>
    rw [← Option.some.inj h]
    exact isJustified_done state result cache
  | log e next =>
    rw [← Option.some.inj h]
    show complaints [.log e] = e.complaint?.toList
    rw [complaints, List.filterMap_cons, AgentEffect.complaint?]
    cases e.complaint? <;> rfl
  | report o next =>
    rw [SupervisorRun.step] at h
    rw [matter?]
    split at h
    next hholds =>
      rw [← Option.some.inj h, if_pos hholds]
      rfl
    next hholds =>
      rw [if_neg hholds]
      split at h
      next hstart =>
        rw [← Option.some.inj h, hstart]
        rfl
      next e hstart =>
        rw [← Option.some.inj h, hstart]
        exact isJustified_pushed cache o next (.error e)
  | wait duration next =>
    rw [← Option.some.inj h]
    rfl
  | stuck => cases h
  | broken =>
    rw [← Option.some.inj h]
    rfl

/-- **The supervisor** complains of no report that was called off: that is left to the poller. -/
theorem isJustified_advance (h : work.advance? client context s cache = some step) :
    (account (work.matter? client context s cache none) step).IsJustified := by
  cases work with
  | running r => exact isJustified_step h
  | pushing o flight next =>
    obtain ⟨r, hpoll, rfl⟩ := Option.map_eq_some_iff.mp h
    rw [matter?, hpoll]
    exact isJustified_pushed cache o next (readDone r)
  | waiting wakeAt next =>
    obtain ⟨r, hpoll, rfl⟩ := Option.map_eq_some_iff.mp h
    rw [matter?, hpoll]
    exact Account.isJustified_quiet _
  | done => cases h
  | broken => cases h

/-- Work that cannot go on by itself (`advance?` is `none`) deals with nothing until a reply
comes. -/
theorem matter?_of_advance_none (h : work.advance? client context s cache = none) :
    work.matter? client context s cache none = none := by
  cases work with
  | running r =>
    cases r with
    | report o next =>
      rw [advance?, SupervisorRun.step] at h
      split at h
      next => cases h
      next => split at h <;> cases h
    | stuck | broken | wait => rfl
    | done | log => cases h
  | pushing o flight next =>
    rw [matter?, Option.map_eq_none_iff.mp h]
    rfl
  | waiting wakeAt next =>
    rw [matter?, Option.map_eq_none_iff.mp h]
    rfl
  | done | broken => rfl

/-- A reply `r` to the report of the supervisor ends the report or finds it called off. -/
theorem isJustified_reply (r : Except TransportError Reply) :
    (account (work.matter? client context s cache (some r))
      (work.reply s cache r)).IsJustified := by
  cases work with
  | pushing o flight next =>
    rw [matter?, reply]
    cases hpoll : flight.poll s.signal s.now (some r) with
    | none => rfl
    | some r => exact isJustified_pushed cache o next (readDone r)
  | done state result => exact isJustified_done state result cache
  | running work => cases work <;> rfl
  | waiting | broken => rfl

end SupervisorRun

/-! ### The collectors -/

/-- The complaint that an effect of a loop is, if it is one. -/
def LoopEffect.complaint? {κ : Type} : LoopEffect κ → Option LogEvent
  | .log e => e.complaint?
  | _ => none

namespace Loop

variable {kind : ObservationKind} {l : Loop kind}

/-- What a loop does next in its `pass`, on its way to the next deletion or behind the last, is no
complaint. `b` is the bundle of the pass. -/
theorem complaints_resume (l : Loop kind) (now : Moment) (ticker : Ticker) (b : Bundle)
    (pass : Pass kind.Key) :
    (l.resume now ticker b pass).2.filterMap LoopEffect.complaint? = [] := by
  match pass with
  | .deleting _ _ _ => rfl
  | .over report =>
    rw [resume, passEvents]
    split <;> rfl

/-- On its own a loop has nothing to complain of: it waits, loads a bundle, begins a pass or
ends. -/
theorem complaints_advance {step : Loop kind × List (LoopEffect kind.Key)}
    (h : l.advance? s = some step) : step.2.filterMap LoopEffect.complaint? = [] := by
  rw [advance?] at h
  split at h
  next =>
    rw [← Option.some.inj h]
    rfl
  next =>
    split_ifs at h
    · rw [← Option.some.inj h]
      rfl
    · rw [← Option.some.inj h, begin]
      split <;> rfl
  next =>
    split_ifs at h
    · rw [← Option.some.inj h]
      rfl
    · rw [← Option.some.inj h, tick]
      split
      · rfl
      · exact complaints_resume _ _ _ _ _
  next => cases h
  next => cases h

/-- The end of a deletion with `result`. `deletionEvents` logs nothing of one that was called off,
and `resume` adds no complaint. -/
theorem isJustified_finish (l : Loop kind) (s : Surroundings) (result : Except ClientError Unit) :
    Account.IsJustified ⟨result.error?.map .failure,
      (l.finish s result).2.filterMap LoopEffect.complaint?⟩ := by
  rw [finish]
  split
  next ticker b pass _ =>
    dsimp only
    rw [List.filterMap_append, complaints_resume, List.append_nil]
    cases pass.current? with
    | none => exact Account.isJustified_quiet _
    | some o =>
      cases result with
      | ok => rfl
      | error e =>
        intro hcanceled
        simp only [Option.map_some, Option.getD_some, ObservationKind.deletionEvents,
          if_pos hcanceled]
        rfl
  next => exact Account.isJustified_quiet _

end Loop

namespace CollectorTask

variable {kind : ObservationKind} {client : Client} {t : CollectorTask kind}
  {step : CollectorTask kind × List CollectorEffect}

/-- How the deletion ends that ends with the next step of a collector, if it is no success. -/
def failure? (t : CollectorTask kind) (s : Surroundings)
    (reply? : Option (Except TransportError Reply)) : Option ClientError :=
  -- Without a reply the loop comes before its deletion.
  if reply?.isNone ∧ (t.loop.advance? s).isSome then none
  else (t.deletion?.bind fun p => p.poll s.signal s.now readDeletion reply?).bind Except.error?

/-- A collector complains of what its loop complains of: `carryOut` turns each of the `effects` into
itself, and adds requests only. -/
theorem complaints_carryOut (client : Client) (s : Surroundings) (t : CollectorTask kind)
    (effects : List (LoopEffect kind.Key)) :
    complaints ((carryOut client s t effects).2.map (Agent.collectorEffect kind)) =
      effects.filterMap LoopEffect.complaint? := by
  -- Each effect is carried out in the state that the ones before it left, hence over every `t`.
  induction effects generalizing t with
  | nil => rfl
  | cons effect rest ih =>
    cases effect with
    | log e =>
      show complaints (.log e :: _) = _
      rw [complaints, List.filterMap_cons, List.filterMap_cons, ← complaints, ih]
      rfl
    | publish state => exact ih { t with state }
    | load b => exact ih t
    | delete key ctx =>
      rw [carryOut]
      dsimp only
      rw [List.map_append, complaints_append, ih]
      cases (client.launch ctx s.signal s.now (.deleteObservation kind key)).2 <;> rfl

/-- The end of a deletion in the loop of the collector, carried over by `complaints_carryOut`. -/
theorem isJustified_finish (client : Client) (s : Surroundings) (t : CollectorTask kind)
    (result : Except ClientError Unit) :
    (Account.of (result.error?.map .failure)
      ((finish client s t result).2.map (Agent.collectorEffect kind))).IsJustified := by
  rw [Account.of, finish]
  dsimp only
  rw [complaints_carryOut]
  exact t.loop.isJustified_finish s result

/-- **A collector** complains of no deletion that was called off. -/
theorem isJustified_advance (h : t.advance? client s = some step) :
    (Account.of ((t.failure? s none).map .failure)
      (step.2.map (Agent.collectorEffect kind))).IsJustified := by
  rw [advance?] at h
  rw [failure?]
  split at h
  next loop effects hadvance =>
    rw [← Option.some.inj h, Account.of, complaints_carryOut, Loop.complaints_advance hadvance]
    exact Account.isJustified_quiet _
  next hnone =>
    obtain ⟨result, hpoll, rfl⟩ := Option.map_eq_some_iff.mp h
    rw [hnone, if_neg fun hsome => Bool.false_ne_true hsome.2, hpoll]
    exact t.isJustified_finish client s result

/-- A reply `r` to the deletion that is under way ends it or finds it called off. -/
theorem isJustified_reply (client : Client) (s : Surroundings) (t : CollectorTask kind)
    (r : Except TransportError Reply) :
    (Account.of ((t.failure? s (some r)).map .failure)
      ((t.reply client s r).2.map (Agent.collectorEffect kind))).IsJustified := by
  rw [failure?, reply, if_neg fun hnone => Bool.false_ne_true hnone.1]
  cases hpoll : t.deletion?.bind fun p => p.poll s.signal s.now readDeletion (some r) with
  | none => rfl
  | some result => exact isJustified_finish client s t result

end CollectorTask

/-! ### The loop that reports the description of the device -/

namespace InfoLoop

variable {l : InfoLoop} {step : InfoLoop × List InfoEffect}

/-- How the collecting of the description ends, or the push of the `info` that was collected if
`client.start` refuses it, if it is no success. -/
def collectFailure? (l : InfoLoop) (s : Surroundings) (collected? : Option DeviceInfo) :
    Option ClientError :=
  match l.phase with
  | .collecting _ =>
    (l.context.poll s.signal s.now collected?).bind fun
      | .ok info =>
        if l.reporter.holds info then none
        else (l.client.start l.context s.signal s.now (.setInfo info)).error?
      | .error i => some (.transport (.ofInterruption i))
  | _ => none

/-- How a push that is under way ends with `reply?`, if it is no success. -/
def pushFailure? (l : InfoLoop) (s : Surroundings)
    (reply? : Option (Except TransportError Reply)) : Option ClientError :=
  match l.phase with
  | .pushing _ _ flight => (flight.poll s.signal s.now reply?).bind fun r => (readDone r).error?
  | _ => none

/-- The end of a push of `info`. An error that was called off stops the loop without a complaint. -/
theorem isJustified_pushed (l : InfoLoop) (ticker : Ticker) (info : DeviceInfo)
    (result : Except ClientError Unit) :
    (Account.of (result.error?.map .failure)
      ((l.pushed ticker info result).2.map Agent.infoEffect)).IsJustified := by
  cases result with
  | ok => rfl
  | error e =>
    intro hcanceled
    rw [pushed, if_pos hcanceled]
    rfl

/-- The collecting of the description is given up for the interruption `i`: at its deadline or
because it was called off. -/
theorem isJustified_interrupted (l : InfoLoop) (ticker : Ticker) (i : Interruption) :
    (Account.of (some (.failure (.transport (.ofInterruption i))))
      ((l.interrupted ticker i).2.map Agent.infoEffect)).IsJustified := by
  cases i with
  | canceled => exact fun _ => rfl
  | timeout => nofun

/-- The description `info` is there: it is reported, unless it was reported last or the loop was
called off in between. -/
theorem isJustified_collected (l : InfoLoop) (s : Surroundings) (info : DeviceInfo) :
    (Account.of ((l.collectFailure? s (some info)).map .failure)
      ((l.collected s info).2.map Agent.infoEffect)).IsJustified := by
  rw [collectFailure?, collected]
  cases hphase : l.phase with
  | collecting ticker =>
    dsimp only
    -- The collecting may be over already when the description comes, since the context is asked
    -- first.
    rcases l.context.poll s.signal s.now (some info) with _ | i | info
    · rfl
    · exact l.isJustified_interrupted ticker i
    · simp only [Option.bind_some, report]
      split
      next => rfl
      next =>
        cases hstart : l.client.start l.context s.signal s.now (.setInfo info) with
        | ok request => rfl
        | error e => exact l.isJustified_pushed ticker info (.error e)
  | _ => rfl

/-- A reply `r` to the push that is under way ends it or finds it called off. -/
theorem isJustified_reply (l : InfoLoop) (s : Surroundings) (r : Except TransportError Reply) :
    (Account.of ((l.pushFailure? s (some r)).map .failure)
      ((l.reply s r).2.map Agent.infoEffect)).IsJustified := by
  rw [pushFailure?, reply]
  cases hphase : l.phase with
  | pushing ticker info flight =>
    dsimp only
    cases hpoll : flight.poll s.signal s.now (some r) with
    | none => rfl
    | some r => exact l.isJustified_pushed ticker info (readDone r)
  | _ => rfl

/-- **The loop that reports the description** complains of nothing that was called off. -/
theorem isJustified_advance (h : l.advance? s = some step) :
    (Account.of (((l.collectFailure? s none).or (l.pushFailure? s none)).map .failure)
      (step.2.map Agent.infoEffect)).IsJustified := by
  rw [advance?] at h
  rw [collectFailure?, pushFailure?]
  cases hphase : l.phase with
  | created =>
    rw [hphase] at h
    rw [← Option.some.inj h]
    rfl
  | idle ticker =>
    rw [hphase] at h
    dsimp only at h
    split_ifs at h
    · rw [← Option.some.inj h]
      rfl
    · rw [← Option.some.inj h]
      rfl
  | collecting ticker =>
    rw [hphase] at h
    dsimp only at h ⊢
    split at h
    next i hpoll =>
      rw [← Option.some.inj h, hpoll]
      exact l.isJustified_interrupted ticker i
    next => cases h
  | pushing ticker info flight =>
    rw [hphase] at h
    obtain ⟨r, hpoll, rfl⟩ := Option.map_eq_some_iff.mp h
    dsimp only
    rw [hpoll]
    exact l.isJustified_pushed ticker info (readDone r)
  | ended | broken =>
    rw [hphase] at h
    cases h

end InfoLoop

/-! ### The tunnel -/

namespace Tunnel

variable {t : Tunnel} {e : TunnelEvent} {next : Tunnel × List TunnelEffect}

/-- What the tunnel or a session deals with at the event `e`: a message it takes, or else what
fails. -/
def matter? (t : Tunnel) (s : Surroundings) (e : TunnelEvent) : Option Matter :=
  ((t.taken? s e).map .message).or ((t.failure? s e).map .failure)

/-- A message that comes over the tunnel is complained of as `ControlMessage.complaints` says,
whatever state `t` is in. -/
theorem complaints_handle (t : Tunnel) (payload : List UInt8) :
    complaints ((t.handle payload).2.map Agent.tunnelEffect) =
      ControlMessage.complaints payload := by
  rw [handle, ControlMessage.complaints]
  cases Wire.decode ControlMessage.ofNode payload with
  | error e => rfl
  | ok m =>
    dsimp only
    cases haction : m.action with
    | keepAlive | dial => rfl
    | ignore =>
      dsimp only
      rw [ignoredEvent]
      by_cases herror : m.errorText ≠ ""
      · rw [if_pos herror, if_pos ⟨rfl, herror⟩]
        rfl
      · rw [if_neg herror, if_neg fun h => herror h.2]
        rfl

/-- What the tunnel says before it deals with an event, its `preface`, is no complaint. -/
theorem complaints_preface (t : Tunnel) :
    complaints (t.preface.map Agent.tunnelEffect) = [] := by
  rw [preface]
  split <;> rfl

/-- The end of the dialling of session `i` with `error`. -/
theorem isJustified_dialled (t : Tunnel) (i : Nat) (path : String) (error : ClientError) :
    (Account.of (some (.failure error))
      ((t.dialled i path (.error error)).2.map Agent.tunnelEffect)).IsJustified := by
  intro hcanceled
  rw [dialled, if_pos hcanceled]
  rfl

/-- **The tunnel** complains of nothing that was called off, and its sessions do not either,
whichever way `Goes` the step is. -/
theorem Goes.isJustified (h : t.Goes s e next) :
    (Account.of (t.matter? s e) (next.2.map Agent.tunnelEffect)).IsJustified := by
  cases h with
  | takes htaken =>
    rw [matter?, htaken]
    exact t.complaints_handle _
  | idles htaken =>
    rw [matter?, htaken]
    exact Account.isJustified_quiet _
  | dials =>
    rw [Account.of, List.map_append, complaints_append, complaints_preface]
    exact Account.isJustified_quiet _
  | finishes => rfl
  | connects | wakes | dialsBack | establishes => exact Account.isJustified_quiet _
  | stops hsuffers =>
    rw [matter?, hsuffers.taken?_eq_none, Account.of, List.map_append, complaints_append,
      complaints_preface]
    exact Account.isJustified_quiet _
  | @rests e b hsuffers hb =>
    rw [matter?, hsuffers.taken?_eq_none, ← hsuffers.error?_eq, Account.of, List.map_append,
      complaints_append, complaints_preface]
    cases b with
    | closed => rfl
    | unopened error | failed error =>
      -- Behind a setback that was called off the tunnel does not rest.
      exact fun hcanceled => absurd (hcanceled.symm.trans hb) nofun
  | dialsInVain he hsession hphase herror =>
    cases e with
    | runSession | answerSession | endSession =>
      rw [matter?, herror]
      exact t.isJustified_dialled _ _ _
    | _ => cases he

end Tunnel

end FleetAgent
