import FleetAgent.Proofs.Agent.Accounts
/-!
# Being called off is nothing to complain of

An account is *discreet* if it does not complain of the end of something that was called off
(`Account.IsDiscreet`). `Agent.discreet_iff` says of every run of an agent, with any supervisor,
however its tasks are interleaved and whenever the shutdown comes: each complaint is called for by
what the step deals with, so that the requests, the connections and the waits of all tasks are
discreet about being called off; and the run is discreet as a whole exactly if the supervisor never
gives up a bundle because a report was called off. The registration is always discreet.

The account of a step of the agent is put together from those of its tasks (`Agent.account`), so
that it is justified because theirs are (`Agent.isJustified_account`). A run is a list of accounts
(`Agent.accounts`), one for each event, and they tell of all complaints (`Agent.complaints_steps`).

The supervisor's work is the exception. The poller passes on whatever error the supervisor ends
with, so that a supervisor that gives back the errors of its reports is complained of when the agent
is shut down during a report (`Agent.complains_of_canceled_report`).
-/

namespace FleetAgent

open Controller

variable {σ : Type}

/-- What happens to the tunnel or to a session at an event of the agent, if something does. -/
def AgentEvent.tunnel? : AgentEvent → Option TunnelEvent
  | .runTunnel draw => some (.run draw)
  | .answerTunnel draw r => some (.answer draw r)
  | .receive draw incoming => some (.receive draw incoming)
  | .runSession i => some (.runSession i)
  | .answerSession i r => some (.answerSession i r)
  | .endSession i => some (.endSession i)
  | _ => none

namespace Account

/-- The account `r` does not complain of anything that was called off. -/
def IsDiscreet (r : Account) : Prop :=
  r.isCanceled = true → r.complaints = []

instance (r : Account) : Decidable r.IsDiscreet :=
  inferInstanceAs (Decidable (_ → _))

/-- Whether an operation fails without being called off. -/
def hasFailed (r : Account) : Bool :=
  match r.matter? with
  | some (.failure e) => !e.isCanceled
  | _ => false

/-- A justified account `r` is discreet unless the supervisor's work was called off: of the matters
that may be called off, `.work` is the only one that calls for a complaint. -/
theorem IsJustified.isDiscreet_iff {r : Account} (h : r.IsJustified) :
    r.IsDiscreet ↔ ∀ e, r.matter? = some (.work e) → e.isCanceled = false := by
  constructor
  · intro hdiscreet e hwork
    rw [Bool.eq_false_iff]
    intro hcanceled
    exact h.complaints_ne_nil hwork (hdiscreet (by rwa [isCanceled, hwork]))
  · intro hwork hcanceled
    refine h.complaints_eq_nil hcanceled fun e he => ?_
    rw [isCanceled, he] at hcanceled
    exact Bool.false_ne_true ((hwork e he).symm.trans hcanceled)

end Account

namespace Agent

variable {a : Agent σ} {outcomes : List FetchOutcome}

/-! ### The account of a step -/

/-- What the next step of the poller or the supervisor deals with, at the reply `reply?` if there is
one. -/
def pollerMatter? (a : Agent σ) (reply? : Option (Except TransportError Reply)) : Option Matter :=
  match a.work? with
  | some work => work.matter? a.client a.context a.surroundings a.cache reply?
  | none => ((a.poller.outcome? a.surroundings reply?).bind Except.error?).map .failure

/-- What the agent `a` deals with at an event: what the task that the event is for deals with. -/
def matter? (a : Agent σ) : AgentEvent → Option Matter
  | .run .poller => a.pollerMatter? none
  | .reply .poller r => a.pollerMatter? (some r)
  | .run (.collector kind) => ((a.collector kind).failure? a.surroundings none).map .failure
  | .reply (.collector kind) r =>
    ((a.collector kind).failure? a.surroundings (some r)).map .failure
  | .run .info =>
    ((a.info.collectFailure? a.surroundings none).or
      (a.info.pushFailure? a.surroundings none)).map .failure
  | .collected info => (a.info.collectFailure? a.surroundings (some info)).map .failure
  | .reply .info r => (a.info.pushFailure? a.surroundings (some r)).map .failure
  | e => e.tunnel?.bind fun te => a.tunnel?.bind fun t => t.matter? a.surroundings te

/-- The account of the step of `a` at the event `e`. -/
def account (a : Agent σ) (e : AgentEvent) : Account :=
  .of (a.matter? e) (a.step e).2

theorem snd_carryOut (a : Agent σ) (effects : List PollerEffect) :
    (a.carryOut effects).2 = effects.map pollerEffect := by
  induction effects generalizing a with
  | nil => rfl
  | cons effect rest ih =>
    rw [carryOut, List.map_cons, ← ih (a.perform effect).1]
    cases effect <;> rfl

/-- What the supervisor's work does is done by the agent, and behind it comes the `verdict` on work
that has ended. -/
theorem snd_setWork {ticker : Ticker} (h : a.poller.phase = .applying ticker)
    (step : SupervisorRun σ × PushCache × List SupervisorEffect) :
    (a.setWork step).2 = step.2.2.map supervisorEffect ++ step.1.verdict := by
  obtain ⟨work, cache, effects⟩ := step
  cases work with
  | done state result => rw [setWork_done h, SupervisorRun.verdict]
  | _ => rfl

/-- A step of the poller or the supervisor. `h` says that the poller waits while the supervisor is
at work, so that only one of them has a step. -/
theorem isJustified_runPoller (h : a.AwaitsWork) : (a.account (.run .poller)).IsJustified := by
  rw [account, matter?, pollerMatter?]
  show (Account.of _ (a.runPoller?.getD (a, [])).2).IsJustified
  rw [runPoller?]
  cases hwork : a.work? with
  | none =>
    cases hadvance : a.poller.advance? a.surroundings with
    | none => exact Account.isJustified_quiet _
    | some step =>
      dsimp only
      rw [Option.map_some, Option.getD_some, setPoller, snd_carryOut]
      exact (Poller.move_of_advance hadvance).isJustified
  | some work =>
    obtain ⟨ticker, hphase⟩ := h (by rw [hwork]; rfl)
    dsimp only
    cases hadvance : work.advance? a.client a.context a.surroundings a.cache with
    | none =>
      rw [SupervisorRun.matter?_of_advance_none hadvance]
      rfl
    | some step =>
      rw [Option.map_some, Option.getD_some, snd_setWork hphase]
      exact SupervisorRun.isJustified_advance hadvance

/-- The end of a request of the poller or the supervisor, with the reply `r`. -/
theorem isJustified_replyPoller (h : a.AwaitsWork) (r : Except TransportError Reply) :
    (a.account (.reply .poller r)).IsJustified := by
  rw [account, matter?, pollerMatter?]
  show (Account.of _ (a.replyPoller r).2).IsJustified
  rw [replyPoller]
  cases hwork : a.work? with
  | none =>
    dsimp only
    rw [setPoller, snd_carryOut]
    exact (Poller.move_reply r).isJustified
  | some work =>
    obtain ⟨ticker, hphase⟩ := h (by rw [hwork]; rfl)
    dsimp only
    rw [snd_setWork hphase]
    exact SupervisorRun.isJustified_reply r

/-- What the tunnel does at an event `te` is what the agent does at the event `e` that brings it. -/
theorem snd_step_of_tunnel {e : AgentEvent} {te : TunnelEvent} (he : e.tunnel? = some te)
    {t : Tunnel} (ht : a.tunnel? = some t) :
    (a.step e).2 = (t.step a.surroundings te).2.map tunnelEffect := by
  cases e with
  | runTunnel draw =>
    obtain rfl := Option.some.inj he
    simp only [step, withTunnel, ht, Option.bind_some, Tunnel.step]
    cases t.advance? a.surroundings draw <;> rfl
  | runSession i =>
    obtain rfl := Option.some.inj he
    simp only [step, withTunnel, ht, Option.bind_some, Tunnel.step]
    cases t.advanceSession? a.surroundings i <;> rfl
  | answerTunnel | receive | answerSession | endSession =>
    obtain rfl := Option.some.inj he
    simp only [step, withTunnel, ht, Option.bind_some]
    rfl
  | elapse | trigger | drop | run | reply | collected => cases he

/-- A step of the tunnel or of a session, at an event `e` that is one of the tunnel's. Without a
tunnel there is nothing to deal with. -/
theorem isJustified_tunnel {e : AgentEvent} {te : TunnelEvent} (he : e.tunnel? = some te)
    (hmatter : a.matter? e = a.tunnel?.bind fun t => t.matter? a.surroundings te) :
    (a.account e).IsJustified := by
  rw [account, hmatter]
  cases ht : a.tunnel? with
  | none =>
    have hstep : (a.step e).2 = [] := by
      cases e with
      | elapse | trigger | drop | run | reply | collected => cases he
      | _ => simp only [step, withTunnel, ht, Option.bind_none]
    rw [hstep]
    rfl
  | some t =>
    rw [snd_step_of_tunnel he ht]
    exact (t.goes_step a.surroundings te).isJustified

/-- **A step** of the agent complains of nothing without cause, whatever the event `e` is. -/
theorem isJustified_account (h : a.AwaitsWork) (e : AgentEvent) : (a.account e).IsJustified := by
  cases e with
  | elapse | trigger | drop => rfl
  | run task =>
    cases task with
    | poller => exact isJustified_runPoller h
    | collector kind =>
      rw [account, step, run?]
      cases hadvance : (a.collector kind).advance? a.client a.surroundings with
      | none => exact Account.isJustified_quiet _
      | some step => exact CollectorTask.isJustified_advance hadvance
    | info =>
      rw [account, step, run?]
      cases hadvance : a.info.advance? a.surroundings with
      | none => exact Account.isJustified_quiet _
      | some step => exact InfoLoop.isJustified_advance hadvance
  | reply task r =>
    cases task with
    | poller => exact isJustified_replyPoller h r
    | collector kind => exact CollectorTask.isJustified_reply a.client a.surroundings _ r
    | info => exact a.info.isJustified_reply a.surroundings r
  | collected info => exact a.info.isJustified_collected a.surroundings info
  | runTunnel | answerTunnel | receive | runSession | answerSession | endSession =>
    exact isJustified_tunnel rfl rfl

/-! ### Runs -/

/-- The accounts of the steps of `a` along several events, one for each event, in order. -/
def accounts (a : Agent σ) : List AgentEvent → List Account
  | [] => []
  | e :: rest => a.account e :: (a.step e).1.accounts rest

/-- **A run** of the agent complains of nothing without cause. The induction is on the events;
`Polls` is kept by each step, and with it that the poller waits while the supervisor is at work. -/
theorem isJustified_accounts (h : a.Polls outcomes) (events : List AgentEvent) :
    ∀ r ∈ a.accounts events, r.IsJustified := by
  induction events generalizing a outcomes with
  | nil => nofun
  | cons e events ih =>
    exact List.forall_mem_cons.mpr ⟨isJustified_account h.awaits e, ih (h.step e)⟩

/-- The `accounts` of a run tell of all its complaints, and of nothing else. -/
theorem complaints_steps (a : Agent σ) (events : List AgentEvent) :
    complaints (a.steps events).2 = (a.accounts events).flatMap Account.complaints := by
  induction events generalizing a with
  | nil => rfl
  | cons e events ih =>
    rw [steps, accounts, List.flatMap_cons, ← ih]
    exact complaints_append _ _

/-- **Being called off is nothing to complain of**, except for the supervisor's work: however the
tasks of an agent are interleaved, each of its complaints is called for, and the run is discreet
exactly if no bundle is given up because a report was called off. So is the registration, always. -/
theorem discreet_iff (config : Config) (supervisor : Supervisor σ) (hasTunnel : Bool)
    (client : Client) (now : Moment) (signal : Signal) (events : List AgentEvent)
    {v w : EnrollmentWorld} {registration : List EnrollmentStep}
    (h : EnrollmentRun v registration w) :
    (∀ x ∈ registration, x.account.IsJustified ∧ x.account.IsDiscreet) ∧
      let a := create config supervisor hasTunnel client now signal
      complaints (a.steps events).2 = (a.accounts events).flatMap Account.complaints ∧
      (∀ r ∈ a.accounts events, r.IsJustified) ∧
      ((∀ r ∈ a.accounts events, r.IsDiscreet) ↔
        ∀ r ∈ a.accounts events, ∀ e, r.matter? = some (.work e) → e.isCanceled = false) := by
  have hregistration : ∀ x ∈ registration, x.IsStep :=
    fun x hx => ((h.forall_mem (p := fun _ => True) (fun _ _ _ => trivial) trivial).1 x hx).1
  have haccounts :=
    isJustified_accounts (polls_create config supervisor hasTunnel client now signal) events
  refine ⟨fun x hx => ?_, complaints_steps _ events, haccounts,
    forall₂_congr fun r hr => (haccounts r hr).isDiscreet_iff⟩
  have hjustified := EnrollmentStep.isJustified (hregistration x hx)
  exact ⟨hjustified, hjustified.isDiscreet_iff.mpr fun e he => absurd he (x.matter?_ne_work e)⟩

/-- The registration is called off, and so is the fetch of an agent: neither is complained of. Both
runs are discreet. -/
theorem discreet_iff_called_off :
    ∃ (config : Config) (supervisor : Supervisor Unit) (client : Client)
      (registration : List EnrollmentStep) (w : EnrollmentWorld),
      let accounts := (create config supervisor false client 0 .fresh).accounts
        [.run .poller, .run .poller, .trigger, .run .poller]
      let canceled : Account := ⟨some (.failure (.transport .canceled)), []⟩
      EnrollmentRun ⟨.create config .root 0 .absent, ⟨0, .fresh, .empty⟩⟩ registration w ∧
        registration.map EnrollmentStep.account = [⟨none, []⟩, ⟨none, []⟩, canceled] ∧
        accounts = [⟨none, []⟩, ⟨none, []⟩, ⟨none, []⟩, canceled] ∧
        (∀ x ∈ registration, x.account.IsJustified ∧ x.account.IsDiscreet) ∧
        ∀ r ∈ accounts, r.IsDiscreet := by
  let config : Config :=
    { Config.standard "http://c" ⟨"p", by decide⟩ with registrationToken := some ⟨"t"⟩ }
  let client : Client :=
    (Client.create "http://c" ⟨"p", by decide⟩).withIdentity ⟨⟨"d", by decide⟩, ⟨"k"⟩⟩
  let supervisor : Supervisor Unit := ⟨(), fun _ _ => .done () (.ok ())⟩
  let events : List AgentEvent := [.run .poller, .run .poller, .trigger, .run .poller]
  have hrun : ((⟨.create config .root 0 .absent, ⟨0, .fresh, .empty⟩⟩ : EnrollmentWorld).run?
      [.advance, .trigger, .advance]).map (fun p => p.1.map EnrollmentStep.account) =
    some [⟨none, []⟩, ⟨none, []⟩, ⟨some (.failure (.transport .canceled)), []⟩] := by
    decide +kernel
  have haccounts : (create config supervisor false client 0 .fresh).accounts events =
      [⟨none, []⟩, ⟨none, []⟩, ⟨none, []⟩, ⟨some (.failure (.transport .canceled)), []⟩] := by
    decide +kernel
  obtain ⟨⟨registration, w⟩, hrun, hregistration⟩ := Option.map_eq_some_iff.mp hrun
  obtain ⟨hdiscreet, -, -, hiff⟩ :=
    discreet_iff config supervisor false client 0 .fresh events (.of_run? hrun)
  refine ⟨config, supervisor, client, registration, w, .of_run? hrun, hregistration, haccounts,
    hdiscreet, hiff.mpr ?_⟩
  rw [haccounts]
  simp

/-- The agent is shut down while a supervisor that gives back the errors of its reports makes one.
Every request succeeds that is not called off; the report is, and it is complained of. -/
theorem complains_of_canceled_report :
    let o : Observation := ⟨.applicationStatus, ⟨"a", by decide⟩, ⟨"r"⟩⟩
    let supervisor : Supervisor Unit := ⟨(), fun _ _ => .reportAll () [o]⟩
    let client : Client :=
      (Client.create "http://c" ⟨"p", by decide⟩).withIdentity ⟨⟨"d", by decide⟩, ⟨"k"⟩⟩
    let accounts :=
      (create (.standard "http://c" ⟨"p", by decide⟩) supervisor false client 0 .fresh).accounts
        [.run .poller, .run .poller, .reply .poller (.ok ⟨⟨200, by decide⟩, []⟩), .run .poller,
          .trigger, .run .poller, .run .poller]
    (∀ r ∈ accounts, r.hasFailed = false) ∧ (¬ ∀ r ∈ accounts, r.IsDiscreet) ∧
      accounts.filter Account.isCanceled =
        [⟨some (.failure (.transport .canceled)), []⟩,
          ⟨some (.work (.client (.transport .canceled))),
            [⟨.warn, "Supervisor failed to apply bundle",
              [("error", .text "request canceled")]⟩]⟩] := by
  decide +kernel

end Agent

end FleetAgent
