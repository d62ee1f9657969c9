import FleetAgent.Proofs.Agent.Steps
import FleetAgent.Proofs.Controller.Waiting
import Mathlib.Data.List.DropRight
import Mathlib.Tactic.ByContra
/-!
# What the agent makes of the fetches

`Agent.followsFetches` says what every step of every run does about the bundle, given the outcomes
of all fetches so far: the current bundle is the last one that was fetched; a bundle that comes is
stored, what it does not desire is forgotten and the supervisor is told, in this order; an error
touches nothing and is worth one event, which is the graver the more errors there were in a row; and
nothing is fetched any more once a fetch was called off.

The invariant is `Agent.Polls`. A step either ends a fetch, and then the poller was not waiting for
the supervisor (`Agent.step_of_outcome`), or it brings no news of the bundle (`Agent.Idles`).
-/

namespace FleetAgent

open Controller

/-! ### What the outcomes come to -/

namespace FetchOutcome

variable {outcomes : List FetchOutcome}

/-- Whether a fetch has failed. One that was called off is no failure, and neither is a bundle. -/
def isFailure : FetchOutcome → Bool
  | .ok _ => false
  | .error e => !e.isCanceled

/-- Whether a fetch was called off. -/
def isCanceled : FetchOutcome → Bool
  | .ok _ => false
  | .error e => e.isCanceled

/-- The last bundle among `outcomes`, if a fetch has succeeded at all. -/
def lastBundle? (outcomes : List FetchOutcome) : Option Bundle :=
  (outcomes.filterMap Except.toOption).getLast?

/-- How many of `outcomes` are failures behind the last bundle. -/
def failuresInARow (outcomes : List FetchOutcome) : Nat :=
  (outcomes.rtakeWhile fun r => !r.isOk).countP isFailure

theorem lastBundle?_concat_ok (b : Bundle) : lastBundle? (outcomes ++ [.ok b]) = some b := by
  rw [lastBundle?, List.filterMap_append]
  exact List.getLast?_concat

theorem lastBundle?_concat_error (e : ClientError) :
    lastBundle? (outcomes ++ [.error e]) = lastBundle? outcomes := by
  rw [lastBundle?, List.filterMap_append]
  exact congrArg _ (List.append_nil _)

theorem failuresInARow_concat_ok (b : Bundle) : failuresInARow (outcomes ++ [.ok b]) = 0 := by
  rw [failuresInARow, List.rtakeWhile_concat_neg _ _ _ (by simp [Except.isOk, Except.toBool])]
  rfl

/-- An error `e` behind the `outcomes` makes the row longer by one, unless it was called off. -/
theorem failuresInARow_concat_error (e : ClientError) :
    failuresInARow (outcomes ++ [.error e]) =
      failuresInARow outcomes + if e.isCanceled then 0 else 1 := by
  rw [failuresInARow, List.rtakeWhile_concat_pos _ _ _ (by rfl), List.countP_append]
  congr 1
  cases h : e.isCanceled <;> simp [isFailure, h]

end FetchOutcome

open FetchOutcome

/-- The event for the failure `e` of a fetch, given that it is the failure number `count` in a
row. -/
def Poller.failureReport (count : Nat) (e : ClientError) : LogEvent where
  level := if count ≤ 3 then .warn else .error
  message := if count ≤ 3 then "Bundle fetch failed" else "Bundle fetch failed repeatedly"
  fields := e.logFields ++ [("consecutive_failures", .number count)]

/-- What is said of the end of the supervisor's work: something, if it has failed, whatever the
error is. -/
def Supervisor.complaint : Except SupervisorError Unit → List AgentEffect
  | .ok () => []
  | .error e => [.log ⟨.warn, "Supervisor failed to apply bundle", e.logFields⟩]

/-- Whether an effect is about a bundle that has come. -/
def AgentEffect.isNews : AgentEffect → Bool
  | .store _ | .retain _ | .apply _ => true
  | _ => false

namespace Poller

/-- As long as the counter has not run over, it tells how many failures there have been. It has 32
bits (`UInt32.size`), and the row of failures `count` has no bound. -/
theorem failureEvent_eq {count : Nat} (h : count < UInt32.size) (e : ClientError) :
    failureEvent (.ofNat count) e = failureReport count e := by
  have hcount : (UInt32.ofNat count).toNat = count := UInt32.toNat_ofNat_of_lt' h
  have hle : UInt32.ofNat count ≤ patience ↔ count ≤ 3 := by
    rw [UInt32.le_iff_toNat_le, hcount]
    exact Iff.rfl
  rw [failureEvent, failureReport, hcount]
  by_cases hfew : count ≤ 3
  · simp only [if_pos (hle.mpr hfew), if_pos hfew]
  · simp only [if_neg (mt hle.mp hfew), if_neg hfew]

end Poller

namespace Agent

variable {σ : Type} {a : Agent σ} {e : AgentEvent} {outcomes : List FetchOutcome}
  {ticker : Ticker}

/-! ### The end of a fetch -/

/-- The agent with a bundle `b` that has come: it is the current one, what it does not desire is
forgotten, and the supervisor is about to begin. -/
theorem setPoller_fetched_ok (ticker : Ticker) (b : Bundle) :
    a.setPoller (a.poller.fetched ticker (.ok b)) =
      ({ a with
          poller := { a.poller with phase := .applying ticker, failures := 0 }
          snapshot := a.snapshot.store b
          cache := a.cache.retain b.desiredServices
          work? := some (.running (a.supervisor.apply a.supervisorState b)) },
        [.store b, .retain b.desiredServices, .apply b]) := rfl

/-- The agent behind a fetch that was called off: the poller stops, and nothing else has changed. -/
theorem setPoller_fetched_canceled (ticker : Ticker) {error : ClientError}
    (h : error.isCanceled = true) :
    a.setPoller (a.poller.fetched ticker (.error error)) = a.setPoller a.poller.stop := by
  rw [Poller.fetched, if_pos h]

/-- The agent behind a fetch that has failed with `error`: the failure is counted and told, and
nothing else has changed. -/
theorem setPoller_fetched_failure (ticker : Ticker) {error : ClientError}
    (h : error.isCanceled = false) :
    a.setPoller (a.poller.fetched ticker (.error error)) =
      ({ a with poller :=
          { a.poller with phase := .idle ticker, failures := a.poller.failures + 1 } },
        [.log (Poller.failureEvent (a.poller.failures + 1) error)]) := by
  rw [Poller.fetched, if_neg (by rw [h]; exact Bool.false_ne_true)]
  rfl

/-- A fetch ends as `Poller.fetched` says for its `result`, and not while the supervisor is at
work. -/
theorem step_of_outcome {result : FetchOutcome} (h : a.outcome? e = some result) :
    ∃ ticker, a.work? = none ∧ a.poller.phase ≠ .ended ∧
      a.step e = a.setPoller (a.poller.fetched ticker result) := by
  have hmoves := a.moves_step e
  rw [h] at hmoves
  generalize a.step e = next at hmoves ⊢
  cases hmoves with
  | polls hwork hmove =>
    cases hmove with
    | asksInVain hphase error => exact ⟨_, hwork, by rw [hphase]; nofun, rfl⟩
    | fetches hphase hpoll => exact ⟨_, hwork, by rw [hphase]; nofun, rfl⟩

/-! ### The end of the supervisor's work -/

/-- Whatever the `result` of its work is, the poller waits for the next tick, and the `state` of the
supervisor is kept. -/
theorem setWork_done (h : a.poller.phase = .applying ticker) (state : σ)
    (result : Except SupervisorError Unit) (cache : PushCache) (effects : List SupervisorEffect) :
    a.setWork (.done state result, cache, effects) =
      ({ a with
          cache, supervisorState := state, work? := none
          poller := a.poller.moveTo (.idle ticker) },
        effects.map supervisorEffect ++ Supervisor.complaint result) := by
  rw [setWork]
  simp only [Poller.applied, h]
  rcases result with error | ⟨⟩ <;> rfl

theorem setWork_broken (cache : PushCache) (effects : List SupervisorEffect) :
    a.setWork (.broken, cache, effects) =
      ({ a with cache, work? := none, poller := a.poller.breakDown },
        effects.map supervisorEffect) :=
  congrArg _ (List.append_nil _)

/-! ### Without news -/

/-- As long as the supervisor of `a` is at work, the poller waits for it. -/
def AwaitsWork (a : Agent σ) : Prop :=
  a.work?.isSome = true → ∃ ticker, a.poller.phase = .applying ticker

/-- The agent `a` goes on with `next`, without news of the bundle. -/
structure Idles (a : Agent σ) (next : Agent σ × List AgentEffect) : Prop where
  /-- The current bundle stays. -/
  snapshot : next.1.snapshot = a.snapshot
  /-- Nothing is done about a bundle. -/
  effects : ∀ effect ∈ next.2, effect.isNews = false
  /-- The counter stays. -/
  failures : next.1.poller.failures = a.poller.failures
  /-- As long as the supervisor is at work, the poller waits for it. -/
  awaits : next.1.AwaitsWork
  /-- A poller that has ended asks for nothing and is not run again. -/
  ended : a.poller.phase = .ended →
    next.1.poller.phase = .ended ∧ ∀ r, .send .poller r ∉ next.2

/-- What the poller does not take part in brings no news. -/
theorem Idles.of_others {next : Agent σ × List AgentEffect} (ha : a.AwaitsWork)
    (hsnapshot : next.1.snapshot = a.snapshot) (hpoller : next.1.poller = a.poller)
    (hwork : next.1.work? = a.work?)
    (heffects : ∀ effect ∈ next.2, effect.isNews = false ∧ ∀ r, effect ≠ .send .poller r) :
    a.Idles next where
  snapshot := hsnapshot
  effects effect hmem := (heffects effect hmem).1
  failures := by rw [hpoller]
  awaits := by rwa [AwaitsWork, hpoller, hwork]
  ended hended := ⟨by rw [hpoller, hended], fun r hmem => (heffects _ hmem).2 r rfl⟩

theorem Idles.rests (ha : a.AwaitsWork) : a.Idles (a, []) :=
  .of_others ha rfl rfl rfl nofun

theorem awaitsWork_of_none (h : a.work? = none) : a.AwaitsWork := by
  intro hsome
  rw [h] at hsome
  cases hsome

/-- The poller goes on between fetches: it begins, asks, stops or rests. Only a fetch that ends
(`Poller.fetched`) changes the counter or the bundle. -/
theorem idles_setPoller {step : Poller × List PollerEffect} (hwork : a.work? = none)
    (hmove : a.poller.Move a.surroundings none step) : a.Idles (a.setPoller step) := by
  have hidles : ∀ (p : Poller) (effect : AgentEffect), a.poller.phase ≠ .ended →
      p.failures = a.poller.failures → effect.isNews = false →
        a.Idles ({ a with poller := p }, [effect]) :=
    fun p effect hphase hfailures hnews => ⟨rfl, List.forall_mem_singleton.mpr hnews, hfailures,
      awaitsWork_of_none hwork, fun hended => absurd hended hphase⟩
  cases hmove with
  | rests => exact .rests (awaitsWork_of_none hwork)
  | begins hphase => exact hidles _ _ (by rw [hphase]; nofun) rfl rfl
  | stops hphase hcanceled => exact hidles _ _ (by rw [hphase]; nofun) rfl rfl
  | sends hphase hstart => exact hidles _ _ (by rw [hphase]; nofun) rfl rfl

/-- The supervisor goes on, while the poller waits for it (`hphase`). -/
theorem idles_setWork (hphase : a.poller.phase = .applying ticker)
    (step : SupervisorRun σ × PushCache × List SupervisorEffect) : a.Idles (a.setWork step) := by
  obtain ⟨work, cache, effects⟩ := step
  have heffects : ∀ effect ∈ effects.map supervisorEffect, effect.isNews = false :=
    List.forall_mem_map.mpr fun effect _ => by cases effect <;> rfl
  have hended : a.poller.phase ≠ .ended := by
    rw [hphase]
    nofun
  cases work with
  | done state result =>
    rw [setWork_done hphase]
    refine ⟨rfl, List.forall_mem_append.mpr ⟨heffects, ?_⟩, rfl, awaitsWork_of_none rfl,
      fun h => absurd h hended⟩
    rcases result with error | ⟨⟩
    · exact List.forall_mem_singleton.mpr rfl
    · nofun
  | broken =>
    rw [setWork_broken]
    exact ⟨rfl, heffects, rfl, awaitsWork_of_none rfl, fun h => absurd h hended⟩
  | _ =>
    exact ⟨rfl, List.forall_mem_append.mpr ⟨heffects, nofun⟩, rfl, fun _ => ⟨ticker, hphase⟩,
      fun h => absurd h hended⟩

/-- **Without the end of a fetch** (`outcome? e` is `none`) there is no news of the bundle: of all
ways in which the agent `Moves`, only a fetch that ends is about a bundle. -/
theorem idles_of_outcome_none (ha : a.AwaitsWork) (h : a.outcome? e = none) :
    a.Idles (a.step e) := by
  have hmoves := a.moves_step e
  rw [h] at hmoves
  generalize a.step e = next at hmoves ⊢
  cases hmoves with
  | rests => exact .rests ha
  | elapses duration he => exact .of_others ha rfl rfl rfl nofun
  | signals signal he hraised => exact .of_others ha rfl rfl rfl nofun
  | polls hwork hmove => exact idles_setPoller hwork hmove
  | works hwork hmove =>
    obtain ⟨ticker, hphase⟩ := ha (by rw [hwork]; rfl)
    exact idles_setWork hphase _
  | collects hmove =>
    exact .of_others ha rfl rfl rfl
      (List.forall_mem_map.mpr fun effect _ => by cases effect <;> exact ⟨rfl, nofun⟩)
  | informs hmove =>
    exact .of_others ha rfl rfl rfl
      (List.forall_mem_map.mpr fun effect _ => by cases effect <;> exact ⟨rfl, nofun⟩)
  | tunnels htunnel hmove =>
    exact .of_others ha rfl rfl rfl
      (List.forall_mem_map.mpr fun effect _ => by cases effect <;> exact ⟨rfl, nofun⟩)

/-! ### The invariant -/

/-- What the agent `a` remembers of the fetches so far, whose outcomes are `outcomes`. -/
structure Polls (a : Agent σ) (outcomes : List FetchOutcome) : Prop where
  /-- The current bundle is the last one that was fetched. -/
  current : a.snapshot.load = lastBundle? outcomes
  /-- The counter tells how many fetches have failed behind it. -/
  counts : a.poller.failures = .ofNat (failuresInARow outcomes)
  /-- As long as the supervisor is at work, the poller waits for it. -/
  awaits : a.AwaitsWork
  /-- Once a fetch was called off the poller has ended. -/
  ended : outcomes.any isCanceled = true → a.poller.phase = .ended

theorem polls_create (config : Config) (supervisor : Supervisor σ) (hasTunnel : Bool)
    (client : Client) (now : Moment) (signal : Signal) :
    (create config supervisor hasTunnel client now signal).Polls [] :=
  ⟨rfl, rfl, awaitsWork_of_none rfl, nofun⟩

/-- A fetch that was not called off leaves none that was, as long as the poller has not ended
(`hended`): the one before would have ended it. -/
theorem Polls.not_any_isCanceled (h : a.Polls outcomes) (hended : a.poller.phase ≠ .ended)
    {r : FetchOutcome} (hr : isCanceled r = false) :
    ¬ (outcomes ++ [r]).any isCanceled = true := by
  intro hany
  rw [List.any_append, Bool.or_eq_true, List.any_cons, hr] at hany
  obtain hany | hany := hany
  · exact hended (h.ended hany)
  · cases hany

/-- A failure is counted: the counter of 32 bits keeps up with `failuresInARow`, modulo its size. -/
theorem Polls.counts_failure (h : a.Polls outcomes) {error : ClientError}
    (hcanceled : error.isCanceled = false) :
    a.poller.failures + 1 = .ofNat (failuresInARow (outcomes ++ [.error error])) := by
  rw [failuresInARow_concat_error, hcanceled, if_neg Bool.false_ne_true, UInt32.ofNat_add,
    ← h.counts]
  rfl

/-- A fetch that ends with a bundle `b` makes it the last one. -/
theorem Polls.step_ok (h : a.Polls outcomes) {b : Bundle} (he : a.outcome? e = some (.ok b)) :
    (a.step e).1.Polls (outcomes ++ [.ok b]) := by
  obtain ⟨ticker, hwork, hended, hstep⟩ := step_of_outcome he
  rw [hstep, setPoller_fetched_ok]
  refine ⟨(lastBundle?_concat_ok b).symm, ?_, fun _ => ⟨ticker, rfl⟩,
    fun hany => absurd hany (h.not_any_isCanceled hended rfl)⟩
  rw [failuresInARow_concat_ok]
  rfl

/-- A fetch that ends with `error` leaves the last bundle. If it was called off the poller has
ended, and otherwise the failure is counted. -/
theorem Polls.step_error (h : a.Polls outcomes) {error : ClientError}
    (he : a.outcome? e = some (.error error)) :
    (a.step e).1.Polls (outcomes ++ [.error error]) := by
  obtain ⟨ticker, hwork, hended, hstep⟩ := step_of_outcome he
  have hcurrent := h.current.trans (lastBundle?_concat_error error).symm
  rw [hstep]
  cases hcanceled : error.isCanceled with
  | true =>
    rw [setPoller_fetched_canceled ticker hcanceled]
    refine ⟨hcurrent, ?_, awaitsWork_of_none hwork, fun _ => rfl⟩
    rw [failuresInARow_concat_error, hcanceled]
    exact h.counts
  | false =>
    rw [setPoller_fetched_failure ticker hcanceled]
    exact ⟨hcurrent, h.counts_failure hcanceled, awaitsWork_of_none hwork,
      fun hany => absurd hany (h.not_any_isCanceled hended hcanceled)⟩

/-- **A step** keeps what `Polls` remembers of the fetches: the `outcomes` so far, and behind them
that of the fetch that ends with `e`, if one does. -/
theorem Polls.step (h : a.Polls outcomes) (e : AgentEvent) :
    (a.step e).1.Polls (outcomes ++ (a.outcome? e).toList) := by
  cases he : a.outcome? e with
  | none =>
    have hidles := idles_of_outcome_none h.awaits he
    rw [Option.toList_none, List.append_nil]
    exact ⟨by rw [hidles.snapshot, h.current], by rw [hidles.failures, h.counts], hidles.awaits,
      fun hany => (hidles.ended (h.ended hany)).1⟩
  | some result =>
    cases result with
    | ok b => exact h.step_ok he
    | error error => exact h.step_error he

/-- **A run** keeps what is remembered of the fetches. The induction is on the events, from
`Polls.step`. -/
theorem Polls.after (h : a.Polls outcomes) (events : List AgentEvent) :
    (a.after events).Polls (outcomes ++ a.outcomes events) := by
  induction events generalizing a outcomes with
  | nil =>
    rw [Agent.outcomes, List.append_nil]
    exact h
  | cons e events ih =>
    rw [Agent.outcomes, ← List.append_assoc]
    exact ih (h.step e)

/-! ### Every step of every run -/

/-- What an event makes of the outcome of a fetch, behind the outcomes of all fetches before. -/
structure FollowsFetches (a : Agent σ) (outcomes : List FetchOutcome) (e : AgentEvent) :
    Prop where
  /-- A reply that comes in time is the outcome of the fetch, as it is read. -/
  replied : ∀ ticker flight r, e = .reply .poller r → a.work? = none →
    a.poller.phase = .fetching ticker flight → flight.context.isCanceled a.signal = false →
      flight.context.isExpired a.now = false → a.outcome? e = some (readBundle r)
  /-- The current bundle is the last one that was fetched. -/
  current : (a.step e).1.snapshot.load = lastBundle? (outcomes ++ (a.outcome? e).toList)
  /-- A bundle that comes is stored, what it does not desire is forgotten, and the supervisor is
  told, in this order. -/
  success : ∀ b, a.outcome? e = some (.ok b) →
    (a.step e).2 = [.store b, .retain b.desiredServices, .apply b] ∧
      (a.step e).1.cache = a.cache.retain b.desiredServices ∧
      (a.step e).1.work? = some (.running (a.supervisor.apply a.supervisorState b))
  /-- Before the supervisor begins, all that is remembered is desired by the current bundle. -/
  desired : ∀ b, a.outcome? e = some (.ok b) →
    ∀ kind key v, (a.step e).1.cache.get? kind key = some v →
      ∃ current, (a.step e).1.snapshot.load = some current ∧
        kind.isDesired current.desiredServices key = true
  /-- An error touches neither the bundle nor what was pushed, and the supervisor is not told. -/
  error : ∀ error, a.outcome? e = some (.error error) →
    (a.step e).1.snapshot = a.snapshot ∧ (a.step e).1.cache = a.cache ∧
      (a.step e).1.work? = none ∧ ∀ effect ∈ (a.step e).2, effect.isNews = false
  /-- A failure is worth one event; it is an error from the fourth in a row on. -/
  failure : ∀ error, a.outcome? e = some (.error error) → error.isCanceled = false →
    failuresInARow (outcomes ++ [.error error]) < UInt32.size →
      (a.step e).2 =
        [.log (Poller.failureReport (failuresInARow (outcomes ++ [.error error])) error)]
  /-- Without the end of a fetch there is no news. -/
  nothing : a.outcome? e = none →
    (a.step e).1.snapshot = a.snapshot ∧ ∀ effect ∈ (a.step e).2, effect.isNews = false
  /-- When the supervisor comes to an end, the poller waits for the next tick; a failure is worth
  one event. -/
  applied : ∀ state result, a.work? = some (.running (.done state result)) →
    ∃ ticker, a.poller.phase = .applying ticker ∧
      a.step (.run .poller) =
        ({ a with
            supervisorState := state, work? := none
            poller := a.poller.moveTo (.idle ticker) }, Supervisor.complaint result)
  /-- Once a fetch was called off, the poller has ended. -/
  canceled : outcomes.any isCanceled = true → a.poller.phase = .ended
  /-- Once the poller has ended, nothing is fetched and the supervisor is at rest, for ever. -/
  ended : a.poller.phase = .ended →
    (a.step e).1.poller.phase = .ended ∧ a.outcome? e = none ∧ a.work? = none ∧
      ∀ r, .send .poller r ∉ (a.step e).2

/-- What `Polls` remembers of the `outcomes` decides what the next event `e` makes of the outcome of
a fetch. Each field of `FollowsFetches` is one way for it to end. -/
theorem Polls.follows (h : a.Polls outcomes) (e : AgentEvent) :
    a.FollowsFetches outcomes e where
  replied ticker flight r he hwork hphase hopen hearly := by
    simp only [he, outcome?, fetchOutcome?, hwork, Poller.outcome?, hphase, Flight.poll_some,
      surroundings, hopen, hearly, Bool.false_eq_true, if_false, Option.map_some]
  current := (h.step e).current
  success b he := by
    obtain ⟨ticker, -, -, hstep⟩ := step_of_outcome he
    rw [hstep, setPoller_fetched_ok]
    exact ⟨rfl, rfl, rfl⟩
  desired b he kind key v hv := by
    obtain ⟨ticker, -, -, hstep⟩ := step_of_outcome he
    rw [hstep, setPoller_fetched_ok] at hv ⊢
    refine ⟨b, rfl, ?_⟩
    rw [PushCache.retain, PushCache.get?_filter] at hv
    -- What is held behind `retain` satisfies its condition; otherwise it would have been forgotten.
    by_contra hnot
    rw [if_neg hnot] at hv
    cases hv
  error error he := by
    obtain ⟨ticker, hwork, -, hstep⟩ := step_of_outcome he
    rw [hstep]
    cases hcanceled : error.isCanceled with
    | true =>
      rw [setPoller_fetched_canceled ticker hcanceled]
      exact ⟨rfl, rfl, hwork, List.forall_mem_singleton.mpr rfl⟩
    | false =>
      rw [setPoller_fetched_failure ticker hcanceled]
      exact ⟨rfl, rfl, hwork, List.forall_mem_singleton.mpr rfl⟩
  failure error he hcanceled hfew := by
    obtain ⟨ticker, -, -, hstep⟩ := step_of_outcome he
    rw [hstep, setPoller_fetched_failure ticker hcanceled, h.counts_failure hcanceled,
      Poller.failureEvent_eq hfew]
  nothing he := by
    have hidles := idles_of_outcome_none h.awaits he
    exact ⟨hidles.snapshot, hidles.effects⟩
  applied state result hwork := by
    obtain ⟨ticker, hphase⟩ := h.awaits (by rw [hwork]; rfl)
    refine ⟨ticker, hphase, ?_⟩
    rw [← List.nil_append (Supervisor.complaint result)]
    rw [show a.step (.run .poller) = a.setWork (.done state result, a.cache, []) by
      simp [Agent.step, run?, runPoller?, hwork, SupervisorRun.advance?, SupervisorRun.step],
      setWork_done hphase]
    rfl
  canceled := h.ended
  ended hphase := by
    have hnone : a.outcome? e = none := by
      by_contra hsome
      obtain ⟨result, hresult⟩ := Option.ne_none_iff_exists'.mp hsome
      -- A fetch ends only in a poller that has not ended.
      obtain ⟨-, -, hended, -⟩ := step_of_outcome hresult
      exact hended hphase
    have hwork : a.work? = none := by
      by_contra hwork
      obtain ⟨ticker, happlying⟩ := h.awaits (Option.isSome_iff_ne_none.mpr hwork)
      rw [hphase] at happlying
      cases happlying
    obtain ⟨hended, hsends⟩ := (idles_of_outcome_none h.awaits hnone).ended hphase
    exact ⟨hended, hnone, hwork, hsends⟩

/-- **The poller follows the fetches** in every run, with any supervisor: behind any events, the
next one makes of the outcome of a fetch what `FollowsFetches` says. -/
theorem followsFetches (config : Config) (supervisor : Supervisor σ) (hasTunnel : Bool)
    (client : Client) (now : Moment) (signal : Signal) (events : List AgentEvent)
    (e : AgentEvent) :
    ((create config supervisor hasTunnel client now signal).after events).FollowsFetches
      ((create config supervisor hasTunnel client now signal).outcomes events) e :=
  ((polls_create config supervisor hasTunnel client now signal).after events).follows e

/-- Four fetches fail, then there is a bundle that cannot be applied, then a fetch fails again. -/
example :
    let identity : Identity := ⟨⟨"d", by decide⟩, ⟨"k"⟩⟩
    let a := create (.standard "http://c" ⟨"p", by decide⟩)
      (⟨(), fun _ _ => .done () (.error (.other "disk full"))⟩ : Supervisor Unit) false
      ((Client.create "http://c" ⟨"p", by decide⟩).withIdentity identity) 0 .fresh
    let fetch (r : Except TransportError Reply) : List AgentEvent :=
      [.elapse 10000, .run .poller, .reply .poller r, .run .poller, .run .poller]
    let fails := fetch (.error .network)
    let succeeds := fetch (.ok ⟨⟨200, by decide⟩, []⟩)
    (a.steps (.run .poller :: (fails ++ fails ++ fails ++ fails ++ succeeds ++ fails))).2.filterMap
        (fun
          | .log e => some (e.level, e.message)
          | _ => none) =
      [(.info, "Starting bundle poller"), (.warn, "Bundle fetch failed"),
        (.warn, "Bundle fetch failed"), (.warn, "Bundle fetch failed"),
        (.error, "Bundle fetch failed repeatedly"),
        (.warn, "Supervisor failed to apply bundle"), (.warn, "Bundle fetch failed")] := by
  decide +kernel

end Agent

end FleetAgent
