import FleetAgent.Proofs.Collector.History
import Mathlib.Tactic.ByContra
import Mathlib.Tactic.SplitIfs
/-!
# The life of a loop

The published state of a loop only moves forward: `Loop.lifecycle` says so of every run, whatever
happens around the loop and wherever it is aborted. That passes are made (`reconciling`) is
published behind the first bundle only, that the loop stops (`stopping`) behind the shutdown only,
and nothing behind its end (`done`). A loop that has ended has published its end exactly if it was
run at least once, that is if `advance` is among its events: one that is aborted before that has
nothing that could publish it (`Loop.waitingForBundle_of_aborted_unrun`).

The invariant is `LoopWorld.Ages`, and the part of it that carries the induction is `History.Lives`:
the phase of the loop tells the whole list of states that was published so far. It is kept because a
step of the loop is one of the five of `Loop.Turn`, each of which publishes a fixed list of states.
-/

namespace FleetAgent

open Controller (ClientError)

variable {kind : ObservationKind} {context : Context} {t : History kind} {l : Loop kind}
  {s : Surroundings}

/-! ### States and places -/

/-- How far a loop has come when it publishes this state. -/
def LoopState.rank : LoopState → Nat
  | .waitingForBundle => 0
  | .reconciling => 1
  | .stopping => 2
  | .done => 3

/-- Whether it makes passes: it is in one, or waits for the next one. -/
def LoopPhase.isWorking {κ : Type} : LoopPhase κ → Bool
  | .idle _ | .passing _ _ _ => true
  | _ => false

/-- The state that an effect publishes. -/
def LoopEffect.state? {κ : Type} : LoopEffect κ → Option LoopState
  | .publish s => some s
  | _ => none

namespace History

theorem published_effects (effects : List (LoopEffect kind.Key)) :
    published (effects.map .effect : History kind) = effects.filterMap LoopEffect.state? := by
  rw [published, List.filterMap_map]
  congr 1
  funext e
  cases e <;> rfl

theorem published_event (e : LoopEvent) : published ([.event e] : History kind) = [] := rfl

end History

/-! ### What a step publishes -/

/-- The way a loop `l` goes when it takes a step of its own in `s`: the phase it comes to, and the
states that it publishes on the way. -/
inductive Loop.Turn (l : Loop kind) (s : Surroundings) :
    LoopPhase kind.Key → List LoopState → Prop where
  /-- It is run for the first time. -/
  | begins (h : l.phase = .created) : Turn l s .waiting [.waitingForBundle]
  /-- There is a first bundle. -/
  | works (h : l.phase = .waiting) (hstored : s.snapshot.isStored = true)
      {phase : LoopPhase kind.Key} (hphase : phase.isWorking = true) :
      Turn l s phase [.reconciling]
  /-- There is one, but the period cannot be kept. -/
  | breaks (h : l.phase = .waiting) (hstored : s.snapshot.isStored = true) :
      Turn l s .ended [.reconciling, .done]
  /-- It takes a tick. -/
  | ticks (h : l.phase.isWorking = true) {phase : LoopPhase kind.Key}
      (hphase : phase.isWorking = true) : Turn l s phase []
  /-- It is called off. -/
  | stops (h : l.phase = .waiting ∨ l.phase.isWorking = true) (hcanceled : l.isCanceled s = true) :
      Turn l s .ended [.stopping, .done]

namespace Loop

theorem states_passEvents (report : PassReport) :
    (passEvents report : List (LoopEffect kind.Key)).filterMap LoopEffect.state? = [] := by
  rw [passEvents]
  split_ifs <;> rfl

/-- To go on with a pass publishes nothing. -/
theorem resume_publishes_nothing (l : Loop kind) (now : Moment) (ticker : Ticker) (b : Bundle)
    (pass : Pass kind.Key) :
    (l.resume now ticker b pass).1.phase.isWorking = true ∧
      (l.resume now ticker b pass).2.filterMap LoopEffect.state? = [] := by
  match pass with
  | .deleting _ _ _ => exact ⟨rfl, rfl⟩
  | .over report => exact ⟨rfl, states_passEvents report⟩

/-- A loop that has waited and finds a bundle begins its work: it waits for its first tick
(`works`), or its period cannot be kept (`breaks`). -/
theorem turn_begin (h : l.phase = .waiting) (hstored : s.snapshot.isStored = true) :
    Turn l s (l.begin s.now).1.phase ((l.begin s.now).2.filterMap LoopEffect.state?) := by
  rw [begin]
  split_ifs
  · exact .breaks h hstored
  · exact .works h hstored rfl

/-- A loop `l` that takes a tick stays at its work, whether a pass starts or not. -/
theorem turn_tick (h : l.phase.isWorking = true) (ticker : Ticker) :
    Turn l s (l.tick s ticker).1.phase ((l.tick s ticker).2.filterMap LoopEffect.state?) := by
  rw [tick]
  split
  next => exact .ticks h rfl
  next b _ =>
    obtain ⟨hphase, hnothing⟩ := l.resume_publishes_nothing s.now (ticker.take s.now) b
      (.start (l.isCanceled s) (kind.orphans b))
    dsimp only
    rw [List.filterMap_cons_none (by rfl), hnothing]
    exact .ticks h hphase

/-- **Every step of a loop is one of the five of `Turn`.** The cases are those of `Loop.advance?`;
in the phases `passing` and `ended` it has no step. -/
theorem turn_of_advance {step : Loop kind × List (LoopEffect kind.Key)}
    (h : l.advance? s = some step) :
    Turn l s step.1.phase (step.2.filterMap LoopEffect.state?) := by
  rw [advance?] at h
  split at h
  next hphase =>
    obtain rfl := Option.some.inj h
    exact .begins hphase
  next hphase =>
    -- The context is looked at before the snapshot: a loop that is called off begins no work.
    split_ifs at h with hcanceled hstored
    · obtain rfl := Option.some.inj h
      exact .stops (.inl hphase) hcanceled
    · obtain rfl := Option.some.inj h
      exact turn_begin hphase hstored
  next ticker hphase =>
    -- A loop between two passes looks at its context first, and then takes the tick.
    have hworking : l.phase.isWorking = true := by
      rw [hphase]
      rfl
    split_ifs at h with hcanceled
    · obtain rfl := Option.some.inj h
      exact .stops (.inr hworking) hcanceled
    · obtain rfl := Option.some.inj h
      exact turn_tick hworking ticker
  next => cases h
  next => cases h

/-- The end of a deletion publishes nothing, whatever its `result`, and leaves the loop at its
work. -/
theorem finish_publishes_nothing (h : l.phase.isPassing = true) (result : Except ClientError Unit) :
    (l.finish s result).1.phase.isWorking = true ∧
      (l.finish s result).2.filterMap LoopEffect.state? = [] := by
  rw [finish]
  split
  next ticker b pass _ =>
    obtain ⟨hphase, hnothing⟩ := l.resume_publishes_nothing s.now ticker b
      (pass.finish (l.isCanceled s) result)
    refine ⟨hphase, ?_⟩
    rw [List.filterMap_append, hnothing, List.append_nil, List.filterMap_eq_nil_iff]
    exact List.forall_mem_map.mpr fun _ _ => rfl
  next hnot =>
    cases hphase : l.phase with
    | passing ticker b pass => exact absurd hphase (hnot ticker b pass)
    | _ => simp [hphase, LoopPhase.isPassing] at h

end Loop

/-! ### What was published so far -/

namespace History

/-- The end was published, and before it the states of a loop that was aborted or called off, with
or without a pass. -/
def ToldEnd (t : History kind) : Prop :=
  t.published = [.waitingForBundle, .done] ∨
    t.published = [.waitingForBundle, .stopping, .done] ∨
    t.published = [.waitingForBundle, .reconciling, .done] ∨
    t.published = [.waitingForBundle, .reconciling, .stopping, .done]

/-- What a loop in a phase has published: one list of states for each phase, and one of several for
a loop that has ended, which may never have been run. -/
def Lives (t : History kind) : LoopPhase kind.Key → Prop
  | .created => t.published = [] ∧ .event .advance ∉ t
  | .waiting => t.published = [.waitingForBundle] ∧ .event .advance ∈ t
  | .idle _ | .passing _ _ _ =>
    t.published = [.waitingForBundle, .reconciling] ∧ .event .advance ∈ t
  | .ended => (t.published = [] ∧ .event .advance ∉ t) ∨ (t.ToldEnd ∧ .event .advance ∈ t)

/-- The conditions under which a state may be published behind `front`. -/
def Allows (context : Context) (front : History kind) : Happening kind → Prop
  | .effect (.publish .reconciling) => ∃ b, .event (.store b) ∈ front
  | .effect (.publish .stopping) => context.attached = true ∧ front.Raised
  | _ => True

theorem lives_of_isWorking {phase : LoopPhase kind.Key} (h : phase.isWorking = true) :
    t.Lives phase ↔
      t.published = [.waitingForBundle, .reconciling] ∧ .event .advance ∈ t := by
  cases phase with
  | idle _ | passing _ _ _ => exact Iff.rfl
  | _ => cases h

/-- What is allowed behind `front` is allowed further behind as well: the conditions speak of what
has taken place. -/
theorem Allows.append {front : History kind} {x : Happening kind} (h : Allows context front x)
    (more : History kind) : Allows context (front ++ more) x := by
  cases x with
  | event e => exact trivial
  | effect e =>
    cases e with
    | publish s =>
      cases s with
      | reconciling =>
        obtain ⟨b, hb⟩ := h
        exact ⟨b, List.mem_append_left _ hb⟩
      | stopping =>
        obtain ⟨hattached, hraised⟩ := h
        exact ⟨hattached, hraised.imp (List.mem_append_left _) (List.mem_append_left _)⟩
      | _ => exact trivial
    | _ => exact trivial

end History

open History

/-- The invariant of the runs of a loop. -/
structure LoopWorld.Ages (context : Context) (w : LoopWorld kind) (t : History kind) : Prop where
  /-- The loop keeps its context. -/
  context_eq : w.loop.context = context
  /-- If the loop sees a bundle, one was stored. -/
  stored : w.around.snapshot.isStored = true → ∃ b, .event (.store b) ∈ t
  /-- If the signal is raised, something has raised it. -/
  raised : w.around.signal.isRaised = true → t.Raised
  /-- The place of the loop tells what was published. -/
  lives : t.Lives w.loop.phase
  /-- Everything was allowed. -/
  allowed : t.Throughout (Allows context)

/-! ### Steps -/

namespace History

/-- A step of the loop takes what was published to what its new phase tells: `u` is a history behind
`t` in which just the `states` of the turn were published. -/
theorem Lives.of_turn (h : t.Lives l.phase) {phase : LoopPhase kind.Key} {states : List LoopState}
    (hturn : l.Turn s phase states) {u : History kind} (hu : u.published = t.published ++ states)
    (hadvance : .event .advance ∈ u) : u.Lives phase := by
  cases hturn with
  | begins hphase =>
    rw [hphase] at h
    exact ⟨by rw [hu, h.1]; rfl, hadvance⟩
  | works hphase _ hworking =>
    rw [hphase] at h
    exact (lives_of_isWorking hworking).mpr ⟨by rw [hu, h.1]; rfl, hadvance⟩
  | breaks hphase =>
    rw [hphase] at h
    exact .inr ⟨.inr (.inr (.inl (by rw [hu, h.1]; rfl))), hadvance⟩
  | ticks hbefore hworking =>
    have hlives := (lives_of_isWorking hbefore).mp h
    exact (lives_of_isWorking hworking).mpr ⟨by rw [hu, hlives.1]; rfl, hadvance⟩
  -- Where it was called off from tells whether it had made passes.
  | stops hbefore =>
    obtain hphase | hworking := hbefore
    · rw [hphase] at h
      exact .inr ⟨.inr (.inl (by rw [hu, h.1]; rfl)), hadvance⟩
    · have hlives := (lives_of_isWorking hworking).mp h
      exact .inr ⟨.inr (.inr (.inr (by rw [hu, hlives.1]; rfl))), hadvance⟩

/-- Nothing is published by what is not a step of the loop, so `u` tells the same as `t`. -/
theorem Lives.of_published_eq {phase : LoopPhase kind.Key} (h : t.Lives phase) {u : History kind}
    (hu : u.published = t.published) (hadvance : .event .advance ∈ u ↔ .event .advance ∈ t) :
    u.Lives phase := by
  cases phase with
  | created | waiting | idle _ | passing _ _ _ => exact ⟨hu.trans h.1, by rw [hadvance]; exact h.2⟩
  | ended =>
    rw [Lives, ToldEnd, hu, hadvance]
    exact h

/-- A loop that is aborted has published what it has, and its end behind that if it was run. The
phase `created` is the one in which nothing follows. -/
theorem Lives.of_abort (h : t.Lives l.phase) {u : History kind}
    (hu : u.published = t.published ++ l.abort.2.filterMap LoopEffect.state?)
    (hadvance : .event .advance ∈ u ↔ .event .advance ∈ t) : u.Lives l.abort.1.phase := by
  rw [Loop.abort] at hu ⊢
  cases hphase : l.phase with
  -- Never run: there is no guard yet that would publish the end.
  | created =>
    rw [hphase] at h hu
    exact .inl ⟨by rw [hu, h.1]; rfl, by rw [hadvance]; exact h.2⟩
  | waiting =>
    rw [hphase] at h hu
    exact .inr ⟨.inl (by rw [hu, h.1]; rfl), hadvance.mpr h.2⟩
  | idle _ | passing _ _ _ =>
    rw [hphase] at h hu
    exact .inr ⟨.inr (.inr (.inl (by rw [hu, h.1]; rfl))), hadvance.mpr h.2⟩
  -- Ended before: the abort finds nothing to end.
  | ended =>
    rw [hphase] at h hu
    dsimp only at hu ⊢
    rw [hphase]
    exact h.of_published_eq (by rw [hu]; exact List.append_nil _) hadvance

end History

/-- A step of the loop publishes what is allowed: `reconciling` comes with a bundle in `s`, and
`stopping` with the context called off. -/
theorem Loop.Turn.allows {phase : LoopPhase kind.Key} {states : List LoopState}
    (hturn : l.Turn s phase states)
    (hstored : s.snapshot.isStored = true → ∃ b, .event (.store b) ∈ t)
    (hraised : s.signal.isRaised = true → t.Raised) {effects : List (LoopEffect kind.Key)}
    (hstates : effects.filterMap LoopEffect.state? = states) :
    ∀ x ∈ effects, Allows l.context t (.effect x) := by
  intro x hx
  cases x with
  | publish state =>
    have hmem : state ∈ states := hstates ▸ List.mem_filterMap.mpr ⟨_, hx, rfl⟩
    cases state with
    | waitingForBundle | done => exact trivial
    | reconciling =>
      cases hturn with
      | works _ h | breaks _ h => exact hstored h
      | begins | ticks | stops => simp at hmem
    | stopping =>
      cases hturn with
      -- A context is called off only if it is attached and the signal is raised.
      | stops _ hcanceled =>
        rw [Loop.isCanceled, Context.isCanceled, Bool.and_eq_true] at hcanceled
        exact ⟨hcanceled.1, hraised hcanceled.2⟩
      | begins | works | breaks | ticks => simp at hmem
  | _ => exact trivial

namespace LoopWorld

theorem ages_create (config : CollectorConfig) (context : Context) (now : Moment) :
    Ages context (create kind config context now) [] where
  context_eq := rfl
  stored h := by cases h
  raised h := by cases h
  lives := ⟨rfl, List.not_mem_nil⟩
  allowed front x back h := by simp at h

/-- What the loop publishes and where it goes is all that has to be shown of an event `e` after
which it sees what it has seen before: `Lives` of its phase, and `Allows` of each effect. -/
theorem Ages.of_loop {w : LoopWorld kind} (h : w.Ages context t) {e : LoopEvent} {loop : Loop kind}
    {effects : List (LoopEffect kind.Key)} (hcontext : loop.context = w.loop.context)
    (hlives : Lives (t ++ [.event e] ++ effects.map .effect) loop.phase)
    (hallows : ∀ x ∈ effects, Allows context (t ++ [.event e]) (.effect x)) :
    Ages context { w with loop } (t ++ [.event e] ++ effects.map .effect) where
  context_eq := hcontext.trans h.context_eq
  stored hstored := by
    obtain ⟨b, hb⟩ := h.stored hstored
    exact ⟨b, by simp [hb]⟩
  raised hraised := by
    refine (h.raised hraised).imp ?_ ?_ <;>
    · intro hmem
      simp [hmem]
  lives := hlives
  allowed := (h.allowed.concat (x := .event e) trivial).append (fun _ more _ hp => hp.append more)
    (List.forall_mem_map.mpr hallows)

/-- An event `e` that only changes what the loop sees leaves the loop where it is; a bundle that is
stored and a signal that is raised must be in the history. -/
theorem Ages.of_around {w : LoopWorld kind} (h : w.Ages context t) {e : LoopEvent}
    (he : e ≠ .advance) {around : Surroundings}
    (hstored : around.snapshot.isStored = true → ∃ b, .event (.store b) ∈ t ++ [.event e])
    (hraised : around.signal.isRaised = true → Raised (t ++ [.event e])) :
    Ages context { w with around } (t ++ [.event e] ++ List.map .effect []) := by
  rw [List.map_nil, List.append_nil]
  exact ⟨h.context_eq, hstored, hraised,
    h.lives.of_published_eq (by rw [published_append, published_event, List.append_nil])
      (by simp [Ne.symm he]), h.allowed.concat (x := .event e) trivial⟩

/-- **Every event keeps the invariant.** Events around the loop leave its phase as it is
(`Ages.of_around`); for its own step, the end of a deletion and the abort `Ages.of_loop` asks for
what was published and whether it was allowed. -/
theorem Ages.step {w v : LoopWorld kind} (h : w.Ages context t) {e : LoopEvent}
    {effects : List (LoopEffect kind.Key)} (he : w.step? e = some (v, effects)) :
    v.Ages context (t ++ [.event e] ++ effects.map .effect) := by
  -- The event itself publishes nothing, so only the effects add to what was published.
  have hpublished : published (t ++ [.event e] ++ effects.map .effect) =
      t.published ++ effects.filterMap LoopEffect.state? := by
    rw [published_append, published_append, published_event, List.append_nil, published_effects]
  have hstored : w.around.snapshot.isStored = true → ∃ b, .event (.store b) ∈ t ++ [.event e] :=
    fun hs => (h.stored hs).imp fun b hb => List.mem_append_left _ hb
  have hraised : w.around.signal.isRaised = true → Raised (t ++ [.event e]) :=
    fun hr => (h.raised hr).imp (List.mem_append_left _) (List.mem_append_left _)
  cases e with
  | store b =>
    obtain ⟨rfl, rfl⟩ := Prod.mk.inj (Option.some.inj he)
    exact h.of_around (by simp) (fun _ => ⟨b, by simp⟩) hraised
  | trigger =>
    obtain ⟨rfl, rfl⟩ := Prod.mk.inj (Option.some.inj he)
    exact h.of_around (by simp) hstored (fun _ => .inl (by simp))
  | drop =>
    obtain ⟨rfl, rfl⟩ := Prod.mk.inj (Option.some.inj he)
    exact h.of_around (by simp) hstored (fun _ => .inr (by simp))
  | elapse duration =>
    obtain ⟨rfl, rfl⟩ := Prod.mk.inj (Option.some.inj he)
    exact h.of_around (by simp) hstored hraised
  | advance =>
    rw [step?, Option.map_eq_some_iff] at he
    obtain ⟨⟨loop, effects'⟩, ha, hv⟩ := he
    obtain ⟨rfl, rfl⟩ := Prod.mk.inj hv
    have hturn := Loop.turn_of_advance ha
    refine h.of_loop (Loop.context_advance ha) (h.lives.of_turn hturn hpublished (by simp)) ?_
    rw [← h.context_eq]
    exact hturn.allows hstored hraised rfl
  | finish result =>
    rw [step?] at he
    split_ifs at he with hpassing
    have hstep : ({ w with loop := (w.loop.finish w.around result).1 },
        (w.loop.finish w.around result).2) = (v, effects) := Option.some.inj he
    obtain ⟨rfl, rfl⟩ := Prod.mk.inj hstep
    -- A loop in a pass is at work, and stays there when a deletion ends.
    have hbefore : w.loop.phase.isWorking = true := by
      cases hphase : w.loop.phase <;> simp_all [LoopPhase.isPassing, LoopPhase.isWorking]
    obtain ⟨hworking, hnothing⟩ := w.loop.finish_publishes_nothing (s := w.around) hpassing result
    rw [hnothing, List.append_nil] at hpublished
    refine h.of_loop (Loop.context_finish ..) ?_ fun x hx => ?_
    · rw [lives_of_isWorking hworking, hpublished]
      exact ((lives_of_isWorking hbefore).mp h.lives).imp_right fun hmem => by simp [hmem]
    · cases x with
      | publish state =>
        rw [List.filterMap_eq_nil_iff] at hnothing
        cases hnothing _ hx
      | _ => exact trivial
  | abort =>
    have hstep : ({ w with loop := w.loop.abort.1 }, w.loop.abort.2) = (v, effects) :=
      Option.some.inj he
    obtain ⟨rfl, rfl⟩ := Prod.mk.inj hstep
    refine h.of_loop (Loop.context_abort _) (h.lives.of_abort hpublished (by simp)) fun x hx => ?_
    rw [Loop.abort] at hx
    split at hx
    · cases hx
    · cases hx
    · obtain rfl := List.mem_singleton.mp hx
      exact trivial

/-- **Every run keeps the invariant** `Ages`, by induction on the events. -/
theorem Ages.run {w v : LoopWorld kind} {s : History kind} (h : w.Ages context s)
    {events : List LoopEvent} (hr : w.run? s events = some (v, t)) : v.Ages context t := by
  induction events generalizing w s with
  | nil =>
    obtain ⟨rfl, rfl⟩ := Prod.mk.inj (Option.some.inj hr)
    exact h
  | cons e rest ih =>
    rw [run?, Option.bind_eq_some_iff] at hr
    obtain ⟨⟨u, effects⟩, he, hr⟩ := hr
    exact ih (h.step he) hr

end LoopWorld

/-! ### The life of a loop -/

/-- What is so of the published state of a loop that runs in a context, in every history. -/
structure History.Lifecycle (context : Context) (t : History kind) : Prop where
  /-- It only moves forward. -/
  forward : t.states.Pairwise fun a b => a.rank ≤ b.rank
  /-- That passes are made is published behind a bundle that was stored. -/
  reconciling_behind_store : ∀ front back : History kind,
    t = front ++ .effect (.publish .reconciling) :: back → ∃ b, .event (.store b) ∈ front
  /-- That the loop stops is published behind the shutdown, by a loop that hears of it. -/
  stopping_behind_shutdown : ∀ front back : History kind,
    t = front ++ .effect (.publish .stopping) :: back → context.attached = true ∧ front.Raised
  /-- Nothing is published behind the end, so that it is not published twice. -/
  nothing_behind_done : ∀ front back : History kind,
    t = front ++ .effect (.publish .done) :: back → back.published = []

namespace History

/-- What a loop can have published. In each list the end comes last, and the ranks are ascending. -/
def lives : List (List LoopState) :=
  [[], [.waitingForBundle], [.waitingForBundle, .reconciling], [.waitingForBundle, .done],
    [.waitingForBundle, .stopping, .done], [.waitingForBundle, .reconciling, .done],
    [.waitingForBundle, .reconciling, .stopping, .done]]

/-- What was published is one of `lives`, whatever the phase. -/
theorem Lives.published_mem {phase : LoopPhase kind.Key} (h : t.Lives phase) :
    t.published ∈ lives := by
  cases phase with
  | created | waiting | idle _ | passing _ _ _ => simp [h.1, lives]
  | ended =>
    obtain ⟨hnil, -⟩ | ⟨hend | hend | hend | hend, -⟩ := h
    · simp [hnil, lives]
    all_goals simp [hend, lives]

/-- The end comes last in each of `lives`, so that nothing is published behind it. -/
theorem published_eq_nil_of_done (h : t.published ∈ lives) {front back : History kind}
    (ht : t = front ++ .effect (.publish .done) :: back) : back.published = [] := by
  have hlast : ∀ states ∈ lives, LoopState.done ∉ states.dropLast := by decide
  have hpublished : t.published = front.published ++ .done :: back.published := by
    rw [ht, published_append]
    rfl
  by_contra hback
  refine hlast _ h ?_
  rw [hpublished, List.dropLast_append_of_ne_nil (List.cons_ne_nil _ _),
    List.dropLast_cons_of_ne_nil hback]
  exact List.mem_append_right _ List.mem_cons_self

/-- The invariant gives `Lifecycle`: the ranks are ascending in each of `lives`. -/
theorem Lives.lifecycle_of_allowed {phase : LoopPhase kind.Key} (h : t.Lives phase)
    (hallowed : t.Throughout (Allows context)) : t.Lifecycle context where
  forward := by
    have hforward : ∀ states ∈ lives,
        (Loop.initialState :: states).Pairwise fun a b => a.rank ≤ b.rank := by decide
    exact hforward _ h.published_mem
  reconciling_behind_store front back ht := hallowed front _ back ht
  stopping_behind_shutdown front back ht := hallowed front _ back ht
  nothing_behind_done _ _ ht := published_eq_nil_of_done h.published_mem ht

/-- A loop that has ended has published its end, once and last, exactly if it was run: exactly if an
`.advance` is in the history `t`. -/
theorem Lives.done_iff (h : t.Lives .ended) :
    (t.states.getLast? = some .done ∧ t.published.count .done = 1) ↔ .event .advance ∈ t := by
  rw [states]
  obtain ⟨hnil, hunrun⟩ | ⟨hend | hend | hend | hend, hrun⟩ := h
  · simp [hnil, hunrun, Loop.initialState]
  all_goals
    simp only [hend, hrun, iff_true]
    decide

end History

/-- **The life of a loop**, in every run and whatever happens around it: its published state only
moves forward; that passes are made is published behind the first bundle only, that the loop stops
behind the shutdown only, and nothing behind its end (`Lifecycle`). Once the loop has ended, `.done`
was published last and exactly once if and only if the loop was run before it was aborted. -/
theorem Loop.lifecycle {config : CollectorConfig} {now : Moment} {events : List LoopEvent}
    {w : LoopWorld kind}
    (h : (LoopWorld.create kind config context now).run? [] events = some (w, t)) :
    t.Lifecycle context ∧ (w.loop.hasEnded = true →
      ((t.states.getLast? = some .done ∧ t.published.count .done = 1) ↔
        .event .advance ∈ t)) := by
  have hages := (LoopWorld.ages_create config context now).run h
  refine ⟨hages.lives.lifecycle_of_allowed hages.allowed, fun hended => ?_⟩
  have hphase : w.loop.phase = .ended := by
    rw [hasEnded] at hended
    split at hended
    next hphase => exact hphase
    next => cases hended
  have hlives := hages.lives
  rw [hphase] at hlives
  exact hlives.done_iff

/-- **A loop that is aborted during a deletion** has published its end: it was run before the
`.abort`. -/
theorem Loop.lifecycle_aborted_deletion :
    ∃ (w : LoopWorld .applicationStatus) (t : History .applicationStatus) (a : ApplicationId),
      (LoopWorld.create .applicationStatus ⟨1000, 60000⟩ .root 0).run? []
          [.advance, .store ⟨[], [⟨a, "", []⟩], [], []⟩, .advance, .advance, .abort] =
        some (w, t) ∧
      t.started = [a] ∧ t.ended = 0 ∧ w.loop.hasEnded = true ∧ t.Lifecycle .root ∧
      t.states.getLast? = some .done ∧ t.published.count .done = 1 := by
  let a : ApplicationId := ⟨"a", by decide⟩
  obtain ⟨w, t, hrun, hstarted, hnone, hended, hadvance⟩ : ∃ (w : LoopWorld .applicationStatus)
      (t : History .applicationStatus),
      (LoopWorld.create .applicationStatus ⟨1000, 60000⟩ .root 0).run? []
          [.advance, .store ⟨[], [⟨a, "", []⟩], [], []⟩, .advance, .advance, .abort] =
        some (w, t) ∧
      t.started = [a] ∧ t.ended = 0 ∧ w.loop.hasEnded = true ∧ .event .advance ∈ t :=
    ⟨_, _, rfl, rfl, rfl, rfl, by simp⟩
  obtain ⟨hlife, hdone⟩ := Loop.lifecycle hrun
  exact ⟨w, t, a, hrun, hstarted, hnone, hended, hlife, (hdone hended).mpr hadvance⟩

/-- **A loop that is aborted before it was run never publishes its end**: the last that is known of
it is `.waitingForBundle`. -/
theorem Loop.waitingForBundle_of_aborted_unrun :
    ∃ (w : LoopWorld .applicationStatus) (t : History .applicationStatus),
      (LoopWorld.create .applicationStatus .standard .root 0).run? [] [.abort] = some (w, t) ∧
        w.loop.hasEnded = true ∧ t.states.getLast? = some .waitingForBundle ∧
        .done ∉ t.states :=
  ⟨_, _, rfl, rfl, rfl, by decide⟩

end FleetAgent
