import FleetAgent.Agent.Enrollment
/-!
# What happens to an enrollment

The shutdown signal changes, time goes by, and the controller answers, all at any moment between two
steps of an enrollment. `EnrollmentWorld.step?` has one case for everything that can happen next,
and an `EnrollmentRun v steps w` leads from `v` to `w` by a list of such steps, each with the world
before and behind it; `EnrollmentWorld.run?` takes them from the events alone.

A predicate `p` on worlds that every step preserves (`EnrollmentWorld.Preserved p`) holds all along
a run (`EnrollmentRun.forall_mem`). What one step makes true for good can be said of all steps
behind it (`EnrollmentRun.pairwise`): the step `x` picks a preserved `q`, and `q` gives `r x y` for
every later `y`.
-/

namespace FleetAgent

open Controller (Reply TransportError Request readRegistration)

/-! ### Events -/

/-- What can happen to an enrollment or around it. -/
inductive EnrollmentEvent where
  /-- The shutdown signal is triggered. -/
  | trigger
  /-- The owner of the shutdown signal goes away. -/
  | drop
  /-- Time goes by, in milliseconds. -/
  | elapse (duration : Nat)
  /-- The enrollment takes a step of its own. -/
  | advance
  /-- The request comes to an end: with any reply, or none. -/
  | reply (r : Except TransportError Reply)

/-- Whether the controller was asked. -/
def EnrollmentPhase.isAsking : EnrollmentPhase → Bool
  | .asking _ _ _ => true
  | _ => false

/-- Whether the controller is asked again later. -/
def EnrollmentPhase.isPausing : EnrollmentPhase → Bool
  | .pausing _ _ _ => true
  | _ => false

/-- The token that is asked with, now or later. -/
def EnrollmentPhase.token? : EnrollmentPhase → Option RegistrationToken
  | .asking token _ _ | .pausing token _ _ => some token
  | _ => none

/-- An enrollment and what it sees. -/
structure EnrollmentWorld where
  /-- The enrollment. -/
  enrollment : Enrollment
  /-- What it sees. -/
  around : Surroundings

namespace EnrollmentWorld

/-- The world after an event, and what the enrollment does about it; `none` if the event cannot
happen: there may be no step of its own to take, or no request that could end. -/
def step? (w : EnrollmentWorld) :
    EnrollmentEvent → Option (EnrollmentWorld × List EnrollmentEffect)
  | .trigger => some ({ w with around := { w.around with signal := w.around.signal.trigger } }, [])
  | .drop => some ({ w with around := { w.around with signal := w.around.signal.drop } }, [])
  | .elapse duration =>
    some ({ w with around := { w.around with now := w.around.now + duration } }, [])
  | .advance =>
    (w.enrollment.advance? w.around).map fun (e, effects) => (⟨e, w.around⟩, effects)
  | .reply r =>
    if w.enrollment.phase.isAsking then
      let (e, effects) := w.enrollment.reply w.around r
      some (⟨e, w.around⟩, effects)
    else none

/-- The identity that the store finds. -/
def stored (w : EnrollmentWorld) : Except IdentityError (Option Identity) :=
  w.enrollment.store.load w.enrollment.directory

/-- What is no longer waited for: the context is called off. -/
def isCanceled (w : EnrollmentWorld) : Bool :=
  w.enrollment.context.isCanceled w.around.signal

/-- The deadline of the context, if there is one, has passed. -/
def isExpired (w : EnrollmentWorld) : Bool :=
  w.enrollment.context.isExpired w.around.now

end EnrollmentWorld

/-! ### Steps -/

/-- Something that has happened. -/
structure EnrollmentStep where
  /-- The world before. -/
  before : EnrollmentWorld
  /-- What has happened. -/
  event : EnrollmentEvent
  /-- The world behind. -/
  after : EnrollmentWorld
  /-- What the enrollment did about it. -/
  effects : List EnrollmentEffect

namespace EnrollmentStep

/-- The step is one that can be taken. -/
def IsStep (x : EnrollmentStep) : Prop :=
  x.before.step? x.event = some (x.after, x.effects)

/-- The requests that are sent. -/
def requests (x : EnrollmentStep) : List Request :=
  x.effects.filterMap fun
    | .send r => some r
    | .log _ => none

/-- The registration that the controller answers with in the step, if the answer decodes. -/
def answer? (x : EnrollmentStep) : Option Registration :=
  match x.event with
  | .reply r => (readRegistration r).toOption
  | _ => none

/-- The answer `r` comes as long as it is waited for. -/
def Accepts (x : EnrollmentStep) (r : Registration) : Prop :=
  x.answer? = some r ∧ x.before.isCanceled = false ∧ x.before.isExpired = false

/-- A request that was sent comes to its end. -/
def EndsRequest (x : EnrollmentStep) : Prop :=
  x.before.enrollment.phase.isAsking = true ∧ x.after.enrollment.phase.isAsking = false

/-- The enrollment takes a step of its own, or its request comes to an end. -/
def IsOwn (x : EnrollmentStep) : Prop :=
  x.event = .advance ∨ ∃ r, x.event = .reply r

/-- An attempt comes to its end without an identity, with or without a request, and another one is
to follow. -/
def FailsAttempt (x : EnrollmentStep) : Prop :=
  x.IsOwn ∧ x.after.enrollment.phase.isPausing = true

/-- The moment of the step. -/
def moment (x : EnrollmentStep) : Moment :=
  x.before.around.now

end EnrollmentStep

/-! ### Runs -/

/-- Steps that are taken one after the other, with the worlds at both ends. -/
inductive EnrollmentRun : EnrollmentWorld → List EnrollmentStep → EnrollmentWorld → Prop where
  | nil (w : EnrollmentWorld) : EnrollmentRun w [] w
  | cons {x : EnrollmentStep} {steps : List EnrollmentStep} {w : EnrollmentWorld} (h : x.IsStep)
      (rest : EnrollmentRun x.after steps w) : EnrollmentRun x.before (x :: steps) w

/-- The steps that the given events make, and the world behind them; `none` if one of the events
cannot happen. -/
def EnrollmentWorld.run? : EnrollmentWorld → List EnrollmentEvent →
    Option (List EnrollmentStep × EnrollmentWorld)
  | w, [] => some ([], w)
  | w, event :: events =>
    (w.step? event).bind fun (v, effects) =>
      (v.run? events).map fun (steps, u) => (⟨w, event, v, effects⟩ :: steps, u)

/-- Every step preserves `p`. -/
def EnrollmentWorld.Preserved (p : EnrollmentWorld → Prop) : Prop :=
  ∀ x : EnrollmentStep, x.IsStep → p x.before → p x.after

namespace EnrollmentRun

variable {p : EnrollmentWorld → Prop} {v w : EnrollmentWorld} {x : EnrollmentStep}
  {steps : List EnrollmentStep}

theorem of_run? {events : List EnrollmentEvent} (h : v.run? events = some (steps, w)) :
    EnrollmentRun v steps w := by
  induction events generalizing v steps with
  | nil =>
    obtain ⟨rfl, rfl⟩ := Prod.mk.inj (Option.some.inj h)
    exact .nil v
  | cons event events ih =>
    obtain ⟨⟨u, effects⟩, hstep, h⟩ := Option.bind_eq_some_iff.mp h
    obtain ⟨⟨rest, _⟩, hrest, h⟩ := Option.map_eq_some_iff.mp h
    obtain ⟨rfl, rfl⟩ := Prod.mk.inj h
    exact @cons ⟨v, event, u, effects⟩ _ _ hstep (ih hrest)

/-- A run of `a ++ b` is one of `a` to a world between, and one of `b` from there. -/
theorem of_append {a b : List EnrollmentStep} (h : EnrollmentRun v (a ++ b) w) :
    ∃ u, EnrollmentRun v a u ∧ EnrollmentRun u b w := by
  induction a generalizing v with
  | nil => exact ⟨v, .nil v, h⟩
  | cons x a ih =>
    cases h with
    | cons hx rest =>
      obtain ⟨u, ha, hb⟩ := ih rest
      exact ⟨u, .cons hx ha, hb⟩

theorem of_cons (h : EnrollmentRun v (x :: steps) w) :
    v = x.before ∧ x.IsStep ∧ EnrollmentRun x.after steps w := by
  cases h with
  | cons hx rest => exact ⟨rfl, hx, rest⟩

/-- What holds at first and is preserved holds before every step, and at the end: `p` is an
invariant of the run `h`, by induction on it. -/
theorem forall_mem (h : EnrollmentRun v steps w) (hp : EnrollmentWorld.Preserved p) (hv : p v) :
    (∀ x ∈ steps, x.IsStep ∧ p x.before) ∧ p w := by
  induction h with
  | nil w => exact ⟨fun _ hx => absurd hx List.not_mem_nil, hv⟩
  | cons hx rest ih =>
    obtain ⟨hsteps, hw⟩ := ih (hp _ hx hv)
    exact ⟨List.forall_mem_cons.mpr ⟨⟨hx, hv⟩, hsteps⟩, hw⟩

/-- What a step makes true, and all steps preserve, holds before every later step. For each step `x`
there is its own `q`, which may speak of the moment of `x` or of what it did. -/
theorem pairwise {r : EnrollmentStep → EnrollmentStep → Prop} (h : EnrollmentRun v steps w)
    (hp : EnrollmentWorld.Preserved p) (hv : p v)
    (hr : ∀ x : EnrollmentStep, x.IsStep → p x.before →
      ∃ q, EnrollmentWorld.Preserved q ∧ q x.after ∧
        ∀ y : EnrollmentStep, y.IsStep → q y.before → r x y) : steps.Pairwise r := by
  induction h with
  | nil w => exact List.Pairwise.nil
  | cons hx rest ih =>
    -- `q` is true behind the first step, and so before each of the others.
    obtain ⟨q, hq, hafter, hlater⟩ := hr _ hx hv
    refine List.pairwise_cons.mpr ⟨fun y hy => ?_, ih (hp _ hx hv)⟩
    obtain ⟨hstep, hbefore⟩ := (rest.forall_mem hq hafter).1 y hy
    exact hlater y hstep hbefore

end EnrollmentRun

end FleetAgent
