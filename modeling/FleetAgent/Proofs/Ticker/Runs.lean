import FleetAgent.Proofs.Ticker.Passes
import FleetAgent.Surroundings
/-!
# Runs of a task that ticks

`TickingTask` is any machine whose steps go from beat to beat as its laws say. `TickingWorld` is
such a task with what it sees and with the passes that it has made; everything that can happen to it
may happen at any moment (`TickingEvent`).

However late the task is run, its passes keep their distance (`TickingWorld.IsPaced`). If it is run
as soon as it can go on, that is if the clock never goes past a moment at which the task has a step
to take (`TickingWorld.Prompt`), then every pass starts as soon as it is due and the pass before it
has ended (`TickingWorld.IsInTime`). `TickingTask.keepsTime` is about every task and every run, and
rests on two invariants, one for each case: `Keeps`, and `Timely` on top of it. Each is kept by
every event (`Keeps.step`, `Timely.step`), and a run is an induction on its events.
-/

namespace FleetAgent

/-! ### Tasks -/

/-- A task that makes a pass at every tick, as a machine with the laws of its beat. -/
structure TickingTask where
  /-- Its states. -/
  State : Type
  /-- What can reach it from outside. -/
  Input : Type
  /-- Where it is. -/
  beat : State → Beat
  /-- Whether it may begin to tick, as far as the current bundle is concerned. -/
  mayBegin : Snapshot → Bool
  /-- Whether it is called off. -/
  isCanceled : State → Signal → Bool
  /-- The next step that it can take on its own, if there is one. -/
  advance? : State → Surroundings → Option State
  /-- What becomes of it when something reaches it. -/
  receive : State → Surroundings → Input → State
  /-- A step of its own is one of the turns. -/
  turn : ∀ {m s m'}, advance? m s = some m' →
    Beat.Turn s.now (mayBegin s.snapshot) (isCanceled m s.signal) (beat m) (beat m')
  /-- What reaches it makes it react in one of the ways. -/
  reaction : ∀ m s i, Beat.Reaction (beat m) (beat (receive m s i))
  /-- A newer bundle does not keep it from beginning. -/
  mayBegin_store : ∀ s b, mayBegin s = true → mayBegin (s.store b) = true
  /-- It can go on as soon as it may begin. -/
  canBegin : ∀ {m s p}, beat m = .unbegun p → mayBegin s.snapshot = true → advance? m s ≠ none
  /-- It can go on as soon as a tick is due. -/
  canTick : ∀ {m s t}, beat m = .waiting t → t.due ≤ s.now → advance? m s ≠ none

/-- What can happen to a task or around it. -/
inductive TickingEvent (task : TickingTask) where
  /-- A bundle is stored. -/
  | store (b : Bundle)
  /-- The shutdown signal is triggered. -/
  | trigger
  /-- The owner of the shutdown signal goes away. -/
  | drop
  /-- Time goes by, in milliseconds. -/
  | elapse (duration : Nat)
  /-- The task takes a step of its own, if it has one to take. -/
  | advance
  /-- Something reaches the task. -/
  | receive (i : task.Input)

/-- A task, what it sees, and what has become of it so far. -/
structure TickingWorld (task : TickingTask) where
  /-- The task. -/
  state : task.State
  /-- What it sees. -/
  around : Surroundings
  /-- Since when it may begin. -/
  openSince? : Option Moment
  /-- The passes that it has started, the last one first. -/
  passes : List TickPass

namespace TickingWorld

variable {task : TickingTask} {w : TickingWorld task} {period : Nat}

/-- The first moment at which a task may begin, given whether it could before. -/
def openedAt (task : TickingTask) (before? : Option Moment) (s : Surroundings) : Option Moment :=
  match before? with
  | some m => some m
  | none => if task.mayBegin s.snapshot then some s.now else none

/-- A task before anything has happened. -/
def create (task : TickingTask) (state : task.State) (around : Surroundings) : TickingWorld task :=
  ⟨state, around, openedAt task none around, []⟩

/-- The task when it sees something else. -/
def see (w : TickingWorld task) (around : Surroundings) : TickingWorld task :=
  { w with around, openSince? := openedAt task w.openSince? around }

/-- What the task will see when time has gone by. -/
def later (w : TickingWorld task) (duration : Nat) : Surroundings :=
  { w.around with now := w.around.now + duration }

/-- The world after an event. -/
def step (w : TickingWorld task) : TickingEvent task → TickingWorld task
  | .store b => w.see { w.around with snapshot := w.around.snapshot.store b }
  | .trigger => w.see { w.around with signal := w.around.signal.trigger }
  | .drop => w.see { w.around with signal := w.around.signal.drop }
  | .elapse duration => w.see (w.later duration)
  | .advance =>
    match task.advance? w.state w.around with
    | none => w
    | some state =>
      { w with
        state
        passes := (task.beat w.state).passesTurned w.around.now (task.beat state) w.passes }
  | .receive i =>
    let state := task.receive w.state w.around i
    { w with
      state
      passes := (task.beat w.state).passesReached w.around.now (task.beat state) w.passes }

/-- The world after several events. -/
def run (w : TickingWorld task) (events : List (TickingEvent task)) : TickingWorld task :=
  events.foldl step w

/-- The clock does not go past a moment at which the task has a step of its own to take: at each
moment before the end of `duration` there was none. -/
def Waits (w : TickingWorld task) : TickingEvent task → Prop
  | .elapse duration => ∀ k < duration, task.advance? w.state (w.later k) = none
  | _ => True

/-- The clock waits for the task at every event. -/
def Prompt (w : TickingWorld task) : List (TickingEvent task) → Prop
  | [] => True
  | e :: rest => w.Waits e ∧ (w.step e).Prompt rest

/-! ### What is so of the passes -/

/-- The passes keep their distance. -/
structure IsPaced (period : Nat) (w : TickingWorld task) : Prop where
  /-- Each pass keeps its distance from the one before it. -/
  follows : w.passes.IsChain (TickPass.Follows period)

/-- The passes start as soon as they can. -/
structure IsInTime (period : Nat) (w : TickingWorld task) : Prop where
  /-- The first pass is due at once, and starts at once, when the task may begin. -/
  first : ∀ p, w.passes.getLast? = some p → w.openSince? = some p.due ∧ p.start = p.due
  /-- No time goes by before it starts, unless the task has ended before. -/
  begun : ∀ m, w.openSince? = some m → m < w.around.now → w.passes = [] →
    task.beat w.state = .ended
  /-- It does not end before on its own, unless it is called off or has no period. -/
  begins : ∀ p, task.beat w.state = .unbegun p →
    task.isCanceled w.state w.around.signal = false → 0 < period →
    task.beat (w.step .advance).state ≠ .ended
  /-- Every other pass starts when it is due, or when the one before it ends. -/
  follows : w.passes.IsChain TickPass.FollowsInTime
  /-- Between two passes, the time for the next one has not gone by. -/
  next : ∀ t p rest, task.beat w.state = .waiting t → w.passes = p :: rest →
    t.due = p.nextDue period ∧ ∃ finish, p.finish? = some finish ∧
      w.around.now ≤ max t.due finish
  /-- Once that time has come, the next step starts it, unless the task is called off. -/
  starts : ∀ t, task.beat w.state = .waiting t → t.due ≤ w.around.now →
    task.isCanceled w.state w.around.signal = false →
    ∃ q, (w.step .advance).passes = q :: w.passes ∧ q.due = t.due ∧ q.start = w.around.now

end TickingWorld

/-- The passes of a task keep their distance along every run, and start as soon as they can along
every run in which the task is run as soon as it can go on. -/
structure TickingTask.KeepsTime (task : TickingTask) (period : Nat) (state : task.State)
    (around : Surroundings) : Prop where
  /-- In every run, passes keep their distance. -/
  paced : ∀ events, ((TickingWorld.create task state around).run events).IsPaced period
  /-- In a run for which the clock waits, they are in time. -/
  inTime : ∀ events, (TickingWorld.create task state around).Prompt events →
    ((TickingWorld.create task state around).run events).IsInTime period

/-! ### However late the task is run -/

namespace TickingWorld

variable {task : TickingTask} {w : TickingWorld task} {period : Nat}

/-- The invariant of all runs. -/
structure Keeps (period : Nat) (w : TickingWorld task) : Prop where
  /-- It is remembered since when the task may begin. -/
  isSome_openSince : w.openSince?.isSome = task.mayBegin w.around.snapshot
  /-- The passes keep their distance. -/
  follows : w.passes.IsChain (TickPass.Follows period)
  /-- The beat tells when the next one is due. -/
  tells : TickPass.Tells period w.around.now w.passes (task.beat w.state)

theorem keeps_create {state : task.State} (h : task.beat state = .unbegun period)
    (around : Surroundings) : (create task state around).Keeps period where
  isSome_openSince := by
    simp only [create, openedAt]
    split <;> simp_all
  follows := .nil
  tells := by
    simp only [create, h]
    exact ⟨rfl, rfl⟩

/-- What the task sees of the world may change to `around`, if time does not go back and the task
may still begin. -/
theorem Keeps.see (h : w.Keeps period) {around : Surroundings}
    (hopen : task.mayBegin w.around.snapshot = true → task.mayBegin around.snapshot = true)
    (hnow : w.around.now ≤ around.now) : (w.see around).Keeps period where
  isSome_openSince := by
    have hbefore := h.isSome_openSince
    simp only [TickingWorld.see, openedAt]
    split
    next m hm =>
      rw [hm] at hbefore
      exact (hopen hbefore.symm).symm
    next => split <;> simp_all
  follows := h.follows
  tells := h.tells.mono hnow

/-- **Every event keeps the invariant** `Keeps`, by cases on who takes the step. -/
theorem Keeps.step (h : w.Keeps period) (e : TickingEvent task) : (w.step e).Keeps period := by
  cases e with
  | store b => exact h.see (task.mayBegin_store _ b) le_rfl
  | trigger => exact h.see id le_rfl
  | drop => exact h.see id le_rfl
  | elapse duration => exact h.see id (Nat.le_add_right _ _)
  | advance =>
    rw [TickingWorld.step]
    split
    next => exact h
    next state hadvance =>
      have hturn := task.turn hadvance
      exact ⟨h.isSome_openSince, TickPass.follows_turned h.follows h.tells hturn,
        TickPass.tells_turned h.tells hturn⟩
  | receive i =>
    have hreaction := task.reaction w.state w.around i
    exact ⟨h.isSome_openSince, TickPass.follows_reached h.follows hreaction,
      TickPass.tells_reached h.tells hreaction⟩

/-- **Every run keeps the invariant** `Keeps`, by induction on the events. -/
theorem Keeps.run (h : w.Keeps period) (events : List (TickingEvent task)) :
    (w.run events).Keeps period := by
  induction events generalizing w with
  | nil => exact h
  | cons e rest ih => exact ih (h.step e)

/-! ### If the task is run as soon as it can go on -/

/-- The invariant of the runs in which the clock waits for the task. -/
structure Timely (period : Nat) (w : TickingWorld task) : Prop extends w.Keeps period where
  /-- The first pass has started at once. -/
  first : TickPass.StartsAtOnce w.openSince? w.passes
  /-- The others have started in time. -/
  inTime : w.passes.IsChain TickPass.FollowsInTime
  /-- The clock has not gone past the moment for the next one. -/
  bounds : TickPass.Bounds w.openSince? w.around.now w.passes (task.beat w.state)

/-- When nothing is due, the clock is early enough for the next pass, at `t.due`. -/
theorem lt_of_advance_none {t : Ticker} {around : Surroundings} (h : task.beat w.state = .waiting t)
    (hnone : task.advance? w.state around = none) : around.now < t.due := by
  by_contra hle
  exact task.canTick h (Nat.le_of_not_lt hle) hnone

/-- Time that goes by does not pass the moment for the next pass: the clock has waited (`hwaits`),
and the task would have had a step to take. -/
theorem Timely.bounds_elapse (h : w.Timely period) {duration : Nat}
    (hwaits : w.Waits (.elapse duration)) :
    TickPass.Bounds w.openSince? (w.around.now + duration) w.passes (task.beat w.state) := by
  cases duration with
  | zero => exact h.bounds
  | succ d =>
    -- At the last moment before the clock stops, there was nothing to do yet.
    have hnone := hwaits d (Nat.lt_succ_self d)
    have hbounds := h.bounds
    cases hbeat : task.beat w.state with
    | unbegun p =>
      intro m hm
      have hopen : task.mayBegin w.around.snapshot = true := by
        rw [← h.isSome_openSince, hm]
        rfl
      exact absurd hnone (task.canBegin hbeat hopen)
    | waiting t =>
      have hlt : w.around.now + d < t.due := lt_of_advance_none hbeat hnone
      rw [hbeat] at hbounds
      refine ⟨fun hnil => ?_, fun p rest finish _ _ => Nat.le_trans hlt (Nat.le_max_left _ _)⟩
      obtain ⟨-, hdue⟩ := hbounds.1 hnil
      rw [hdue] at hlt
      exact absurd hlt (Nat.not_lt.mpr (Nat.le_add_right _ _))
    | passing t => exact trivial
    | ended => exact trivial

theorem openedAt_of_eq_some {m : Moment} {before? : Option Moment} (h : before? = some m)
    (around : Surroundings) : openedAt task before? around = some m := by
  rw [h]
  rfl

/-- While only time goes by, nothing opens. -/
theorem Keeps.openedAt_later (h : w.Keeps period) (duration : Nat) :
    openedAt task w.openSince? (w.later duration) = w.openSince? := by
  cases hsince : w.openSince? with
  | some m => rfl
  | none =>
    have hclosed := h.isSome_openSince
    rw [hsince] at hclosed
    simp [openedAt, later, ← hclosed]

/-- At first nothing is late. -/
theorem timely_create {state : task.State} (h : task.beat state = .unbegun period)
    (around : Surroundings) : (create task state around).Timely period where
  toKeeps := keeps_create h around
  first p hp := by cases hp
  inTime := .nil
  bounds := by
    simp only [create, h]
    intro m hm
    simp only [openedAt] at hm
    split at hm
    · exact (Option.some.inj hm).symm
    · cases hm

/-- What the task sees may change to `around`, if the clock stays within its bounds. -/
theorem Timely.see (h : w.Timely period) {around : Surroundings}
    (hkeeps : (w.see around).Keeps period)
    (hbounds : TickPass.Bounds (openedAt task w.openSince? around) around.now w.passes
      (task.beat w.state)) : (w.see around).Timely period where
  toKeeps := hkeeps
  first p hp := ⟨openedAt_of_eq_some (h.first p hp).1 around, (h.first p hp).2⟩
  inTime := h.inTime
  bounds := hbounds

/-- What the task sees at the same moment does not make it late: the bounds are about the clock. -/
theorem Timely.bounds_see (h : w.Timely period) {around : Surroundings}
    (hnow : around.now = w.around.now) :
    TickPass.Bounds (openedAt task w.openSince? around) around.now w.passes
      (task.beat w.state) := by
  have hbounds := h.bounds
  rw [hnow]
  cases hbeat : task.beat w.state with
  | unbegun p =>
    rw [hbeat] at hbounds
    intro m hm
    cases hsince : w.openSince? with
    | some m' => exact hbounds m (by rwa [openedAt_of_eq_some hsince, ← hsince] at hm)
    -- The task may begin from now on, and now is the moment that is remembered.
    | none =>
      simp only [openedAt, hsince] at hm
      split at hm
      · exact (Option.some.inj hm).symm.trans hnow
      · cases hm
  | waiting t =>
    rw [hbeat] at hbounds
    exact ⟨fun hnil => (hbounds.1 hnil).imp_left (openedAt_of_eq_some · around), hbounds.2⟩
  | passing t => exact trivial
  | ended => exact trivial

/-- **Every event for which the clock has waited keeps the invariant** `Timely`. -/
theorem Timely.step (h : w.Timely period) {e : TickingEvent task} (hwaits : w.Waits e) :
    (w.step e).Timely period := by
  have hkeeps := h.toKeeps.step e
  cases e with
  | store b => exact h.see hkeeps (h.bounds_see rfl)
  | trigger => exact h.see hkeeps (h.bounds_see rfl)
  | drop => exact h.see hkeeps (h.bounds_see rfl)
  | elapse duration =>
    refine h.see hkeeps ?_
    rw [h.openedAt_later duration]
    exact h.bounds_elapse hwaits
  | advance =>
    simp only [TickingWorld.step] at hkeeps ⊢
    split at hkeeps
    next => exact h
    next state hadvance =>
      have hturn := task.turn hadvance
      -- The turn speaks of whether the task may begin, the bounds of since when.
      rw [← h.isSome_openSince] at hturn
      obtain ⟨hfirst, hfollows⟩ := TickPass.inTime_turned h.tells h.bounds h.first h.inTime hturn
      exact ⟨hkeeps, hfirst, hfollows, TickPass.bounds_turned h.tells h.bounds hturn⟩
  | receive i =>
    have hreaction := task.reaction w.state w.around i
    obtain ⟨hfirst, hfollows⟩ := TickPass.inTime_reached h.first h.inTime hreaction
    exact ⟨hkeeps, hfirst, hfollows, TickPass.bounds_reached h.tells h.bounds hreaction⟩

/-- **Every run for which the clock has waited keeps the invariant** `Timely`, by induction on the
events. -/
theorem Timely.run (h : w.Timely period) {events : List (TickingEvent task)}
    (hprompt : w.Prompt events) : (w.run events).Timely period := by
  induction events generalizing w with
  | nil => exact h
  | cons e rest ih => exact ih (h.step hprompt.1) hprompt.2

/-- A task that may begin since `m` does not let time go by: it has made a pass, or has ended. -/
theorem Timely.beat_eq_ended (h : w.Timely period) {m : Moment} (hopen : w.openSince? = some m)
    (hlt : m < w.around.now) (hnil : w.passes = []) : task.beat w.state = .ended := by
  have htells := h.tells
  have hbounds := h.bounds
  cases hbeat : task.beat w.state with
  | unbegun p =>
    rw [hbeat] at hbounds
    exact absurd (hbounds m hopen) (Nat.ne_of_lt hlt)
  | waiting t =>
    rw [hbeat] at hbounds
    obtain rfl := Option.some.inj (hopen.symm.trans (hbounds.1 hnil).1)
    exact absurd hlt (Nat.lt_irrefl _)
  | passing t =>
    rw [hbeat, hnil] at htells
    obtain ⟨-, p, rest, hp, -⟩ := htells
    cases hp
  | ended => rfl

/-- A task that is not called off does not end before it ticks, if its period `p` is not zero. -/
theorem Keeps.beat_ne_ended (h : w.Keeps period) {p : Nat} (hbeat : task.beat w.state = .unbegun p)
    (hcanceled : task.isCanceled w.state w.around.signal = false) (hperiod : 0 < period) :
    task.beat (w.step .advance).state ≠ .ended := by
  rw [TickingWorld.step]
  split
  next => simp [hbeat]
  next state hadvance =>
    have hturn := task.turn hadvance
    have htells := h.tells
    rw [hbeat] at htells
    rw [hbeat, hcanceled] at hturn
    intro hended
    rw [hended] at hturn
    -- The only turn from there to an end is to quit, for one of two reasons.
    cases hturn with
    | quits h =>
      obtain hcanceled | hzero := h
      · cases hcanceled
      · exact absurd (htells.1.symm.trans hzero) (Nat.pos_iff_ne_zero.mp hperiod)

/-- A task that is not called off takes the tick `t` that is due: the next step starts a pass
`q`. -/
theorem exists_started {t : Ticker} (hbeat : task.beat w.state = .waiting t)
    (hdue : t.due ≤ w.around.now)
    (hcanceled : task.isCanceled w.state w.around.signal = false) :
    ∃ q, (w.step .advance).passes = q :: w.passes ∧ q.due = t.due ∧ q.start = w.around.now := by
  obtain ⟨state, hadvance⟩ := Option.ne_none_iff_exists'.mp (task.canTick hbeat hdue)
  have hturn := task.turn hadvance
  simp only [TickingWorld.step, hadvance]
  rw [hbeat, hcanceled] at hturn
  rw [hbeat]
  generalize task.beat state = after at hturn ⊢
  cases hturn with
  | starts => exact ⟨_, rfl, rfl, rfl⟩
  | blinks => exact ⟨_, rfl, rfl, rfl⟩
  | stops h => cases h

/-- The invariant gives what is asked of the passes. -/
theorem Timely.isInTime (h : w.Timely period) : w.IsInTime period where
  first := h.first
  begun _ := h.beat_eq_ended
  begins _ := h.beat_ne_ended
  follows := h.inTime
  next t p rest hbeat hpasses := by
    have htells := h.tells
    have hbounds := h.bounds
    rw [hbeat] at htells hbounds
    obtain ⟨hdue, finish, hfinish, -, -⟩ := htells.2 p rest hpasses
    exact ⟨hdue, finish, hfinish, hbounds.2 p rest finish hpasses hfinish⟩
  starts _ := exists_started

end TickingWorld

/-- **A task that makes a pass at every tick keeps time**, in every run from a state that does not
tick yet. -/
theorem TickingTask.keepsTime (task : TickingTask) (state : task.State) {period : Nat}
    (h : task.beat state = .unbegun period) (around : Surroundings) :
    task.KeepsTime period state around where
  paced events := ⟨((TickingWorld.keeps_create h around).run events).follows⟩
  inTime _ hprompt := ((TickingWorld.timely_create h around).run hprompt).isInTime

end FleetAgent
