import FleetAgent.Ticker
import Mathlib.Data.List.Chain
/-!
# Passes

Several tasks wait for a tick, make a pass and wait for the next tick. What they do in a pass is
different, and how long it takes is up to others. What they have in common is their `Beat`, and how
it may change: `Beat.Turn` for a step of their own, `Beat.Reaction` for what reaches them from
outside.

However late a tick is taken, passes keep their distance (`TickPass.Follows`). That is because the
ticker knows between two passes when the next one is due (`TickPass.Tells`). If the clock does not
go past the moment at which the next pass should start (`TickPass.Bounds`), it starts as soon as it
can (`TickPass.FollowsInTime`).

Passes are listed with the last one first, so that what is said of two in a row is a chain
(`List.IsChain`), and a new pass is in front. For each of these predicates there is one lemma on
turns, `_turned`, and one on reactions, `_reached`.
-/

namespace FleetAgent

/-! ### Passes -/

/-- A pass that was started. -/
structure TickPass where
  /-- When it was due. -/
  due : Moment
  /-- When it was started. -/
  start : Moment
  /-- When it ended, if it has. -/
  finish? : Option Moment
deriving Repr, DecidableEq

namespace TickPass

variable {period : Nat} {p q : TickPass}

/-- When the pass behind it is due: a period after its start if it was started more than five
milliseconds late, and otherwise a period after it was due. -/
def nextDue (period : Nat) (p : TickPass) : Moment :=
  (if p.due + 5 < p.start then p.start else p.due) + period

/-- How a pass `q` keeps its distance from the pass `p` before it. -/
structure Follows (period : Nat) (q p : TickPass) : Prop where
  /-- It is due when `p` says. -/
  due_eq : q.due = p.nextDue period
  /-- It is not started before it is due. -/
  due_le : q.due ≤ q.start
  /-- It is not started before the other one has ended. -/
  ended : ∃ finish, p.finish? = some finish ∧ p.start ≤ finish ∧ finish ≤ q.start
  /-- The starts are a period apart, but for five milliseconds. -/
  spaced : p.start + period ≤ q.start + 5

/-- How a pass `q` goes on behind the pass `p` before it if nothing else keeps it waiting. -/
structure FollowsInTime (q p : TickPass) : Prop where
  /-- Behind a pass that has ended by then it starts when it is due. -/
  onTime : ∀ finish, p.finish? = some finish → finish ≤ q.due → q.start = q.due
  /-- Behind a pass that overruns it starts when that one ends. -/
  overrun : ∀ finish, p.finish? = some finish → q.due < finish → q.start = finish

/-- What is started no earlier than it is due is not too close to what was started before. If
`start` was more than five milliseconds late, a whole period is counted from it. -/
theorem start_add_period_le {due start next : Nat}
    (h : (if due + 5 < start then start else due) + period ≤ next) :
    start + period ≤ next + 5 := by
  split at h <;> omega

/-- A pass that starts when it is due or later keeps its distance. -/
theorem follows_of_le {finish : Moment} (hdue : q.due = p.nextDue period) (hle : q.due ≤ q.start)
    (hfinish : p.finish? = some finish) (hp : p.start ≤ finish) (hq : finish ≤ q.start) :
    Follows period q p where
  due_eq := hdue
  due_le := hle
  ended := ⟨finish, hfinish, hp, hq⟩
  spaced := by
    rw [hdue] at hle
    exact start_add_period_le hle

/-- A pass that starts at the later of the two moments is in time. -/
theorem followsInTime_of_eq_max {finish : Moment} (hfinish : p.finish? = some finish)
    (h : q.start = max q.due finish) : FollowsInTime q p where
  onTime f hf hle := by
    obtain rfl := Option.some.inj (hfinish.symm.trans hf)
    rw [h, Nat.max_eq_left hle]
  overrun f hf hlt := by
    obtain rfl := Option.some.inj (hfinish.symm.trans hf)
    rw [h, Nat.max_eq_right (Nat.le_of_lt hlt)]

/-- The pass `p` after it has ended at `now`. -/
def ended (p : TickPass) (now : Moment) : TickPass :=
  { p with finish? := some now }

/-- The passes, the last one first, after the last one has ended. -/
def endLast (now : Moment) : List TickPass → List TickPass
  | [] => []
  | p :: rest => p.ended now :: rest

/-- A chain stays one when its first pass ends, if what is said of it and the next one does not
depend on that. -/
theorem isChain_ended {R : TickPass → TickPass → Prop} {now : Moment} {rest : List TickPass}
    (hR : ∀ r, R p r → R (p.ended now) r) (h : (p :: rest).IsChain R) :
    (p.ended now :: rest).IsChain R := by
  cases rest with
  | nil => exact .singleton _
  | cons r rest =>
    rw [List.isChain_cons_cons] at h ⊢
    exact h.imp_left (hR r)

end TickPass

/-! ### Beats -/

/-- Where a task is that makes a pass at every tick. -/
inductive Beat where
  /-- It does not tick yet. It will once per period, in milliseconds. -/
  | unbegun (period : Nat)
  /-- It waits for the next tick. -/
  | waiting (ticker : Ticker)
  /-- It makes a pass. The ticker is set to the tick behind it. -/
  | passing (ticker : Ticker)
  /-- It does not tick any more. -/
  | ended
deriving Repr, DecidableEq

namespace Beat

/-- The ways in which a task takes a step of its own at a moment, given whether it may begin and
whether it is called off. -/
inductive Turn (now : Moment) (mayBegin canceled : Bool) : Beat → Beat → Prop
  /-- It gets ready. -/
  | prepares {period : Nat} : Turn now mayBegin canceled (.unbegun period) (.unbegun period)
  /-- It begins to tick. -/
  | begins {period : Nat} (h : mayBegin = true) :
      Turn now mayBegin canceled (.unbegun period) (.waiting (.start period now))
  /-- It takes a tick, and is in a pass. -/
  | starts {t : Ticker} (hdue : t.due ≤ now) :
      Turn now mayBegin canceled (.waiting t) (.passing (t.take now))
  /-- It takes a tick, and the pass is over at once. -/
  | blinks {t : Ticker} (hdue : t.due ≤ now) :
      Turn now mayBegin canceled (.waiting t) (.waiting (t.take now))
  /-- It goes on with a pass. -/
  | continues {t : Ticker} : Turn now mayBegin canceled (.passing t) (.passing t)
  /-- A pass is over. -/
  | finishes {t : Ticker} : Turn now mayBegin canceled (.passing t) (.waiting t)
  /-- It ends before it ticks: it is called off, or the period is one that cannot be kept. -/
  | quits {period : Nat} (h : canceled = true ∨ period = 0) :
      Turn now mayBegin canceled (.unbegun period) .ended
  /-- It ends between two passes: it is called off. -/
  | stops {t : Ticker} (h : canceled = true) : Turn now mayBegin canceled (.waiting t) .ended
  /-- It ends in a pass. -/
  | breaksOff {t : Ticker} : Turn now mayBegin canceled (.passing t) .ended

/-- What can become of a task when something reaches it from outside. -/
inductive Reaction : Beat → Beat → Prop
  /-- Nothing changes. -/
  | stays {b : Beat} : Reaction b b
  /-- A pass is over. -/
  | finishes {t : Ticker} : Reaction (.passing t) (.waiting t)
  /-- It ends. -/
  | ends {b : Beat} : Reaction b .ended

/-- What can become of a pass from outside can also become of it by a step of its own. -/
theorem Reaction.turn {t : Ticker} {b : Beat} (h : Reaction (.passing t) b) {now : Moment}
    {mayBegin canceled : Bool} : Turn now mayBegin canceled (.passing t) b := by
  cases h with
  | stays => exact .continues
  | finishes => exact .finishes
  | ends => exact .breaksOff

/-- The passes, the last one first, when something that reaches a task takes it from one beat to
another. -/
def passesReached (now : Moment) (before after : Beat) (passes : List TickPass) : List TickPass :=
  match before, after with
  | .passing _, .waiting _ => TickPass.endLast now passes
  | _, _ => passes

/-- The passes, the last one first, when a step of its own takes a task from one beat to another.
One that waits has started a pass, unless the step has ended it. -/
def passesTurned (now : Moment) (before after : Beat) (passes : List TickPass) : List TickPass :=
  match before, after with
  | .waiting t, .passing _ => ⟨t.due, now, none⟩ :: passes
  | .waiting t, .waiting _ => ⟨t.due, now, some now⟩ :: passes
  | before, after => passesReached now before after passes

end Beat

/-! ### However late a tick is taken -/

namespace TickPass

/-- What the beat of a task tells of the passes so far: before the first tick there are none;
between two passes the ticker is due when the next one is; in a pass it is set to the one behind. -/
def Tells (period : Nat) (now : Moment) (passes : List TickPass) : Beat → Prop
  | .unbegun p => p = period ∧ passes = []
  | .waiting t => t.period = period ∧ ∀ p rest, passes = p :: rest →
    t.due = p.nextDue period ∧ ∃ finish, p.finish? = some finish ∧ p.start ≤ finish ∧ finish ≤ now
  | .passing t => t.period = period ∧ ∃ p rest, passes = p :: rest ∧
    t.due = p.nextDue period ∧ p.start ≤ now
  | .ended => True

variable {period : Nat} {now : Moment} {passes : List TickPass} {p : TickPass} {b b' : Beat}

/-- What was told stays true while time goes by. -/
theorem Tells.mono (h : Tells period now passes b) {later : Moment} (hle : now ≤ later) :
    Tells period later passes b := by
  cases b with
  | unbegun p => exact h
  | waiting t =>
    refine ⟨h.1, fun p rest hp => ?_⟩
    obtain ⟨hdue, finish, hfinish, hstart, hnow⟩ := h.2 p rest hp
    exact ⟨hdue, finish, hfinish, hstart, hnow.trans hle⟩
  | passing t =>
    obtain ⟨hperiod, p, rest, hp, hdue, hstart⟩ := h
    exact ⟨hperiod, p, rest, hp, hdue, hstart.trans hle⟩
  | ended => exact trivial

/-- The ticker behind a pass that was started is due when the next pass is. -/
theorem due_take (t : Ticker) (finish? : Option Moment) (h : t.period = period) :
    (t.take now).due = nextDue period ⟨t.due, now, finish?⟩ := by
  rw [Ticker.take, nextDue, h]
  rfl

/-- The pass that a tick starts keeps its distance from the one before it, whether it is over at
once (`finish?`) or goes on. -/
theorem follows_started {t : Ticker} (h : Tells period now passes (.waiting t)) (hdue : t.due ≤ now)
    (hfollows : passes.IsChain (Follows period)) (finish? : Option Moment) :
    ((⟨t.due, now, finish?⟩ : TickPass) :: passes).IsChain (Follows period) := by
  cases passes with
  | nil => exact .singleton _
  | cons p rest =>
    obtain ⟨hnext, finish, hfinish, hstart, hnow⟩ := h.2 p rest rfl
    rw [List.isChain_cons_cons]
    exact ⟨follows_of_le hnext hdue hfinish hstart hnow, hfollows⟩

/-- The end of a pass leaves its distance as it was. -/
theorem follows_endLast (h : passes.IsChain (Follows period)) :
    (endLast now passes).IsChain (Follows period) := by
  cases passes with
  | nil => exact h
  | cons p rest => exact isChain_ended (fun r hr => ⟨hr.due_eq, hr.due_le, hr.ended, hr.spaced⟩) h

/-- Behind a pass that has ended, the ticker is due when the next one is. -/
theorem tells_endLast {t : Ticker} (h : Tells period now passes (.passing t)) :
    Tells period now (endLast now passes) (.waiting t) := by
  obtain ⟨hperiod, p, rest, rfl, hdue, hstart⟩ := h
  refine ⟨hperiod, fun q others hq => ?_⟩
  obtain ⟨rfl, -⟩ := List.cons.inj hq
  exact ⟨hdue, now, rfl, hstart, le_rfl⟩

theorem tells_reached (h : Tells period now passes b) (hreaction : b.Reaction b') :
    Tells period now (b.passesReached now b' passes) b' := by
  cases hreaction with
  | stays => cases b <;> exact h
  | finishes => exact tells_endLast h
  | ends => exact trivial

theorem tells_turned {mayBegin canceled : Bool} (h : Tells period now passes b)
    (hturn : b.Turn now mayBegin canceled b') :
    Tells period now (b.passesTurned now b' passes) b' := by
  cases hturn with
  | prepares => exact h
  | begins =>
    obtain ⟨rfl, rfl⟩ := h
    exact ⟨rfl, fun p rest hp => by cases hp⟩
  | @starts t hdue => exact ⟨h.1, _, _, rfl, due_take t none h.1, le_rfl⟩
  | @blinks t hdue =>
    refine ⟨h.1, fun p rest hp => ?_⟩
    obtain ⟨rfl, -⟩ := List.cons.inj hp
    exact ⟨due_take t (some now) h.1, now, rfl, le_rfl, le_rfl⟩
  | continues => exact h
  | finishes => exact tells_endLast h
  | quits | stops | breaksOff => exact trivial

theorem follows_reached (h : passes.IsChain (Follows period)) (hreaction : b.Reaction b') :
    (b.passesReached now b' passes).IsChain (Follows period) := by
  cases hreaction with
  | stays => cases b <;> exact h
  | finishes => exact follows_endLast h
  | ends => cases b <;> exact h

/-- A step of the task's own leaves the distances: only a tick adds a pass. -/
theorem follows_turned {mayBegin canceled : Bool} (h : passes.IsChain (Follows period))
    (htells : Tells period now passes b) (hturn : b.Turn now mayBegin canceled b') :
    (b.passesTurned now b' passes).IsChain (Follows period) := by
  cases hturn with
  | prepares | begins | continues | quits | stops | breaksOff => exact h
  | starts hdue | blinks hdue => exact follows_started htells hdue h _
  | finishes => exact follows_endLast h

/-! ### If a tick is taken as soon as it can be -/

/-- What the beat of a task tells of the moment `now`, if the clock waits for the task: it is the
moment at which the task may begin; or it is not past the one at which the next pass can start. -/
def Bounds (openSince? : Option Moment) (now : Moment) (passes : List TickPass) : Beat → Prop
  | .unbegun _ => ∀ m, openSince? = some m → m = now
  | .waiting t => (passes = [] → openSince? = some now ∧ t.due = now) ∧
    ∀ p rest finish, passes = p :: rest → p.finish? = some finish → now ≤ max t.due finish
  | _ => True

/-- The first pass starts at once. -/
def StartsAtOnce (openSince? : Option Moment) (passes : List TickPass) : Prop :=
  ∀ p, passes.getLast? = some p → openSince? = some p.due ∧ p.start = p.due

variable {openSince? : Option Moment}

theorem startsAtOnce_endLast (h : StartsAtOnce openSince? passes) :
    StartsAtOnce openSince? (endLast now passes) := by
  match passes with
  | [] => exact h
  | [p] =>
    intro q hq
    obtain rfl := Option.some.inj hq
    exact h p rfl
  | p :: r :: rest =>
    intro q hq
    exact h q hq

theorem followsInTime_endLast (h : passes.IsChain FollowsInTime) :
    (endLast now passes).IsChain FollowsInTime := by
  cases passes with
  | nil => exact h
  | cons p rest => exact isChain_ended (fun r hr => ⟨hr.onTime, hr.overrun⟩) h

/-- The pass that a tick starts is in time: the clock has not gone past its moment, nor could it
start before. -/
theorem inTime_started {t : Ticker} (htells : Tells period now passes (.waiting t))
    (hbounds : Bounds openSince? now passes (.waiting t)) (hdue : t.due ≤ now)
    (hfirst : StartsAtOnce openSince? passes) (hfollows : passes.IsChain FollowsInTime)
    (finish? : Option Moment) :
    StartsAtOnce openSince? (⟨t.due, now, finish?⟩ :: passes) ∧
      ((⟨t.due, now, finish?⟩ : TickPass) :: passes).IsChain FollowsInTime := by
  cases passes with
  | nil =>
    obtain ⟨hopen, heq⟩ := hbounds.1 rfl
    refine ⟨fun q hq => ?_, .singleton _⟩
    rw [List.getLast?_singleton] at hq
    obtain rfl := Option.some.inj hq
    exact ⟨hopen.trans (congrArg some heq.symm), heq.symm⟩
  -- The moment is not past the later of the two (`hle`), and the tick is due.
  | cons p rest =>
    obtain ⟨-, finish, hfinish, -, hnow⟩ := htells.2 p rest rfl
    have hle := hbounds.2 p rest finish rfl hfinish
    refine ⟨fun q hq => hfirst q (by simpa using hq), ?_⟩
    rw [List.isChain_cons_cons]
    refine ⟨followsInTime_of_eq_max hfinish ?_, hfollows⟩
    exact le_antisymm hle (max_le hdue hnow)

theorem inTime_reached (hfirst : StartsAtOnce openSince? passes)
    (hfollows : passes.IsChain FollowsInTime) (hreaction : b.Reaction b') :
    StartsAtOnce openSince? (b.passesReached now b' passes) ∧
      (b.passesReached now b' passes).IsChain FollowsInTime := by
  cases hreaction with
  | stays => cases b <;> exact ⟨hfirst, hfollows⟩
  | finishes => exact ⟨startsAtOnce_endLast hfirst, followsInTime_endLast hfollows⟩
  | ends => cases b <;> exact ⟨hfirst, hfollows⟩

/-- A step of the task's own leaves it that passes start in time, since a tick that is taken starts
one in time. -/
theorem inTime_turned {mayBegin canceled : Bool} (htells : Tells period now passes b)
    (hbounds : Bounds openSince? now passes b) (hfirst : StartsAtOnce openSince? passes)
    (hfollows : passes.IsChain FollowsInTime) (hturn : b.Turn now mayBegin canceled b') :
    StartsAtOnce openSince? (b.passesTurned now b' passes) ∧
      (b.passesTurned now b' passes).IsChain FollowsInTime := by
  cases hturn with
  | prepares | begins | continues | quits | stops | breaksOff => exact ⟨hfirst, hfollows⟩
  | starts hdue | blinks hdue => exact inTime_started htells hbounds hdue hfirst hfollows _
  | finishes => exact ⟨startsAtOnce_endLast hfirst, followsInTime_endLast hfollows⟩

/-- Behind a pass that ends now, the next one is not late. -/
theorem bounds_endLast {t : Ticker} (h : Tells period now passes (.passing t)) :
    Bounds openSince? now (endLast now passes) (.waiting t) := by
  obtain ⟨-, p, rest, rfl, -, -⟩ := h
  refine ⟨fun h => absurd h (List.cons_ne_nil _ _), fun q others finish hq hfinish => ?_⟩
  obtain ⟨rfl, -⟩ := List.cons.inj hq
  obtain rfl := Option.some.inj hfinish
  exact Nat.le_max_right _ _

theorem bounds_reached (htells : Tells period now passes b)
    (hbounds : Bounds openSince? now passes b) (hreaction : b.Reaction b') :
    Bounds openSince? now (b.passesReached now b' passes) b' := by
  cases hreaction with
  | stays => cases b <;> exact hbounds
  | finishes => exact bounds_endLast htells
  | ends => exact trivial

/-- A step of the task's own keeps the clock within its bounds: behind a pass that ends `now` the
next one is not late. -/
theorem bounds_turned {canceled : Bool} (htells : Tells period now passes b)
    (hbounds : Bounds openSince? now passes b)
    (hturn : b.Turn now openSince?.isSome canceled b') :
    Bounds openSince? now (b.passesTurned now b' passes) b' := by
  cases hturn with
  | prepares => exact hbounds
  -- The first tick is due at the moment at which the task may begin.
  | begins hopen =>
    obtain ⟨-, rfl⟩ := htells
    obtain ⟨m, hm⟩ := Option.isSome_iff_exists.mp hopen
    obtain rfl := hbounds m hm
    exact ⟨fun _ => ⟨hm, rfl⟩, fun p rest finish hp => by cases hp⟩
  | starts | continues | quits | stops | breaksOff => exact trivial
  | blinks =>
    refine ⟨fun h => absurd h (List.cons_ne_nil _ _), fun q others finish hq hfinish => ?_⟩
    obtain ⟨rfl, -⟩ := List.cons.inj hq
    obtain rfl := Option.some.inj hfinish
    exact Nat.le_max_right _ _
  | finishes => exact bounds_endLast htells

end TickPass

end FleetAgent
