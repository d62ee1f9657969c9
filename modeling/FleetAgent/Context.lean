/-!
# Shutdown and deadlines

Everything the agent waits for is waited for in a *context*: it is called off when the agent is shut
down, and given up when a deadline passes. A context is narrowed by `Context.withTimeout`, which can
only bring the deadline nearer; that a context follows the shutdown is never changed.

When several things are due at once, shutdown comes first, then the deadline, then the work that is
waited for (`Context.poll`). Work in a context (`Context.run`) is not polled once the context has
ended. Moments are milliseconds on a clock that only moves forward.

`Work` is what a poll at a moment gives and when the clock wakes it. `Work.await` polls it at given
moments, and `Work.settle` at those at which the clock alone would.
-/

namespace FleetAgent

/-- A moment of the clock, in milliseconds. A deadline at a moment has passed from that moment
on. -/
abbrev Moment := Nat

/-! ### The shutdown signal -/

/-- The signal that shuts the agent down. It is raised for good once its owner has triggered it or
is gone. -/
structure Signal where
  /-- Whether it was triggered. -/
  triggered : Bool
  /-- Whether its owner is gone. Then nobody can trigger it any more. -/
  dropped : Bool
deriving Repr, DecidableEq

namespace Signal

/-- A signal that has not been triggered, and whose owner is there. -/
def fresh : Signal := ⟨false, false⟩

/-- The owner triggers the signal. An owner who is gone cannot do so any more. -/
def trigger (s : Signal) : Signal :=
  if s.dropped then s else { s with triggered := true }

/-- The owner goes away, and with it the way to trigger the signal. -/
def drop (s : Signal) : Signal :=
  { s with dropped := true }

/-- Whether the agent is to shut down: the signal was triggered, or nobody is left to do so. -/
def isRaised (s : Signal) : Bool :=
  s.triggered || s.dropped

@[simp] theorem isRaised_fresh : fresh.isRaised = false := rfl

@[simp] theorem isRaised_trigger (s : Signal) : s.trigger.isRaised = true := by
  cases h : s.dropped <;> simp [trigger, isRaised, h]

@[simp] theorem isRaised_drop (s : Signal) : s.drop.isRaised = true := by
  simp [drop, isRaised]

end Signal

/-! ### Contexts -/

/-- Why something is no longer waited for, although it has not come. -/
inductive Interruption where
  /-- The agent is shut down. -/
  | canceled
  /-- The deadline has passed. -/
  | timeout
deriving Repr, DecidableEq

/-- The circumstances under which something is waited for: whether the shutdown ends it, and until
when it may take. -/
structure Context where
  /-- Whether it ends with the shutdown of the agent. -/
  attached : Bool
  /-- The moment from which on it is given up. -/
  deadline? : Option Moment
deriving Repr, DecidableEq

namespace Context

/-- Until the agent is shut down, without a deadline. -/
def root : Context := ⟨true, none⟩

/-- Without an end: neither the shutdown nor a deadline ends what is waited for. -/
def detached : Context := ⟨false, none⟩

/-- The context `ctx`, and no longer than `timeout` milliseconds from `now` on. A nearer deadline
stays. -/
def withTimeout (ctx : Context) (now : Moment) (timeout : Nat) : Context :=
  { ctx with deadline? := some (match ctx.deadline? with
      | some d => min d (now + timeout)
      | none => now + timeout) }

/-- Whether the context is called off under `signal`. A detached one never is. -/
def isCanceled (ctx : Context) (signal : Signal) : Bool :=
  ctx.attached && signal.isRaised

/-- Whether the deadline has passed at `now`. -/
def isExpired (ctx : Context) (now : Moment) : Bool :=
  match ctx.deadline? with
  | some d => d ≤ now
  | none => false

/-- What has become of work that is waited for; `none` if it is to be waited for still. `work` is
what the work has given so far; it does not matter once the context is called off or has expired. -/
def poll {α : Type} (ctx : Context) (signal : Signal) (now : Moment) (work : Option α) :
    Option (Except Interruption α) :=
  -- The order of the three is that in which they win when they are due at once.
  if ctx.isCanceled signal then some (.error .canceled)
  else if ctx.isExpired now then some (.error .timeout)
  else work.map .ok

/-- The next moment at which the clock alone ends the waiting for work that is complete at `ready?`:
that moment or the deadline, whichever comes first. -/
def nextMoment? (ctx : Context) (ready? : Option Moment) : Option Moment :=
  match ctx.deadline?, ready? with
  | some d, some r => some (min d r)
  | some d, none => some d
  | none, r => r

@[simp] theorem attached_withTimeout (ctx : Context) (now : Moment) (timeout : Nat) :
    (ctx.withTimeout now timeout).attached = ctx.attached := rfl

@[simp] theorem isCanceled_withTimeout (ctx : Context) (now : Moment) (timeout : Nat)
    (signal : Signal) : (ctx.withTimeout now timeout).isCanceled signal = ctx.isCanceled signal :=
  rfl

/-- In a context that is called off, a poll gives that, whatever the work has given and whenever the
deadline was. -/
theorem poll_of_isCanceled {α : Type} {ctx : Context} {signal : Signal} (now : Moment)
    (work : Option α) (h : ctx.isCanceled signal = true) :
    ctx.poll signal now work = some (.error .canceled) := by
  simp [poll, h]

end Context

/-! ### Work -/

/-- Work that goes on whenever it is polled, until it is complete and has given a value of type `α`.
Its polls act on a state of type `σ`, which may be shared with other work. -/
@[ext]
structure Work (σ α : Type) where
  /-- What a poll at a moment gives, if the work is complete, and the state that it leaves. -/
  poll : Signal → Moment → σ → Option α × σ
  /-- The moment at which the clock completes it, if it does. -/
  wake? : Option Moment

namespace Work

variable {σ α : Type}

/-- Work that gives `a` from the moment `ready?` on, or never. It leaves the state as it is. -/
def due (ready? : Option Moment) (a : α) : Work σ α where
  poll _ now s := (ready?.bind fun r => if r ≤ now then some a else none, s)
  wake? := ready?

/-- What the work `w` gives and when, if it is polled at the given moments until it is complete, and
the state that it leaves. `signal` is the signal at each moment. -/
def await (w : Work σ α) (signal : Moment → Signal) : List Moment → σ → Option (α × Moment) × σ
  | [], s => (none, s)
  | m :: rest, s =>
    match w.poll (signal m) m s with
    | (some a, s) => (some (a, m), s)
    | (none, s) => w.await signal rest s

/-- How work goes on by itself from `now` up to `limit`, under a signal that does not change: it is
polled now, and when the clock wakes it. -/
def settle (w : Work σ α) (signal : Signal) (now limit : Moment) (s : σ) :
    Option (α × Moment) × σ :=
  w.await (fun _ => signal) (now :: w.wake?.toList.filter (· ≤ limit)) s

section Await

variable {w : Work σ α} {signal : Moment → Signal} {m : Moment} {s : σ}

/-- A poll that does not complete the work leaves the rest of the moments to it. -/
theorem await_of_none (h : (w.poll (signal m) m s).1 = none) (rest : List Moment) :
    w.await signal (m :: rest) s = w.await signal rest (w.poll (signal m) m s).2 := by
  rw [await]
  split
  next a s' hpoll =>
    rw [hpoll] at h
    cases h
  next s' hpoll => rw [hpoll]

/-- A poll that completes the work with `a` is the last one. -/
theorem await_of_some {a : α} (h : (w.poll (signal m) m s).1 = some a) (rest : List Moment) :
    w.await signal (m :: rest) s = (some (a, m), (w.poll (signal m) m s).2) := by
  rw [await]
  split
  next a' s' hpoll =>
    rw [hpoll] at h
    cases h
    rw [hpoll]
  next s' hpoll =>
    rw [hpoll] at h
    cases h

end Await

end Work

namespace Context

variable {σ α : Type}

/-- The work `w` in a context. Once the context has ended, the work is not polled any more, and its
state stays as it is. -/
def run (ctx : Context) (w : Work σ α) : Work σ (Except Interruption α) where
  poll signal now s :=
    match ctx.poll signal now (none : Option α) with
    | some interruption => (some interruption, s)
    | none =>
      let (a?, s) := w.poll signal now s
      (a?.map .ok, s)
  wake? := ctx.nextMoment? w.wake?

/-- The wait for the context to be called off. A deadline does not end it. -/
def cancellation (ctx : Context) : Work σ (Except Interruption α) where
  poll signal _ s := (if ctx.isCanceled signal then some (.error .canceled) else none, s)
  wake? := none

end Context

/-! ### Waiting on a clock -/

/-- Something that is waited for on a clock, of which only the end matters. -/
inductive Wait where
  /-- Work that is complete at a moment, or never, in a context. -/
  | work (ctx : Context) (ready? : Option Moment)
  /-- That a context is called off. -/
  | cancellation (ctx : Context)
deriving Repr, DecidableEq

/-- The longest time that a sleep takes: thirty years of 365 days. -/
def longestSleep : Nat := 946080000000

namespace Wait

/-- A sleep in a context, of `duration` milliseconds from `now` on, up to `longestSleep`. -/
def sleep (ctx : Context) (now : Moment) (duration : Nat) : Wait :=
  .work ctx (some (now + min duration longestSleep))

/-- The work that is done in a wait. It has no state of its own. -/
def toWork : Wait → Work Unit (Except Interruption Unit)
  | .work ctx ready? => ctx.run (.due ready? ())
  | .cancellation ctx => ctx.cancellation

/-- What has become of the wait at the moment `now`; `none` if it goes on. -/
def poll (w : Wait) (signal : Signal) (now : Moment) : Option (Except Interruption Unit) :=
  (w.toWork.poll signal now ()).1

/-- The next moment at which the clock alone ends the wait. -/
def nextMoment? (w : Wait) : Option Moment :=
  w.toWork.wake?

/-- How the wait ends on its own from `now` up to `limit`, and when, if it does. -/
def settle (w : Wait) (signal : Signal) (now limit : Moment) :
    Option (Except Interruption Unit × Moment) :=
  (w.toWork.settle signal now limit ()).1

end Wait

end FleetAgent
