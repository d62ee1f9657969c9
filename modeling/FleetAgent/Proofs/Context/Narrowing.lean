import FleetAgent.Context
import Mathlib.Order.MinMax
/-!
# Contexts within contexts

A context that is derived from `ctx` by the timeouts `links`, one after the other, is
`ctx.narrow links`. Its deadline is the first of all (`Context.deadline?_narrow`), and it is called
off when `ctx` is: it is `Within` it (`Within.narrow`).

That is all it takes for contexts to be nested. If `inner` is within `outer`, then
`outer.run (inner.run w)` gives the same as `inner.run w` at every poll (`Context.map_run_run`),
once the two layers of interruptions are read as one.
-/

namespace FleetAgent

/-! ### Moments that have come -/

/-- Whether the moment `moment?`, if there is one, has come at `now`. One that is `none` never
comes. -/
def hasCome (moment? : Option Moment) (now : Moment) : Bool :=
  moment?.any (· ≤ now)

@[simp] theorem hasCome_none (now : Moment) : hasCome none now = false := rfl

@[simp] theorem hasCome_some (m now : Moment) : hasCome (some m) now = decide (m ≤ now) := rfl

/-- The first of two moments has come as soon as one of them has. A moment that is `none` never
comes. -/
@[simp]
theorem hasCome_merge (a? b? : Option Moment) (now : Moment) :
    hasCome (Option.merge min a? b?) now = (hasCome a? now || hasCome b? now) := by
  refine Option.any_merge fun a b => ?_
  rw [← Bool.decide_or]
  exact decide_eq_decide.mpr min_le_iff

/-- The first of several `moments` has come as soon as one of them has. -/
theorem hasCome_min? (moments : List Moment) (now : Moment) :
    hasCome moments.min? now = moments.any (· ≤ now) := by
  induction moments with
  | nil => rfl
  | cons m rest ih =>
    have hfirst : (m :: rest).min? = Option.merge min (some m) rest.min? := by
      rw [List.min?_cons]
      cases rest.min? <;> rfl
    rw [hfirst, hasCome_merge, ih, List.any_cons]
    rfl

namespace Context

theorem isExpired_eq (ctx : Context) (now : Moment) :
    ctx.isExpired now = hasCome ctx.deadline? now := by
  rw [isExpired]
  cases ctx.deadline? <;> rfl

/-- The clock ends work in `ctx` at the deadline or when it is ready, whichever comes first. -/
theorem nextMoment?_eq (ctx : Context) (ready? : Option Moment) :
    ctx.nextMoment? ready? = Option.merge min ctx.deadline? ready? := by
  rw [nextMoment?.eq_def]
  split
  next d r hd => rw [hd, Option.merge]
  next d hd => rw [hd, Option.merge_none_right]
  next r hd => rw [hd, Option.merge_none_left]

/-- A timeout from `now` on makes the deadline `now + timeout`, or leaves the one that comes
before. -/
theorem deadline?_withTimeout (ctx : Context) (now : Moment) (timeout : Nat) :
    (ctx.withTimeout now timeout).deadline? =
      Option.merge min ctx.deadline? (some (now + timeout)) := by
  rw [withTimeout]
  cases ctx.deadline? <;> rfl

end Context

/-! ### Chains of timeouts -/

/-- A timeout by which a context is narrowed. -/
structure Link where
  /-- The moment from which on it counts. -/
  since : Moment
  /-- How long it is. -/
  timeout : Nat
deriving Repr, DecidableEq

/-- The moment at which a timeout is over. -/
def Link.due (l : Link) : Moment := l.since + l.timeout

namespace Context

variable {outer inner : Context}

/-- The context `ctx`, narrowed by the timeouts `links` one after the other. -/
def narrow (ctx : Context) (links : List Link) : Context :=
  links.foldl (fun ctx l => ctx.withTimeout l.since l.timeout) ctx

@[simp] theorem narrow_nil (ctx : Context) : ctx.narrow [] = ctx := rfl

theorem narrow_cons (ctx : Context) (l : Link) (links : List Link) :
    ctx.narrow (l :: links) = (ctx.withTimeout l.since l.timeout).narrow links := rfl

theorem narrow_concat (ctx : Context) (links : List Link) (l : Link) :
    ctx.narrow (links ++ [l]) = (ctx.narrow links).withTimeout l.since l.timeout :=
  List.foldl_append

/-- **The deadline of a narrowed context is the first of all**: of the one that was there, and of
the moments at which `links` are over. -/
theorem deadline?_narrow (ctx : Context) (links : List Link) :
    (ctx.narrow links).deadline? = (ctx.deadline?.toList ++ links.map Link.due).min? := by
  induction links generalizing ctx with
  | nil => cases h : ctx.deadline? <;> simp [h]
  | cons l links ih =>
    rw [narrow_cons, ih, deadline?_withTimeout]
    -- Both sides take the first of the same moments from left to right.
    cases ctx.deadline? <;> rfl

/-! ### Contexts within contexts -/

/-- A context is within another if it is called off when the other one is, and its deadline is not
later. -/
structure Within (inner outer : Context) : Prop where
  /-- Both follow the signal, or neither does. -/
  attached_eq : inner.attached = outer.attached
  /-- If `outer` has a deadline, `inner` has one that is not later. -/
  deadline_le : ∀ d, outer.deadline? = some d → ∃ d', inner.deadline? = some d' ∧ d' ≤ d

namespace Within

theorem refl (ctx : Context) : ctx.Within ctx :=
  ⟨rfl, fun d hd => ⟨d, hd, Nat.le_refl d⟩⟩

theorem trans {mid : Context} (h : inner.Within mid) (h' : mid.Within outer) :
    inner.Within outer where
  attached_eq := h.attached_eq.trans h'.attached_eq
  deadline_le d hd := by
    obtain ⟨d', hd', hle'⟩ := h'.deadline_le d hd
    obtain ⟨d'', hd'', hle''⟩ := h.deadline_le d' hd'
    exact ⟨d'', hd'', Nat.le_trans hle'' hle'⟩

/-- A timeout leads to a context within. -/
theorem withTimeout (ctx : Context) (now : Moment) (timeout : Nat) :
    (ctx.withTimeout now timeout).Within ctx where
  attached_eq := rfl
  deadline_le d hd := by
    rw [deadline?_withTimeout, hd]
    exact ⟨_, rfl, Nat.min_le_left d _⟩

/-- So do any number of timeouts, by induction on `links`. -/
theorem narrow (ctx : Context) (links : List Link) : (ctx.narrow links).Within ctx := by
  induction links generalizing ctx with
  | nil => exact refl ctx
  | cons l links ih => exact (ih _).trans (withTimeout ctx l.since l.timeout)

theorem isCanceled_eq (h : inner.Within outer) (signal : Signal) :
    inner.isCanceled signal = outer.isCanceled signal := by
  rw [isCanceled, isCanceled, h.attached_eq]

/-- If the outer context has expired at `now`, so has the inner one. -/
theorem isExpired (h : inner.Within outer) {now : Moment} (hnow : outer.isExpired now = true) :
    inner.isExpired now = true := by
  rw [isExpired_eq] at hnow ⊢
  cases hd : outer.deadline? with
  | none =>
    rw [hd] at hnow
    cases hnow
  | some d =>
    obtain ⟨d', hd', hle⟩ := h.deadline_le d hd
    rw [hd, hasCome_some, decide_eq_true_iff] at hnow
    rw [hd', hasCome_some, decide_eq_true_iff]
    exact Nat.le_trans hle hnow

/-- The clock of the `outer` context does not end the waiting before that of the `inner` one
does. -/
theorem nextMoment?_eq (h : inner.Within outer) (ready? : Option Moment) :
    outer.nextMoment? (inner.nextMoment? ready?) = inner.nextMoment? ready? := by
  rw [Context.nextMoment?_eq, Context.nextMoment?_eq]
  cases hd : outer.deadline? with
  | none => exact Option.merge_none_left
  | some d =>
    obtain ⟨d', hd', hle⟩ := h.deadline_le d hd
    rw [hd']
    cases ready? with
    | none => exact congrArg some (Nat.min_eq_right hle)
    | some r => exact congrArg some (Nat.min_eq_right (Nat.le_trans (Nat.min_le_left d' r) hle))

end Within

end Context

/-! ### Work in a context within another -/

variable {σ α β : Type}

/-- The work `w`, with `f` applied to what it gives. -/
def Work.map (f : α → β) (w : Work σ α) : Work σ β where
  poll signal now s := ((w.poll signal now s).1.map f, (w.poll signal now s).2)
  wake? := w.wake?

/-- Waiting for `w.map f` is waiting for `w`, with `f` applied to what comes back; the polls are the
same. -/
theorem Work.await_map (f : α → β) (w : Work σ α) (signal : Moment → Signal)
    (moments : List Moment) (s : σ) :
    (w.map f).await signal moments s =
      ((w.await signal moments s).1.map fun (a, m) => (f a, m), (w.await signal moments s).2) := by
  induction moments generalizing s with
  | nil => rfl
  | cons m rest ih =>
    -- A poll of the mapped work settles exactly if that of `w` does.
    have hmap : ((w.map f).poll (signal m) m s).1 = (w.poll (signal m) m s).1.map f := rfl
    cases hpoll : (w.poll (signal m) m s).1 with
    | none =>
      rw [hpoll] at hmap
      rw [await_of_none hpoll, await_of_none hmap]
      exact ih _
    | some a =>
      rw [hpoll] at hmap
      rw [await_of_some hpoll, await_of_some hmap]
      rfl

/-- Two layers of interruptions as one: whichever context has interrupted the work, it was
interrupted. -/
def Interruption.flatten (r : Except Interruption (Except Interruption α)) :
    Except Interruption α :=
  r.bind id

namespace Context

open Interruption (flatten)

variable {outer inner : Context}

/-- What a poll of `ctx.run w` comes to. Only if `ctx` is neither called off nor expired is `w`
polled at all, and then the state `s` may change. -/
theorem poll_run (ctx : Context) (w : Work σ α) (signal : Signal) (now : Moment) (s : σ) :
    (ctx.run w).poll signal now s =
      if ctx.isCanceled signal then (some (.error .canceled), s)
      else if ctx.isExpired now then (some (.error .timeout), s)
      else ((w.poll signal now s).1.map .ok, (w.poll signal now s).2) := by
  simp only [run, poll]
  by_cases hcanceled : ctx.isCanceled signal = true
  · simp only [hcanceled, ↓reduceIte]
  · by_cases hexpired : ctx.isExpired now = true <;>
      simp only [hcanceled, hexpired, ↓reduceIte, Bool.false_eq_true, Option.map_none]

/-- **Contexts compose.** Work `w` in a context within another gives the same in the `outer` context
as without it, at every poll; its own polls are the same, so it comes to the same state. `flatten`
takes the interruption of either context for one. -/
theorem map_run_run (h : inner.Within outer) (w : Work σ α) :
    (outer.run (inner.run w)).map flatten = inner.run w := by
  refine Work.ext ?_ (h.nextMoment?_eq w.wake?)
  funext signal now s
  simp only [Work.map, poll_run, h.isCanceled_eq]
  by_cases hcanceled : outer.isCanceled signal = true
  · simp only [hcanceled, ↓reduceIte]
    rfl
  -- The outer context has expired, and so has the inner one: both give a timeout.
  by_cases hexpired : outer.isExpired now = true
  · simp only [hcanceled, hexpired, h.isExpired hexpired, ↓reduceIte]
    rfl
  -- Only the inner one may have expired now; if not, the work itself is polled in both.
  by_cases hexpired' : inner.isExpired now = true
  · simp only [hcanceled, hexpired, hexpired', ↓reduceIte]
    rfl
  · simp only [hcanceled, hexpired, hexpired']
    cases (w.poll signal now s).1 <;> rfl

end Context

end FleetAgent
