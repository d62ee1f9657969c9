import FleetAgent.Context.Course
import FleetAgent.Proofs.Context.Narrowing
/-!
# Shutdown, deadline and work race

Work in a context `ctx` ends at the first of three moments, if it is not started later: when the
context is called off (`ctx.cancellation? course`), at its deadline (`ctx.deadline?`), or when the
work is complete (`ready?`). That is `Context.firstDue?`. What is due then decides how it ends: the
shutdown first, then the deadline, then the work (`Context.ending`). `Context.run_races` says so of
every context, every course of the shutdown signal and all moments at which the work is polled, and
that a context around this one makes no difference.

Polls before the first of the three moments give nothing (`Context.fst_poll_run_eq_none`), whatever
they do to the state `s` of the work, and one of the polls is at that moment or at the start
(`Context.mem_of_firstDue`). `Work.await_of_settled` makes of the two that the work ends there.
-/

namespace FleetAgent

variable {σ α : Type}

/-! ### The signal over time -/

/-- The signal is raised by the first of `changes`, and stays raised. -/
theorem Signal.isRaised_foldl_change (s : Signal) (changes : List SignalChange) :
    (changes.foldl Signal.change s).isRaised = (s.isRaised || !changes.isEmpty) := by
  induction changes generalizing s with
  | nil => simp
  | cons c rest ih =>
    have hchange : (s.change c).isRaised = true := by
      cases c with
      | trigger => exact isRaised_trigger s
      | drop => exact isRaised_drop s
    rw [List.foldl_cons, ih, hchange]
    simp

/-- The signal of a `course` is raised from the first of its moments on. -/
theorem Course.isRaised_signal (course : Course) (m : Moment) :
    (course.signal m).isRaised = hasCome course.moments.min? m := by
  rw [signal, Signal.isRaised_foldl_change, Signal.isRaised_fresh, Bool.false_or, hasCome_min?,
    moments, List.any_map]
  rw [Bool.eq_iff_iff]
  simp

/-- A context is called off from the moment `ctx.cancellation? course` on, if there is one. -/
theorem Context.isCanceled_signal (ctx : Context) (course : Course) (m : Moment) :
    ctx.isCanceled (course.signal m) = hasCome (ctx.cancellation? course) m := by
  rw [isCanceled, course.isRaised_signal, cancellation?]
  cases ctx.attached <;> rfl

/-! ### Polls in order -/

namespace Work

variable {w : Work σ α} {signal : Moment → Signal} {moments : List Moment} {t : Moment} {a : α}

/-- Work that no poll completes gives nothing. -/
theorem await_of_pending (h : ∀ m ∈ moments, ∀ s, (w.poll (signal m) m s).1 = none) (s : σ) :
    (w.await signal moments s).1 = none := by
  induction moments generalizing s with
  | nil => rfl
  | cons m rest ih =>
    rw [await_of_none (h m List.mem_cons_self s)]
    exact ih (fun m hm => h m (List.mem_cons_of_mem _ hm)) _

/-- **Work ends at the first poll that completes it**, the one at `t`, whatever the polls before do
to its state. The induction is on the moments, with the state free. -/
theorem await_of_settled (hsorted : moments.Pairwise (· ≤ ·)) (ht : t ∈ moments)
    (hbefore : ∀ m ∈ moments, m < t → ∀ s, (w.poll (signal m) m s).1 = none)
    (hat : ∀ s, (w.poll (signal t) t s).1 = some a) (s : σ) :
    (w.await signal moments s).1 = some (a, t) := by
  induction moments generalizing s with
  | nil => cases ht
  | cons m rest ih =>
    obtain ⟨hfirst, hrest⟩ := List.pairwise_cons.mp hsorted
    have hle : m ≤ t := by
      rcases List.mem_cons.mp ht with rfl | hlater
      · exact Nat.le_refl t
      · exact hfirst t hlater
    -- The first poll is the one at `t`, or comes before it and gives nothing.
    rcases hle.eq_or_lt with rfl | hlt
    · rw [await_of_some (hat s)]
    · rw [await_of_none (hbefore m List.mem_cons_self hlt s)]
      have hlater : t ∈ rest := (List.mem_cons.mp ht).resolve_left hlt.ne'
      exact ih hrest hlater (fun m hm => hbefore m (List.mem_cons_of_mem _ hm)) _

/-- Work that is complete from a moment on, or never, and gives `a` then. Its polls may do anything
to its state. -/
structure CompletesAt (w : Work σ α) (ready? : Option Moment) (a : α) : Prop where
  /-- The clock wakes it when it is complete. -/
  wake?_eq : w.wake? = ready?
  /-- A poll gives `a` from that moment on, and nothing before. -/
  poll_eq : ∀ signal m s, (w.poll signal m s).1 = if hasCome ready? m then some a else none

/-- Work that is due at `ready?` is complete then. -/
theorem completesAt_due (ready? : Option Moment) (a : α) :
    (due ready? a : Work σ α).CompletesAt ready? a where
  wake?_eq := rfl
  poll_eq _ m _ := by
    cases ready? with
    | none => rfl
    | some r => simp [due]

end Work

/-! ### The race -/

namespace Context

open Interruption (flatten)

variable {ctx : Context} {course : Course} {w : Work σ α} {ready? : Option Moment}
  {a : α} {start : Moment} {moments : List Moment}

/-- The first moment at which something is due that ends work in a context. -/
def firstDue? (ctx : Context) (course : Course) (ready? : Option Moment) : Option Moment :=
  Option.merge min (ctx.cancellation? course) (Option.merge min ctx.deadline? ready?)

/-- How work in `ctx` ends that is started at `start`, and when: as soon as something is due, or at
once. Of what is due then, the shutdown comes first, then the deadline, then the work. -/
def ending (ctx : Context) (course : Course) (ready? : Option Moment) (a : α) (start : Moment) :
    Option (Except Interruption α × Moment) :=
  (ctx.firstDue? course ready?).map fun first =>
    let t := max start first
    (if hasCome (ctx.cancellation? course) t then .error .canceled
      else if hasCome ctx.deadline? t then .error .timeout
      else .ok a, t)

/-- Work does not end before its `start`, nor later than the deadline `d` if that has not passed. -/
theorem bounds_of_ending {r : Except Interruption α} {m d : Moment}
    (h : ctx.ending course ready? a start = some (r, m)) (hd : ctx.deadline? = some d) :
    start ≤ m ∧ m ≤ max start d := by
  obtain ⟨first, hfirst, heq⟩ := Option.map_eq_some_iff.mp h
  obtain rfl : max start first = m := congrArg Prod.snd heq
  have hle : first ≤ d := by
    have hcome : hasCome (ctx.firstDue? course ready?) d = true := by
      rw [firstDue?, hasCome_merge, hasCome_merge, hd, hasCome_some, decide_eq_true (Nat.le_refl d),
        Bool.true_or, Bool.or_true]
    rw [hfirst, hasCome_some] at hcome
    exact of_decide_eq_true hcome
  exact ⟨le_max_left start first, max_le_max_left start hle⟩

/-- Something is due as soon as one of the three moments has come: that of the shutdown, that of the
deadline, and `ready?`. -/
theorem hasCome_firstDue? (ctx : Context) (course : Course) (ready? : Option Moment) (m : Moment) :
    hasCome (ctx.firstDue? course ready?) m =
      (hasCome (ctx.cancellation? course) m || (hasCome ctx.deadline? m || hasCome ready? m)) := by
  rw [firstDue?, hasCome_merge, hasCome_merge]

/-- What a poll in `ctx` gives at `m`, for work that is complete at `ready?`: it does not depend on
the state. -/
theorem fst_poll_run (ctx : Context) (hw : w.CompletesAt ready? a) (signal : Signal) (m : Moment)
    (s : σ) :
    ((ctx.run w).poll signal m s).1 =
      if ctx.isCanceled signal then some (.error .canceled)
      else if hasCome ctx.deadline? m then some (.error .timeout)
      else if hasCome ready? m then some (.ok a) else none := by
  rw [poll_run, isExpired_eq, apply_ite Prod.fst, apply_ite Prod.fst, hw.poll_eq,
    apply_ite (Option.map Except.ok)]
  rfl

/-- A poll gives nothing while none of the three moments has come. -/
theorem fst_poll_run_eq_none (hw : w.CompletesAt ready? a) {m : Moment}
    (hm : hasCome (ctx.firstDue? course ready?) m = false) (s : σ) :
    ((ctx.run w).poll (course.signal m) m s).1 = none := by
  simp only [hasCome_firstDue?, Bool.or_eq_false_iff] at hm
  obtain ⟨hcanceled, hexpired, hready⟩ := hm
  rw [fst_poll_run _ hw, isCanceled_signal, hcanceled, hexpired, hready]
  rfl

/-- Work is polled at `max start first`: at the first moment at which something is due, or at its
start if that is later. -/
theorem mem_of_firstDue (hw : w.CompletesAt ready? a)
    (hpolled : (ctx.run w).IsPolled course start moments) {first : Moment}
    (hfirst : ctx.firstDue? course ready? = some first) : max start first ∈ moments := by
  rcases Nat.le_total first start with hle | hle
  · rw [Nat.max_eq_left hle]
    exact List.mem_of_head? hpolled.head?_eq
  rw [Nat.max_eq_right hle]
  -- Either the shutdown is the first, and is noticed, or the clock is, and wakes the work.
  rw [firstDue?, ← hw.wake?_eq, ← nextMoment?_eq] at hfirst
  rcases Option.merge_eq_or_eq min_choice (ctx.cancellation? course) (ctx.nextMoment? w.wake?)
    with hcanceled | hwake
  · rw [hcanceled, cancellation?, Option.ite_none_right_eq_some] at hfirst
    exact hpolled.notices first (List.min?_mem hfirst.2) hle
  · exact hpolled.wakes first (hwake.symm.trans hfirst) hle

/-- **Work in a context ends as soon as something is due**, and what is due then decides how: the
first component of `await` is the `ending`. If nothing ever is due, every poll gives nothing, and
neither does the wait. -/
theorem fst_await_run (hw : w.CompletesAt ready? a)
    (hpolled : (ctx.run w).IsPolled course start moments) (s : σ) :
    ((ctx.run w).await course.signal moments s).1 = ctx.ending course ready? a start := by
  cases hfirst : ctx.firstDue? course ready? with
  | none =>
    rw [ending, hfirst, Option.map_none]
    refine Work.await_of_pending (fun m _ s => fst_poll_run_eq_none hw ?_ s) s
    rw [hfirst, hasCome_none]
  | some first =>
    rw [ending, hfirst, Option.map_some]
    refine Work.await_of_settled hpolled.sorted (mem_of_firstDue hw hpolled hfirst)
      (fun m hm hlt s => fst_poll_run_eq_none hw ?_ s) (fun s => ?_) s
    -- Before the first moment nothing is due.
    · have hstart : start ≤ m := hpolled.le_of_mem hm
      have hnot : ¬ first ≤ m := fun hle => hlt.not_ge (max_le hstart hle)
      rw [hfirst, hasCome_some, decide_eq_false hnot]
    -- At it something is: if neither the shutdown nor the deadline, then the work.
    · have hdue : hasCome (ctx.firstDue? course ready?) (max start first) = true := by
        rw [hfirst, hasCome_some, decide_eq_true (le_max_right start first)]
      rw [hasCome_firstDue?] at hdue
      rw [fst_poll_run _ hw, isCanceled_signal]
      cases hcanceled : hasCome (ctx.cancellation? course) (max start first)
      · cases hexpired : hasCome ctx.deadline? (max start first)
        · rw [hcanceled, hexpired, Bool.false_or, Bool.false_or] at hdue
          simp [hdue]
        · simp
      · simp

/-- Work in a context with a deadline `d` ends by `d`, or at once, whether or not it is ever
complete. -/
theorem exists_await_run (hw : w.CompletesAt ready? a)
    (hpolled : (ctx.run w).IsPolled course start moments) {d : Moment}
    (hd : ctx.deadline? = some d) (s : σ) :
    ∃ r m, ((ctx.run w).await course.signal moments s).1 = some (r, m) ∧ start ≤ m ∧
      m ≤ max start d := by
  rw [fst_await_run hw hpolled]
  have hsome : (ctx.ending course ready? a start).isSome = true := by
    rw [ending, firstDue?, hd]
    cases ctx.cancellation? course <;> cases ready? <;> rfl
  obtain ⟨⟨r, m⟩, hending⟩ := Option.isSome_iff_exists.mp hsome
  exact ⟨r, m, hending, bounds_of_ending hending hd⟩

/-- Work in a context that is called off already is not polled. -/
theorem await_run_of_canceled {signal : Moment → Signal} (hhead : moments.head? = some start)
    (hcanceled : ctx.isCanceled (signal start) = true) (w : Work σ α) (s : σ) :
    (ctx.run w).await signal moments s = (some (.error .canceled, start), s) := by
  obtain ⟨rest, rfl⟩ := List.head?_eq_some_iff.mp hhead
  have hpoll : (ctx.run w).poll (signal start) start s = (some (.error .canceled), s) := by
    rw [poll_run, if_pos hcanceled]
  rw [Work.await_of_some (congrArg Prod.fst hpoll), hpoll]

/-- How the work `w` ends in the context `inner`, alone and within `outer`, if it is polled at
`moments` from `start` on. -/
structure Races (outer inner : Context) (w : Work σ α) (ready? : Option Moment) (a : α)
    (course : Course) (start : Moment) (moments : List Moment) (s : σ) : Prop where
  /-- It ends as soon as something is due, if ever, and what is due then decides how. -/
  ends : ((inner.run w).await course.signal moments s).1 = inner.ending course ready? a start
  /-- If the context is called off by the start, the work is not polled at all. -/
  untouched : hasCome (inner.cancellation? course) start = true →
    (inner.run w).await course.signal moments s = (some (.error .canceled, start), s)
  /-- In the other context as well it is polled whenever it must be. -/
  polled : (outer.run (inner.run w)).IsPolled course start moments
  /-- There it gives the same at the same moment, after the same polls. -/
  composes :
    let nested := (outer.run (inner.run w)).await course.signal moments s
    (nested.1.map fun (r, m) => (flatten r, m), nested.2) =
      (inner.run w).await course.signal moments s

/-- **Shutdown, deadline and work race in one order, and contexts compose.** Work `w` that is
complete at the moment `ready?` or never, in a context `ctx` that was narrowed by any chain of
`links`, ends at the first of the three moments, or at its `start` if that is later; it is called
off if the shutdown is due by then, else given up if the deadline is, and else complete. The context
that was narrowed makes no difference around it. -/
theorem run_races (ctx : Context) (links : List Link) (course : Course) (start : Moment) (s : σ)
    (hw : w.CompletesAt ready? a)
    (hpolled : ((ctx.narrow links).run w).IsPolled course start moments) :
    ctx.Races (ctx.narrow links) w ready? a course start moments s where
  ends := fst_await_run hw hpolled s
  untouched hcanceled := by
    refine await_run_of_canceled hpolled.head?_eq ?_ w s
    rw [isCanceled_signal, hcanceled]
  polled := hpolled.of_wake?_eq ((Within.narrow ctx links).nextMoment?_eq w.wake?)
  composes := by
    have hnested := Work.await_map flatten (ctx.run ((ctx.narrow links).run w)) course.signal
      moments s
    rw [map_run_run (Within.narrow ctx links)] at hnested
    exact hnested.symm

/-- **The deadline comes before work that is complete at the same moment.** The deadline of the
outer context is at 100, that of the inner one at 40. The polls before are counted. -/
theorem run_races_at_deadline :
    ∃ w : Work Nat String,
      w.CompletesAt (some 40) "done" ∧
      ((root.narrow [⟨0, 100⟩, ⟨10, 30⟩]).run w).IsPolled [(70, .trigger)] 20 [20, 30, 40, 70] ∧
      root.Races (root.narrow [⟨0, 100⟩, ⟨10, 30⟩]) w (some 40) "done" [(70, .trigger)] 20
        [20, 30, 40, 70] 0 ∧
      ((root.narrow [⟨0, 100⟩, ⟨10, 30⟩]).run w).await (Course.signal [(70, .trigger)])
        [20, 30, 40, 70] 0 = (some (.error .timeout, 40), 2) := by
  let w : Work Nat String :=
    ⟨fun _ now polls => (if hasCome (some 40) now then some "done" else none, polls + 1), some 40⟩
  have hw : w.CompletesAt (some 40) "done" := ⟨rfl, fun _ _ _ => rfl⟩
  have hpolled : ((root.narrow [⟨0, 100⟩, ⟨10, 30⟩]).run w).IsPolled [(70, .trigger)] 20
      [20, 30, 40, 70] :=
    ⟨rfl, by decide, fun m hm _ => by cases hm; decide, by decide⟩
  exact ⟨w, hw, hpolled, run_races root [⟨0, 100⟩, ⟨10, 30⟩] [(70, .trigger)] 20 0 hw hpolled, rfl⟩

end Context

end FleetAgent
