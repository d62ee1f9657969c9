import FleetAgent.Collector.Loop
import FleetAgent.Collector.ScriptedStore
import FleetAgent.Proofs.Context.Race
import FleetAgent.Proofs.Orphans
/-!
# A pass accounts for every orphan

A whole pass over the orphans of a bundle, `Pass.run`, is made against a store that may do anything
with a deletion and take any time (`DeletionStore`), while the course `course` does anything with
the shutdown signal. `ObservationKind.pass_accounts` says what was tried then, in which context and
when, and what the report counts: the fields of `PassRun.Accounts`.

A step of a pass is told apart by what ends the pass there, in the relation `Sweeps`: nothing is
left (`done`), the context is called off (`stopped`), the deletion ends as called off (`canceled`),
or the pass goes on to the next orphan (`next`). `sweeps_run` shows that `Pass.run` makes these
steps; every other field of `Accounts` is an induction on `Sweeps`.
-/

namespace FleetAgent

open Controller (ClientError)

variable {κ : Type}

/-! ### Passes against a store -/

/-- What a store does with deletions: how the deletion of an observation ends that is started in a
context at a moment, and how much time it takes. -/
def DeletionStore (κ : Type) := κ → Context → Moment → Except ClientError Unit × Nat

/-- A deletion that a pass has tried. -/
structure PassAttempt (κ : Type) where
  /-- The observation. -/
  key : κ
  /-- The context in which it was to be deleted. -/
  context : Context
  /-- When the deletion was started. -/
  started : Moment
  /-- What came of it. -/
  result : Except ClientError Unit
  /-- When it ended. -/
  ended : Moment

namespace PassAttempt

/-- Whether the observation was deleted. -/
def succeeded (a : PassAttempt κ) : Bool :=
  a.result.isOk

/-- Whether the deletion was called off. -/
def canceled (a : PassAttempt κ) : Bool :=
  match a.result with
  | .ok () => false
  | .error e => e.isCanceled

/-- Whether it has failed otherwise. -/
def failed (a : PassAttempt κ) : Bool :=
  !a.succeeded && !a.canceled

/-- Exactly one of `succeeded`, `failed` and `canceled` holds of an attempt. -/
theorem ends_once (a : PassAttempt κ) :
    (if a.succeeded then 1 else 0) + (if a.failed then 1 else 0) +
      (if a.canceled then 1 else 0) = 1 := by
  obtain ⟨key, context, started, result, ended⟩ := a
  cases result with
  | ok => rfl
  | error e =>
    cases he : e.isCanceled <;>
      simp [succeeded, failed, canceled, Except.isOk, Except.toBool, he]

end PassAttempt

/-- How a pass has gone. -/
structure PassRun (κ : Type) where
  /-- The deletions that were tried, in order. -/
  attempts : List (PassAttempt κ)
  /-- What the pass reports. -/
  report : PassReport
  /-- When it was over. -/
  ended : Moment

/-- The deletion of `key` that is started at `now` in `context`, as `store` ends it. -/
def DeletionStore.attempt (store : DeletionStore κ) (key : κ) (context : Context) (now : Moment) :
    PassAttempt κ :=
  let (result, duration) := store key context now
  ⟨key, context, now, result, now + duration⟩

namespace Pass

/-- How many deletions may still end. -/
def remaining : Pass κ → Nat
  | .deleting _ rest _ => rest.length + 1
  | .over _ => 0

/-- A pass that goes on to `rest` has no more deletions before it than `rest` has orphans; it has
none if `canceled` ends it. -/
theorem remaining_next_le (canceled : Bool) (rest : List (Orphan κ)) (report : PassReport) :
    (next canceled rest report).remaining ≤ rest.length := by
  cases rest with
  | nil => exact Nat.le_refl 0
  | cons o rest =>
    cases canceled with
    | true => exact Nat.zero_le _
    | false => exact Nat.le_refl _

/-- Ending the deletion that is under way makes `remaining` smaller, whatever `result` is: this is
why `Pass.run` comes to an end. -/
theorem remaining_finish_lt (canceled : Bool) (result : Except ClientError Unit) {p : Pass κ}
    (h : p.current? ≠ none) : (p.finish canceled result).remaining < p.remaining := by
  match p with
  | .over _ => exact absurd rfl h
  | .deleting o rest report =>
    refine Nat.lt_succ_iff.mpr ?_
    cases result with
    | ok => exact remaining_next_le ..
    | error e =>
      -- A deletion that was called off ends the pass, any other goes on to `rest`.
      rw [finish]
      split
      · exact Nat.zero_le _
      · exact remaining_next_le ..

/-- How the pass `p` goes on from `now` to its end, in the context `ctx` and with `timeout` for
every deletion. The signal is looked at when a deletion has ended, as `course` has it at that
moment. -/
def run (ctx : Context) (timeout : Nat) (course : Course) (store : DeletionStore κ) (p : Pass κ)
    (now : Moment) : PassRun κ :=
  match _h : p.deletion? ctx timeout now with
  | none => ⟨[], p.report, now⟩
  | some (key, context) =>
    let a := store.attempt key context now
    let rest := (p.finish (ctx.isCanceled (course.signal a.ended)) a.result).run ctx timeout course
      store a.ended
    { rest with attempts := a :: rest.attempts }
termination_by p.remaining
decreasing_by
  refine remaining_finish_lt _ _ fun hnone => ?_
  rw [deletion?, hnone] at _h
  cases _h

variable {ctx : Context} {timeout : Nat} {course : Course} {store : DeletionStore κ}

theorem run_over (report : PassReport) (now : Moment) :
    (Pass.over report).run ctx timeout course store now = ⟨[], report, now⟩ := by
  rw [run]
  rfl

/-- A pass with a deletion under way tries that one, and goes on as `Pass.finish` says from when it
ended. -/
theorem run_deleting (o : Orphan κ) (rest : List (Orphan κ)) (report : PassReport) (now : Moment) :
    (Pass.deleting o rest report).run ctx timeout course store now =
      let a := store.attempt o.key (ctx.withTimeout now timeout) now
      let next := ((Pass.deleting o rest report).finish (ctx.isCanceled (course.signal a.ended))
        a.result).run ctx timeout course store a.ended
      { next with attempts := a :: next.attempts } := by
  rw [run]
  rfl

end Pass

/-- The loop starts the deletion of `key` in `context` on resuming `p` exactly if that is the
deletion `p` waits for. So `Pass.run` makes the deletions that the loop makes. -/
theorem Loop.delete_mem_resume_iff {kind : ObservationKind} (l : Loop kind) (now : Moment)
    (ticker : Ticker) (b : Bundle) (p : Pass kind.Key) (key : kind.Key) (context : Context) :
    .delete key context ∈ (l.resume now ticker b p).2 ↔
      p.deletion? l.context l.config.deleteTimeout now = some (key, context) := by
  match p with
  | .deleting o rest report =>
    rw [resume, List.mem_singleton, Pass.deletion?, Pass.current?, Option.map_some,
      Option.some.injEq, Prod.mk.injEq, LoopEffect.delete.injEq]
    exact ⟨fun ⟨hkey, hcontext⟩ => ⟨hkey.symm, hcontext.symm⟩,
      fun ⟨hkey, hcontext⟩ => ⟨hkey.symm, hcontext.symm⟩⟩
  | .over _ =>
    rw [resume, passEvents]
    split <;> simp [event, Pass.deletion?, Pass.current?]

/-! ### The steps of a pass -/

/-- A pass that tries the keys `keys` one after the other, from a moment on and to its end: the
deletions it tries and the moment at which it is over. -/
inductive Sweeps (ctx : Context) (timeout : Nat) (course : Course) :
    List κ → Moment → List (PassAttempt κ) → Moment → Prop
  /-- Nothing is left. -/
  | done {now : Moment} : Sweeps ctx timeout course [] now [] now
  /-- The context is called off before the next deletion. -/
  | stopped {keys : List κ} {now : Moment} (h : ctx.isCanceled (course.signal now) = true) :
    Sweeps ctx timeout course keys now [] now
  /-- A deletion ends as called off. -/
  | canceled {keys : List κ} {a : PassAttempt κ}
    (hopen : ctx.isCanceled (course.signal a.started) = false)
    (hcontext : a.context = ctx.withTimeout a.started timeout) (hcanceled : a.canceled = true) :
    Sweeps ctx timeout course (a.key :: keys) a.started [a] a.ended
  /-- A deletion ends otherwise, and the pass goes on. -/
  | next {keys : List κ} {a : PassAttempt κ} {attempts : List (PassAttempt κ)} {ended : Moment}
    (hopen : ctx.isCanceled (course.signal a.started) = false)
    (hcontext : a.context = ctx.withTimeout a.started timeout) (hcanceled : a.canceled = false)
    (hrest : Sweeps ctx timeout course keys a.ended attempts ended) :
    Sweeps ctx timeout course (a.key :: keys) a.started (a :: attempts) ended

/-- The report of a pass, with more attempts counted. -/
def PassReport.count (report : PassReport) (attempts : List (PassAttempt κ)) : PassReport :=
  { report with
    deleted := report.deleted + attempts.countP (·.succeeded)
    failed := report.failed + attempts.countP (·.failed) }

/-- Counting `attempts` and then `more` is counting both at once. -/
theorem PassReport.count_append (report : PassReport) (attempts more : List (PassAttempt κ)) :
    report.count (attempts ++ more) = (report.count attempts).count more := by
  simp only [count, List.countP_append, Nat.add_assoc]

/-- The attempt `a` decides how the pass goes on: if it was called off, the pass is over; else it
goes on to `rest`. The report counts `a` either way. -/
theorem Pass.finish_deleting_eq (canceled : Bool) (a : PassAttempt κ) (o : Orphan κ)
    (rest : List (Orphan κ)) (report : PassReport) :
    (Pass.deleting o rest report).finish canceled a.result =
      if a.canceled then .over (report.count [a]) else .next canceled rest (report.count [a]) := by
  obtain ⟨key, context, started, result, ended⟩ := a
  cases result with
  | ok => rfl
  | error e =>
    cases he : e.isCanceled <;>
      simp [finish, PassReport.count, PassAttempt.canceled, PassAttempt.failed,
        PassAttempt.succeeded, Except.isOk, Except.toBool, he]

section Run

variable {ctx : Context} {timeout : Nat} {course : Course} {store : DeletionStore κ}

/-- **A pass goes on in the steps of `Sweeps`**, and its report counts what came of them. The
induction is on `orphans`, with `report` and `now` free, since each deletion changes both. -/
theorem sweeps_run (orphans : List (Orphan κ)) (report : PassReport) (now : Moment) :
    let r := (Pass.next (ctx.isCanceled (course.signal now)) orphans report).run ctx timeout course
      store now
    Sweeps ctx timeout course (orphans.map (·.key)) now r.attempts r.ended ∧
      r.report = report.count r.attempts := by
  induction orphans generalizing report now with
  | nil =>
    rw [Pass.next, Pass.run_over]
    exact ⟨.done, rfl⟩
  | cons o rest ih =>
    rw [Pass.next]
    cases hopen : ctx.isCanceled (course.signal now) with
    | true =>
      rw [if_pos rfl, Pass.run_over]
      exact ⟨.stopped hopen, rfl⟩
    | false =>
      rw [if_neg Bool.false_ne_true, Pass.run_deleting]
      -- What came of the deletion decides which step this is.
      let a := store.attempt o.key (ctx.withTimeout now timeout) now
      change let next := ((Pass.deleting o rest report).finish
          (ctx.isCanceled (course.signal a.ended)) a.result).run ctx timeout course store a.ended
        Sweeps ctx timeout course (a.key :: rest.map (·.key)) a.started (a :: next.attempts)
          next.ended ∧ next.report = report.count (a :: next.attempts)
      rw [Pass.finish_deleting_eq]
      cases hcanceled : a.canceled with
      | true =>
        rw [if_pos rfl, Pass.run_over]
        exact ⟨.canceled hopen rfl hcanceled, rfl⟩
      | false =>
        rw [if_neg Bool.false_ne_true]
        obtain ⟨hsweeps, hreport⟩ := ih (report.count [a]) a.ended
        exact ⟨.next hopen rfl hcanceled hsweeps,
          hreport.trans (report.count_append [a] _).symm⟩

end Run

/-! ### What holds of the steps -/

/-- Whether the last of `attempts` was called off; not if there is none. -/
def LastCanceled (attempts : List (PassAttempt κ)) : Bool :=
  attempts.getLast?.any (·.canceled)

/-- An attempt in front that was not called off leaves `LastCanceled` as it is, also where nothing
follows. -/
theorem lastCanceled_cons {a : PassAttempt κ} (h : a.canceled = false)
    (attempts : List (PassAttempt κ)) : LastCanceled (a :: attempts) = LastCanceled attempts := by
  rw [LastCanceled, LastCanceled, List.getLast?_cons]
  cases attempts.getLast? with
  | none => exact h
  | some _ => rfl

namespace Sweeps

variable {ctx : Context} {timeout : Nat} {course : Course} {keys : List κ} {now ended : Moment}
  {attempts : List (PassAttempt κ)}

/-- The keys that are tried are the first of `keys`, in order. -/
theorem keys_in_order (h : Sweeps ctx timeout course keys now attempts ended) :
    attempts.map (·.key) <+: keys := by
  induction h with
  | done | stopped _ => exact List.nil_prefix
  | canceled _ _ _ => exact List.prefix_append [_] _
  | next _ _ _ _ ih => exact (List.prefix_cons_inj _).mpr ih

/-- A deletion is started when the one before has ended, and the first at `now`; the pass is over
when the last has ended. -/
theorem started_eq (h : Sweeps ctx timeout course keys now attempts ended) :
    attempts.map (·.started) ++ [ended] = now :: attempts.map (·.ended) := by
  induction h with
  | done | stopped _ => rfl
  | canceled _ _ _ => rfl
  | next _ _ _ _ ih => exact congrArg (List.cons _) ih

/-- No deletion is started in a context that is called off, and each has `timeout` from its own
start on. -/
theorem forall_mem (h : Sweeps ctx timeout course keys now attempts ended) :
    ∀ a ∈ attempts, ctx.isCanceled (course.signal a.started) = false ∧
      a.context = ctx.withTimeout a.started timeout := by
  induction h with
  | done | stopped _ => nofun
  | canceled hopen hcontext _ => exact List.forall_mem_singleton.mpr ⟨hopen, hcontext⟩
  | next hopen hcontext _ _ ih => exact List.forall_mem_cons.mpr ⟨⟨hopen, hcontext⟩, ih⟩

/-- Each of the `attempts` has succeeded or failed, but for the last one if it was called off. -/
theorem count_eq_length (h : Sweeps ctx timeout course keys now attempts ended) :
    attempts.countP (·.succeeded) + attempts.countP (·.failed) +
      (if LastCanceled attempts then 1 else 0) = attempts.length := by
  induction h with
  | done | stopped _ => rfl
  | @canceled _ a _ _ _ =>
    have ha := a.ends_once
    rw [List.countP_singleton, List.countP_singleton]
    exact ha
  -- By `ends_once` the attempt `a` adds one to exactly one of the two counts.
  | @next _ a attempts _ _ _ hcanceled _ ih =>
    have ha := a.ends_once
    rw [hcanceled, if_neg Bool.false_ne_true] at ha
    rw [lastCanceled_cons hcanceled, List.countP_cons, List.countP_cons, List.length_cons, ← ih]
    omega

/-- A pass tries fewer than all of `keys` only if the last attempt was called off or the context is,
at the moment `ended`. -/
theorem cut_short (h : Sweeps ctx timeout course keys now attempts ended)
    (hlength : attempts.length < keys.length) :
    LastCanceled attempts = true ∨ ctx.isCanceled (course.signal ended) = true := by
  induction h with
  | done => exact absurd hlength (Nat.lt_irrefl 0)
  | stopped hcanceled => exact .inr hcanceled
  | canceled _ _ hcanceled => exact .inl hcanceled
  | next _ _ hcanceled _ ih =>
    rw [lastCanceled_cons hcanceled]
    exact ih (Nat.lt_of_succ_lt_succ hlength)

end Sweeps

/-! ### What holds of a pass -/

/-- What comes of a deletion that is worked on in its context: the store's answer, or the error that
an interruption is told as. -/
def deletionResult : Except Interruption (Except ClientError Unit) → Except ClientError Unit
  | .ok answer => answer
  | .error interruption => .error (ScriptedStore.interrupted interruption)

/-- Whether the attempt `a` heeds its context: it ends as work `w` does in that context, where `w`
would be complete at `ready?`, or never if that is `none`. -/
def PassAttempt.Heeds (a : PassAttempt κ) (course : Course) : Prop :=
  ∃ (w : Work Unit (Except ClientError Unit)) (ready? : Option Moment)
    (answer : Except ClientError Unit) (moments : List Moment)
    (r : Except Interruption (Except ClientError Unit)),
    w.CompletesAt ready? answer ∧ (a.context.run w).IsPolled course a.started moments ∧
    ((a.context.run w).await course.signal moments ()).1 = some (r, a.ended) ∧
    a.result = deletionResult r

/-- What holds of a pass over the observations of some keys, from a moment on. -/
structure PassRun.Accounts (r : PassRun κ) (ctx : Context) (timeout : Nat) (course : Course)
    (keys : List κ) (start : Moment) : Prop where
  /-- What is tried are the first orphans, in order. -/
  keys_in_order : r.attempts.map (·.key) <+: keys
  /-- All orphans are reported. -/
  orphans_eq : r.report.orphans = keys.length
  /-- The deletions that have succeeded are counted. -/
  deleted_eq : r.report.deleted = r.attempts.countP (·.succeeded)
  /-- So are those that have failed without being called off. -/
  failed_eq : r.report.failed = r.attempts.countP (·.failed)
  /-- These are all that were tried, but for the last one if that was called off. -/
  length_eq : r.report.deleted + r.report.failed + (if LastCanceled r.attempts then 1 else 0) =
    r.attempts.length
  /-- They are fewer than the orphans only if the last one was called off, or the context. -/
  cut_short : r.report.deleted + r.report.failed < r.report.orphans →
    LastCanceled r.attempts = true ∨ ctx.isCanceled (course.signal r.ended) = true
  /-- A deletion is started when the one before has ended. -/
  started_eq : r.attempts.map (·.started) ++ [r.ended] = start :: r.attempts.map (·.ended)
  /-- None is started in a context that is called off. -/
  started_open : ∀ a ∈ r.attempts, ctx.isCanceled (course.signal a.started) = false
  /-- Each has its own timeout, from its start on, within the context of the pass. -/
  within : ∀ a ∈ r.attempts, a.context = ctx.withTimeout a.started timeout ∧
    a.context.deadline? = Option.merge min ctx.deadline? (some (a.started + timeout))
  /-- One that heeds its context has ended by then, or at once, also if it would never answer. -/
  bounded : ∀ a ∈ r.attempts, a.Heeds course → ∀ d, a.context.deadline? = some d →
    a.ended ≤ max a.started d

variable {course : Course}

/-- An attempt that heeds its context has ended by its deadline `d`, or at once if it was started
behind `d`. -/
theorem PassAttempt.Heeds.ended_le {a : PassAttempt κ} (h : a.Heeds course) {d : Moment}
    (hd : a.context.deadline? = some d) : a.ended ≤ max a.started d := by
  obtain ⟨w, ready?, answer, moments, r, hw, hpolled, hawait, -⟩ := h
  rw [Context.fst_await_run hw hpolled] at hawait
  exact (Context.bounds_of_ending hawait hd).2

/-- A store that never answers: a deletion ends when its context does. -/
def hangingStore (course : Course) : DeletionStore κ := fun _ context now =>
  match context.ending course none (.ok ()) now with
  | some (r, ended) => (deletionResult r, ended - now)
  | none => (.ok (), 0)

/-- At `hangingStore` every attempt ends all the same, and heeds its context: so
`PassRun.Accounts.bounded` speaks of deletions that no reply ever comes back from. -/
theorem heeds_hangingStore (key : κ) {context : Context} {d : Moment}
    (hd : context.deadline? = some d) (now : Moment) :
    ((hangingStore course).attempt key context now).Heeds course := by
  let w : Work Unit (Except ClientError Unit) := .due none (.ok ())
  have hw : w.CompletesAt none (.ok ()) := Work.completesAt_due none _
  -- The work is never complete, so that only the deadline `d` or the signal ends it.
  obtain ⟨moments, hpolled⟩ := (context.run w).exists_isPolled course now
  obtain ⟨r, m, hawait, hle, -⟩ := Context.exists_await_run hw hpolled hd ()
  have hattempt : (hangingStore course).attempt key context now =
      ⟨key, context, now, deletionResult r, m⟩ := by
    -- What `Context.ending` says is what the wait comes to, so `hangingStore` picks `(r, m)`.
    have hending := Context.fst_await_run hw hpolled () ▸ hawait
    rw [DeletionStore.attempt, hangingStore, hending]
    dsimp only
    rw [Nat.add_sub_cancel' hle]
  rw [hattempt]
  exact ⟨w, none, .ok (), moments, r, hw, hpolled, hawait, rfl⟩

/-- **A pass accounts for every orphan** of the bundle `b`, whatever the `store` does and whenever
the agent is shut down in the `course`: `Accounts` holds of its run from the `start`. -/
theorem ObservationKind.pass_accounts (kind : ObservationKind) (b : Bundle) (ctx : Context)
    (timeout : Nat) (course : Course) (store : DeletionStore kind.Key) (start : Moment) :
    ((Pass.start (ctx.isCanceled (course.signal start)) (kind.orphans b)).run ctx timeout course
      store start).Accounts ctx timeout course (kind.orphanKeys b) start := by
  obtain ⟨hsweeps, hreport⟩ := sweeps_run (kind.orphans b) ⟨(kind.orphans b).length, 0, 0⟩ start
  rw [Pass.start]
  generalize Pass.run ctx timeout course store _ start = r at hsweeps hreport ⊢
  have horphans : r.report.orphans = (kind.orphanKeys b).length := by
    rw [hreport, ObservationKind.orphanKeys, List.length_map]
    rfl
  have hdeleted : r.report.deleted = r.attempts.countP (·.succeeded) := by
    rw [hreport]
    exact Nat.zero_add _
  have hfailed : r.report.failed = r.attempts.countP (·.failed) := by
    rw [hreport]
    exact Nat.zero_add _
  have hlength := hsweeps.count_eq_length
  rw [← hdeleted, ← hfailed] at hlength
  refine ⟨hsweeps.keys_in_order, horphans, hdeleted, hfailed, hlength, fun hfewer => ?_,
    hsweeps.started_eq, fun a ha => (hsweeps.forall_mem a ha).1, fun a ha => ?_,
    fun a _ hheeds d hd => hheeds.ended_le hd⟩
  -- Without a deletion that was called off, the counts add up to the length of the attempts.
  · cases hlast : LastCanceled r.attempts with
    | true => exact .inl rfl
    | false =>
      rw [hlast, if_neg Bool.false_ne_true, Nat.add_zero] at hlength
      rw [hlength, horphans] at hfewer
      exact hlast ▸ hsweeps.cut_short hfewer
  · obtain ⟨-, hcontext⟩ := hsweeps.forall_mem a ha
    exact ⟨hcontext, hcontext ▸ ctx.deadline?_withTimeout a.started timeout⟩

/-- Deletions that hang are given up one after the other. -/
example :
    let r := (Pass.start false [⟨"b", .applicationGone⟩, ⟨"c", .applicationGone⟩]).run .detached 60
      [] (hangingStore []) 0
    r.report = ⟨2, 0, 2⟩ ∧
      r.attempts.map (fun a => (a.key, a.started, a.ended)) = [("b", 0, 60), ("c", 60, 120)] := by
  cbv

end FleetAgent
