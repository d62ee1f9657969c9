import FleetAgent.Agent.Shutdown
/-!
# Tasks are stopped in time

`Stopping.joinAll_stopsInTime` says how any tasks are stopped, whenever they would end: the stopping
is over by the deadline, a task that ends before is joined and never aborted, and the others are
aborted at the deadline and named in the order in which they were started. A task that has broken
down counts as ended.

The tasks are waited for one after the other. What carries the proof is that no waiting goes beyond
the deadline (`Stopping.join_eq`): so the time of a task is not cut short by those before it, and it
gets none from them.
-/

namespace FleetAgent

variable {deadline : Moment} {t : TaskEnding} {s : Stopping} {tasks : List TaskEnding}

/-- Whether the task `t` goes on behind `moment`, if nothing stops it. One that never ends outlasts
every moment. -/
def TaskEnding.outlasts (t : TaskEnding) (moment : Moment) : Bool :=
  t.moment?.all (moment < ·)

namespace Stopping

/-! ### One task -/

/-- The moment at which the task `t` has ended if it is given time up to `deadline`: when it ends on
its own, or when it is aborted. -/
def endOf (deadline : Moment) (t : TaskEnding) : Moment :=
  (endsBy t deadline).getD deadline

/-- The event for the task `t` if it is given time up to `deadline`. -/
def eventOf (deadline : Moment) (t : TaskEnding) : LogEvent :=
  if t.outlasts deadline then abortedEvent t else joinedEvent t

theorem endsBy_of_outlasts (h : t.outlasts deadline = true) : endsBy t deadline = none := by
  rw [TaskEnding.outlasts] at h
  rw [endsBy]
  cases hm : t.moment? with
  | none => rfl
  | some m =>
    rw [hm, Option.all_some, decide_eq_true_eq] at h
    exact Option.filter_some_neg (by simpa using h)

/-- A task that does not outlast the deadline ends on its own at some moment `m` up to it. -/
theorem endsBy_of_not_outlasts (h : t.outlasts deadline = false) :
    ∃ m, t.moment? = some m ∧ m ≤ deadline ∧ endsBy t deadline = some m := by
  rw [TaskEnding.outlasts] at h
  cases hm : t.moment? with
  | none =>
    rw [hm] at h
    cases h
  | some m =>
    rw [hm, Option.all_some, decide_eq_false_iff_not, Nat.not_lt] at h
    exact ⟨m, rfl, h, by rw [endsBy, hm]; exact Option.filter_some_pos (by simpa using h)⟩

/-- Given time up to `deadline`, a task has ended by then. -/
theorem endOf_le (deadline : Moment) (t : TaskEnding) : endOf deadline t ≤ deadline := by
  cases h : t.outlasts deadline with
  | true =>
    rw [endOf, endsBy_of_outlasts h]
    exact Nat.le_refl deadline
  | false =>
    obtain ⟨m, -, hle, heq⟩ := endsBy_of_not_outlasts h
    rw [endOf, heq, Option.getD_some]
    exact hle

/-- **One task is stopped** as if it were the only one, as long as its turn comes by the deadline
(`h`); and then the turn of the next one does. -/
theorem join_eq (h : s.now ≤ deadline) :
    s.join deadline t =
      { now := max s.now (endOf deadline t)
        aborted := s.aborted ++ if t.outlasts deadline then [t.name] else []
        ends := s.ends ++ [endOf deadline t]
        events := s.events ++ [eventOf deadline t] } := by
  rw [join, Nat.max_eq_right h]
  cases ht : t.outlasts deadline with
  | true =>
    rw [endOf, eventOf, endsBy_of_outlasts ht, ht]
    dsimp only [Option.getD_none]
    rw [Nat.max_eq_right h]
    rfl
  | false =>
    obtain ⟨m, -, -, heq⟩ := endsBy_of_not_outlasts ht
    rw [endOf, eventOf, heq, ht]
    simp

/-! ### All tasks -/

/-- How the tasks `tasks` were stopped, from `start` on and with the deadline `deadline`. -/
structure StopsInTime (start deadline : Moment) (tasks : List TaskEnding) (s : Stopping) :
    Prop where
  /-- It is over when the last task has ended, which is no later than the deadline. -/
  now_eq : s.now = s.ends.foldl max start
  now_le : s.now ≤ deadline
  /-- A task that ends by the deadline ends on its own, and is joined: also one that breaks down. -/
  joined : ∀ (i : Nat) t m, tasks[i]? = some t → t.moment? = some m → m ≤ deadline →
    s.ends[i]? = some m ∧ s.events[i]? = some (joinedEvent t)
  /-- A task that would end later, or never, ends at the deadline, because it is aborted. -/
  aborted_late : ∀ (i : Nat) t, tasks[i]? = some t → (∀ m, t.moment? = some m → deadline < m) →
    s.ends[i]? = some deadline ∧ s.events[i]? = some (abortedEvent t)
  /-- These are named, in the order in which they were started, and no others. -/
  aborted_eq : s.aborted = (tasks.filter (·.outlasts deadline)).map (·.name)
  /-- Every task has ended when it is over. -/
  none_running : s.ends.length = tasks.length ∧ ∀ m ∈ s.ends, m ≤ s.now

/-- What is done about tasks, one after the other: each of them is stopped as if it were the only
one. The induction is on the tasks, and `join_eq` keeps its hypothesis that the moment is no later
than the deadline. -/
theorem foldl_join_eq (h : s.now ≤ deadline) :
    tasks.foldl (join deadline) s =
      { now := (tasks.map (endOf deadline)).foldl max s.now
        aborted := s.aborted ++ (tasks.filter (·.outlasts deadline)).map (·.name)
        ends := s.ends ++ tasks.map (endOf deadline)
        events := s.events ++ tasks.map (eventOf deadline) } := by
  induction tasks generalizing s with
  | nil => simp
  | cons t rest ih =>
    have hnow : (s.join deadline t).now ≤ deadline := by
      rw [join_eq h]
      exact Nat.max_le.mpr ⟨h, endOf_le deadline t⟩
    rw [List.foldl_cons, ih hnow, join_eq h, List.filter_cons]
    cases t.outlasts deadline <;> simp

/-- The last moment is no earlier than `start` and than any of `ends`. -/
theorem le_foldl_max (start : Moment) (ends : List Moment) :
    start ≤ ends.foldl max start ∧ ∀ m ∈ ends, m ≤ ends.foldl max start := by
  induction ends generalizing start with
  | nil => simp
  | cons m rest ih =>
    obtain ⟨hstart, hrest⟩ := ih (max start m)
    rw [List.foldl_cons]
    refine ⟨Nat.le_trans (Nat.le_max_left ..) hstart, List.forall_mem_cons.mpr ⟨?_, hrest⟩⟩
    exact Nat.le_trans (Nat.le_max_right ..) hstart

/-- The last moment is within any bound on `start` and on all of `ends`. -/
theorem foldl_max_le {start bound : Moment} {ends : List Moment} (hstart : start ≤ bound)
    (h : ∀ m ∈ ends, m ≤ bound) : ends.foldl max start ≤ bound := by
  induction ends generalizing start with
  | nil => exact hstart
  | cons m rest ih =>
    obtain ⟨hm, hrest⟩ := List.forall_mem_cons.mp h
    exact ih (Nat.max_le.mpr ⟨hstart, hm⟩) hrest

/-- **Tasks are stopped in time**, whenever each of them would end on its own: by induction on the
`tasks`, with the one deadline `start + grace` for all of them. -/
theorem joinAll_stopsInTime (start : Moment) (grace : Nat) (tasks : List TaskEnding) :
    StopsInTime start (start + grace) tasks (joinAll start grace tasks) := by
  have heq : joinAll start grace tasks = _ := foldl_join_eq (Nat.le_add_right start grace)
  rw [heq]
  -- By `foldl_join_eq` each list that is kept is a `map` over the tasks, so its entry `i` is about
  -- the task `i` alone.
  constructor
  case now_eq => rfl
  case now_le =>
    refine foldl_max_le (Nat.le_add_right start grace) ?_
    exact List.forall_mem_map.mpr fun t _ => endOf_le _ t
  case joined =>
    intro i t m ht hm hle
    have hearly : t.outlasts (start + grace) = false := by simpa [TaskEnding.outlasts, hm] using hle
    obtain ⟨m', hm', -, hends⟩ := endsBy_of_not_outlasts hearly
    obtain rfl := Option.some.inj (hm.symm.trans hm')
    simp [Stopping.start, ht, endOf, eventOf, hends, hearly]
  case aborted_late =>
    intro i t ht hlate
    have houtlasts : t.outlasts (start + grace) = true := by
      rw [TaskEnding.outlasts, Option.all_eq_true]
      exact fun m hm => decide_eq_true (hlate m hm)
    simp [Stopping.start, ht, endOf, eventOf, endsBy_of_outlasts houtlasts, houtlasts]
  case aborted_eq => rfl
  case none_running =>
    refine ⟨by simp [Stopping.start], ?_⟩
    exact (le_foldl_max start _).2

/-- One that never ends comes first; it takes nothing from the other ones, one of which breaks down
in the meantime, and one ends too late. -/
example : joinAll 5 10 [⟨"a", none, false⟩, ⟨"b", some 14, false⟩, ⟨"c", some 7, true⟩,
      ⟨"d", some 16, false⟩] =
    ⟨15, ["a", "d"], [15, 14, 7, 15], [abortedEvent ⟨"a", none, false⟩,
      joinedEvent ⟨"b", some 14, false⟩, joinedEvent ⟨"c", some 7, true⟩,
      abortedEvent ⟨"d", some 16, false⟩]⟩ := by
  decide

end Stopping

/-! ### The tasks of an agent -/

namespace Agent

variable {σ : Type}

/-- The tasks are stopped in the order in which they were started. -/
theorem map_name_endings (a : Agent σ) : a.endings.map (·.name) = a.taskNames := by
  rw [endings, taskNames]
  cases a.tunnel? <;> rfl

/-- The tasks that are aborted are named in the order of `taskNames`, in which they were started,
with those that end in time left out. -/
theorem aborted_stop_sublist (a : Agent σ) (grace : Nat) :
    (a.stop grace).aborted.Sublist a.taskNames := by
  have heq : a.stop grace = _ := Stopping.foldl_join_eq (Nat.le_add_right a.now grace)
  rw [heq, ← a.map_name_endings]
  exact List.filter_sublist.map _

end Agent

end FleetAgent
