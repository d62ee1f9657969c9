import FleetAgent.Proofs.Context.Race
/-!
# Waits that have not ended

A wait `w` has ended by `now` exactly if its context is called off or the moment `w.nextMoment?` has
come, at which the clock ends it (`Wait.poll_eq_none_iff`). As long as the signal does not change, a
wait that goes on by itself has therefore ended by `limit` exactly if a poll at `limit` says so
(`Wait.settle_eq_none_iff`). A wait that has not ended does not end by being looked at again.
-/

namespace FleetAgent

variable {σ α : Type}

namespace Work

variable {w : Work σ α} {signal : Moment → Signal} {moments : List Moment} {s : σ}

/-- Work that has given nothing was polled at all of the moments, in some state `s'` each, and no
poll completed it. -/
theorem exists_poll_eq_none (h : (w.await signal moments s).1 = none) {m : Moment}
    (hm : m ∈ moments) : ∃ s', (w.poll (signal m) m s').1 = none := by
  induction moments generalizing s with
  | nil => cases hm
  | cons m' rest ih =>
    cases hpoll : (w.poll (signal m') m' s).1 with
    | none =>
      rcases List.mem_cons.mp hm with rfl | hm
      · exact ⟨s, hpoll⟩
      · rw [await_of_none hpoll] at h
        exact ih h hm
    | some a =>
      rw [await_of_some hpoll] at h
      cases h

/-- Work ends at one of the moments at which it is polled. -/
theorem mem_of_await {a : α} {m : Moment} (h : (w.await signal moments s).1 = some (a, m)) :
    m ∈ moments := by
  induction moments generalizing s with
  | nil => cases h
  | cons m' rest ih =>
    cases hpoll : (w.poll (signal m') m' s).1 with
    | none =>
      rw [await_of_none hpoll] at h
      exact List.mem_cons_of_mem _ (ih h)
    | some a' =>
      rw [await_of_some hpoll] at h
      cases h
      exact List.mem_cons_self

end Work

namespace Wait

/-- What is waited in. -/
def context : Wait → Context
  | .work ctx _ => ctx
  | .cancellation ctx => ctx

variable {w : Wait} {signal : Signal} {now limit m : Moment}

/-- A wait `w` has not ended while its context is not called off and the clock does not end it. -/
theorem poll_eq_none_iff :
    w.poll signal now = none ↔
      w.context.isCanceled signal = false ∧ hasCome w.nextMoment? now = false := by
  cases w with
  | work ctx ready? =>
    have hpoll := ctx.fst_poll_run (Work.completesAt_due ready? ()) signal now ()
    have hnext : (work ctx ready?).nextMoment? = Option.merge min ctx.deadline? ready? :=
      ctx.nextMoment?_eq ready?
    rw [poll, toWork, hpoll, hnext, hasCome_merge, context]
    cases ctx.isCanceled signal <;> cases hasCome ctx.deadline? now <;>
      cases hasCome ready? now <;> simp
  | cancellation ctx =>
    rw [poll, toWork, Context.cancellation, context]
    cases h : ctx.isCanceled signal <;> simp [h, nextMoment?, toWork, Context.cancellation]

/-- A wait that has not ended by `limit` had not ended at `m` before, under the same signal: what
has come stays so. -/
theorem poll_eq_none_of_le (hle : m ≤ limit) (h : w.poll signal limit = none) :
    w.poll signal m = none := by
  rw [poll_eq_none_iff] at h ⊢
  refine ⟨h.1, ?_⟩
  cases hnext : w.nextMoment? with
  | none => rfl
  | some d =>
    rw [hnext, hasCome_some, decide_eq_false_iff_not] at h
    rw [hasCome_some, decide_eq_false_iff_not]
    exact fun hd => h.2 (Nat.le_trans hd hle)

/-- A wait has ended by `limit` exactly if a poll at `limit` says so. It is polled at `now` and at
the one moment at which the clock wakes it, and these two are enough. -/
theorem settle_eq_none_iff (hle : now ≤ limit) :
    w.settle signal now limit = none ↔ w.poll signal limit = none := by
  constructor
  · intro h
    have hpolls {m : Moment} (hm : m ∈ now :: w.nextMoment?.toList.filter (· ≤ limit)) :
        w.poll signal m = none := by
      obtain ⟨_, hpoll⟩ := Work.exists_poll_eq_none h hm
      exact hpoll
    have hnow := poll_eq_none_iff.mp (hpolls List.mem_cons_self)
    refine poll_eq_none_iff.mpr ⟨hnow.1, ?_⟩
    cases hnext : w.nextMoment? with
    | none => rfl
    | some d =>
      rw [hasCome_some, decide_eq_false_iff_not]
      intro hd
      -- The clock would have woken it at `d`.
      have hpoll : w.poll signal d = none := hpolls (by simp [hnext, hd])
      rw [poll_eq_none_iff, hnext, hasCome_some, decide_eq_true (Nat.le_refl d)] at hpoll
      cases hpoll.2
  · refine fun h => Work.await_of_pending (fun m hm _ => poll_eq_none_of_le ?_ h) ()
    rcases List.mem_cons.mp hm with rfl | hm
    · exact hle
    · exact of_decide_eq_true (List.mem_filter.mp hm).2

/-- A wait does not end before `now`: it ends at once, or at the moment at which the clock wakes it,
which is later if it has not ended at once. -/
theorem le_of_settle {r : Except Interruption Unit} (h : w.settle signal now limit = some (r, m)) :
    now ≤ m := by
  cases hpoll : w.poll signal now with
  | none =>
    rcases List.mem_cons.mp (Work.mem_of_await h) with rfl | hm
    · exact Nat.le_refl m
    · have hnext : w.nextMoment? = some m := Option.mem_toList.mp (List.mem_filter.mp hm).1
      rw [poll_eq_none_iff, hnext, hasCome_some, decide_eq_false_iff_not] at hpoll
      exact Nat.le_of_lt (Nat.lt_of_not_ge hpoll.2)
  | some r' =>
    have hsettle : w.settle signal now limit = some (r', now) :=
      congrArg Prod.fst (Work.await_of_some hpoll _)
    rw [hsettle] at h
    cases h
    exact Nat.le_refl now

end Wait

end FleetAgent
