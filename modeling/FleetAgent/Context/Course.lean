import FleetAgent.Context
/-!
# Work over time

A course tells what is done with the shutdown signal over time. At each moment the signal shows
everything that was done up to then (`Course.signal`): what is due at a moment has happened when
something is polled at that moment.

Work that is started is polled at once, and later whenever the clock wakes it or something is done
with the signal. It may be polled at other moments as well (`Work.IsPolled`).
-/

namespace FleetAgent

/-- What can be done with the shutdown signal, by its owner alone. -/
inductive SignalChange where
  /-- It is triggered. -/
  | trigger
  /-- Its owner goes away. -/
  | drop
deriving Repr, DecidableEq

/-- The signal after a change. -/
def Signal.change (s : Signal) : SignalChange → Signal
  | .trigger => s.trigger
  | .drop => s.drop

/-- What is done with the shutdown signal, and when. The order of a course is that of the changes at
one moment. -/
abbrev Course := List (Moment × SignalChange)

namespace Course

/-- The signal at the moment `m`: all that was done no later than `m`, in order. -/
def signal (course : Course) (m : Moment) : Signal :=
  ((course.filter (·.1 ≤ m)).map (·.2)).foldl Signal.change .fresh

/-- The moments at which something is done with the signal. -/
def moments (course : Course) : List Moment :=
  course.map (·.1)

end Course

/-- The moment at which a context is called off, if it is: the first at which anything is done with
the signal, for either change raises it. -/
def Context.cancellation? (ctx : Context) (course : Course) : Option Moment :=
  if ctx.attached then course.moments.min? else none

/-- The moments at which work `w` is polled that is started at `start`. Others than those that must
be may be among them. -/
structure Work.IsPolled {σ α : Type} (w : Work σ α) (course : Course) (start : Moment)
    (moments : List Moment) : Prop where
  /-- It is polled when it is started. -/
  head?_eq : moments.head? = some start
  /-- The clock only moves forward. -/
  sorted : moments.Pairwise (· ≤ ·)
  /-- It is polled whenever the clock wakes it. -/
  wakes : ∀ m, w.wake? = some m → start ≤ m → m ∈ moments
  /-- It is polled whenever something is done with the signal. -/
  notices : ∀ m ∈ course.moments, start ≤ m → m ∈ moments

namespace Work.IsPolled

variable {σ α β : Type} {w : Work σ α} {course : Course} {start m : Moment} {moments : List Moment}

theorem le_of_mem (h : w.IsPolled course start moments) (hm : m ∈ moments) : start ≤ m := by
  obtain ⟨rest, rfl⟩ := List.head?_eq_some_iff.mp h.head?_eq
  rcases List.mem_cons.mp hm with rfl | hm
  · exact Nat.le_refl m
  · exact (List.pairwise_cons.mp h.sorted).1 m hm

/-- When work must be polled depends on it only through the clock. -/
theorem of_wake?_eq (h : w.IsPolled course start moments) {v : Work σ β} (hv : v.wake? = w.wake?) :
    v.IsPolled course start moments where
  head?_eq := h.head?_eq
  sorted := h.sorted
  wakes m hm := h.wakes m (hv ▸ hm)
  notices := h.notices

end Work.IsPolled

/-- Work can always be polled as it must be. -/
theorem Work.exists_isPolled {σ α : Type} (w : Work σ α) (course : Course) (start : Moment) :
    ∃ moments, w.IsPolled course start moments := by
  -- It is polled at the start, and then in order at all later moments at which something is due.
  let due := (w.wake?.toList ++ course.moments).filter (start < ·)
  have htrans (a b c : Moment) (hab : decide (a ≤ b) = true) (hbc : decide (b ≤ c) = true) :
      decide (a ≤ c) = true :=
    decide_eq_true (Nat.le_trans (of_decide_eq_true hab) (of_decide_eq_true hbc))
  have htotal (a b : Moment) : (decide (a ≤ b) || decide (b ≤ a)) = true := by
    rw [← Bool.decide_or]
    exact decide_eq_true (Nat.le_total a b)
  have hmem {m : Moment} (hm : m ∈ w.wake?.toList ++ course.moments) (hle : start ≤ m) :
      m ∈ start :: due.mergeSort := by
    rcases Nat.eq_or_lt_of_le hle with rfl | hlt
    · exact List.mem_cons_self
    · refine List.mem_cons_of_mem _ (List.mem_mergeSort.mpr (List.mem_filter.mpr ⟨hm, ?_⟩))
      exact decide_eq_true hlt
  refine ⟨start :: due.mergeSort, rfl, List.pairwise_cons.mpr ⟨fun m hm => ?_, ?_⟩, ?_, ?_⟩
  · have hlater := (List.mem_filter.mp (List.mem_mergeSort.mp hm)).2
    exact Nat.le_of_lt (of_decide_eq_true hlater)
  · exact (List.pairwise_mergeSort htrans htotal due).imp of_decide_eq_true
  · exact fun m hm => hmem (List.mem_append_left _ (Option.mem_toList.mpr hm))
  · exact fun m hm => hmem (List.mem_append_right _ hm)

end FleetAgent
