import FleetAgent.Context
/-!
# Regular ticks

A ticker is due at once, and then once per period. A tick that is taken late puts off those that
follow instead of letting them come in a burst: if it is taken more than five milliseconds
(`Ticker.tolerance`) after it was due, the next one is due a whole period after it was taken, and
otherwise a whole period after it was due (`Ticker.take`).
-/

namespace FleetAgent

/-- Something to be done once per period, and when it is to be done next. -/
structure Ticker where
  /-- The time from one tick to the next, in milliseconds. -/
  period : Nat
  /-- When the next tick is due. -/
  due : Moment
deriving Repr, DecidableEq

namespace Ticker

/-- A tick that is taken no more than this late counts as taken in time. -/
def tolerance : Nat := 5

/-- A ticker that is due at once, at `now`. -/
def start (period : Nat) (now : Moment) : Ticker := ⟨period, now⟩

/-- Whether a tick can be taken at `now`. -/
def isDue (t : Ticker) (now : Moment) : Bool := t.due ≤ now

/-- The ticker after a tick was taken at `now`. The next one is due a period later, counted from
when this one was due if it was taken in time, and from `now` if not. -/
def take (t : Ticker) (now : Moment) : Ticker :=
  -- A tick that is late beyond the tolerance puts off all that follow.
  { t with due := (if t.due + tolerance < now then now else t.due) + t.period }

end Ticker

end FleetAgent
