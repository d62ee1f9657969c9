import FleetAgent.Context
/-!
# Contexts and waits on a clock

A timeline holds the contexts that were made so far and the waits that were started, on a clock that
only moves when something is waited for. The first context follows the shutdown signal, the second
one nothing. Others follow the signal, as long as its owner is there, or nothing, or are derived
from one that was there before.

`Timeline.step?` is the timeline after a `TimelineEvent`, if it can happen: a context is derived
(`derive`), a wait is started, the clock moves (`elapse`), or something is done with the signal
(`setSignal`). A wait ends at the first look at which it is due (`moveTo`).
-/

namespace FleetAgent

/-- Contexts and waits on a clock, with the signal as it is now. -/
structure Timeline where
  now : Moment
  signal : Signal
  /-- The contexts, in the order in which they were made. -/
  contexts : List Context
  /-- The waits, in the order in which they were started, each with its end. -/
  waits : List (Wait × Option (Except Interruption Unit × Moment))

/-- What happens on a timeline. Contexts are told apart by the order in which they were made. -/
inductive TimelineEvent where
  /-- A context is made that follows the signal. -/
  | follow
  /-- A context is made that follows nothing. -/
  | detach
  /-- The context of a number is narrowed to a time from now on. -/
  | derive (i timeout : Nat)
  /-- Something is waited for. -/
  | start (w : Wait)
  /-- Time goes by. -/
  | elapse (duration : Nat)
  /-- Somebody sleeps in the context of a number. -/
  | sleep (i duration : Nat)
  /-- The signal is triggered. -/
  | trigger
  /-- The owner of the signal goes away. -/
  | drop
deriving DecidableEq

namespace Timeline

/-- Nothing has happened: the clock shows zero, and there are the two contexts that need no
other. -/
def fresh : Timeline := ⟨0, .fresh, [.root, .detached], []⟩

/-- The context of the number `i`. One that is not there is taken as detached. -/
def context (t : Timeline) (i : Nat) : Context :=
  t.contexts.getD i .detached

/-- Adds the context `ctx` behind the others. -/
def add (t : Timeline) (ctx : Context) : Timeline :=
  { t with contexts := t.contexts ++ [ctx] }

/-- Derives a context from that of the number `i`, with a timeout from now on. -/
def derive (t : Timeline) (i timeout : Nat) : Timeline :=
  t.add ((t.context i).withTimeout t.now timeout)

/-- Lets the clock move to `moment`. Waits end on the way, each when it is due. -/
def moveTo (t : Timeline) (moment : Moment) : Timeline :=
  { t with
    now := moment
    waits := t.waits.map fun (w, r?) => (w, r? <|> w.settle t.signal t.now moment) }

/-- Lets `duration` milliseconds pass, as far as a sleep may take. -/
def elapse (t : Timeline) (duration : Nat) : Timeline :=
  t.moveTo (t.now + min duration longestSleep)

/-- Changes the signal; the waits that it ends, end at once. -/
def setSignal (t : Timeline) (signal : Signal) : Timeline :=
  { t with signal }.moveTo t.now

/-- Starts to wait. -/
def start (t : Timeline) (w : Wait) : Timeline :=
  { t with waits := t.waits ++ [(w, none)] }.moveTo t.now

/-- Starts to sleep in a context. -/
def startSleep (t : Timeline) (i duration : Nat) : Timeline :=
  t.start (.sleep (t.context i) t.now duration)

/-- Sleeps in a context. -/
def sleep (t : Timeline) (i duration : Nat) : Timeline × Except Interruption Unit :=
  let moment := t.now + min duration longestSleep
  match (Wait.sleep (t.context i) t.now duration).settle t.signal t.now moment with
  | some (r, m) => (t.moveTo m, r)
  | none => (t.moveTo moment, .ok ())

/-- What has become of work that is complete already. -/
def runReady (t : Timeline) (i : Nat) : Except Interruption Unit :=
  ((t.context i).poll t.signal t.now (some ())).getD (.ok ())

/-- The timeline after an event; `none` if it cannot happen. The signal is followed only while its
owner is there, and a context is used only if there is one of that number. -/
def step? (t : Timeline) : TimelineEvent → Option Timeline
  | .follow => if t.signal.dropped then none else some (t.add .root)
  | .detach => some (t.add .detached)
  | .derive i timeout => if i < t.contexts.length then some (t.derive i timeout) else none
  | .start w => some (t.start w)
  | .elapse duration => some (t.elapse duration)
  | .sleep i duration => if i < t.contexts.length then some (t.sleep i duration).1 else none
  | .trigger => some (t.setSignal t.signal.trigger)
  | .drop => some (t.setSignal t.signal.drop)

/-- The timeline after events; `none` if one of them cannot happen. -/
def run? (t : Timeline) : List TimelineEvent → Option Timeline
  | [] => some t
  | e :: rest => (t.step? e).bind (·.run? rest)

end Timeline

end FleetAgent
