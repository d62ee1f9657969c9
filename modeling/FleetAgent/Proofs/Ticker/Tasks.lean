import FleetAgent.Agent.InfoLoop
import FleetAgent.Agent.Poller
import FleetAgent.Collector.Loop
import FleetAgent.Proofs.Controller.Waiting
import FleetAgent.Proofs.Ticker.Runs
import Mathlib.Tactic.SplitIfs
/-!
# The tasks that tick

The loops that collect orphans, the poller and the loop that reports the description of the device
make a pass at every tick (`Loop.ticking`, `Poller.ticking`, `InfoLoop.ticking`), so that all of
them keep time (`passes_keepTime`). What is to be shown of each is where it is (`beat`), how each of
its steps takes it from there (`turns_advance`), how what reaches it does (`reaction_` and the name
of the input), and that it has a step to take when a tick is due (`advance_ne_none_of_due`).

A collector begins when there is a first bundle, the other two when they are run. A tick for which
nothing is to be waited for is a pass that is over at once (`Beat.Turn.blinks`).
-/

namespace FleetAgent

open Controller

variable {s : Surroundings} {ticker : Ticker}

/-! ### The loop that collects orphans -/

/-- What can reach a loop. -/
inductive LoopInput where
  /-- The deletion that is under way ends, in any way. -/
  | finish (result : Except ClientError Unit)
  /-- The loop is aborted. -/
  | abort

namespace Loop

variable {kind : ObservationKind} {l : Loop kind}

/-- Where a loop is. Until there is a bundle it does not tick. -/
def beat (l : Loop kind) : Beat :=
  match l.phase with
  | .created | .waiting => .unbegun l.config.tick
  | .idle ticker => .waiting ticker
  | .passing ticker _ _ => .passing ticker
  | .ended => .ended

/-- A loop that does not tick yet was not run, or waits for a bundle. -/
theorem phase_of_unbegun {period : Nat} (h : l.beat = .unbegun period) :
    l.phase = .created ∨ l.phase = .waiting := by
  rw [beat] at h
  cases hphase : l.phase <;> simp [hphase] at h ⊢

theorem beat_eq_waiting : l.beat = .waiting ticker ↔ l.phase = .idle ticker := by
  rw [beat]
  cases l.phase <;> simp

/-- The loop after something has reached it. -/
def receive (l : Loop kind) (s : Surroundings) : LoopInput → Loop kind
  | .finish result => (l.finish s result).1
  | .abort => l.abort.1

/-- The way a step takes the loop from beat to beat. -/
abbrev Turns (l : Loop kind) (s : Surroundings) (after : Loop kind) : Prop :=
  l.beat.Turn s.now s.snapshot.isStored (l.isCanceled s) after.beat

/-- A pass goes on, or is over. -/
theorem beat_resume (l : Loop kind) (now : Moment) (ticker : Ticker) (b : Bundle)
    (pass : Pass kind.Key) :
    (l.resume now ticker b pass).1.beat = .passing ticker ∨
      (l.resume now ticker b pass).1.beat = .waiting ticker := by
  match pass with
  | .deleting _ _ _ => exact .inl rfl
  | .over report => exact .inr rfl

/-- With a bundle a loop `l` begins to tick, or quits if its period cannot be kept. -/
theorem turns_begin (h : l.phase = .waiting) (hstored : s.snapshot.isStored = true) :
    l.Turns s (l.begin s.now).1 := by
  rw [Turns, beat, h, begin]
  split_ifs with hzero
  · exact .quits (.inr hzero)
  · exact .begins hstored

/-- A tick starts a pass, which may be over at once: there may be no orphans, or no bundle. -/
theorem turns_tick (h : l.phase = .idle ticker) (hdue : ticker.due ≤ s.now) :
    l.Turns s (l.tick s ticker).1 := by
  rw [Turns, beat_eq_waiting.mpr h, tick]
  split
  next => exact .blinks hdue
  next b _ =>
    dsimp only
    obtain hpassing | hover := l.beat_resume s.now (ticker.take s.now) b
      (.start (l.isCanceled s) (kind.orphans b))
    · rw [hpassing]
      exact .starts hdue
    · rw [hover]
      exact .blinks hdue

/-- **Every step of a loop is a turn of its beat**, by cases on the phase of `l`. -/
theorem turns_advance {step : Loop kind × List (LoopEffect kind.Key)}
    (h : l.advance? s = some step) : l.Turns s step.1 := by
  rw [advance?] at h
  split at h
  next hphase =>
    rw [Turns, beat, hphase, ← Option.some.inj h]
    exact .prepares
  next hphase =>
    split_ifs at h with hcanceled hstored
    · rw [Turns, beat, hphase, ← Option.some.inj h]
      exact .quits (.inl hcanceled)
    · rw [← Option.some.inj h]
      exact turns_begin hphase hstored
  next ticker hphase =>
    split_ifs at h with hcanceled hdue
    · rw [Turns, beat_eq_waiting.mpr hphase, ← Option.some.inj h]
      exact .stops hcanceled
    · rw [← Option.some.inj h]
      exact turns_tick hphase (of_decide_eq_true hdue)
  next => cases h
  next => cases h

/-- The end of a deletion with any `result` lets the pass go on, or ends it. -/
theorem reaction_finish (l : Loop kind) (s : Surroundings) (result : Except ClientError Unit) :
    l.beat.Reaction (l.finish s result).1.beat := by
  rw [finish]
  split
  next ticker b pass hphase =>
    rw [beat, hphase]
    dsimp only
    obtain hpassing | hover := l.beat_resume s.now ticker b (pass.finish (l.isCanceled s) result)
    · rw [hpassing]
      exact .stays
    · rw [hover]
      exact .finishes
  next => exact .stays

theorem reaction_abort (l : Loop kind) : l.beat.Reaction l.abort.1.beat := by
  rw [abort]
  split
  next => exact .ends
  next => exact .stays
  next => exact .ends

/-- With a bundle there is always a step to begin with. -/
theorem advance_ne_none_of_unbegun {period : Nat} (h : l.beat = .unbegun period)
    (hstored : s.snapshot.isStored = true) : l.advance? s ≠ none := by
  rw [advance?]
  obtain hphase | hphase := phase_of_unbegun h <;> rw [hphase]
  · exact Option.some_ne_none _
  · simp only [hstored, if_true]
    split <;> exact Option.some_ne_none _

theorem advance_ne_none_of_due (h : l.beat = .waiting ticker) (hdue : ticker.due ≤ s.now) :
    l.advance? s ≠ none := by
  rw [advance?, beat_eq_waiting.mp h]
  simp only [Ticker.isDue, decide_eq_true hdue, if_true]
  split <;> exact Option.some_ne_none _

/-- A loop as a task that ticks. -/
def ticking (kind : ObservationKind) : TickingTask where
  State := Loop kind
  Input := LoopInput
  beat := beat
  mayBegin snapshot := snapshot.isStored
  isCanceled l signal := l.context.isCanceled signal
  advance? l s := (l.advance? s).map (·.1)
  receive := receive
  turn h := by
    obtain ⟨step, hstep, rfl⟩ := Option.map_eq_some_iff.mp h
    exact turns_advance hstep
  reaction l s i := by
    cases i with
    | finish result => exact l.reaction_finish s result
    | abort => exact l.reaction_abort
  mayBegin_store _ _ _ := rfl
  canBegin hbeat hstored hnone :=
    advance_ne_none_of_unbegun hbeat hstored (Option.map_eq_none_iff.mp hnone)
  canTick hbeat hdue hnone := advance_ne_none_of_due hbeat hdue (Option.map_eq_none_iff.mp hnone)

end Loop

/-! ### The poller -/

/-- What can reach a poller. -/
inductive PollerInput where
  /-- There is a reply to its request. -/
  | reply (r : Except TransportError Reply)
  /-- The supervisor has come to an end. -/
  | applied (result : Except SupervisorError Unit)
  /-- The supervisor has broken down. -/
  | breakDown

namespace Poller

variable {p : Poller}

/-- Where a poller is. -/
def beat (p : Poller) : Beat :=
  match p.phase with
  | .created => .unbegun p.period
  | .idle ticker => .waiting ticker
  | .fetching ticker _ | .applying ticker => .passing ticker
  | .ended | .broken => .ended

theorem phase_of_unbegun {period : Nat} (h : p.beat = .unbegun period) :
    p.phase = .created := by
  rw [beat] at h
  cases hphase : p.phase <;> simp [hphase] at h ⊢

theorem beat_eq_waiting : p.beat = .waiting ticker ↔ p.phase = .idle ticker := by
  rw [beat]
  cases p.phase <;> simp

/-- The poller after something has reached it. -/
def receive (p : Poller) (s : Surroundings) : PollerInput → Poller
  | .reply r => (p.reply s r).1
  | .applied result => (p.applied result).1
  | .breakDown => p.breakDown

/-- The way a step takes the poller from beat to beat. -/
abbrev Turns (p : Poller) (s : Surroundings) (after : Poller) : Prop :=
  p.beat.Turn s.now true (p.context.isCanceled s.signal) after.beat

/-- The end of a fetch with any `result` leaves the poller in its pass, or waiting, or at its
end. -/
theorem reaction_fetched (p : Poller) (ticker : Ticker) (result : Except ClientError Bundle) :
    (Beat.passing ticker).Reaction (p.fetched ticker result).1.beat := by
  cases result with
  | ok b => exact .stays
  | error e =>
    rw [fetched]
    split
    next => exact .ends
    next => exact .finishes

theorem turns_begin (h : p.phase = .created) : p.Turns s (p.begin s.now).1 := by
  rw [Turns, beat, h, begin, moveTo]
  split_ifs with hzero
  · exact .quits (.inr hzero)
  · exact .begins rfl

/-- A tick starts a fetch. It is over at once if the request cannot be sent, in a context that is
not called off (`hopen`). -/
theorem turns_fetch (h : p.phase = .idle ticker) (hdue : ticker.due ≤ s.now)
    (hopen : p.context.isCanceled s.signal = false) :
    p.Turns s (p.fetch s (ticker.take s.now)).1 := by
  rw [Turns, beat_eq_waiting.mpr h, fetch]
  split
  next => exact .starts hdue
  next e hstart =>
    rw [fetched, Client.not_isCanceled_of_start_error hopen hstart]
    exact .blinks hdue

/-- **Every step of a poller is a turn of its beat**, by cases on the phase of `p`. -/
theorem turns_advance {step : Poller × List PollerEffect} (h : p.advance? s = some step) :
    p.Turns s step.1 := by
  rw [advance?] at h
  split at h
  next hphase =>
    rw [← Option.some.inj h]
    exact turns_begin hphase
  next ticker hphase =>
    split_ifs at h with hcanceled hdue
    · rw [Turns, beat_eq_waiting.mpr hphase, ← Option.some.inj h]
      exact .stops hcanceled
    · rw [← Option.some.inj h]
      exact turns_fetch hphase (of_decide_eq_true hdue) (Bool.not_eq_true _ ▸ hcanceled)
  next ticker flight hphase =>
    obtain ⟨r, -, rfl⟩ := Option.map_eq_some_iff.mp h
    rw [Turns, beat, hphase]
    exact (reaction_fetched ..).turn
  all_goals cases h

theorem reaction_reply (p : Poller) (s : Surroundings) (r : Except TransportError Reply) :
    p.beat.Reaction (p.reply s r).1.beat := by
  rw [reply]
  split
  next ticker flight hphase =>
    split
    next =>
      rw [beat, hphase]
      exact reaction_fetched ..
    next => exact .stays
  next => exact .stays

theorem reaction_applied (p : Poller) (result : Except SupervisorError Unit) :
    p.beat.Reaction (p.applied result).1.beat := by
  unfold applied
  split
  next hphase =>
    rw [beat, hphase]
    exact .finishes
  next => exact .stays

/-- A poller that was not run can be. -/
theorem advance_ne_none_of_unbegun {period : Nat} (h : p.beat = .unbegun period) :
    p.advance? s ≠ none := by
  rw [advance?, phase_of_unbegun h]
  exact Option.some_ne_none _

theorem advance_ne_none_of_due (h : p.beat = .waiting ticker) (hdue : ticker.due ≤ s.now) :
    p.advance? s ≠ none := by
  rw [advance?, beat_eq_waiting.mp h]
  simp only [Ticker.isDue, decide_eq_true hdue, if_true]
  split <;> exact Option.some_ne_none _

/-- A poller as a task that ticks. -/
def ticking : TickingTask where
  State := Poller
  Input := PollerInput
  beat := beat
  mayBegin _ := true
  isCanceled p signal := p.context.isCanceled signal
  advance? p s := (p.advance? s).map (·.1)
  receive := receive
  turn h := by
    obtain ⟨step, hstep, rfl⟩ := Option.map_eq_some_iff.mp h
    exact turns_advance hstep
  reaction p s i := by
    cases i with
    | reply r => exact p.reaction_reply s r
    | applied result => exact p.reaction_applied result
    | breakDown => exact .ends
  mayBegin_store _ _ _ := rfl
  canBegin hbeat _ hnone := advance_ne_none_of_unbegun hbeat (Option.map_eq_none_iff.mp hnone)
  canTick hbeat hdue hnone := advance_ne_none_of_due hbeat hdue (Option.map_eq_none_iff.mp hnone)

end Poller

/-! ### The loop that reports the description of the device -/

/-- What can reach a loop. -/
inductive InfoInput where
  /-- The description was collected. -/
  | collected (info : DeviceInfo)
  /-- There is a reply to its request. -/
  | reply (r : Except TransportError Reply)

namespace InfoLoop

variable {l : InfoLoop}

/-- Where a loop is. -/
def beat (l : InfoLoop) : Beat :=
  match l.phase with
  | .created => .unbegun l.period
  | .idle ticker => .waiting ticker
  | .collecting ticker | .pushing ticker _ _ => .passing ticker
  | .ended | .broken => .ended

theorem phase_of_unbegun {period : Nat} (h : l.beat = .unbegun period) :
    l.phase = .created := by
  rw [beat] at h
  cases hphase : l.phase <;> simp [hphase] at h ⊢

theorem beat_eq_waiting : l.beat = .waiting ticker ↔ l.phase = .idle ticker := by
  rw [beat]
  cases l.phase <;> simp

/-- The loop after something has reached it. -/
def receive (l : InfoLoop) (s : Surroundings) : InfoInput → InfoLoop
  | .collected info => (l.collected s info).1
  | .reply r => (l.reply s r).1

/-- The way a step takes the loop from beat to beat. -/
abbrev Turns (l : InfoLoop) (s : Surroundings) (after : InfoLoop) : Prop :=
  l.beat.Turn s.now true (l.context.isCanceled s.signal) after.beat

/-- The end of a push ends the pass, or the loop. -/
theorem reaction_pushed (l : InfoLoop) (ticker : Ticker) (info : DeviceInfo)
    (result : Except ClientError Unit) :
    (Beat.passing ticker).Reaction (l.pushed ticker info result).1.beat := by
  cases result with
  | ok _ => exact .finishes
  | error e =>
    rw [pushed]
    split
    next => exact .ends
    next => exact .finishes

/-- A report ends the pass, or goes on with a push. -/
theorem reaction_report (l : InfoLoop) (s : Surroundings) (ticker : Ticker) (info : DeviceInfo) :
    (Beat.passing ticker).Reaction (l.report s ticker info).1.beat := by
  rw [report]
  split
  next => exact .finishes
  next =>
    split
    next => exact .stays
    next => exact reaction_pushed ..

theorem reaction_interrupted (l : InfoLoop) (ticker : Ticker) (i : Interruption) :
    (Beat.passing ticker).Reaction (l.interrupted ticker i).1.beat := by
  cases i with
  | canceled => exact .ends
  | timeout => exact .finishes

theorem turns_begin (h : l.phase = .created) : l.Turns s (l.begin s.now).1 := by
  rw [Turns, beat, h, begin, moveTo]
  split_ifs with hzero
  · exact .quits (.inr hzero)
  · exact .begins rfl

/-- **Every step of the loop is a turn of its beat**, by cases on the phase of `l`. -/
theorem turns_advance {step : InfoLoop × List InfoEffect} (h : l.advance? s = some step) :
    l.Turns s step.1 := by
  rw [advance?] at h
  split at h
  next hphase =>
    rw [← Option.some.inj h]
    exact turns_begin hphase
  next ticker hphase =>
    split_ifs at h with hcanceled hdue
    · rw [Turns, beat_eq_waiting.mpr hphase, ← Option.some.inj h]
      exact .stops hcanceled
    · rw [Turns, beat_eq_waiting.mpr hphase, ← Option.some.inj h]
      exact .starts (of_decide_eq_true hdue)
  next hphase =>
    split at h
    next =>
      rw [Turns, beat, hphase, ← Option.some.inj h]
      exact (reaction_interrupted ..).turn
    next => cases h
  next hphase =>
    obtain ⟨r, -, rfl⟩ := Option.map_eq_some_iff.mp h
    rw [Turns, beat, hphase]
    exact (reaction_pushed ..).turn
  all_goals cases h

/-- A description `info` that was collected ends the pass, or is pushed in it. -/
theorem reaction_collected (l : InfoLoop) (s : Surroundings) (info : DeviceInfo) :
    l.beat.Reaction (l.collected s info).1.beat := by
  rw [collected]
  split
  next hphase =>
    split
    next =>
      rw [beat, hphase]
      exact reaction_interrupted ..
    next =>
      rw [beat, hphase]
      exact reaction_report ..
    next => exact .stays
  next => exact .stays

theorem reaction_reply (l : InfoLoop) (s : Surroundings) (r : Except TransportError Reply) :
    l.beat.Reaction (l.reply s r).1.beat := by
  rw [reply]
  split
  next hphase =>
    split
    next =>
      rw [beat, hphase]
      exact reaction_pushed ..
    next => exact .stays
  next => exact .stays

/-- A loop that was not run can be. -/
theorem advance_ne_none_of_unbegun {period : Nat} (h : l.beat = .unbegun period) :
    l.advance? s ≠ none := by
  rw [advance?, phase_of_unbegun h]
  exact Option.some_ne_none _

theorem advance_ne_none_of_due (h : l.beat = .waiting ticker) (hdue : ticker.due ≤ s.now) :
    l.advance? s ≠ none := by
  rw [advance?, beat_eq_waiting.mp h]
  simp only [Ticker.isDue, decide_eq_true hdue, if_true]
  split <;> exact Option.some_ne_none _

/-- A loop as a task that ticks. -/
def ticking : TickingTask where
  State := InfoLoop
  Input := InfoInput
  beat := beat
  mayBegin _ := true
  isCanceled l signal := l.context.isCanceled signal
  advance? l s := (l.advance? s).map (·.1)
  receive := receive
  turn h := by
    obtain ⟨step, hstep, rfl⟩ := Option.map_eq_some_iff.mp h
    exact turns_advance hstep
  reaction l s i := by
    cases i with
    | collected info => exact l.reaction_collected s info
    | reply r => exact l.reaction_reply s r
  mayBegin_store _ _ _ := rfl
  canBegin hbeat _ hnone := advance_ne_none_of_unbegun hbeat (Option.map_eq_none_iff.mp hnone)
  canTick hbeat hdue hnone := advance_ne_none_of_due hbeat hdue (Option.map_eq_none_iff.mp hnone)

end InfoLoop

/-! ### All of them -/

/-- **The collectors, the poller and the loop that reports the description of the device keep
time**: each is a `TickingTask`, and starts in a state that does not tick yet. -/
theorem passes_keepTime (around : Surroundings) :
    (∀ kind config context,
      (Loop.ticking kind).KeepsTime config.tick (.create kind config context) around) ∧
    (∀ client context period,
      Poller.ticking.KeepsTime period (.create client context period) around) ∧
    (∀ client context period,
      InfoLoop.ticking.KeepsTime period (.create client context period) around) :=
  ⟨fun kind config context =>
      (Loop.ticking kind).keepsTime (.create kind config context) rfl around,
    fun client context period =>
      Poller.ticking.keepsTime (.create client context period) rfl around,
    fun client context period =>
      InfoLoop.ticking.keepsTime (.create client context period) rfl around⟩

/-- A loop with a tick every twenty milliseconds. The first pass overruns by twelve, so that the
third one is due twenty behind the second; that one overruns by three, which puts off nothing. -/
theorem passes_keepTime_overrun :
    ∃ (client : Client) (info : DeviceInfo),
      let w := TickingWorld.create InfoLoop.ticking (.create client .root 20) ⟨0, .fresh, .empty⟩
      let events : List (TickingEvent InfoLoop.ticking) := [.advance,
        .advance, .elapse 32, .receive (.collected info),
        .advance, .receive (.collected info), .elapse 20,
        .advance, .elapse 23, .receive (.collected info),
        .advance]
      w.Prompt events ∧
        (w.run events).passes =
          [⟨72, 75, none⟩, ⟨52, 52, some 75⟩, ⟨20, 32, some 32⟩, ⟨0, 0, some 32⟩] ∧
        (w.run events).IsPaced 20 ∧ (w.run events).IsInTime 20 := by
  let client := Client.create "http://c" ⟨"p", by decide⟩
  let info : DeviceInfo := ⟨"1", none, {}⟩
  have hkeeps := (passes_keepTime ⟨0, .fresh, .empty⟩).2.2 client .root 20
  refine ⟨client, info, ?_⟩
  intro w events
  have hprompt : w.Prompt events := by
    simp only [events, TickingWorld.Prompt, TickingWorld.Waits, true_and, and_true]
    refine ⟨?_, ?_, ?_⟩ <;> decide +kernel
  exact ⟨hprompt, by decide +kernel, hkeeps.paced events, hkeeps.inTime events hprompt⟩

end FleetAgent
