import FleetAgent.Proofs.Collector.History
import FleetAgent.Proofs.Orphans
import Mathlib.Tactic.SplitIfs
/-!
# A loop deletes nothing but orphans

`Loop.deletions_safe` says of every history `t` of a loop, whatever happens around it between two of
its steps: a deletion belongs to a pass; the pass works from the bundle that was stored last when it
started; the key is an orphan of that bundle and was not tried in this pass before; the shutdown had
not come; and nothing else was being deleted. A pass starts only when every deletion that was
started before has ended.

Both are said by `Permits front x`, the condition under which `x` may take place behind `front`, and
`Sound` asks it of everything in the history. The invariant is `LoopWorld.Tracks`. What it adds to
`Sound` is how the phase of the loop is told by the history (`History.Tells`): in a pass, the
orphans of its bundle are `done ++ o :: rest`, those that were tried, the one whose deletion is
under way, and those that come after it. Then the next one is new to the pass, because no key is
left over twice (`ObservationKind.nodup_orphanKeys`).
-/

namespace FleetAgent

open Controller (ClientError)

variable {kind : ObservationKind} {context : Context} {t : History kind}

namespace History

/-! ### What may take place -/

/-- The conditions under which something may take place behind the history `front`. Only the start
of a deletion and that of a pass have any. -/
def Permits (context : Context) (front : History kind) : Happening kind → Prop
  | .effect (.delete key _) =>
    (∃ b keys, front.InPass b keys ∧ key ∈ kind.orphanKeys b ∧ key ∉ keys) ∧
      (∃ b, .event (.store b) ∈ front) ∧
      (context.attached = true → ¬ front.Raised) ∧ front.AllEnded
  | .effect (.load b) => front.LastStored b ∧ front.AllEnded
  | _ => True

/-- Everything in `t` was permitted when it took place. -/
def Sound (context : Context) (t : History kind) : Prop :=
  ∀ front x back, t = front ++ x :: back → Permits context front x

theorem sound_nil : Sound context ([] : History kind) := by
  intro front x back h
  simp at h

/-- A history stays sound with one more thing that it permits. -/
theorem Sound.concat (h : Sound context t) {x : Happening kind} (hx : Permits context t x) :
    Sound context (t ++ [x]) :=
  Throughout.concat h hx

theorem permits_of_isQuiet {x : Happening kind} (hx : x.IsQuiet) : Permits context t x := by
  cases x with
  | event e => exact trivial
  | effect e => cases e <;> first | exact trivial | exact absurd hx id

theorem Sound.append_isQuiet (h : Sound context t) {s : History kind} (hs : ∀ x ∈ s, x.IsQuiet) :
    Sound context (t ++ s) := by
  induction s generalizing t with
  | nil => rwa [List.append_nil]
  | cons x s ih =>
    have hx : x.IsQuiet := hs x List.mem_cons_self
    rw [← List.singleton_append, ← List.append_assoc]
    exact ih (h.concat (permits_of_isQuiet hx)) fun y hy => hs y (List.mem_cons_of_mem _ hy)

theorem started_of_forall_isQuiet {s : History kind} (hs : ∀ x ∈ s, x.IsQuiet) :
    started s = [] := by
  induction s with
  | nil => rfl
  | cons x s ih =>
    rw [← List.singleton_append, started_append, started_of_isQuiet (hs x List.mem_cons_self),
      ih fun y hy => hs y (List.mem_cons_of_mem _ hy), List.append_nil]

/-- A pass goes on with the same `keys` when quiet things take place. -/
theorem InPass.append_forall_isQuiet {b : Bundle} {keys : List kind.Key} (h : InPass t b keys)
    {s : History kind} (hs : ∀ x ∈ s, x.IsQuiet) : InPass (t ++ s) b keys := by
  induction s generalizing t with
  | nil => rwa [List.append_nil]
  | cons x s ih =>
    have hx : x.IsQuiet := hs x List.mem_cons_self
    rw [← List.singleton_append, ← List.append_assoc]
    exact ih (h.append_isQuiet hx) fun y hy => hs y (List.mem_cons_of_mem _ hy)

/-- With quiet `effects` behind it, a history `t` in which all deletions have ended stays one. -/
theorem AllEnded.append_effects (h : AllEnded t) {effects : List (LoopEffect kind.Key)}
    (hq : ∀ x ∈ effects, (.effect x : Happening kind).IsQuiet) :
    AllEnded (t ++ effects.map .effect) := by
  rw [AllEnded, started_append, ended_append, ended_effects,
    started_of_forall_isQuiet (List.forall_mem_map.mpr hq), List.append_nil]
  exact h

/-! ### The place of the loop -/

/-- The history `t` tells the phase of the loop. In a pass it tells which orphans were tried, and
one deletion more was started than has ended; otherwise none is under way, unless the loop was
aborted. -/
def Tells (t : History kind) : LoopPhase kind.Key → Prop
  | .passing _ b pass =>
    ∃ done o rest report, pass = .deleting o rest report ∧ kind.orphans b = done ++ o :: rest ∧
      t.InPass b ((done ++ [o]).map (·.key)) ∧ t.started.length = t.ended + 1
  | .ended => True
  | _ => t.AllEnded

end History

open History

/-- The invariant of the runs of a loop. -/
structure LoopWorld.Tracks (context : Context) (w : LoopWorld kind) (t : History kind) : Prop where
  /-- The loop keeps its context. -/
  context_eq : w.loop.context = context
  /-- The current bundle is the one that was stored last. -/
  lastStored : ∀ b, w.around.snapshot.load = some b → t.LastStored b
  /-- The signal shows whether it was raised. -/
  raised : w.around.signal.isRaised = false → ¬ t.Raised
  /-- The history tells where the loop is. -/
  tells : t.Tells w.loop.phase
  /-- Everything was permitted. -/
  sound : t.Sound context

/-! ### Steps of the loop -/

/-- A loop that has come to `step.1` with the effects `step.2` behind `t` keeps to the invariant, as
far as it is about the loop: the fields of `Tracks` that a change around the loop cannot break. -/
structure Carries (context : Context) (t : History kind)
    (step : Loop kind × List (LoopEffect kind.Key)) : Prop where
  /-- The loop keeps its context. -/
  context_eq : step.1.context = context
  /-- The history tells where the loop is. -/
  tells : Tells (t ++ step.2.map .effect) step.1.phase
  /-- Everything was permitted. -/
  sound : Sound context (t ++ step.2.map .effect)

/-- What is done `first` may be counted to the history or to the step. -/
theorem Carries.prepend {l : Loop kind} {first effects : List (LoopEffect kind.Key)}
    (h : Carries context (t ++ first.map .effect) (l, effects)) :
    Carries context t (l, first ++ effects) where
  context_eq := h.context_eq
  tells := by
    rw [List.map_append, ← List.append_assoc]
    exact h.tells
  sound := by
    rw [List.map_append, ← List.append_assoc]
    exact h.sound

/-- A step with quiet effects after which no deletion is under way: it asks for nothing but
`AllEnded` before. -/
theorem carries_of_isQuiet {step : Loop kind × List (LoopEffect kind.Key)}
    (hc : step.1.context = context) (hp : step.1.phase.isPassing = false) (hend : t.AllEnded)
    (hs : t.Sound context) (hq : ∀ x ∈ step.2, (.effect x : Happening kind).IsQuiet) :
    Carries context t step where
  context_eq := hc
  tells := by
    -- Outside of a pass, all that `Tells` says of a phase is that every deletion has ended.
    have hall := hend.append_effects hq
    cases hl : step.1.phase with
    | passing ticker b pass => simp [hl, LoopPhase.isPassing] at hp
    | ended => exact trivial
    | created => exact hall
    | waiting => exact hall
    | idle ticker => exact hall
  sound := hs.append_isQuiet (List.forall_mem_map.mpr hq)

theorem isQuiet_passEvents (report : PassReport) :
    ∀ x ∈ (Loop.passEvents report : List (LoopEffect kind.Key)),
      (.effect x : Happening kind).IsQuiet := by
  intro x hx
  unfold Loop.passEvents at hx
  split at hx
  · simp at hx
  · rw [List.mem_singleton] at hx
    rw [hx]
    exact trivial

/-- A pass that is over, with its `report`, leaves the loop waiting for the next tick, with nothing
under way. -/
theorem carries_resume_over (l : Loop kind) (now : Moment) (ticker : Ticker) (b : Bundle)
    (report : PassReport) (hend : t.AllEnded) (hs : t.Sound l.context) :
    Carries l.context t (l.resume now ticker b (.over report)) :=
  carries_of_isQuiet rfl rfl hend hs (isQuiet_passEvents report)

/-- **Going on with a pass**: the next deletion, if there is one, is permitted. `done` are the
orphans that were tried, and `rest` those that were not; `done ++ rest` are all orphans of `b`, so
that the first of `rest` is an orphan and not among `done`. -/
theorem carries_resume_next (l : Loop kind) (s : Surroundings) (ticker : Ticker) {b : Bundle}
    {done rest : List (Orphan kind.Key)} (report : PassReport)
    (horphans : kind.orphans b = done ++ rest) (hin : t.InPass b (done.map (·.key)))
    (hend : t.AllEnded) (hs : t.Sound l.context)
    (hraised : s.signal.isRaised = false → ¬ t.Raised) :
    Carries l.context t (l.resume s.now ticker b (.next (l.isCanceled s) rest report)) := by
  match rest with
  | [] => exact carries_resume_over l s.now ticker b report hend hs
  | o :: rest =>
    by_cases hc : l.isCanceled s = true
    · rw [Pass.next, if_pos hc]
      exact carries_resume_over l s.now ticker b report hend hs
    -- The pass goes on to `o`.
    rw [Pass.next, if_neg hc]
    have hkeys : kind.orphanKeys b = done.map (·.key) ++ o.key :: rest.map (·.key) := by
      rw [ObservationKind.orphanKeys, horphans, List.map_append, List.map_cons]
    -- No key is left over twice, so `o` is not among those that were tried.
    have hnew : o.key ∉ done.map (·.key) := by
      have hnodup := kind.nodup_orphanKeys b
      rw [hkeys] at hnodup
      intro ho
      exact (List.nodup_append.mp hnodup).2.2 o.key ho o.key List.mem_cons_self rfl
    have hstored : ∃ b, Happening.event (.store b) ∈ t := by
      obtain ⟨p, q, rfl, -, ⟨p', q', rfl, -⟩, -⟩ := hin
      exact ⟨b, by simp⟩
    have hquiet : l.context.attached = true → ¬ t.Raised := by
      intro ha
      apply hraised
      rw [Bool.not_eq_true, Loop.isCanceled, Context.isCanceled, ha, Bool.true_and] at hc
      exact hc
    refine ⟨rfl, ⟨done, o, rest, report, rfl, horphans, ?_, ?_⟩, ?_⟩
    · rw [List.map_append]
      exact hin.append_delete _ _
    · show (started (t ++ [_])).length = ended (t ++ [_]) + 1
      rw [started_append, ended_append, List.length_append, hend]
      rfl
    · exact hs.concat ⟨⟨b, _, hin, by rw [hkeys]; simp, hnew⟩, hstored, hquiet, hend⟩

theorem isQuiet_farewell (message : String) :
    ∀ x ∈ (Loop.farewell message : List (LoopEffect kind.Key)),
      (.effect x : Happening kind).IsQuiet := by
  simp [Loop.farewell, Loop.event, Happening.IsQuiet]

/-- A loop that begins waits for its first tick, or has ended. -/
theorem carries_begin (l : Loop kind) (now : Moment) (hend : t.AllEnded) (hs : t.Sound l.context) :
    Carries l.context t (l.begin now) := by
  unfold Loop.begin
  dsimp only
  split_ifs
  · refine carries_of_isQuiet rfl rfl hend hs ?_
    simp [Loop.event, Happening.IsQuiet]
  · refine carries_of_isQuiet rfl rfl hend hs ?_
    simp [Loop.event, Happening.IsQuiet]

/-- **A tick**: the pass works from the bundle that was stored last, with nothing in `done`. -/
theorem carries_tick (l : Loop kind) (s : Surroundings) (ticker : Ticker) (hend : t.AllEnded)
    (hs : t.Sound l.context) (hstored : ∀ b, s.snapshot.load = some b → t.LastStored b)
    (hraised : s.signal.isRaised = false → ¬ t.Raised) :
    Carries l.context t (l.tick s ticker) := by
  unfold Loop.tick
  split
  · exact carries_of_isQuiet rfl rfl hend hs (by simp)
  · rename_i b hb
    have hlast := hstored b hb
    -- The load stands in front of the first deletion, and is no deletion itself.
    have hall : AllEnded (t ++ [.effect (.load b)]) := by
      rw [AllEnded, started_append, ended_append, List.length_append, hend]
      rfl
    show Carries l.context t (_, [.load b] ++ _)
    apply Carries.prepend
    exact carries_resume_next l s (ticker.take s.now) _ (List.nil_append _).symm (inPass_load hlast)
      hall (hs.concat ⟨hlast, hend⟩) (fun hr => by simpa [Raised] using hraised hr)

/-- A step that the loop takes on its own. No deletion is under way then, so `htells` says that all
have ended. -/
theorem carries_advance (l : Loop kind) (s : Surroundings) (htells : t.Tells l.phase)
    (hs : t.Sound l.context) (hstored : ∀ b, s.snapshot.load = some b → t.LastStored b)
    (hraised : s.signal.isRaised = false → ¬ t.Raised)
    {step : Loop kind × List (LoopEffect kind.Key)} (ha : l.advance? s = some step) :
    Carries l.context t step := by
  unfold Loop.advance? at ha
  split at ha
  · -- The loop is run for the first time.
    rename_i hp
    rw [hp] at htells
    obtain rfl := Option.some.inj ha
    refine carries_of_isQuiet rfl rfl htells hs ?_
    simp [Loop.event, Happening.IsQuiet]
  · -- It waits for the first bundle.
    rename_i hp
    rw [hp] at htells
    split_ifs at ha
    · obtain rfl := Option.some.inj ha
      exact carries_of_isQuiet rfl rfl htells hs (isQuiet_farewell _)
    · obtain rfl := Option.some.inj ha
      exact carries_begin l s.now htells hs
  · -- It waits for a tick.
    rename_i ticker hp
    rw [hp] at htells
    split_ifs at ha
    · obtain rfl := Option.some.inj ha
      exact carries_of_isQuiet rfl rfl htells hs (isQuiet_farewell _)
    · obtain rfl := Option.some.inj ha
      exact carries_tick l s ticker htells hs hstored hraised
  · simp at ha
  · simp at ha

/-- A deletion that was called off ends the pass; any other lets it go on with the `rest` of the
orphans. -/
theorem finish_deleting (canceled : Bool) (result : Except ClientError Unit)
    (o : Orphan kind.Key) (rest : List (Orphan kind.Key)) (report : PassReport) :
    Pass.finish canceled result (.deleting o rest report) = .over report ∨
      ∃ report', Pass.finish canceled result (.deleting o rest report) =
        .next canceled rest report' := by
  unfold Pass.finish
  split
  · contradiction
  · rename_i hpass
    cases hpass
    split
    · exact .inr ⟨_, rfl⟩
    · split_ifs
      · exact .inl rfl
      · exact .inr ⟨_, rfl⟩

/-- The deletion that was under way ends: behind that event all have ended, and the pass goes on
with `o` among those tried, or is over. -/
theorem carries_finish (l : Loop kind) (s : Surroundings) (result : Except ClientError Unit)
    (hp : l.phase.isPassing = true) (htells : t.Tells l.phase) (hs : t.Sound l.context)
    (hraised : s.signal.isRaised = false → ¬ t.Raised) :
    Carries l.context (t ++ [.event (.finish result)]) (l.finish s result) := by
  unfold Loop.finish
  split
  · rename_i ticker b pass hphase
    rw [hphase] at htells
    obtain ⟨done, o, rest, report, rfl, horphans, hin, hone⟩ := htells
    dsimp only
    generalize (Option.map (fun o => kind.deletionEvents o result)
      (Pass.current? (.deleting o rest report))).getD [] = events
    apply Carries.prepend
    -- The end of the deletion and what is logged about it start nothing.
    have hq : ∀ x ∈ [.event (.finish result)] ++ (events.map LoopEffect.log).map .effect,
        (x : Happening kind).IsQuiet := by
      simp [Happening.IsQuiet]
    rw [List.append_assoc]
    have hin' := hin.append_forall_isQuiet hq
    have hsound := hs.append_isQuiet hq
    have hall : AllEnded (t ++ ([.event (.finish result)] ++
        (events.map LoopEffect.log).map .effect)) := by
      rw [AllEnded, started_append, started_of_forall_isQuiet hq, List.append_nil, hone,
        ended_append, ended_append, ended_effects]
      rfl
    have horphans' : kind.orphans b = (done ++ [o]) ++ rest := by
      rw [horphans, List.append_assoc, List.singleton_append]
    rcases finish_deleting (l.isCanceled s) result o rest report with hpass | ⟨report', hpass⟩
    · rw [hpass]
      exact carries_resume_over l s.now ticker b report hall hsound
    · rw [hpass]
      exact carries_resume_next l s ticker report' horphans' hin' hall hsound
        (fun hr => by simpa [Raised] using hraised hr)
  · rename_i hnot
    cases hphase : l.phase with
    | passing ticker b pass => exact absurd hphase (hnot ticker b pass)
    | _ => simp [hphase, LoopPhase.isPassing] at hp

/-- An aborted loop does nothing more; what was under way is never told to have ended, and `Tells`
asks nothing of the phase `ended`. -/
theorem carries_abort (l : Loop kind) (hs : t.Sound l.context) :
    Carries l.context t l.abort := by
  unfold Loop.abort
  split
  · exact ⟨rfl, trivial, hs.append_isQuiet (by simp)⟩
  · rename_i hp
    refine ⟨rfl, ?_, hs.append_isQuiet (by simp)⟩
    rw [hp]
    exact trivial
  · refine ⟨rfl, trivial, hs.append_isQuiet ?_⟩
    simp [Happening.IsQuiet]

/-! ### Steps of the world -/

/-- An event `e` that does not end a deletion leaves what `Tells` says of the phase as it is. -/
theorem History.Tells.append_event {phase : LoopPhase kind.Key} (h : t.Tells phase) {e : LoopEvent}
    (he : ended ([.event e] : History kind) = 0) : Tells (t ++ [.event e]) phase := by
  -- The count of ends is the same, in a pass (`n = 1`) as well as outside of one (`n = 0`).
  have hall : ∀ n, t.started.length = t.ended + n →
      (started (t ++ [.event e])).length = ended (t ++ [.event e]) + n := by
    intro n hn
    rw [started_append, ended_append, List.length_append, he, hn]
    rfl
  cases phase with
  | passing ticker b pass =>
    obtain ⟨done, o, rest, report, rfl, horphans, hin, hone⟩ := h
    exact ⟨done, o, rest, report, rfl, horphans, hin.append_isQuiet trivial, hall 1 hone⟩
  | ended => exact trivial
  | created => exact hall 0 h
  | waiting => exact hall 0 h
  | idle ticker => exact hall 0 h

namespace LoopWorld

theorem tracks_create (config : CollectorConfig) (context : Context) (now : Moment) :
    Tracks context (create kind config context now) [] where
  context_eq := rfl
  lastStored b hb := by simp [create, Snapshot.load, Snapshot.empty] at hb
  raised _ := by simp [Raised]
  tells := rfl
  sound := sound_nil

/-- What a step of the loop shows is all that has to be shown, if the event `e` changes nothing that
the loop sees. -/
theorem Tracks.of_carries {w : LoopWorld kind} (h : w.Tracks context t) {e : LoopEvent}
    (hstore : ∀ b, e ≠ .store b) (hraise : e ≠ .trigger ∧ e ≠ .drop)
    {step : Loop kind × List (LoopEffect kind.Key)}
    (hstep : Carries context (t ++ [.event e]) step) :
    Tracks context { w with loop := step.1 } (t ++ [.event e] ++ step.2.map .effect) where
  context_eq := hstep.context_eq
  lastStored b hb := by
    rw [List.append_assoc]
    apply (h.lastStored b hb).append
    intro c hc
    simp at hc
    exact hstore c hc.symm
  raised hr := by
    have := h.raised hr
    simpa [Raised, Ne.symm hraise.1, Ne.symm hraise.2] using this
  tells := hstep.tells
  sound := hstep.sound

/-- After a change of its surroundings the loop is where it was: what is left to show is that it
sees the last bundle and the signal as `t` tells. -/
theorem Tracks.of_around {w : LoopWorld kind} (h : w.Tracks context t) {e : LoopEvent}
    (he : ended ([.event e] : History kind) = 0) {around : Surroundings}
    (hstored : ∀ b, around.snapshot.load = some b → LastStored (t ++ [.event e]) b)
    (hraised : around.signal.isRaised = false → ¬ Raised (t ++ [.event e])) :
    Tracks context { w with around } (t ++ [.event e] ++ List.map .effect []) := by
  rw [List.map_nil, List.append_nil]
  exact ⟨h.context_eq, hstored, hraised, h.tells.append_event he,
    h.sound.concat (permits_of_isQuiet trivial)⟩

/-- **Every event keeps the invariant.** Bundles, signals and time go by `Tracks.of_around`, and
what the loop does by `Tracks.of_carries`. -/
theorem Tracks.step {w v : LoopWorld kind} (h : w.Tracks context t) {e : LoopEvent}
    {effects : List (LoopEffect kind.Key)} (he : w.step? e = some (v, effects)) :
    v.Tracks context (t ++ [.event e] ++ effects.map .effect) := by
  have hc := h.context_eq
  have hsound : Sound context (t ++ [.event e]) := h.sound.concat (permits_of_isQuiet trivial)
  cases e with
  | store b =>
    obtain ⟨rfl, rfl⟩ := Prod.mk.inj (Option.some.inj he)
    refine h.of_around rfl (fun c hb => ?_) (fun hr => ?_)
    · obtain rfl := Option.some.inj hb
      exact lastStored_store t b
    · simpa [Raised] using h.raised hr
  | trigger =>
    obtain ⟨rfl, rfl⟩ := Prod.mk.inj (Option.some.inj he)
    -- The signal is raised from now on, so there is nothing to show.
    refine h.of_around rfl (fun c hb => (h.lastStored c hb).append (by simp)) (fun hr => ?_)
    rw [Signal.isRaised_trigger] at hr
    contradiction
  | drop =>
    obtain ⟨rfl, rfl⟩ := Prod.mk.inj (Option.some.inj he)
    refine h.of_around rfl (fun c hb => (h.lastStored c hb).append (by simp)) (fun hr => ?_)
    rw [Signal.isRaised_drop] at hr
    contradiction
  | elapse duration =>
    obtain ⟨rfl, rfl⟩ := Prod.mk.inj (Option.some.inj he)
    refine h.of_around rfl (fun c hb => (h.lastStored c hb).append (by simp)) (fun hr => ?_)
    simpa [Raised] using h.raised hr
  | advance =>
    rw [step?, Option.map_eq_some_iff] at he
    obtain ⟨step, ha, hv⟩ := he
    obtain ⟨rfl, rfl⟩ := Prod.mk.inj hv
    refine h.of_carries (by simp) (by simp) ?_
    rw [← hc]
    refine carries_advance w.loop w.around (h.tells.append_event rfl) (hc ▸ hsound) ?_ ?_ ha
    · exact fun b hb => (h.lastStored b hb).append (by simp)
    · exact fun hr => by simpa [Raised] using h.raised hr
  | finish result =>
    rw [step?] at he
    split_ifs at he with hp
    obtain ⟨rfl, rfl⟩ := Prod.mk.inj (Option.some.inj he)
    refine h.of_carries (by simp) (by simp) ?_
    rw [← hc]
    exact carries_finish w.loop w.around result hp h.tells (hc ▸ h.sound) h.raised
  | abort =>
    obtain ⟨rfl, rfl⟩ := Prod.mk.inj (Option.some.inj he)
    refine h.of_carries (by simp) (by simp) ?_
    rw [← hc]
    exact carries_abort w.loop (hc ▸ hsound)

/-- **Every run keeps the invariant** `Tracks`, by induction on the events. -/
theorem Tracks.run {w v : LoopWorld kind} {s : History kind} (h : w.Tracks context s)
    {events : List LoopEvent} (hr : w.run? s events = some (v, t)) : v.Tracks context t := by
  induction events generalizing w s with
  | nil =>
    obtain ⟨rfl, rfl⟩ := Prod.mk.inj (Option.some.inj hr)
    exact h
  | cons e rest ih =>
    rw [run?, Option.bind_eq_some_iff] at hr
    obtain ⟨⟨u, effects⟩, he, hr⟩ := hr
    exact ih (h.step he) hr

end LoopWorld

/-- **A loop deletes nothing but orphans**, in every run and whatever happens around it. A deletion
that is started belongs to a pass over the bundle that was stored last when the pass started. Its
observation is an orphan of that bundle and was not tried in this pass before; some bundle had been
stored, the shutdown had not come, and every other deletion had ended. A pass is started only over
the bundle that was stored last, and only when every deletion has ended. -/
theorem Loop.deletions_safe {config : CollectorConfig} {now : Moment} {events : List LoopEvent}
    {w : LoopWorld kind}
    (h : (LoopWorld.create kind config context now).run? [] events = some (w, t)) :
    (∀ (front : History kind) key ctx back, t = front ++ .effect (.delete key ctx) :: back →
      (∃ b keys, front.InPass b keys ∧ key ∈ (kind.orphans b).map (·.key) ∧ key ∉ keys) ∧
        (∃ b, .event (.store b) ∈ front) ∧
        (context.attached = true → ¬ front.Raised) ∧ front.AllEnded) ∧
      ∀ (front : History kind) b back, t = front ++ .effect (.load b) :: back →
        front.LastStored b ∧ front.AllEnded := by
  have hsound := ((LoopWorld.tracks_create config context now).run h).sound
  constructor
  · intro front key ctx back ht
    exact hsound front _ back ht
  · intro front b back ht
    exact hsound front _ back ht

/-- **A newer bundle does not change a pass**: `c` is deleted as an orphan of the bundle that the
pass started with, though an empty one was stored in the meantime. -/
theorem Loop.deletions_safe_newer_bundle :
    ∃ (w : LoopWorld .applicationStatus) (front : History .applicationStatus)
      (a c : ApplicationId) (b : Bundle) (ctx : Context),
      a.text = "a" ∧ c.text = "c" ∧
      b = ⟨[], [⟨a, "", []⟩, ⟨c, "", []⟩], [], []⟩ ∧
      (LoopWorld.create .applicationStatus ⟨1000, 60000⟩ .root 0).run? []
          [.advance, .store b, .advance, .advance, .store .empty, .finish (.ok ())] =
        some (w, front ++ [.effect (.delete c ctx)]) ∧
      front.LastStored .empty ∧ ¬ front.Raised ∧ front.AllEnded := by
  let a : ApplicationId := ⟨"a", by decide⟩
  let c : ApplicationId := ⟨"c", by decide⟩
  let b : Bundle := ⟨[], [⟨a, "", []⟩, ⟨c, "", []⟩], [], []⟩
  let events : List LoopEvent :=
    [.advance, .store b, .advance, .advance, .store .empty, .finish (.ok ())]
  obtain ⟨w, front, ctx, hrun, hstored⟩ : ∃ (w : LoopWorld .applicationStatus)
      (front : History .applicationStatus) (ctx : Context),
      (LoopWorld.create .applicationStatus ⟨1000, 60000⟩ .root 0).run? [] events =
          some (w, front ++ [.effect (.delete c ctx)]) ∧
        front.LastStored .empty :=
    ⟨_, [_, _, _, _, _, _, _, _, _, _, _, _, _], _, rfl,
      [_, _, _, _, _, _, _, _, _, _], [_, _], rfl, by simp⟩
  obtain ⟨-, -, hraised, hended⟩ := (Loop.deletions_safe hrun).1 front c ctx [] rfl
  exact ⟨w, front, a, c, b, ctx, rfl, rfl, rfl, hrun, hstored, hraised rfl, hended⟩

end FleetAgent
