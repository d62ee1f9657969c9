import FleetAgent.Proofs.Tunnel.Backoff
import FleetAgent.Proofs.Tunnel.Steps
/-!
# Rests follow the policy

What the tunnel tells about its connection are turns (`Turn`): it is open, or it rests.
`Tunnel.rests_follow` says of every run, whatever comes of the connections, that a rest is as long
as the policy says for the number of rests since it was last told that the tunnel is open
(`Tunnel.restsSince`). The tunnel counts them itself in `attempt`, up to `Tunnel.maxAttempt`, where
the policy has long stopped to tell attempts apart.

A step opens the tunnel, makes it rest, or does neither (`Tunnel.Turns`, `Tunnel.turns_step`), and
by that the counter keeps up with what was told (`Tunnel.Counts.step`).
-/

namespace FleetAgent

/-- What happens to the connection. -/
inductive Turn where
  /-- The tunnel is open. -/
  | connected
  /-- The tunnel rests. -/
  | rested
deriving DecidableEq

/-- What an effect tells about the connection. -/
def TunnelEffect.turn? : TunnelEffect → Option Turn
  | .log e =>
    if e.message = "Reverse tunnel connected" then some .connected
    else if e.message = "Reconnecting reverse tunnel" then some .rested
    else none
  | .dial _ | .dialBack _ _ | .serve _ => none

namespace Tunnel

variable {t : Tunnel} {s : Surroundings} {e : TunnelEvent} {past : List Turn}
  {effects : List TunnelEffect}
  {events : List (Surroundings × TunnelEvent)}

/-- What effects tell about the connection, in order. -/
def turns (effects : List TunnelEffect) : List Turn :=
  effects.filterMap TunnelEffect.turn?

/-- How many rests there are in `past` behind the last turn at which the tunnel was open. -/
def restsSince (past : List Turn) : Nat :=
  (past.reverse.takeWhile (· = .rested)).length

@[simp] theorem restsSince_connected : restsSince (past ++ [.connected]) = 0 := by
  simp [restsSince]

@[simp] theorem restsSince_rested : restsSince (past ++ [.rested]) = restsSince past + 1 := by
  simp [restsSince]

theorem turns_append (effects more : List TunnelEffect) :
    turns (effects ++ more) = turns effects ++ turns more :=
  List.filterMap_append

@[simp] theorem turns_cons_note (b : Setback) (n : Nat) (effects : List TunnelEffect) :
    turns (b.note n :: effects) = turns effects := by
  cases b <;> rfl

@[simp] theorem turns_preface (t : Tunnel) : turns t.preface = [] := by
  rw [preface]
  split <;> rfl

/-! ### Steps -/

/-- What the step of the event `e` means for the rests, `next` being the tunnel behind it and its
effects. -/
inductive Turns (t : Tunnel) (s : Surroundings) (e : TunnelEvent) :
    Tunnel × List TunnelEffect → Prop where
  /-- The tunnel is open, and rests are counted anew. -/
  | connects {next : Tunnel × List TunnelEffect} (h : turns next.2 = [.connected])
      (hopening : t.phase = .opening) (hserving : next.1.phase = .serving)
      (hattempt : next.1.attempt = 0) : Turns t s e next
  /-- The tunnel rests, and the rest is counted. -/
  | rests {next : Tunnel × List TunnelEffect} (h : turns next.2 = [.rested])
      (hphase : next.1.phase = .resting (s.now + t.policy.delay t.attempt e.draw))
      (htold : event .debug "Reconnecting reverse tunnel"
        [("delay_ms", .number (t.policy.delay t.attempt e.draw))] ∈ next.2)
      (hattempt : next.1.attempt = min (t.attempt + 1) maxAttempt) : Turns t s e next
  /-- Neither. -/
  | goesOn {next : Tunnel × List TunnelEffect} (h : turns next.2 = [])
      (hserving : next.1.phase = .serving → t.phase = .serving)
      (hresting : ∀ wakeAt, next.1.phase = .resting wakeAt → t.phase = .resting wakeAt)
      (hattempt : next.1.attempt = t.attempt) : Turns t s e next

/-- A step that leaves the phase and the counter is no turn. -/
theorem Turns.of_phase_eq {next : Tunnel × List TunnelEffect} (h : turns next.2 = [])
    (hphase : next.1.phase = t.phase) (hattempt : next.1.attempt = t.attempt) :
    t.Turns s e next :=
  .goesOn h (fun hserving => hphase ▸ hserving) (fun _ hresting => hphase ▸ hresting) hattempt

/-- A payload is no turn. -/
theorem turns_handle (t : Tunnel) (s : Surroundings) (e : TunnelEvent) (payload : List UInt8) :
    t.Turns s e (t.handle payload) := by
  rw [handle]
  split
  next => exact .of_phase_eq rfl rfl rfl
  next m _ =>
    split
    next => exact .of_phase_eq rfl rfl rfl
    next => exact .of_phase_eq rfl rfl rfl
    next =>
      have hignored : turns [ignoredEvent m] = [] := by
        rw [ignoredEvent]
        split <;> rfl
      exact .of_phase_eq hignored rfl rfl

theorem turns_dialled (t : Tunnel) (s : Surroundings) (e : TunnelEvent) (i : Nat) (path : String)
    (result : Except Controller.ClientError Unit) : t.Turns s e (t.dialled i path result) := by
  cases result with
  | ok => exact .of_phase_eq rfl rfl rfl
  | error error =>
    have hquiet : turns (t.dialled i path (.error error)).2 = [] := by
      rw [dialled]
      dsimp only
      split <;> rfl
    exact .of_phase_eq hquiet rfl rfl

/-- **A step is a turn** only if the tunnel opens or rests, and a rest is as long as the policy
says; by cases on the way `Goes` of the event `e`. -/
theorem turns_step (t : Tunnel) (s : Surroundings) (e : TunnelEvent) :
    t.Turns s e (t.step s e) := by
  -- To stop is told by no turn, with the preface or without.
  have hstop : turns (t.preface ++ t.stop.2) = [] := by
    rw [turns_append, turns_preface]
    rfl
  generalize hstep : t.step s e = next
  have hgoes := t.goes_step s e
  rw [hstep] at hgoes
  cases hgoes with
  | idles => exact .of_phase_eq rfl rfl rfl
  | dials =>
    refine .goesOn ?_ nofun nofun rfl
    rw [turns_append, turns_preface]
    rfl
  | connects hopening => exact .connects rfl hopening rfl rfl
  | rests =>
    refine .rests ?_ rfl ?_ rfl
    · rw [turns_append, turns_preface, turns_cons_note]
      rfl
    · exact List.mem_append_right _ (List.mem_cons_of_mem _ List.mem_cons_self)
  | stops => exact .goesOn hstop nofun nofun rfl
  | wakes => exact .goesOn rfl nofun nofun rfl
  | takes => exact turns_handle t s e _
  | dialsBack => exact .of_phase_eq rfl rfl rfl
  | establishes => exact turns_dialled t s _ _ _ _
  | dialsInVain => exact turns_dialled t s e _ _ _
  | finishes => exact .of_phase_eq rfl rfl rfl

/-- The counter of `t` counts the rests in `past`, up to its greatest number. -/
def Counts (t : Tunnel) (past : List Turn) : Prop :=
  t.attempt = min (restsSince past) maxAttempt

/-- **Every step keeps the count** of `past` rests: it starts anew when the tunnel opens, and goes
up by one at a rest. -/
theorem Counts.step (h : t.Counts past) (s : Surroundings) (e : TunnelEvent) :
    (t.step s e).1.Counts (past ++ turns (t.step s e).2) := by
  cases t.turns_step s e with
  | connects hturns _ _ hattempt =>
    rw [Counts, hturns, hattempt, restsSince_connected, Nat.zero_min]
  | rests hturns _ _ hattempt =>
    rw [Counts] at h
    rw [Counts, hturns, hattempt, h, restsSince_rested]
    omega
  | goesOn hturns _ _ hattempt =>
    rw [Counts, hturns, hattempt, List.append_nil]
    exact h

/-! ### Runs -/

theorem Counts.steps (h : t.Counts past) (events : List (Surroundings × TunnelEvent)) :
    (t.steps events).1.Counts (past ++ turns (t.steps events).2) := by
  induction events generalizing t past with
  | nil =>
    rw [steps_nil, show turns [] = [] from rfl, List.append_nil]
    exact h
  | cons head events ih =>
    obtain ⟨s, e⟩ := head
    rw [steps_cons, turns_append, ← List.append_assoc]
    exact ih (h.step s e)

/-- **Rests follow the policy.** Behind any events, whatever came of the connections:

* a step at which a rest is told of begins a rest until as long from now as the policy says for the
  rests since the tunnel was open last, and tells so; and the tunnel does not come to rest
  otherwise;
* that the tunnel is open is told exactly when it comes to be;
* the counter is a number of 32 bits, and counts the rests as far as these reach;
* waits double up to a cap, and a random part is added to them. -/
theorem rests_follow {client : Controller.Client} {context : Context} {policy : Backoff}
    (h : (create client context policy).steps events = (t, effects)) (s : Surroundings)
    (e : TunnelEvent) :
    (turns (t.step s e).2 = [.rested] →
      (t.step s e).1.phase =
        .resting (s.now + policy.delay (restsSince (turns effects)) e.draw) ∧
      event .debug "Reconnecting reverse tunnel"
        [("delay_ms", .number (policy.delay (restsSince (turns effects)) e.draw))] ∈
          (t.step s e).2) ∧
    (∀ wakeAt, (t.step s e).1.phase = .resting wakeAt →
      turns (t.step s e).2 = [.rested] ∨
        turns (t.step s e).2 = [] ∧ t.phase = .resting wakeAt) ∧
    (turns (t.step s e).2 = [.connected] ↔
      t.phase = .opening ∧ (t.step s e).1.phase = .serving) ∧
    t.attempt = min (restsSince (turns effects)) maxAttempt ∧ t.attempt < 2 ^ 32 ∧
    (policy.base ≤ 2 ^ 53 → policy.max ≤ 2 ^ 53 → policy.Bounds) := by
  have hcounts : t.Counts (turns effects) := by
    have hcreate : (create client context policy).Counts [] := rfl
    have := hcreate.steps events
    rwa [h, List.nil_append] at this
  have hpolicy : t.policy = policy := by
    obtain ⟨-, -, hpolicy⟩ := (create client context policy).settings_steps events
    rwa [h] at hpolicy
  -- The counter ends at `maxAttempt`, but the policy does not tell what lies behind the 32nd.
  have hdelay : t.policy.delay t.attempt e.draw =
      policy.delay (restsSince (turns effects)) e.draw := by
    rw [hpolicy, hcounts, Backoff.delay_min (by decide)]
  have hbounded : t.attempt < 2 ^ 32 := by
    rw [hcounts]
    exact lt_of_le_of_lt (min_le_right _ _) (by decide)
  rw [← hdelay]
  refine ⟨?_, ?_, ?_, hcounts, hbounded, Backoff.bounds⟩
  · intro hrested
    cases t.turns_step s e with
    | connects hturns | goesOn hturns =>
      rw [hturns] at hrested
      cases hrested
    | rests _ hphase htold => exact ⟨hphase, htold⟩
  · intro wakeAt hresting
    cases t.turns_step s e with
    | connects _ _ hserving =>
      rw [hserving] at hresting
      cases hresting
    | rests hturns => exact .inl hturns
    | goesOn hturns _ hphase => exact .inr ⟨hturns, hphase wakeAt hresting⟩
  · cases t.turns_step s e with
    | connects hturns hopening hserving => exact iff_of_true hturns ⟨hopening, hserving⟩
    | rests hturns hphase =>
      rw [hturns, hphase]
      exact iff_of_false nofun fun h => nomatch h.2
    | goesOn hturns hserving =>
      rw [hturns]
      refine iff_of_false nofun fun ⟨hopening, hnext⟩ => ?_
      rw [hserving hnext] at hopening
      cases hopening

/-- The tunnel is opened in vain, then it is opened and closed, and then it is opened in vain
again. -/
def reopenings : List (Surroundings × TunnelEvent) :=
  [(quietAt 0, .run 0), (quietAt 0, .answer 0 .broken), (quietAt 1000, .run 0),
    (quietAt 1000, .answer 0 .connected), (quietAt 5000, .receive 0 .closed),
    (quietAt 6000, .run 0), (quietAt 6000, .answer 0 .broken), (quietAt 8000, .run 0)]

/-- The rest behind that is the third one since the tunnel was open: it is four seconds long, and an
eighth more. -/
theorem rests_follow_reopenings :
    ∃ t effects, fresh.steps reopenings = (t, effects) ∧
      restsSince (turns effects) = 2 ∧
      turns (t.step (quietAt 8000) (.answer (1 / 2) .broken)).2 = [.rested] ∧
      (t.step (quietAt 8000) (.answer (1 / 2) .broken)).1.phase = .resting 12500 ∧
      Backoff.standard.Bounds := by
  have hsteps : fresh.steps reopenings = ((fresh.steps reopenings).1, (fresh.steps reopenings).2) :=
    rfl
  obtain ⟨hrest, -, -, -, -, hbounds⟩ :=
    rests_follow hsteps (quietAt 8000) (.answer (1 / 2) .broken)
  refine ⟨_, _, hsteps, by decide +kernel, by decide +kernel, ?_,
    hbounds (by decide) (by decide)⟩
  exact (hrest (by decide +kernel)).1.trans (by decide +kernel)

end Tunnel

end FleetAgent
