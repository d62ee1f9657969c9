import FleetAgent.Proofs.Tunnel.Payloads
import FleetAgent.Proofs.Tunnel.Steps
/-!
# Sessions are the connections that were asked for

`Tunnel.dialsBack_as_asked` says of every run of the tunnel, whatever comes over it and whatever
becomes of its sessions: the sessions are those that the payloads asked for, in order, and each is
dialled at most once, at its own path. No payload and no session ends the tunnel or touches another
session (`Tunnel.Leaves`). Sessions stay when the tunnel is opened anew, and none is left when it
has ended (`Tunnel.EndsAll`).

The paths of sessions never change, and neither is one dropped (`Tunnel.paths_step`), so along a run
there is only added to them. A session that has been run is not run again (`Tunnel.HasRun`). Each of
these is shown of one step, by cases on the ways to go on (`Tunnel.Goes`), and of a run by induction
on its events.
-/

namespace FleetAgent

open Controller

namespace Tunnel

variable {t : Tunnel} {s : Surroundings} {e : TunnelEvent} {i : Nat}
  {next : Tunnel × List TunnelEffect} {events : List (Surroundings × TunnelEvent)}

/-- The paths of the sessions, in the order in which they were asked for. -/
def paths (t : Tunnel) : List String :=
  t.sessions.map (·.path)

/-- The payloads that the open tunnel takes along several events, in order. -/
def taken (t : Tunnel) : List (Surroundings × TunnelEvent) → List (List UInt8)
  | [] => []
  | (s, e) :: rest => (t.taken? s e).toList ++ (t.step s e).1.taken rest

/-! ### Sessions that are set -/

/-- Setting the session `i` leaves the others. -/
theorem getElem?_setSession (t : Tunnel) (i j : Nat) (phase : SessionPhase) :
    (t.setSession i phase).sessions[j]? =
      if i = j then t.sessions[j]?.map ({ · with phase }) else t.sessions[j]? := by
  rw [setSession, List.getElem?_modify]
  by_cases h : i = j
  · simp [h]
  · simp [h]

@[simp] theorem paths_setSession (t : Tunnel) (i : Nat) (phase : SessionPhase) :
    (t.setSession i phase).paths = t.paths := by
  refine List.ext_getElem? fun j => ?_
  rw [paths, paths, List.getElem?_map, List.getElem?_map, getElem?_setSession]
  split
  next => rw [Option.map_map]; rfl
  next => rfl

/-- The sessions that are dialled, and where. -/
def dialBacks (effects : List TunnelEffect) : List (Nat × Dial) :=
  effects.filterMap fun
    | .dialBack i d => some (i, d)
    | _ => none

/-- What is dialled by `effects` and others behind them stands in their order. -/
theorem dialBacks_append (effects more : List TunnelEffect) :
    dialBacks (effects ++ more) = dialBacks effects ++ dialBacks more :=
  List.filterMap_append

@[simp] theorem dialBacks_preface (t : Tunnel) : dialBacks t.preface = [] := by
  rw [preface]
  split <;> rfl

@[simp] theorem dialBacks_cons_note (b : Setback) (n : Nat) (effects : List TunnelEffect) :
    dialBacks (b.note n :: effects) = dialBacks effects := by
  cases b <;> rfl

/-- A session whose connection was dialled is set, whatever came of it. -/
theorem exists_dialled_eq (t : Tunnel) (i : Nat) (path : String)
    (result : Except ClientError Unit) :
    ∃ phase effects, phase ≠ .created ∧ dialBacks effects = [] ∧
      t.dialled i path result = (t.setSession i phase, effects) := by
  cases result with
  | ok => exact ⟨.served, _, nofun, rfl, rfl⟩
  | error e =>
    refine ⟨.over, _, nofun, ?_, rfl⟩
    split <;> rfl

/-! ### Paths -/

/-- A `payload` that asks for a path adds a session, and any other one changes nothing. -/
theorem fst_handle_cases (t : Tunnel) (payload : List UInt8) :
    (∃ path, AsksFor payload path ∧
        (t.handle payload).1 = { t with sessions := t.sessions ++ [⟨path, .created⟩] }) ∨
      (∀ path, ¬ AsksFor payload path) ∧ (t.handle payload).1 = t := by
  -- A payload decodes to one message, and asks for what that asks for.
  have hnone : ∀ {m}, Wire.decode ControlMessage.ofNode payload = .ok m →
      (∀ path, m.action ≠ .dial path) → ∀ path, ¬ AsksFor payload path := by
    intro m hm hne path hasks
    obtain ⟨m', hm', haction⟩ := asksFor_iff.mp hasks
    rw [hm] at hm'
    rw [← Except.ok.inj hm'] at haction
    exact hne path haction
  rw [handle]
  cases hm : Wire.decode ControlMessage.ofNode payload with
  | error fault =>
    refine .inr ⟨fun path hasks => ?_, rfl⟩
    obtain ⟨m, hok⟩ := hasks.decodes
    rw [hm] at hok
    cases hok
  | ok m =>
    dsimp only
    cases haction : m.action with
    | keepAlive => exact .inr ⟨hnone hm (by simp [haction]), rfl⟩
    | dial path => exact .inl ⟨path, asksFor_iff.mpr ⟨m, hm, haction⟩, rfl⟩
    | ignore => exact .inr ⟨hnone hm (by simp [haction]), rfl⟩

/-- What a `payload` adds to the paths is what it asks for, one path or none. -/
theorem paths_handle (t : Tunnel) (payload : List UInt8) :
    ∃ asked, AskedPaths [payload] asked ∧ (t.handle payload).1.paths = t.paths ++ asked := by
  rcases t.fst_handle_cases payload with ⟨path, hasks, h⟩ | ⟨hnone, h⟩
  · exact ⟨[path], .asks hasks .nil, by rw [h, paths, List.map_append]; rfl⟩
  · exact ⟨[], .other hnone .nil, by rw [h, List.append_nil]⟩

/-- Only payloads add paths. -/
theorem Goes.paths_eq (h : t.Goes s e next) (hnone : t.taken? s e = none) :
    next.1.paths = t.paths := by
  cases h with
  | takes h =>
    rw [hnone] at h
    cases h
  | stops | wakes =>
    rw [paths, paths, stop, List.map_map]
    rfl
  | establishes | dialsInVain =>
    obtain ⟨phase, effects, -, -, h⟩ := t.exists_dialled_eq _ _ _
    rw [h, paths_setSession]
  | dialsBack | finishes => exact paths_setSession _ _ _
  | idles | dials | connects | rests => rfl

/-- **What a step adds to the paths** is what its payload asks for, if the event `e` brings one that
is taken. -/
theorem paths_step (t : Tunnel) (s : Surroundings) (e : TunnelEvent) :
    ∃ asked, AskedPaths (t.taken? s e).toList asked ∧ (t.step s e).1.paths = t.paths ++ asked := by
  cases htaken : t.taken? s e with
  | some payload =>
    rw [(step_of_taken? htaken).2]
    exact t.paths_handle payload
  | none =>
    refine ⟨[], .nil, ?_⟩
    rw [(t.goes_step s e).paths_eq htaken, List.append_nil]

/-- What a run adds to the paths is what the payloads ask for that it takes, by induction on the
`events`. -/
theorem paths_steps (t : Tunnel) (events : List (Surroundings × TunnelEvent)) :
    ∃ asked, AskedPaths (t.taken events) asked ∧ (t.steps events).1.paths = t.paths ++ asked := by
  induction events generalizing t with
  | nil => exact ⟨[], .nil, (List.append_nil _).symm⟩
  | cons head events ih =>
    obtain ⟨s, e⟩ := head
    obtain ⟨asked, hasked, hpaths⟩ := t.paths_step s e
    obtain ⟨later, hlater, hrest⟩ := ih (t.step s e).1
    refine ⟨asked ++ later, hasked.append hlater, ?_⟩
    rw [steps_cons, hrest, hpaths, List.append_assoc]

/-! ### What a step leaves alone -/

/-- What the step of `e` to `next` leaves alone: messages and sessions do not end the tunnel, and
the other sessions outlive everything but its end. -/
structure Leaves (t : Tunnel) (s : Surroundings) (e : TunnelEvent)
    (next : Tunnel × List TunnelEffect) : Prop where
  /-- No payload ends the tunnel. -/
  payload : ∀ payload, t.taken? s e = some payload → next.1.phase = .serving
  /-- Nor does a session. -/
  session : ∀ i, e.session? = some i → next.1.phase = t.phase
  /-- The open tunnel ends when the controller closes it, when the connection is lost, and when
  messages are not waited for any longer. -/
  serving : t.phase = .serving → next.1.phase ≠ .serving →
    (∃ draw, e = .receive draw .closed) ∨ (∃ draw, e = .receive draw .lost) ∨
      ∃ i, t.interruption? s = some i
  /-- The other sessions stay, also when the tunnel is opened anew. -/
  others : next.1.phase ≠ .ended → ∀ i < t.sessions.length, e.session? ≠ some i →
    next.1.sessions[i]? = t.sessions[i]?

/-- A setback of the open tunnel. -/
theorem Suffers.of_serving {b : Setback} (h : t.Suffers s e b) (hserving : t.phase = .serving) :
    (∃ draw, e = .receive draw .closed) ∨ (∃ draw, e = .receive draw .lost) ∨
      ∃ i, t.interruption? s = some i := by
  cases h with
  | undialled h =>
    rcases h with h | ⟨_, h, -⟩ <;> rw [hserving] at h <;> cases h
  | givenUp h | refused h =>
    rw [hserving] at h
    cases h
  | cutOff _ _ hi => exact .inr (.inr ⟨_, hi⟩)
  | closed => exact .inl ⟨_, rfl⟩
  | lost => exact .inr (.inl ⟨_, rfl⟩)

theorem Suffers.session?_eq {b : Setback} (h : t.Suffers s e b) : e.session? = none := by
  cases h with
  | givenUp _ he | cutOff _ he =>
    cases e with
    | run | answer | receive => rfl
    | runSession | answerSession | endSession => cases he
  | undialled | refused | closed | lost => rfl

theorem IsDue.phase_ne (h : t.IsDue s) : t.phase ≠ .serving ∧ t.phase ≠ .ended := by
  rcases h with h | ⟨wakeAt, h, -⟩ <;> rw [h] <;> exact ⟨nofun, nofun⟩

/-- A payload that is taken may add a session behind the others. -/
theorem leaves_handle {payload : List UInt8} (h : t.taken? s e = some payload) :
    t.Leaves s e (t.handle payload) := by
  have hserving : (t.handle payload).1.phase = .serving := by
    obtain ⟨sessions, hhandle⟩ := t.fst_handle payload
    rw [hhandle]
    exact (step_of_taken? h).1
  refine ⟨fun _ _ => hserving, fun i he => ?_, fun _ hne => absurd hserving hne, ?_⟩
  · rw [hserving, (step_of_taken? h).1]
  · intro _ i hi _
    rcases t.fst_handle_cases payload with ⟨path, -, h⟩ | ⟨-, h⟩
    · rw [h]
      exact List.getElem?_append_left hi
    · rw [h]

/-- What happens to one session leaves the tunnel and the others alone. -/
theorem leaves_setSession {phase : SessionPhase} {effects : List TunnelEffect}
    (he : e.session? = some i) : t.Leaves s e (t.setSession i phase, effects) where
  payload payload h := (step_of_taken? h).1
  session _ _ := rfl
  serving hserving hne := absurd hserving hne
  others _ j _ hj := by
    rw [getElem?_setSession, if_neg]
    rintro rfl
    exact hj he

theorem leaves_dialled {path : String} {result : Except ClientError Unit}
    (he : e.session? = some i) : t.Leaves s e (t.dialled i path result) := by
  obtain ⟨phase, effects, -, -, h⟩ := t.exists_dialled_eq i path result
  rw [h]
  exact leaves_setSession he

/-- A step of the tunnel itself at which it takes no payload. -/
theorem leaves_of_phase {effects : List TunnelEffect} {t' : Tunnel} (he : e.session? = none)
    (htaken : t.taken? s e = none)
    (hserving : t.phase = .serving → t'.phase ≠ .serving →
      (∃ draw, e = .receive draw .closed) ∨ (∃ draw, e = .receive draw .lost) ∨
        ∃ i, t.interruption? s = some i)
    (hsessions : t'.phase ≠ .ended → t'.sessions = t.sessions) : t.Leaves s e (t', effects) where
  payload payload h := by
    rw [htaken] at h
    cases h
  session i h := by
    rw [he] at h
    cases h
  serving := hserving
  others hne i _ _ := by rw [hsessions hne]

/-- **What a step leaves alone**, whatever happens: `Leaves` holds of every event `e`. -/
theorem leaves_step (t : Tunnel) (s : Surroundings) (e : TunnelEvent) :
    t.Leaves s e (t.step s e) := by
  cases htaken : t.taken? s e with
  | some payload =>
    rw [(step_of_taken? htaken).2]
    exact leaves_handle htaken
  -- No payload is taken; of the other ways each leaves alone what it is not about.
  | none =>
    generalize hstep : t.step s e = next
    have hgoes := t.goes_step s e
    rw [hstep] at hgoes
    cases hgoes with
    | idles =>
      exact ⟨fun _ h => (step_of_taken? h).1, fun _ _ => rfl, fun h hne => absurd h hne,
        fun _ _ _ _ => rfl⟩
    | dials h => exact leaves_of_phase rfl htaken (fun hs => absurd hs h.phase_ne.1) fun _ => rfl
    | connects h => exact leaves_of_phase rfl htaken (fun _ hne => absurd rfl hne) fun _ => rfl
    | rests h =>
      exact leaves_of_phase h.session?_eq htaken (fun hs _ => h.of_serving hs) fun _ => rfl
    | stops h =>
      exact leaves_of_phase h.session?_eq htaken (fun hs _ => h.of_serving hs)
        fun hne => absurd rfl hne
    | wakes h =>
      refine leaves_of_phase rfl htaken (fun hs => ?_) fun hne => absurd rfl hne
      rw [h] at hs
      cases hs
    | takes h => exact leaves_handle h
    | dialsBack => exact leaves_setSession rfl
    | establishes => exact leaves_dialled rfl
    | dialsInVain he => exact leaves_dialled he
    | finishes => exact leaves_setSession rfl

/-! ### Dials -/

/-- The session `i` has been run. -/
def HasRun (t : Tunnel) (i : Nat) : Prop :=
  ∃ session, t.sessions[i]? = some session ∧ session.phase ≠ .created

/-- What a step means for the sessions: one that was not run yet is dialled, or none is dialled. A
session that has been run has been run. -/
inductive Dials (t : Tunnel) (s : Surroundings) : Tunnel × List TunnelEffect → Prop where
  /-- The session `i` is dialled at its path. -/
  | one {next : Tunnel × List TunnelEffect} {i : Nat} {path : String} {d : Dial}
      (h : dialBacks next.2 = [(i, d)]) (hpath : t.paths[i]? = some path)
      (hstart : t.client.startDialBack t.context s.signal s.now path = .ok d)
      (hnew : ¬ t.HasRun i) (hrun : next.1.HasRun i)
      (hkeeps : ∀ j, t.HasRun j → next.1.HasRun j) : Dials t s next
  /-- None is dialled. -/
  | none {next : Tunnel × List TunnelEffect} (h : dialBacks next.2 = [])
      (hkeeps : ∀ j, t.HasRun j → next.1.HasRun j) : Dials t s next

/-- The session `j` that has been run has been run when any session `i` is set to a phase behind
`.created`. -/
theorem HasRun.setSession {phase : SessionPhase} {j : Nat} (h : t.HasRun j)
    (hphase : phase ≠ .created) : (t.setSession i phase).HasRun j := by
  obtain ⟨session, hsession, hne⟩ := h
  rw [HasRun, getElem?_setSession, hsession]
  by_cases hij : i = j
  · rw [if_pos hij]
    exact ⟨_, rfl, hphase⟩
  · rw [if_neg hij]
    exact ⟨session, rfl, hne⟩

theorem hasRun_stop {j : Nat} (h : t.HasRun j) : t.stop.1.HasRun j := by
  obtain ⟨session, hsession, -⟩ := h
  rw [HasRun, stop, List.getElem?_map, hsession]
  exact ⟨_, rfl, nofun⟩

theorem hasRun_handle {payload : List UInt8} {j : Nat} (h : t.HasRun j) :
    (t.handle payload).1.HasRun j := by
  rcases t.fst_handle_cases payload with ⟨path, -, heq⟩ | ⟨-, heq⟩
  · obtain ⟨session, hsession, hne⟩ := h
    obtain ⟨hj, -⟩ := List.getElem?_eq_some_iff.mp hsession
    rw [HasRun, heq, List.getElem?_append_left hj]
    exact ⟨session, hsession, hne⟩
  · rw [heq]
    exact h

/-- A payload dials nothing: its session is yet to be run. -/
theorem dialBacks_handle (t : Tunnel) (payload : List UInt8) :
    dialBacks (t.handle payload).2 = [] := by
  rw [handle]
  split
  next => rfl
  next m _ =>
    split
    next => rfl
    next => rfl
    next =>
      rw [ignoredEvent]
      split <;> rfl

theorem dials_dialled {path : String} {result : Except ClientError Unit} :
    t.Dials s (t.dialled i path result) := by
  obtain ⟨phase, effects, hphase, hnone, h⟩ := t.exists_dialled_eq i path result
  rw [h]
  exact .none hnone fun j hj => hj.setSession hphase

/-- **A step dials one session or none**, and one that was not run before, by cases on the way
`Goes` of the event `e`. -/
theorem dials_step (t : Tunnel) (s : Surroundings) (e : TunnelEvent) :
    t.Dials s (t.step s e) := by
  have hpreface : ∀ effects, dialBacks (t.preface ++ effects) = dialBacks effects := by
    intro effects
    rw [dialBacks_append, dialBacks_preface, List.nil_append]
  generalize hstep : t.step s e = next
  have hgoes := t.goes_step s e
  rw [hstep] at hgoes
  cases hgoes with
  | idles | connects => exact .none rfl fun _ h => h
  | dials => exact .none (hpreface _) fun _ h => h
  | rests =>
    refine .none ?_ fun _ h => h
    rw [hpreface, dialBacks_cons_note]
    rfl
  | stops => exact .none (hpreface _) fun _ => hasRun_stop
  | wakes => exact .none rfl fun _ => hasRun_stop
  | takes => exact .none (t.dialBacks_handle _) fun _ => hasRun_handle
  | @dialsBack i path d h hstart =>
    refine .one rfl ?_ hstart ?_ ?_ fun j hj => hj.setSession nofun
    · rw [paths, List.getElem?_map, h]
      rfl
    · rintro ⟨session, hsession, hne⟩
      rw [h] at hsession
      exact hne (congrArg Session.phase (Option.some.inj hsession)).symm
    · rw [HasRun, getElem?_setSession, if_pos rfl, h]
      exact ⟨_, rfl, nofun⟩
  | establishes | dialsInVain => exact dials_dialled
  | finishes => exact .none rfl fun j hj => hj.setSession nofun

/-- **Each session is dialled at most once** along a run, and only if it had not been run before. It
is dialled at its path. The induction is on the `events`: what the rest of the run dials has not
been run behind the first step. -/
theorem dialBacks_steps (t : Tunnel) (events : List (Surroundings × TunnelEvent)) :
    ((dialBacks (t.steps events).2).map (·.1)).Nodup ∧
      ∀ i d, (i, d) ∈ dialBacks (t.steps events).2 →
        ¬ t.HasRun i ∧ ∃ (path : String) (s : Surroundings),
          (t.steps events).1.paths[i]? = some path ∧
            t.client.startDialBack t.context s.signal s.now path = .ok d := by
  induction events generalizing t with
  | nil => exact ⟨List.nodup_nil, nofun⟩
  | cons head events ih =>
    obtain ⟨s, e⟩ := head
    obtain ⟨hnodup, hall⟩ := ih (t.step s e).1
    obtain ⟨hclient, hcontext, -⟩ := t.settings_step s e
    obtain ⟨asked, -, hpaths⟩ := t.paths_step s e
    obtain ⟨later, -, hlater⟩ := (t.step s e).1.paths_steps events
    rw [hclient, hcontext] at hall
    rw [steps_cons, dialBacks_append]
    have hkept : ∀ {i : Nat} {path : String}, t.paths[i]? = some path →
        ((t.step s e).1.steps events).1.paths[i]? = some path := by
      intro i path h
      obtain ⟨hi, -⟩ := List.getElem?_eq_some_iff.mp h
      rw [hlater, hpaths, List.append_assoc, List.getElem?_append_left hi, h]
    cases t.dials_step s e with
    | none hnone hkeeps =>
      rw [hnone, List.nil_append]
      refine ⟨hnodup, fun i d h => ?_⟩
      obtain ⟨hnew, hpath⟩ := hall i d h
      exact ⟨fun hrun => hnew (hkeeps i hrun), hpath⟩
    | @one i path d hone hpath hstart hnew hrun hkeeps =>
      rw [hone, List.singleton_append]
      refine ⟨List.nodup_cons.mpr ⟨fun hmem => ?_, hnodup⟩, fun j d' h => ?_⟩
      · -- The session has been run now, so it is not dialled later.
        obtain ⟨⟨_, d'⟩, hd', rfl⟩ := List.mem_map.mp hmem
        exact (hall _ _ hd').1 hrun
      · rcases List.mem_cons.mp h with heq | h
        · obtain ⟨rfl, rfl⟩ := Prod.mk.inj heq
          exact ⟨hnew, path, s, hkept hpath, hstart⟩
        · obtain ⟨hnew', hpath'⟩ := hall j d' h
          exact ⟨fun hrun => hnew' (hkeeps j hrun), hpath'⟩

/-! ### The end -/

/-- All sessions have ended if the tunnel has. -/
def EndsAll (t : Tunnel) : Prop :=
  t.phase = .ended → ∀ session ∈ t.sessions, session.phase = .over

theorem Suffers.phase_ne_ended {b : Setback} (h : t.Suffers s e b) : t.phase ≠ .ended := by
  cases h with
  | undialled h => exact h.phase_ne.2
  | givenUp h | refused h | cutOff h | closed h | lost h =>
    rw [h]
    nofun

/-- **Nothing happens any longer** once the tunnel has ended with all sessions: every way to go on
but `idles` needs a phase that is over. -/
theorem step_of_ended (h : t.EndsAll) (hended : t.phase = .ended) (s : Surroundings)
    (e : TunnelEvent) : t.step s e = (t, []) := by
  -- A session of a tunnel that has ended is in no other phase.
  have hover : ∀ {i : Nat} {path : String} {phase : SessionPhase},
      t.sessions[i]? = some ⟨path, phase⟩ → phase = .over :=
    fun hi => h hended _ (List.mem_of_getElem? hi)
  generalize hstep : t.step s e = next
  have hgoes := t.goes_step s e
  rw [hstep] at hgoes
  cases hgoes with
  | idles => rfl
  | dials h => exact absurd hended h.phase_ne.2
  | connects h | wakes h =>
    rw [hended] at h
    cases h
  | rests h | stops h => exact absurd hended h.phase_ne_ended
  | takes h =>
    rw [(step_of_taken? h).1] at hended
    cases hended
  | dialsBack h | establishes h | finishes h => cases hover h
  | dialsInVain _ h hphase =>
    rw [hover h] at hphase
    rcases hphase with hphase | hphase <;> cases hphase

/-- Every step keeps it that no session outlives the tunnel; only `stops` and `wakes` end it, and
both end all sessions. -/
theorem EndsAll.step (h : t.EndsAll) (s : Surroundings) (e : TunnelEvent) :
    (t.step s e).1.EndsAll := by
  by_cases hended : t.phase = .ended
  · rw [step_of_ended h hended]
    exact h
  · intro hnext
    have hstop : ∀ session ∈ t.stop.1.sessions, session.phase = .over :=
      List.forall_mem_map.mpr fun _ _ => rfl
    generalize hstep : t.step s e = next
    rw [hstep] at hnext
    have hgoes := t.goes_step s e
    rw [hstep] at hgoes
    cases hgoes with
    | stops | wakes => exact hstop
    | takes h =>
      obtain ⟨sessions, hhandle⟩ := t.fst_handle _
      rw [hhandle] at hnext
      exact absurd hnext hended
    | idles | dialsBack | establishes | dialsInVain | finishes => exact absurd hnext hended
    | dials | connects | rests => cases hnext

/-! ### Runs -/

/-- The session `i` that is run for the first time is dialled, unless nothing can be dialled at its
`path`. -/
theorem step_runSession {path : String} (h : t.sessions[i]? = some ⟨path, .created⟩)
    (s : Surroundings) :
    match t.client.startDialBack t.context s.signal s.now path with
    | .ok d => t.step s (.runSession i) = (t.setSession i .dialling, [.dialBack i d])
    | .error e => t.step s (.runSession i) = t.dialled i path (.error e) := by
  rw [step, advanceSession?, h, Option.bind_eq_bind, Option.bind_some]
  dsimp only
  cases t.client.startDialBack t.context s.signal s.now path <;> rfl

/-- **Connections are dialled back as they are asked for.** Behind any events, whatever came over
the tunnel and whatever became of its sessions:

* along any further events the sessions are added that the payloads ask for, in order;
* each session has been dialled at most once, at its own path; a session that has not been run is
  dialled when it is, unless nothing can be dialled at its path;
* a step leaves alone what it is not about: no payload and no session ends the tunnel or touches
  another session, the open tunnel ends for three reasons only, and its sessions outlive that;
* no session is left when the tunnel has ended, and nothing happens from then on. -/
theorem dialsBack_as_asked {client : Client} {context : Context} {policy : Backoff}
    {effects : List TunnelEffect} (h : (create client context policy).steps events = (t, effects)) :
    (∀ more, ∃ asked, AskedPaths (t.taken more) asked ∧
      (t.steps more).1.paths = t.paths ++ asked) ∧
    ((dialBacks effects).map (·.1)).Nodup ∧
    (∀ i d, (i, d) ∈ dialBacks effects → ∃ (path : String) (s : Surroundings),
      t.paths[i]? = some path ∧ client.startDialBack context s.signal s.now path = .ok d) ∧
    (∀ (i : Nat) (path : String), t.sessions[i]? = some ⟨path, .created⟩ → ∀ s d,
      client.startDialBack context s.signal s.now path = .ok d →
        (t.step s (.runSession i)).2 = [.dialBack i d]) ∧
    (∀ s e, t.Leaves s e (t.step s e)) ∧
    (t.phase = .ended → (∀ session ∈ t.sessions, session.phase = .over) ∧
      ∀ s e, t.step s e = (t, [])) := by
  have hends : t.EndsAll := by
    have hcreate : (create client context policy).EndsAll := nofun
    have := steps_induction hcreate (fun _ s e h => h.step s e) events
    rwa [h] at this
  obtain ⟨hnodup, hdials⟩ := (create client context policy).dialBacks_steps events
  rw [h] at hnodup hdials
  refine ⟨t.paths_steps, hnodup, fun i d hmem => (hdials i d hmem).2, ?_, t.leaves_step,
    fun hended => ⟨hends hended, step_of_ended hends hended⟩⟩
  intro i path hi s d hstart
  obtain ⟨hclient, hcontext, -⟩ := (create client context policy).settings_steps events
  rw [h] at hclient hcontext
  have hrun := step_runSession hi s
  rw [hclient, hcontext, show (create client context policy).client = client from rfl,
    show (create client context policy).context = context from rfl, hstart] at hrun
  rw [hrun]

/-- Payloads of which one asks for a path; one is no message, and one tells of an error. -/
def calls : List (List UInt8) :=
  ["\x7b\"Command\":\"conn-ready\",\"ConnPath\":\"/a\",\"Err\":null\x7d", "\x7b",
    "\x7b\"Command\":\"conn-ready\",\"ConnPath\":\"/b\",\"Err\":\"offline\"\x7d"].map
      Text.Utf8.encode

/-- The payloads come, the tunnel is closed and opened anew, and it is called off. -/
def callRun : List (Surroundings × TunnelEvent) :=
  [(quietAt 0, .run 0), (quietAt 0, .answer 0 .connected)] ++
    calls.map (fun payload => (quietAt 1, .receive 0 (.message payload))) ++
    [(quietAt 2, .runSession 0), (quietAt 2, .answerSession 0 .connected),
      (quietAt 3, .receive 0 .closed), (quietAt 5000, .run 0),
      (⟨6000, Signal.fresh.trigger, .empty⟩, .run 0)]

/-- The one path is dialled, and its session ends with the tunnel only. -/
theorem dialsBack_as_asked_callRun :
    ∃ t effects, fresh.steps callRun = (t, effects) ∧
      AskedPaths (fresh.taken callRun) ["/a"] ∧ fresh.taken callRun = calls ∧
      ((dialBacks effects).map (·.1)).Nodup ∧ (dialBacks effects).map (·.1) = [0] ∧
      (fresh.steps (callRun.take 9)).1.sessions.map (·.phase) = [.served] ∧
      t.phase = .ended ∧ ∀ session ∈ t.sessions, session.phase = .over := by
  have hsteps : fresh.steps callRun = ((fresh.steps callRun).1, (fresh.steps callRun).2) := rfl
  have hended : (fresh.steps callRun).1.phase = .ended := by
    decide +kernel
  have hnil : fresh.steps [] = (fresh, []) := rfl
  obtain ⟨hasks, -⟩ := dialsBack_as_asked hnil
  obtain ⟨-, hnodup, -, -, -, hover⟩ := dialsBack_as_asked hsteps
  obtain ⟨asked, hasked, hpaths⟩ := hasks callRun
  have hone : asked = ["/a"] := by
    rw [show (fresh.steps callRun).1.paths = ["/a"] by decide +kernel] at hpaths
    exact hpaths.symm
  rw [hone] at hasked
  exact ⟨_, _, hsteps, hasked, by decide +kernel, hnodup, by decide +kernel, by decide +kernel,
    hended, (hover hended).1⟩

end Tunnel

end FleetAgent
