import FleetAgent.Proofs.Outcome
import FleetAgent.Tunnel.Loop
/-!
# What a step of the tunnel can do

`Tunnel.step t s e` is what the tunnel `t` makes of the event `e` in the surroundings `s`, and
`Tunnel.Goes t s e` has one case for each way in which it goes on then: whatever happens, it goes on
in one of these ways (`Tunnel.goes_step`), so what is to be said of its runs never looks into the
steps again. The tunnel rests or stops behind a `Setback`, and `Tunnel.Suffers` tells what is one.
`Tunnel.failure?` is what goes wrong at an event, with the tunnel or with a session.
-/

namespace FleetAgent

open Controller

/-- Something that happens to the tunnel or to a session. -/
inductive TunnelEvent where
  /-- The tunnel is run. -/
  | run (draw : Rat)
  /-- The request that opens the tunnel is replied to. -/
  | answer (draw : Rat) (reply : DialReply)
  /-- Something comes over the tunnel. -/
  | receive (draw : Rat) (incoming : Tunnel.Incoming)
  /-- A session is run. -/
  | runSession (i : Nat)
  /-- The request that dials back for a session is replied to. -/
  | answerSession (i : Nat) (reply : DialReply)
  /-- The connection of a session has been served. -/
  | endSession (i : Nat)

namespace TunnelEvent

/-- The random number for a rest. A session does not rest. -/
def draw : TunnelEvent → Rat
  | .run draw | .answer draw _ | .receive draw _ => draw
  | .runSession _ | .answerSession _ _ | .endSession _ => 0

/-- The session that it happens to. -/
def session? : TunnelEvent → Option Nat
  | .runSession i | .answerSession i _ | .endSession i => some i
  | .run _ | .answer _ _ | .receive _ _ => none

/-- Whether it brings to an end what the tunnel waits for where it is. -/
def wakes : TunnelEvent → TunnelPhase → Bool
  | .run _, _ | .answer _ _, .opening | .receive _ _, .serving => true
  | _, _ => false

end TunnelEvent

namespace Tunnel

variable {t : Tunnel} {s : Surroundings}

/-- What the tunnel makes of an event. -/
def step (t : Tunnel) (s : Surroundings) : TunnelEvent → Tunnel × List TunnelEffect
  | .run draw => (t.advance? s draw).getD (t, [])
  | .answer draw reply => t.answer s draw reply
  | .receive draw incoming => t.receive s draw incoming
  | .runSession i => (t.advanceSession? s i).getD (t, [])
  | .answerSession i reply => t.answerSession s i reply
  | .endSession i => (t.endSession i, [])

/-! ### The context -/

/-- Why the tunnel waits for nothing any longer, if it does not. -/
def interruption? (t : Tunnel) (s : Surroundings) : Option Interruption :=
  if t.context.isCanceled s.signal then some .canceled
  else if t.context.isExpired s.now then some .timeout
  else none

/-- Work that is waited for is given up for an interruption of `t`, and counts otherwise. -/
theorem poll_eq {α : Type} (work : Option α) :
    t.context.poll s.signal s.now work =
      match t.interruption? s with
      | some i => some (.error i)
      | none => work.map .ok := by
  rw [Context.poll, interruption?]
  by_cases hcanceled : t.context.isCanceled s.signal = true
  · rw [if_pos hcanceled, if_pos hcanceled]
  · rw [if_neg hcanceled, if_neg hcanceled]
    by_cases hexpired : t.context.isExpired s.now = true
    · rw [if_pos hexpired, if_pos hexpired]
    · rw [if_neg hexpired, if_neg hexpired]

/-! ### Setbacks -/

/-- Why the tunnel is not open. -/
inductive Setback where
  /-- The controller has closed it. -/
  | closed
  /-- It could not be opened. -/
  | unopened (e : ClientError)
  /-- It was open, and has failed. -/
  | failed (e : ClientError)

/-- What went wrong. -/
def Setback.error? : Setback → Option ClientError
  | .closed => none
  | .unopened e | .failed e => some e

/-- Whether the tunnel was called off. -/
def Setback.isCanceled (b : Setback) : Bool :=
  b.error?.any ClientError.isCanceled

/-- What is told about it if the tunnel was not called off. `attempt` is the number of rests so
far. -/
def Setback.note (attempt : Nat) : Setback → TunnelEffect
  | .closed => event .info "Reverse tunnel closed by controller" []
  | .unopened e =>
    event .warn "Failed to open reverse tunnel" (e.logFields ++ [("attempt", .number attempt)])
  | .failed e => event .warn "Reverse tunnel failed" e.logFields

/-- The tunnel is dialled when it is run. -/
def IsDue (t : Tunnel) (s : Surroundings) : Prop :=
  t.phase = .created ∨
    ∃ wakeAt, t.phase = .resting wakeAt ∧ wakeAt ≤ s.now ∧ t.interruption? s = none

/-- The event is a setback `b` for the tunnel. -/
inductive Suffers (t : Tunnel) (s : Surroundings) : TunnelEvent → Setback → Prop where
  /-- Nothing can be dialled. -/
  | undialled {draw : Rat} {e : ClientError} (h : t.IsDue s)
      (hstart : t.client.startTunnel t.context s.signal s.now = .error e) :
      Suffers t s (.run draw) (.unopened e)
  /-- The reply is not waited for any longer. -/
  | givenUp {e : TunnelEvent} {i : Interruption} (h : t.phase = .opening)
      (he : e.wakes t.phase = true) (hi : t.interruption? s = some i) :
      Suffers t s e (.unopened (interrupted i))
  /-- The controller refused, or did not reply. -/
  | refused {draw : Rat} {reply : DialReply} {e : ClientError} (h : t.phase = .opening)
      (hopen : t.interruption? s = none) (hreply : reply.result = .error e) :
      Suffers t s (.answer draw reply) (.unopened e)
  /-- Messages are not waited for any longer. -/
  | cutOff {e : TunnelEvent} {i : Interruption} (h : t.phase = .serving)
      (he : e.wakes t.phase = true) (hi : t.interruption? s = some i) :
      Suffers t s e (.failed (interrupted i))
  /-- The controller closes the tunnel. -/
  | closed {draw : Rat} (h : t.phase = .serving) (hopen : t.interruption? s = none) :
      Suffers t s (.receive draw .closed) .closed
  /-- The connection is lost. -/
  | lost {draw : Rat} (h : t.phase = .serving) (hopen : t.interruption? s = none) :
      Suffers t s (.receive draw .lost) (.failed (.transport .webSocket))

/-- What goes wrong at an event, if something does. -/
def failure? (t : Tunnel) (s : Surroundings) : TunnelEvent → Option ClientError
  | .run _ =>
    match t.phase with
    | .created => (t.client.startTunnel t.context s.signal s.now).error?
    | .resting wakeAt =>
      ((t.interruption? s).map interrupted).or
        (if wakeAt ≤ s.now then (t.client.startTunnel t.context s.signal s.now).error? else none)
    | .opening | .serving => (t.interruption? s).map interrupted
    | .ended => none
  | .answer _ reply =>
    match t.phase with
    | .opening => ((t.interruption? s).map interrupted).or reply.result.error?
    | _ => none
  | .receive _ incoming =>
    match t.phase, incoming with
    | .serving, .lost => ((t.interruption? s).map interrupted).or (some (.transport .webSocket))
    | .serving, _ => (t.interruption? s).map interrupted
    | _, _ => none
  | .runSession i =>
    match t.sessions[i]? with
    | some ⟨path, .created⟩ => (t.client.startDialBack t.context s.signal s.now path).error?
    | some ⟨_, .dialling⟩ => (t.interruption? s).map interrupted
    | _ => none
  | .answerSession i reply =>
    match t.sessions[i]? with
    | some ⟨_, .dialling⟩ => ((t.interruption? s).map interrupted).or reply.result.error?
    | _ => none
  | .endSession _ => none

/-- What went wrong in a setback `b` is what goes wrong at the event `e`, by cases on the
setback. -/
theorem Suffers.error?_eq {e : TunnelEvent} {b : Setback} (h : t.Suffers s e b) :
    b.error? = t.failure? s e := by
  cases h with
  | undialled h hstart =>
    rcases h with hphase | ⟨wakeAt, hphase, hdue, hopen⟩
    · simp [failure?, hphase, hstart, Setback.error?]
    · simp [failure?, hphase, hstart, hdue, hopen, Setback.error?]
  | givenUp hphase he hi =>
    rw [hphase] at he
    cases e with
    | run | answer => simp [failure?, hphase, hi, Setback.error?]
    | receive | runSession | answerSession | endSession => cases he
  | cutOff hphase he hi =>
    rw [hphase] at he
    cases e with
    | run => simp [failure?, hphase, hi, Setback.error?]
    | receive _ incoming => cases incoming <;> simp [failure?, hphase, hi, Setback.error?]
    | answer | runSession | answerSession | endSession => cases he
  | refused hphase hopen hreply => simp [failure?, hphase, hopen, hreply, Setback.error?]
  | closed hphase hopen | lost hphase hopen =>
    simp [failure?, hphase, hopen, Setback.error?]

/-! ### Ways to go on -/

/-- The payload that the open tunnel takes at an event, if it takes one. -/
def taken? (t : Tunnel) (s : Surroundings) : TunnelEvent → Option (List UInt8)
  | .receive _ (.message payload) =>
    if t.phase = .serving ∧ t.interruption? s = none then some payload else none
  | _ => none

/-- A tunnel that suffers a setback takes no payload. -/
theorem Suffers.taken?_eq_none {e : TunnelEvent} {b : Setback} (h : t.Suffers s e b) :
    t.taken? s e = none := by
  cases h with
  | givenUp hphase he hi | cutOff hphase he hi =>
    cases e with
    | receive _ incoming =>
      cases incoming with
      | message payload => exact if_neg fun hopen => by cases hi.symm.trans hopen.2
      | closed | lost => rfl
    | _ => rfl
  | _ => rfl

/-- What is told first. -/
def preface (t : Tunnel) : List TunnelEffect :=
  match t.phase with
  | .created => [event .info "Starting reverse tunnel" []]
  | _ => []

/-- The ways in which the tunnel goes on when something happens. -/
inductive Goes (t : Tunnel) (s : Surroundings) : TunnelEvent → Tunnel × List TunnelEffect → Prop
    where
  /-- Nothing can be done about it. -/
  | idles {e : TunnelEvent} (h : t.taken? s e = none) : Goes t s e (t, [])
  /-- The tunnel is dialled. -/
  | dials {draw : Rat} {d : Dial} (h : t.IsDue s)
      (hstart : t.client.startTunnel t.context s.signal s.now = .ok d) :
      Goes t s (.run draw) ({ t with phase := .opening }, t.preface ++ [.dial d])
  /-- The tunnel is open. -/
  | connects {draw : Rat} (h : t.phase = .opening) (hopen : t.interruption? s = none) :
      Goes t s (.answer draw .connected)
        ({ t with phase := .serving, attempt := 0 }, [event .info "Reverse tunnel connected" []])
  /-- The tunnel rests behind a setback. -/
  | rests {e : TunnelEvent} {b : Setback} (h : t.Suffers s e b) (hb : b.isCanceled = false) :
      Goes t s e ((t.rest s.now e.draw).1,
        t.preface ++ b.note t.attempt :: (t.rest s.now e.draw).2)
  /-- The tunnel was called off. -/
  | stops {e : TunnelEvent} {b : Setback} (h : t.Suffers s e b) (hb : b.isCanceled = true) :
      Goes t s e (t.stop.1, t.preface ++ t.stop.2)
  /-- The rest is interrupted. -/
  | wakes {draw : Rat} {wakeAt : Moment} {i : Interruption} (h : t.phase = .resting wakeAt)
      (hi : t.interruption? s = some i) : Goes t s (.run draw) t.stop
  /-- A payload is taken. -/
  | takes {e : TunnelEvent} {payload : List UInt8} (h : t.taken? s e = some payload) :
      Goes t s e (t.handle payload)
  /-- A session dials back. -/
  | dialsBack {i : Nat} {path : String} {d : Dial} (h : t.sessions[i]? = some ⟨path, .created⟩)
      (hstart : t.client.startDialBack t.context s.signal s.now path = .ok d) :
      Goes t s (.runSession i) (t.setSession i .dialling, [.dialBack i d])
  /-- The connection of a session is there. -/
  | establishes {i : Nat} {path : String} {reply : DialReply}
      (h : t.sessions[i]? = some ⟨path, .dialling⟩) (hreply : reply.result = .ok ()) :
      Goes t s (.answerSession i reply) (t.dialled i path (.ok ()))
  /-- The connection of a session could not be dialled. -/
  | dialsInVain {e : TunnelEvent} {i : Nat} {path : String} {phase : SessionPhase}
      {error : ClientError} (he : e.session? = some i) (h : t.sessions[i]? = some ⟨path, phase⟩)
      (hphase : phase = .created ∨ phase = .dialling) (herror : t.failure? s e = some error) :
      Goes t s e (t.dialled i path (.error error))
  /-- The connection of a session has been served. -/
  | finishes {i : Nat} {path : String} (h : t.sessions[i]? = some ⟨path, .served⟩) :
      Goes t s (.endSession i) (t.setSession i .over, [])

/-- A tunnel that was called off stops, and any other one rests. -/
theorem goes_of_suffers {e : TunnelEvent} {b : Setback} (h : t.Suffers s e b) :
    t.Goes s e (
      if b.isCanceled then (t.stop.1, t.preface ++ t.stop.2)
      else ((t.rest s.now e.draw).1,
        t.preface ++ b.note t.attempt :: (t.rest s.now e.draw).2)) := by
  cases hb : b.isCanceled with
  | true => exact .stops h hb
  | false => exact .rests h hb

theorem preface_of_ne {t : Tunnel} (h : t.phase ≠ .created) : t.preface = [] := by
  rw [preface]
  split
  next hphase => exact absurd hphase h
  next => rfl

/-- A tunnel that could not be opened stops if it was called off by `e`, and rests otherwise. -/
theorem opened_error {now : Moment} {draw : Rat} {e : ClientError} :
    t.opened now draw (.error e) =
      if (Setback.unopened e).isCanceled then t.stop
      else ((t.rest now draw).1,
        (Setback.unopened e).note t.attempt :: (t.rest now draw).2) := rfl

/-- Dialling, with what is told first. -/
theorem goes_connect (draw : Rat) (h : t.IsDue s) :
    t.Goes s (.run draw) ((t.connect s draw).1, t.preface ++ (t.connect s draw).2) := by
  rw [connect]
  cases hstart : t.client.startTunnel t.context s.signal s.now with
  | ok d => exact .dials h hstart
  | error e =>
    have hsuffers : t.Suffers s (.run draw) (.unopened e) := .undialled h hstart
    have hgoes := goes_of_suffers hsuffers
    dsimp only
    rw [opened_error]
    split
    next hb =>
      rw [if_pos hb] at hgoes
      exact hgoes
    next hb =>
      rw [if_neg hb] at hgoes
      exact hgoes

/-- A setback of a tunnel that has been run. -/
theorem goes_of_suffers_of_ne {e : TunnelEvent} {b : Setback} (h : t.Suffers s e b)
    (hphase : t.phase ≠ .created) :
    t.Goes s e (
      if b.isCanceled then t.stop
      else ((t.rest s.now e.draw).1, b.note t.attempt :: (t.rest s.now e.draw).2)) := by
  have hgoes := goes_of_suffers h
  rw [preface_of_ne hphase] at hgoes
  exact hgoes

/-- The way of a tunnel `t` that is run: by its phase it is dialled, given up, cut off or woken, or
nothing can be done. -/
theorem goes_run (draw : Rat) : t.Goes s (.run draw) ((t.advance? s draw).getD (t, [])) := by
  rw [advance?]
  cases hphase : t.phase with
  | created =>
    have hdue : t.IsDue s := .inl hphase
    have hgoes := goes_connect draw hdue
    rw [preface, hphase] at hgoes
    exact hgoes
  | opening =>
    dsimp only
    rw [poll_eq]
    cases hi : t.interruption? s with
    | none => exact .idles rfl
    | some i =>
      exact goes_of_suffers_of_ne (.givenUp hphase (by rw [hphase]; rfl) hi) (by rw [hphase]; nofun)
  | serving =>
    dsimp only
    rw [poll_eq]
    cases hi : t.interruption? s with
    | none => exact .idles rfl
    | some i =>
      exact goes_of_suffers_of_ne (.cutOff hphase (by rw [hphase]; rfl) hi) (by rw [hphase]; nofun)
  | resting wakeAt =>
    dsimp only
    rw [poll_eq]
    cases hi : t.interruption? s with
    | none =>
      by_cases hdue : wakeAt ≤ s.now
      · have hgoes := goes_connect draw (.inr ⟨wakeAt, hphase, hdue, hi⟩)
        rw [preface_of_ne (by rw [hphase]; nofun)] at hgoes
        rw [if_pos hdue]
        exact hgoes
      · rw [if_neg hdue]
        exact .idles rfl
    | some i => exact .wakes hphase hi
  | ended => exact .idles rfl

/-- The way of a tunnel that is replied to. -/
theorem goes_answer (draw : Rat) (reply : DialReply) :
    t.Goes s (.answer draw reply) (t.answer s draw reply) := by
  rw [answer]
  split
  next hphase =>
    have hne : t.phase ≠ .created := by
      rw [hphase]
      nofun
    rw [poll_eq]
    cases hi : t.interruption? s with
    | some i => exact goes_of_suffers_of_ne (.givenUp hphase (by rw [hphase]; rfl) hi) hne
    | none =>
      cases hreply : reply.result with
      | error e => exact goes_of_suffers_of_ne (.refused hphase hi hreply) hne
      | ok =>
        cases reply with
        | connected => exact .connects hphase hi
        | refused reply => cases hreply
        | broken => cases hreply
  next => exact .idles rfl

/-- The way of a tunnel over which something comes. -/
theorem goes_receive (draw : Rat) (incoming : Incoming) :
    t.Goes s (.receive draw incoming) (t.receive s draw incoming) := by
  unfold receive
  split
  next hphase =>
    have hne : t.phase ≠ .created := by
      rw [hphase]
      nofun
    rw [poll_eq]
    cases hi : t.interruption? s with
    | some i => exact goes_of_suffers_of_ne (.cutOff hphase (by rw [hphase]; rfl) hi) hne
    | none =>
      cases incoming with
      | message payload => exact .takes (if_pos ⟨hphase, hi⟩)
      | closed => exact goes_of_suffers_of_ne (.closed hphase hi) hne
      | lost => exact goes_of_suffers_of_ne (.lost hphase hi) hne
  next hphase =>
    refine .idles ?_
    cases incoming with
    | message payload => exact if_neg fun h => hphase h.1
    | closed => rfl
    | lost => rfl

/-- The way of a session that is run. -/
theorem goes_runSession (i : Nat) :
    t.Goes s (.runSession i) ((t.advanceSession? s i).getD (t, [])) := by
  rw [advanceSession?]
  rcases hsession : t.sessions[i]? with _ | ⟨path, phase⟩
  · exact .idles rfl
  rw [Option.bind_eq_bind, Option.bind_some]
  cases phase with
  | created =>
    dsimp only
    cases hstart : t.client.startDialBack t.context s.signal s.now path with
    | ok d => exact .dialsBack hsession hstart
    | error e =>
      exact .dialsInVain rfl hsession (.inl rfl) (by simp [failure?, hsession, hstart])
  | dialling =>
    dsimp only
    rw [poll_eq]
    cases hi : t.interruption? s with
    | none => exact .idles rfl
    | some e => exact .dialsInVain rfl hsession (.inr rfl) (by simp [failure?, hsession, hi])
  | _ => exact .idles rfl

/-- The way of a session that is replied to. -/
theorem goes_answerSession (i : Nat) (reply : DialReply) :
    t.Goes s (.answerSession i reply) (t.answerSession s i reply) := by
  rw [answerSession]
  split
  next path hsession =>
    rw [poll_eq]
    cases hi : t.interruption? s with
    | some e => exact .dialsInVain rfl hsession (.inr rfl) (by simp [failure?, hsession, hi])
    | none =>
      cases hreply : reply.result with
      | ok => exact .establishes hsession hreply
      | error e =>
        exact .dialsInVain rfl hsession (.inr rfl) (by simp [failure?, hsession, hi, hreply])
  next => exact .idles rfl

/-- **What a step can do**, whatever happens: `Goes` lists the ways. There is one lemma above for
each event `e`. -/
theorem goes_step (t : Tunnel) (s : Surroundings) (e : TunnelEvent) : t.Goes s e (t.step s e) := by
  cases e with
  | run draw => exact goes_run draw
  | answer draw reply => exact goes_answer draw reply
  | receive draw incoming => exact goes_receive draw incoming
  | runSession i => exact goes_runSession i
  | answerSession i reply => exact goes_answerSession i reply
  | endSession i =>
    rw [step, endSession]
    split
    next path hsession => exact .finishes hsession
    next => exact .idles rfl

/-- A payload changes nothing but the sessions. -/
theorem fst_handle (t : Tunnel) (payload : List UInt8) :
    ∃ sessions, (t.handle payload).1 = { t with sessions } := by
  rw [handle]
  split
  next => exact ⟨_, rfl⟩
  next => split <;> exact ⟨_, rfl⟩

/-- What the tunnel was created with stays. -/
theorem settings_step (t : Tunnel) (s : Surroundings) (e : TunnelEvent) :
    (t.step s e).1.client = t.client ∧ (t.step s e).1.context = t.context ∧
      (t.step s e).1.policy = t.policy := by
  generalize hstep : t.step s e = next
  have hgoes := t.goes_step s e
  rw [hstep] at hgoes
  cases hgoes with
  | takes =>
    obtain ⟨sessions, hhandle⟩ := t.fst_handle _
    rw [hhandle]
    exact ⟨rfl, rfl, rfl⟩
  | _ => exact ⟨rfl, rfl, rfl⟩

/-- A payload that is taken is handled. -/
theorem step_of_taken? {e : TunnelEvent} {payload : List UInt8} (h : t.taken? s e = some payload) :
    t.phase = .serving ∧ t.step s e = t.handle payload := by
  unfold taken? at h
  split at h
  next draw message =>
    split at h
    next hopen =>
      obtain ⟨hserving, hi⟩ := hopen
      obtain rfl := Option.some.inj h
      refine ⟨hserving, ?_⟩
      unfold step receive
      rw [hserving, poll_eq, hi]
      rfl
    next => cases h
  next => cases h

/-! ### Runs -/

/-- The tunnel behind several events, and its effects in order. Each event comes with what is seen
then. -/
def steps (t : Tunnel) : List (Surroundings × TunnelEvent) → Tunnel × List TunnelEffect
  | [] => (t, [])
  | (s, e) :: rest =>
    let next := t.step s e
    let later := next.1.steps rest
    (later.1, next.2 ++ later.2)

variable {events : List (Surroundings × TunnelEvent)} {e : TunnelEvent}

@[simp] theorem steps_nil (t : Tunnel) : t.steps [] = (t, []) := rfl

theorem steps_cons (t : Tunnel) (s : Surroundings) (e : TunnelEvent)
    (rest : List (Surroundings × TunnelEvent)) :
    t.steps ((s, e) :: rest) =
      (((t.step s e).1.steps rest).1, (t.step s e).2 ++ ((t.step s e).1.steps rest).2) := rfl

/-- **What holds at first and is kept by every step** holds behind all events: `P` is an invariant
of `Tunnel.steps`. -/
theorem steps_induction {P : Tunnel → Prop} (h : P t) (hstep : ∀ t s e, P t → P (t.step s e).1)
    (events : List (Surroundings × TunnelEvent)) : P (t.steps events).1 := by
  induction events generalizing t with
  | nil => exact h
  | cons head events ih => exact ih (hstep t head.1 head.2 h)

/-- What the tunnel was created with stays along a run. -/
theorem settings_steps (t : Tunnel) (events : List (Surroundings × TunnelEvent)) :
    (t.steps events).1.client = t.client ∧ (t.steps events).1.context = t.context ∧
      (t.steps events).1.policy = t.policy := by
  induction events generalizing t with
  | nil => exact ⟨rfl, rfl, rfl⟩
  | cons head events ih =>
    obtain ⟨hclient, hcontext, hpolicy⟩ := t.settings_step head.1 head.2
    obtain ⟨hclient', hcontext', hpolicy'⟩ := ih (t.step head.1 head.2).1
    exact ⟨hclient'.trans hclient, hcontext'.trans hcontext, hpolicy'.trans hpolicy⟩

/-! ### A run to look at -/

/-- The tunnel of a registered device, before it is run. -/
def fresh : Tunnel :=
  create ((Client.create "http://c" ⟨"p", by decide⟩).withIdentity ⟨⟨"d", by decide⟩, ⟨"k"⟩⟩)
    .root .standard

/-- What is seen at a moment at which nothing is shut down. -/
def quietAt (now : Moment) : Surroundings := ⟨now, .fresh, .empty⟩

end Tunnel

end FleetAgent
